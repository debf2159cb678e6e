import ClusterNet.Proofs.ControlPlane.Inventory
import ClusterNet.Proofs.ControlPlane.Simulator
import ClusterNet.Proofs.Trace

/-!
# Nothing is kept under what is not there

Some objects belong to others: they are declared or created under the id of an object, and the
control plane refuses to do so if that object is missing. It also refuses to delete what others
belong to. So whatever is asked of a control plane, and by whom, an object is only ever found where
the object that it belongs to is found as well.

## Main definitions

* `ControlPlane.Kind.owner?` — the kind of object that objects of a kind belong to
* `ControlPlane.Inventory.Rooted` — what objects belong to is there
* `Simulator.Restocked` — what a request may do to the objects

## Main results

* `Simulator.restocked_answer` — a request does nothing else
* `Simulator.rooted_answer`, `Testbed.rooted_of_replies` — what objects belong to stays there
-/

namespace ClusterNet

namespace ControlPlane

/-- The kind of the objects that objects of a kind belong to, if those are objects of a cluster. -/
def Kind.owner? : Kind → Option Kind
  | .policy .localeService | .policy .segment | .policy .natRule => some (.policy .tier1)
  | .manager .dhcpIpPool => some (.manager .dhcpServer)
  | _ => none

/-- Whether what objects belong to is there. -/
def Inventory.Rooted (i : Inventory) : Prop :=
  ∀ k k' place, k.owner? = some k' → i.Holds k place → i.Holds k' ⟨"", place.parent⟩

theorem Inventory.rooted_empty : ({} : Inventory).Rooted := by
  intro k k' place _ hholds
  rcases k with k | k <;> cases k <;> cases hholds

namespace Simulator

variable {s : Simulator} {k k' : Kind} {place : Place}

/-- What a request may do to the objects of a control plane. -/
inductive Restocked (s : Simulator) : Inventory → Prop
  /-- Nothing. -/
  | same : Restocked s s.inventory
  /-- An object is stored. Unless there was one before, what it belongs to is there. -/
  | put (k : Kind) (place : Place) (o : k.Object)
    (howner : ∀ k', k.owner? = some k' →
      s.inventory.Holds k place ∨ s.inventory.Holds k' ⟨"", place.parent⟩) :
    Restocked s (s.inventory.put k place o)
  /-- An object is removed that nothing depends on. -/
  | removed (k : Kind) (place : Place) (hunused : s.isInUse k place = false) :
    Restocked s (s.inventory.remove k place)

/-- What an object is to belong to is there, if it is not found missing. -/
theorem holds_owner {parent : String} {o : k.Object} (h : s.missingOwner k parent o = none)
    (howner : k.owner? = some k') : s.inventory.Holds k' ⟨"", parent⟩ := by
  have hcontains : (s.inventory.table k').contains ⟨"", parent⟩ = true := by
    match k, howner with
    | .policy .localeService, howner | .policy .segment, howner | .policy .natRule, howner
    | .manager .dhcpIpPool, howner =>
      obtain rfl := Option.some.inj howner
      simpa [missingOwner, PolicyKind.isOfTier1, Inventory.table] using h
  exact hcontains

theorem restocked_patch {k : PolicyKind} {place : Place} (o : k.Object) :
    Restocked s (s.patch k place o).2.inventory := by
  rw [patch]
  split
  · exact .same
  · next howner =>
    have hput : ∀ {plane : Simulator}, plane.inventory = s.inventory →
        Restocked s
          (plane.inventory.put (.policy k) place (k.stamped place.id (k.path place) o)) := by
      intro plane hsame
      rw [hsame]
      exact .put (.policy k) place _ fun k' hk' => .inr (holds_owner howner hk')
    dsimp only
    split
    · exact hput (inventory_withCompanions s k place o)
    · exact hput rfl

theorem restocked_create {k : ManagerKind} {parent : String} (o : k.Object) :
    Restocked s (s.create k parent o).2.inventory := by
  rw [create]
  split
  · exact .same
  · next howner =>
    exact .put (.manager k) ⟨parent, s.freshId s.drawnIds⟩ _ fun k' hk' =>
      .inr (holds_owner howner hk')

theorem restocked_update {k : ManagerKind} {place : Place} (o : k.Object) :
    Restocked s (s.update k place o).2.inventory := by
  rw [update]
  split
  · exact .same
  · next current hfind =>
    dsimp only
    split
    · exact .put (.manager k) place _ fun _ _ => .inl (Inventory.holds_of_find? hfind)
    · exact .same

theorem restocked_delete (k : Kind) (place : Place) :
    Restocked s (s.delete k place).2.inventory := by
  rw [delete]
  split
  · exact .same
  · next hunused =>
    have hsame : (s.withoutAddress k place).inventory = s.inventory := inventory_withoutAddress ..
    dsimp only
    split
    · rw [hsame]
      exact .same
    · dsimp only
      rw [hsame]
      exact .removed k place (Bool.eq_false_iff.mpr hunused)

theorem restocked_serve (r : Request) : Restocked s (s.serve r).2.inventory := by
  cases r with
  | patch k place o => exact restocked_patch o
  | create k parent o => exact restocked_create o
  | update k place o => exact restocked_update o
  | delete k place => exact restocked_delete k place
  | listRealized path =>
    rw [serve, realized]
    split
    · exact .same
    · split <;> exact .same
  | deleteBalancer k id =>
    rw [serve, deleteBalancer]
    split <;> exact .same
  | listCatalog _ _ | get _ _ | list _ _ _ | listSwitches _ | listBalancers _ _ => exact .same

/-- **What a request does to the objects of a control plane**: nothing, or it stores an object whose
owner is there, or it removes one that nothing depends on. -/
theorem restocked_answer (r : Request) (s : Simulator) : Restocked s (answer r s).2.inventory := by
  rcases answer_cases r s with ⟨-, hfailed⟩ | ⟨-, hserved⟩
  · rw [hfailed]
    exact .same
  · rw [hserved]
    have hserve : Restocked (s.asked [r]) ((s.asked [r]).serve r).2.inventory := restocked_serve r
    generalize ((s.asked [r]).serve r).2.inventory = i at hserve
    cases hserve with
    | same => exact .same
    | put k place o howner => exact .put k place o howner
    | removed k place hunused => exact .removed k place hunused

/-- What others belong to is in use. -/
theorem isInUse_of_holds {place' : Place} (howner : k.owner? = some k')
    (hholds : s.inventory.Holds k place) (hid : place'.id = place.parent) :
    s.isInUse k' place' = true := by
  have hmem : place ∈ (s.inventory.table k).keys := by
    obtain ⟨o, hfind⟩ := Option.isSome_iff_exists.mp hholds
    exact List.mem_map.mpr ⟨_, OrderedMap.mem_of_find? hfind, rfl⟩
  match k, howner with
  | .policy .localeService, howner | .policy .segment, howner | .policy .natRule, howner
  | .manager .dhcpIpPool, howner =>
    obtain rfl := Option.some.inj howner
    simp only [isInUse, Bool.or_eq_true, List.any_eq_true, beq_iff_eq]
    first
      | exact .inl (.inl ⟨place, hmem, hid.symm⟩)
      | exact .inl (.inr ⟨place, hmem, hid.symm⟩)
      | exact .inr ⟨place, hmem, hid.symm⟩

theorem Restocked.rooted {i : Inventory} (h : Restocked s i) (hrooted : s.inventory.Rooted) :
    i.Rooted := by
  intro k k' place howner hholds
  cases h with
  | same => exact hrooted k k' place howner hholds
  | put k₁ place₁ o hstored =>
    have hbefore : s.inventory.Holds k' ⟨"", place.parent⟩ := by
      by_cases hk : k = k₁
      · subst hk
        rcases Inventory.holds_put_iff.mp hholds with rfl | hholds
        · exact (hstored k' howner).elim (hrooted k k' place howner) id
        · exact hrooted k k' place howner hholds
      · exact hrooted k k' place howner ((Inventory.holds_put_of_ne hk).mp hholds)
    by_cases hk' : k' = k₁
    · subst hk'
      exact Inventory.holds_put_iff.mpr (.inr hbefore)
    · exact (Inventory.holds_put_of_ne hk').mpr hbefore
  | removed k₁ place₁ hunused =>
    have hheld : s.inventory.Holds k place := by
      by_cases hk : k = k₁
      · subst hk
        exact (Inventory.holds_remove_iff.mp hholds).2
      · exact (Inventory.holds_remove_of_ne hk).mp hholds
    have hbefore := hrooted k k' place howner hheld
    by_cases hk' : k' = k₁
    · subst hk'
      refine Inventory.holds_remove_iff.mpr ⟨?_, hbefore⟩
      rintro rfl
      rw [isInUse_of_holds howner hheld rfl] at hunused
      cases hunused
    · exact (Inventory.holds_remove_of_ne hk').mpr hbefore

/-- **What objects belong to stays there**, whatever is asked. -/
theorem rooted_answer (h : s.inventory.Rooted) (r : Request) : (answer r s).2.inventory.Rooted :=
  (restocked_answer r s).rooted h

end Simulator

/-- What objects belong to stays there while work is done. -/
theorem Testbed.rooted_of_replies {b b' : Testbed} {es : List (Program.Event Effect.interface)}
    (h : Program.Replies Testbed.perform es b b') (hrooted : b.plane.inventory.Rooted) :
    b'.plane.inventory.Rooted := by
  refine Program.Replies.invariant
    (R := fun b b' : Testbed => b.plane.inventory.Rooted → b'.plane.inventory.Rooted)
    (fun _ => id) (fun h h' => h' ∘ h) (fun e _ b hb => ?_) h hrooted
  obtain ⟨e, answer⟩ := e
  cases e with
  | call r =>
    rw [Testbed.perform, Testbed.answer]
    split
    · exact hb
    · exact Simulator.rooted_answer hb r
  | drawId | sleep _ => exact hb

end ControlPlane

end ClusterNet
