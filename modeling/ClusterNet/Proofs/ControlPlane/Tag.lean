import ClusterNet.ControlPlane.Tag
import ClusterNet.Proofs.OrderedMap

/-!
# The order of tags

Tags are compared as maps from scopes to values. A control plane allows several tags of one scope,
and of those the last one counts. So the order of tags does not matter where every scope has one
value, *and only there*: a value that any tag of a scope has is the one that counts in some order.

Whether tags say that an object belongs to a cluster is decided in the same way, by the last tag of
two scopes. There it is enough that the tags name no more than one cluster.

## Main definitions

* `ControlPlane.lastValue` — the value that counts for a scope
* `ControlPlane.Settled`, `ControlPlane.NamesOne` — all tags of a scope have one value, and they are
  those of no more than one cluster

## Main results

* `ControlPlane.sameTags_iff`, `ControlPlane.isTagged_iff` — what is compared
* `ControlPlane.ClusterIdentity.eq_of_isTagged` — an object belongs to one cluster
* `ControlPlane.orderless_iff` — where the order of tags does not matter
-/

namespace ClusterNet

namespace ControlPlane

variable {a b tags : List Tag} {t t' : Tag} {scope : String} {v : String} {i : ClusterIdentity}

/-! ### What is compared -/

/-- The value that counts for a scope: that of its last tag. -/
def lastValue (tags : List Tag) (scope : String) : Option String :=
  (tags.reverse.find? fun t => t.scope == scope).map (·.value)

theorem lastValue_append_singleton (tags : List Tag) (t : Tag) (scope : String) :
    lastValue (tags ++ [t]) scope =
      if t.scope = scope then some t.value else lastValue tags scope := by
  rw [lastValue, List.reverse_append, List.reverse_singleton, List.singleton_append]
  by_cases h : t.scope = scope
  · rw [if_pos h, List.find?_cons_of_pos (by simpa using h)]
    rfl
  · rw [if_neg h, List.find?_cons_of_neg (by simpa using h)]
    rfl

theorem find?_ofTags (tags : List Tag) (scope : String) :
    (TagSet.ofTags tags).find? scope = lastValue tags scope := by
  rw [TagSet.ofTags, OrderedMap.find?_ofList, ← List.map_reverse, lastValue]
  induction tags.reverse with
  | nil => rfl
  | cons t tags ih =>
    rw [List.map_cons, OrderedMap.findIn, ih]
    by_cases h : scope = t.scope
    · rw [if_pos h, List.find?_cons_of_pos (by simp [h])]
      rfl
    · rw [if_neg h, List.find?_cons_of_neg (by simpa using Ne.symm h)]

/-- **Tags are the same if the same values count**, scope by scope. -/
theorem sameTags_iff : sameTags a b = true ↔ ∀ scope, lastValue a scope = lastValue b scope := by
  rw [sameTags, decide_eq_true_eq]
  constructor
  · intro hsets scope
    rw [← find?_ofTags, ← find?_ofTags, hsets]
  · intro hvalues
    refine (OrderedMap.isSorted_ofList _).ext (OrderedMap.isSorted_ofList _) fun scope => ?_
    show (TagSet.ofTags a).find? scope = (TagSet.ofTags b).find? scope
    rw [find?_ofTags, find?_ofTags, hvalues]

/-- **An object belongs to the cluster that its last tags name.** -/
theorem isTagged_iff : i.isTagged tags = true ↔
    lastValue tags gardenScope = some i.gardenId ∧
      lastValue tags clusterScope = some i.clusterName := by
  simp only [ClusterIdentity.isTagged, find?_ofTags, Bool.and_eq_true, beq_iff_eq]

namespace ClusterIdentity

theorem isTagged_tags (i : ClusterIdentity) : i.isTagged i.tags = true := by
  have hscopes : gardenScope ≠ clusterScope := by decide
  have htags : i.tags = [⟨gardenScope, i.gardenId⟩] ++ [⟨clusterScope, i.clusterName⟩] := rfl
  refine isTagged_iff.mpr ⟨?_, ?_⟩
  · rw [htags, lastValue_append_singleton, if_neg hscopes.symm]
    rfl
  · rw [htags, lastValue_append_singleton, if_pos rfl]

/-- **An object belongs to one cluster.** -/
theorem eq_of_isTagged {i' : ClusterIdentity} (h : i.isTagged tags = true)
    (h' : i'.isTagged tags = true) : i = i' := by
  obtain ⟨hgarden, hcluster⟩ := isTagged_iff.mp h
  obtain ⟨hgarden', hcluster'⟩ := isTagged_iff.mp h'
  obtain ⟨garden, cluster⟩ := i
  obtain ⟨garden', cluster'⟩ := i'
  rw [ClusterIdentity.mk.injEq]
  exact ⟨Option.some.inj (hgarden.symm.trans hgarden'),
    Option.some.inj (hcluster.symm.trans hcluster')⟩

theorem isTagged_of_sameTags (h : sameTags tags i.tags = true) : i.isTagged tags = true := by
  rw [← isTagged_tags i, isTagged, isTagged, of_decide_eq_true h]

end ClusterIdentity

/-! ### Values that count -/

/-- The value that counts is that of a tag. -/
theorem mem_of_lastValue (h : lastValue tags scope = some v) : ⟨scope, v⟩ ∈ tags := by
  obtain ⟨⟨scope', v'⟩, hfound, rfl⟩ := Option.map_eq_some_iff.mp h
  obtain rfl : scope' = scope := by simpa using List.find?_some hfound
  exact List.mem_reverse.mp (List.mem_of_find?_eq_some hfound)

/-- Some value counts for a scope that has a tag. -/
theorem exists_lastValue (h : ⟨scope, v⟩ ∈ tags) : ∃ v', lastValue tags scope = some v' := by
  have hfound : (tags.reverse.find? fun t => t.scope == scope).isSome :=
    List.find?_isSome.mpr ⟨_, List.mem_reverse.mpr h, beq_self_eq_true scope⟩
  obtain ⟨t, ht⟩ := Option.isSome_iff_exists.mp hfound
  exact ⟨t.value, by rw [lastValue, ht]; rfl⟩

/-- What is tagged as a cluster's has the tags of the cluster. -/
theorem tags_subset_of_isTagged (h : i.isTagged tags = true) : i.tags ⊆ tags := by
  obtain ⟨hgarden, hcluster⟩ := isTagged_iff.mp h
  exact List.cons_subset.mpr ⟨mem_of_lastValue hgarden,
    List.cons_subset.mpr ⟨mem_of_lastValue hcluster, List.nil_subset _⟩⟩

/-- All tags of the scope have one value. -/
def Settled (tags : List Tag) (scope : String) : Prop :=
  ∀ v v', ⟨scope, v⟩ ∈ tags → ⟨scope, v'⟩ ∈ tags → v = v'

/-- The order does not matter for a scope whose tags have one value. -/
theorem Settled.lastValue_eq (h : Settled a scope) (hperm : b.Perm a) :
    lastValue a scope = lastValue b scope := by
  cases hb : lastValue b scope with
  | some v =>
    have hmem : ⟨scope, v⟩ ∈ a := hperm.subset (mem_of_lastValue hb)
    obtain ⟨v', ha⟩ := exists_lastValue hmem
    rw [ha, h v' v (mem_of_lastValue ha) hmem]
  | none =>
    cases ha : lastValue a scope with
    | none => rfl
    | some v =>
      obtain ⟨v', hb'⟩ := exists_lastValue (hperm.symm.subset (mem_of_lastValue ha))
      rw [hb] at hb'
      cases hb'

/-! ### Tags in other orders -/

/-- A tag can be put at the end. -/
theorem exists_perm_append_singleton (h : t ∈ a) : ∃ rest, (rest ++ [t]).Perm a := by
  obtain ⟨before, after, rfl⟩ := List.append_of_mem h
  refine ⟨before ++ after, ?_⟩
  rw [List.append_assoc]
  exact (List.perm_append_singleton t after).append_left before

/-- Every value of a scope counts in some order. -/
theorem exists_perm_lastValue (h : ⟨scope, v⟩ ∈ a) :
    ∃ b, b.Perm a ∧ lastValue b scope = some v := by
  obtain ⟨rest, hperm⟩ := exists_perm_append_singleton h
  exact ⟨_, hperm, by rw [lastValue_append_singleton, if_pos rfl]⟩

/-- Every cluster whose tags are there is the one that is named in some order. -/
theorem exists_perm_isTagged (h : i.tags ⊆ a) : ∃ b, b.Perm a ∧ i.isTagged b = true := by
  have hscopes : gardenScope ≠ clusterScope := by decide
  obtain ⟨hgarden, hrest⟩ := List.cons_subset.mp h
  have hcluster : ⟨clusterScope, i.clusterName⟩ ∈ a := hrest (List.mem_singleton.mpr rfl)
  obtain ⟨rest, hperm⟩ := exists_perm_append_singleton hgarden
  have hmem : ⟨clusterScope, i.clusterName⟩ ∈ rest := by
    rcases List.mem_append.mp (hperm.symm.subset hcluster) with hmem | hlast
    · exact hmem
    · exact absurd (congrArg Tag.scope (List.mem_singleton.mp hlast)).symm hscopes
  obtain ⟨rest', hperm'⟩ := exists_perm_append_singleton hmem
  refine ⟨rest' ++ [⟨clusterScope, i.clusterName⟩] ++ [⟨gardenScope, i.gardenId⟩],
    (hperm'.append_right _).trans hperm, isTagged_iff.mpr ⟨?_, ?_⟩⟩
  · rw [lastValue_append_singleton, if_pos rfl]
  · rw [lastValue_append_singleton, if_neg hscopes, lastValue_append_singleton, if_pos rfl]

/-! ### Where the order does not matter -/

/-- An object has the tags of no more than one cluster. -/
def NamesOne (tags : List Tag) : Prop :=
  ∀ i i' : ClusterIdentity, i.tags ⊆ tags → i'.tags ⊆ tags → i = i'

/-- The cluster whose tags are there is the one that is named. -/
theorem NamesOne.isTagged (h : NamesOne tags) (hi : i.tags ⊆ tags) : i.isTagged tags = true := by
  obtain ⟨hgarden, hrest⟩ := List.cons_subset.mp hi
  obtain ⟨garden, hgarden⟩ := exists_lastValue hgarden
  obtain ⟨cluster, hcluster⟩ := exists_lastValue (hrest (List.mem_singleton.mpr rfl))
  have hlast : (⟨garden, cluster⟩ : ClusterIdentity).isTagged tags = true :=
    isTagged_iff.mpr ⟨hgarden, hcluster⟩
  rw [h i ⟨garden, cluster⟩ hi (tags_subset_of_isTagged hlast)]
  exact hlast

theorem NamesOne.perm (h : NamesOne a) (hperm : b.Perm a) : NamesOne b := fun i i' hi hi' =>
  h i i' (List.Subset.trans hi hperm.subset) (List.Subset.trans hi' hperm.subset)

/-- **Where the order of tags does not matter.** They are the same as they are in any other order
exactly if every scope has one value. The cluster that they name is the same in any other order
exactly if they are the tags of no more than one cluster, and exactly then a cluster whose two tags
are there is always the one that is named. -/
theorem orderless_iff (a : List Tag) :
    ((∀ b, b.Perm a → sameTags a b = true) ↔ ∀ scope, Settled a scope) ∧
    ((∀ b, b.Perm a → ∀ i : ClusterIdentity, i.isTagged a = i.isTagged b) ↔ NamesOne a) ∧
    ((∀ i : ClusterIdentity, i.tags ⊆ a → i.isTagged a = true) ↔ NamesOne a) := by
  refine ⟨⟨fun hsame scope v v' hv hv' => ?_, fun h b hperm => ?_⟩,
    ⟨fun hsame i i' hi hi' => ?_, fun h b hperm i => ?_⟩,
    ⟨fun hall i i' hi hi' => ?_, fun h i => h.isTagged⟩⟩
  · obtain ⟨b, hb, hlast⟩ := exists_perm_lastValue hv
    obtain ⟨b', hb', hlast'⟩ := exists_perm_lastValue hv'
    have hvalue := sameTags_iff.mp (hsame b hb) scope
    rw [sameTags_iff.mp (hsame b' hb') scope, hlast, hlast'] at hvalue
    exact (Option.some.inj hvalue).symm
  · exact sameTags_iff.mpr fun scope => (h scope).lastValue_eq hperm
  · obtain ⟨b, hb, hnamed⟩ := exists_perm_isTagged hi
    obtain ⟨b', hb', hnamed'⟩ := exists_perm_isTagged hi'
    rw [← hsame b hb i] at hnamed
    rw [← hsame b' hb' i'] at hnamed'
    exact ClusterIdentity.eq_of_isTagged hnamed hnamed'
  · rw [Bool.eq_iff_iff]
    constructor
    · intro hnamed
      exact (h.perm hperm).isTagged
        (List.Subset.trans (tags_subset_of_isTagged hnamed) hperm.symm.subset)
    · intro hnamed
      exact h.isTagged (List.Subset.trans (tags_subset_of_isTagged hnamed) hperm.subset)
  · exact ClusterIdentity.eq_of_isTagged (hall i hi) (hall i' hi')

/-- The tags of an object whose garden was tagged anew while the first tag stayed. -/
def regardened : List Tag :=
  [⟨gardenScope, "meadow"⟩, ⟨clusterScope, "shoot"⟩, ⟨gardenScope, "park"⟩]

/-- **The order of tags matters** where a scope has two values: in the other order the tags are not
the same, and they name another cluster. So the tags of a cluster may be there while it is not the
one that is named. -/
theorem regardened_reverse : regardened.reverse.Perm regardened ∧
    sameTags regardened regardened.reverse = false ∧
    (⟨"meadow", "shoot"⟩ : ClusterIdentity).tags ⊆ regardened ∧
    (⟨"meadow", "shoot"⟩ : ClusterIdentity).isTagged regardened = false ∧
    (⟨"meadow", "shoot"⟩ : ClusterIdentity).isTagged regardened.reverse = true := by
  refine ⟨List.reverse_perm _, ?_, ?_, ?_, ?_⟩
  · decide +kernel
  · decide
  · decide +kernel
  · decide +kernel

end ControlPlane

end ClusterNet
