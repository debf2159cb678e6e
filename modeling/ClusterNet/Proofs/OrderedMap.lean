import ClusterNet.OrderedMap
import Mathlib.Data.List.Induction
import Mathlib.Data.List.Sort
import Mathlib.Data.String.Basic

/-!
# The entries of ordered maps

Look-ups do not depend on the order of the entries, but going through a map does, and so does
reading one that was written entry by entry. A map that is built by insertions and removals has its
entries in the order of their keys, each key once, and such a map is what its entries build.

## Main definitions

* `LawfulKeyOrder` — keys whose order is strict and decides between any two of them
* `OrderedMap.IsSorted` — maps whose entries are in the order of their keys

## Main results

* `OrderedMap.mem_of_find?`, `OrderedMap.eq_or_mem_of_mem_insert` — what is found, and what is there
* `Text.isBefore_iff` — the order of texts is that of the library
* `OrderedMap.IsSorted.insert`, `OrderedMap.IsSorted.erase` — changes keep the order
* `OrderedMap.IsSorted.find?_of_mem` — in a map in order, what is listed is found
* `OrderedMap.ofList_entries` — a map in order is built from its entries
* `OrderedMap.IsSorted.ext` — maps in order in which the same is found are the same
* `OrderedMap.find?_ofList` — in a map that is made of a list, the last entry of a key is found
-/

namespace ClusterNet

/-! ### What is there -/

namespace OrderedMap

variable {κ α : Type} [DecidableEq κ]

/-- What is listed is found. -/
theorem isSome_find?_of_mem_keys {m : OrderedMap κ α} {k : κ} (h : k ∈ m.keys) :
    (m.find? k).isSome := by
  obtain ⟨es⟩ := m
  rw [keys] at h
  rw [find?]
  dsimp only at h ⊢
  induction es with
  | nil => exact absurd h List.not_mem_nil
  | cons e es ih =>
    obtain ⟨k', v⟩ := e
    rw [findIn]
    split
    · rfl
    · next hne => exact ih (List.mem_of_ne_of_mem hne h)

/-- Where nothing is found, nothing is erased. -/
theorem erase_of_find?_eq_none {m : OrderedMap κ α} {k : κ} (h : m.find? k = none) :
    m.erase k = m := by
  refine congrArg mk (List.filter_eq_self.mpr fun e hmem => decide_eq_true ?_)
  rintro rfl
  have hsome := isSome_find?_of_mem_keys (List.mem_map_of_mem hmem)
  rw [h] at hsome
  exact Bool.false_ne_true hsome

/-- What is found after an insertion is the new entry or was found before. -/
theorem isSome_find?_insert_iff [KeyOrder κ] {m : OrderedMap κ α} {k k' : κ} {v : α} :
    ((m.insert k v).find? k').isSome ↔ k' = k ∨ (m.find? k').isSome := by
  by_cases hk : k' = k
  · rw [hk, find?_insert_self]
    exact ⟨fun _ => .inl rfl, fun _ => rfl⟩
  · rw [find?_insert_of_ne m hk]
    exact ⟨.inr, fun h => h.resolve_left hk⟩

/-- What is found after a removal was found before, at another key. -/
theorem isSome_find?_erase_iff {m : OrderedMap κ α} {k k' : κ} :
    ((m.erase k).find? k').isSome ↔ k' ≠ k ∧ (m.find? k').isSome := by
  by_cases hk : k' = k
  · rw [hk, find?_erase_self]
    exact ⟨nofun, fun h => absurd rfl h.1⟩
  · rw [find?_erase_of_ne m hk]
    exact ⟨fun h => ⟨hk, h⟩, fun h => h.2⟩

/-- A new key is one more key. -/
theorem keys_insert_perm [KeyOrder κ] {m : OrderedMap κ α} {k : κ} (h : k ∉ m.keys) (v : α) :
    (m.insert k v).keys.Perm (k :: m.keys) := by
  obtain ⟨es⟩ := m
  rw [keys] at h
  rw [keys, keys, insert]
  dsimp only at h ⊢
  induction es with
  | nil => exact .refl _
  | cons e es ih =>
    obtain ⟨k', v'⟩ := e
    rw [List.map_cons, List.mem_cons, not_or] at h
    rw [insertIn, if_neg h.1]
    split
    · exact .refl _
    · exact ((ih h.2).cons k').trans (.swap k k' _)

/-- A map in which nothing is found has no entries. -/
theorem eq_empty_of_find?_eq_none {m : OrderedMap κ α} (h : ∀ k, m.find? k = none) : m = empty := by
  obtain ⟨es⟩ := m
  cases es with
  | nil => rfl
  | cons e es =>
    have hsome : ((⟨e :: es⟩ : OrderedMap κ α).find? e.1).isSome :=
      isSome_find?_of_mem_keys List.mem_cons_self
    rw [h e.1] at hsome
    exact absurd hsome Bool.false_ne_true

/-- What is found is an entry. -/
theorem mem_of_find? {m : OrderedMap κ α} {k : κ} {v : α} (h : m.find? k = some v) :
    (k, v) ∈ m.entries := by
  obtain ⟨es⟩ := m
  rw [find?] at h
  dsimp only at h ⊢
  induction es with
  | nil => cases h
  | cons e es ih =>
    obtain ⟨k', v'⟩ := e
    rw [findIn] at h
    split at h
    · next heq =>
      rw [heq, Option.some.inj h]
      exact .head es
    · exact .tail _ (ih h)

/-- An entry that is there after an insertion is the new one, or it was there before. -/
theorem eq_or_mem_of_mem_insert [KeyOrder κ] {m : OrderedMap κ α} {k : κ} {v : α} {e : κ × α}
    (h : e ∈ (m.insert k v).entries) : e = (k, v) ∨ e ∈ m.entries := by
  obtain ⟨es⟩ := m
  rw [insert] at h
  dsimp only at h ⊢
  induction es with
  | nil => exact .inl (List.mem_singleton.mp h)
  | cons e' es ih =>
    obtain ⟨k', v'⟩ := e'
    rw [insertIn] at h
    split at h
    · exact (List.mem_cons.mp h).imp_right (.tail _)
    · split at h
      · exact List.mem_cons.mp h
      · rcases List.mem_cons.mp h with rfl | hmem
        · exact .inr (.head es)
        · exact (ih hmem).imp_right (.tail _)

end OrderedMap

/-! ### The order of keys -/

/-- Keys whose order is strict and decides between any two of them. -/
class LawfulKeyOrder (κ : Type) [KeyOrder κ] : Prop where
  /-- No key comes before itself. -/
  irrefl (k : κ) : KeyOrder.isBefore k k = false
  /-- What comes before a key comes before those behind it. -/
  trans {k k' k'' : κ} : KeyOrder.isBefore k k' = true → KeyOrder.isBefore k' k'' = true →
    KeyOrder.isBefore k k'' = true
  /-- Of two keys one comes first. -/
  before_of_ne {k k' : κ} : k ≠ k' → KeyOrder.isBefore k k' = false →
    KeyOrder.isBefore k' k = true

namespace Text

theorem isBeforeList_iff (as bs : List Char) : isBeforeList as bs = true ↔ as < bs := by
  induction as generalizing bs with
  | nil => cases bs <;> simp [isBeforeList]
  | cons a as ih =>
    cases bs with
    | nil => simp [isBeforeList]
    | cons b bs =>
      have hhead : Nat.blt a.toNat b.toNat = true ↔ a < b := by
        rw [Nat.blt_eq]
        exact Iff.rfl
      rw [isBeforeList, Bool.or_eq_true, Bool.and_eq_true, hhead, beq_iff_eq, ih,
        List.cons_lt_cons_iff]

/-- The order of texts is that of the library. -/
theorem isBefore_iff {s t : String} : isBefore s t = true ↔ s < t := by
  rw [isBefore, isBeforeList_iff, String.lt_iff_toList_lt]

theorem isBefore_eq_false_iff {s t : String} : isBefore s t = false ↔ t ≤ s := by
  rw [← Bool.not_eq_true, isBefore_iff, not_lt]

end Text

instance : LawfulKeyOrder String where
  irrefl s := Text.isBefore_eq_false_iff.mpr (le_refl s)
  trans h h' := Text.isBefore_iff.mpr (lt_trans (Text.isBefore_iff.mp h) (Text.isBefore_iff.mp h'))
  before_of_ne hne h :=
    Text.isBefore_iff.mpr (lt_of_le_of_ne (Text.isBefore_eq_false_iff.mp h) hne.symm)

/-- Pairs whose halves are in a strict order are in a strict order. -/
instance {κ κ' : Type} [DecidableEq κ] [KeyOrder κ] [KeyOrder κ'] [LawfulKeyOrder κ]
    [LawfulKeyOrder κ'] : LawfulKeyOrder (κ × κ') where
  irrefl k := by
    simp only [KeyOrder.isBefore, LawfulKeyOrder.irrefl, Bool.and_false, Bool.or_false]
  trans {k k' k''} h h' := by
    simp only [KeyOrder.isBefore, Bool.or_eq_true, Bool.and_eq_true, decide_eq_true_eq] at h h' ⊢
    rcases h with h | ⟨heq, h⟩
    · rcases h' with h' | ⟨heq', -⟩
      · exact .inl (LawfulKeyOrder.trans h h')
      · exact .inl (heq' ▸ h)
    · rcases h' with h' | ⟨heq', h'⟩
      · exact .inl (heq ▸ h')
      · exact .inr ⟨heq.trans heq', LawfulKeyOrder.trans h h'⟩
  before_of_ne {k k'} hne h := by
    simp only [KeyOrder.isBefore, Bool.or_eq_false_iff, Bool.and_eq_false_iff,
      decide_eq_false_iff_not] at h
    simp only [KeyOrder.isBefore, Bool.or_eq_true, Bool.and_eq_true, decide_eq_true_eq]
    by_cases hfirst : k.1 = k'.1
    · have hsecond : k.2 ≠ k'.2 := fun heq => hne (Prod.ext hfirst heq)
      exact .inr ⟨hfirst.symm, LawfulKeyOrder.before_of_ne hsecond
        (h.2.resolve_left fun hnot => hnot hfirst)⟩
    · exact .inl (LawfulKeyOrder.before_of_ne hfirst h.1)

/-! ### Maps in order -/

namespace OrderedMap

variable {κ α : Type} [KeyOrder κ] {m : OrderedMap κ α}

/-- Maps whose entries are in the order of their keys. -/
def IsSorted (m : OrderedMap κ α) : Prop :=
  m.entries.Pairwise fun e e' => KeyOrder.isBefore e.1 e'.1 = true

theorem isSorted_empty : (empty : OrderedMap κ α).IsSorted := .nil

variable [DecidableEq κ]

/-- A removal keeps the order. -/
theorem IsSorted.erase (h : m.IsSorted) (k : κ) : (m.erase k).IsSorted :=
  List.Pairwise.filter _ h

variable [LawfulKeyOrder κ]

/-- An insertion keeps the order. -/
theorem IsSorted.insert (h : m.IsSorted) (k : κ) (v : α) : (m.insert k v).IsSorted := by
  obtain ⟨es⟩ := m
  induction es with
  | nil => exact List.pairwise_singleton _ _
  | cons e es ih =>
    obtain ⟨k', v'⟩ := e
    obtain ⟨hhead, htail⟩ := List.pairwise_cons.mp h
    rw [IsSorted, OrderedMap.insert]
    dsimp only
    rw [insertIn]
    split
    · next heq => exact List.pairwise_cons.mpr ⟨heq ▸ hhead, htail⟩
    · next hne =>
      split
      · next hbefore =>
        refine List.pairwise_cons.mpr ⟨fun e he => ?_, h⟩
        rcases List.mem_cons.mp he with rfl | he
        · exact hbefore
        · exact LawfulKeyOrder.trans hbefore (hhead e he)
      · next hafter =>
        have hbefore : KeyOrder.isBefore k' k = true :=
          LawfulKeyOrder.before_of_ne hne (Bool.not_eq_true _ ▸ hafter)
        refine List.pairwise_cons.mpr ⟨fun e he => ?_, ih htail⟩
        rcases eq_or_mem_of_mem_insert (m := ⟨es⟩) he with rfl | he
        · exact hbefore
        · exact hhead e he

/-- In a map in order, what is listed is found. -/
theorem IsSorted.find?_of_mem (h : m.IsSorted) {k : κ} {v : α} (hmem : (k, v) ∈ m.entries) :
    m.find? k = some v := by
  obtain ⟨es⟩ := m
  rw [find?]
  dsimp only at hmem ⊢
  induction es with
  | nil => cases hmem
  | cons e es ih =>
    obtain ⟨k', v'⟩ := e
    obtain ⟨hhead, htail⟩ := List.pairwise_cons.mp h
    rw [findIn]
    rcases List.mem_cons.mp hmem with heq | hmem
    · obtain ⟨hkey, hvalue⟩ := Prod.mk.inj heq
      rw [if_pos hkey, hvalue]
    · have hbefore : KeyOrder.isBefore k' k = true := hhead (k, v) hmem
      have hne : k ≠ k' := by
        rintro rfl
        exact Bool.false_ne_true ((LawfulKeyOrder.irrefl k).symm.trans hbefore)
      rw [if_neg hne]
      exact ih htail hmem

/-- An entry that comes behind all others is put at the end. -/
theorem insertIn_of_before {k : κ} {v : α} {es : List (κ × α)}
    (h : ∀ e ∈ es, KeyOrder.isBefore e.1 k = true) : insertIn k v es = es ++ [(k, v)] := by
  induction es with
  | nil => rfl
  | cons e es ih =>
    obtain ⟨k', v'⟩ := e
    have hbefore : KeyOrder.isBefore k' k = true := h (k', v') (.head es)
    have hne : k ≠ k' := by
      rintro rfl
      exact Bool.false_ne_true ((LawfulKeyOrder.irrefl k).symm.trans hbefore)
    have hafter : ¬ KeyOrder.isBefore k k' = true := by
      intro hback
      have hself := LawfulKeyOrder.trans hbefore hback
      exact Bool.false_ne_true ((LawfulKeyOrder.irrefl k').symm.trans hself)
    rw [insertIn, if_neg hne, if_neg hafter, ih fun e he => h e (.tail _ he)]
    rfl

/-- Entries that come behind those of a map are put at its end one by one. -/
theorem foldl_insert_of_sorted (es es' : List (κ × α))
    (h : (es ++ es').Pairwise fun e e' => KeyOrder.isBefore e.1 e'.1 = true) :
    es'.foldl (fun m e => m.insert e.1 e.2) (⟨es⟩ : OrderedMap κ α) = ⟨es ++ es'⟩ := by
  induction es' generalizing es with
  | nil => rw [List.append_nil]; rfl
  | cons e es' ih =>
    have hbefore : ∀ e' ∈ es, KeyOrder.isBefore e'.1 e.1 = true :=
      fun e' he' => (List.pairwise_append.mp h).2.2 e' he' e (.head es')
    have hinsert : (⟨es⟩ : OrderedMap κ α).insert e.1 e.2 = ⟨es ++ [e]⟩ :=
      congrArg mk (insertIn_of_before hbefore)
    rw [List.append_cons] at h ⊢
    rw [List.foldl_cons, hinsert]
    exact ih (es ++ [e]) h

/-- **A map in order is built from its entries.** -/
theorem ofList_entries (h : m.IsSorted) : ofList m.entries = m :=
  foldl_insert_of_sorted [] m.entries h

/-- Maps in order in which the same is found are the same. -/
theorem IsSorted.ext {m' : OrderedMap κ α} (h : m.IsSorted) (h' : m'.IsSorted)
    (hsame : ∀ k, m.find? k = m'.find? k) : m = m' := by
  have hirrefl : Std.Irrefl fun e e' : κ × α => KeyOrder.isBefore e.1 e'.1 = true :=
    ⟨fun e hself => Bool.false_ne_true ((LawfulKeyOrder.irrefl e.1).symm.trans hself)⟩
  have hantisymm : Std.Antisymm fun e e' : κ × α => KeyOrder.isBefore e.1 e'.1 = true :=
    ⟨fun e e' hbefore hafter => absurd (LawfulKeyOrder.trans hbefore hafter) (hirrefl.irrefl e)⟩
  have hmem : ∀ e, e ∈ m.entries ↔ e ∈ m'.entries := by
    intro e
    constructor
    · intro he
      exact mem_of_find? ((hsame e.1).symm.trans (h.find?_of_mem he))
    · intro he
      exact mem_of_find? ((hsame e.1).trans (h'.find?_of_mem he))
  exact congrArg mk (List.Pairwise.eq_of_mem_iff h h' hmem)

/-! ### Maps that are made of a list -/

omit [LawfulKeyOrder κ] in
theorem ofList_append_singleton (es : List (κ × α)) (e : κ × α) :
    ofList (es ++ [e]) = (ofList es).insert e.1 e.2 := by
  rw [ofList, ofList, List.foldl_append]
  rfl

theorem isSorted_ofList (es : List (κ × α)) : (ofList es).IsSorted := by
  induction es using List.reverseRecOn with
  | nil => exact isSorted_empty
  | append_singleton es e ih =>
    rw [ofList_append_singleton]
    exact ih.insert e.1 e.2

omit [LawfulKeyOrder κ] in
/-- In a map that is made of a list, the last entry of a key is found. -/
theorem find?_ofList (es : List (κ × α)) (k : κ) :
    (ofList es).find? k = findIn k es.reverse := by
  induction es using List.reverseRecOn with
  | nil => rfl
  | append_singleton es e ih =>
    obtain ⟨k', v⟩ := e
    rw [ofList_append_singleton, List.reverse_append]
    show _ = if k = k' then some v else findIn k es.reverse
    by_cases hk : k = k'
    · rw [if_pos hk, hk]
      exact find?_insert_self _ _ _
    · rw [if_neg hk, ← ih]
      exact find?_insert_of_ne _ hk _

end OrderedMap

end ClusterNet
