import ClusterNet.Text.Order

/-!
# Maps in the order of their keys

A map kept as a list of entries in the order of the keys, so that going through it gives that
order.

## Main definitions

* `KeyOrder` — the order of a type of keys, as a test;
* `OrderedMap` — the maps, with `find?`, `insert`, `erase`, `keys`, `values`.

## Main results

`find?` after `insert` and `erase` is what it should be, for every list of entries: no invariant
is needed to reason about look-ups.
-/

namespace ClusterNet

/-- A type of keys with an order in which maps list them. -/
class KeyOrder (κ : Type) where
  /-- Whether the first key comes before the second. -/
  isBefore : κ → κ → Bool

instance : KeyOrder String where
  isBefore := Text.isBefore

/-- Pairs are ordered by their first half, then by their second. -/
instance {κ κ' : Type} [DecidableEq κ] [KeyOrder κ] [KeyOrder κ'] : KeyOrder (κ × κ') where
  isBefore a b :=
    KeyOrder.isBefore a.1 b.1 || (decide (a.1 = b.1) && KeyOrder.isBefore a.2 b.2)

/-- A map as its list of entries. -/
structure OrderedMap (κ α : Type) where
  /-- The entries, in the order of their keys. -/
  entries : List (κ × α)
deriving Repr

namespace OrderedMap

variable {κ α β : Type}

instance [DecidableEq κ] [DecidableEq α] : DecidableEq (OrderedMap κ α) := fun a b =>
  if h : a.entries = b.entries then .isTrue (by cases a; cases b; simp_all)
  else .isFalse fun e => h (by rw [e])

/-- The map without entries. -/
def empty : OrderedMap κ α := ⟨[]⟩

instance : Inhabited (OrderedMap κ α) := ⟨empty⟩

/-- The keys in order. -/
def keys (m : OrderedMap κ α) : List κ := m.entries.map Prod.fst

/-- The values in the order of their keys. -/
def values (m : OrderedMap κ α) : List α := m.entries.map Prod.snd

/-- The number of entries. -/
def size (m : OrderedMap κ α) : Nat := m.entries.length

variable [DecidableEq κ]

/-- The value of the first entry with the given key. -/
def findIn (k : κ) : List (κ × α) → Option α
  | [] => none
  | (k', v) :: rest => if k = k' then some v else findIn k rest

/-- The value at a key. -/
def find? (m : OrderedMap κ α) (k : κ) : Option α := findIn k m.entries

/-- Whether there is a value at a key. -/
def contains (m : OrderedMap κ α) (k : κ) : Bool := (m.find? k).isSome

/-- The map without the key. -/
def erase (m : OrderedMap κ α) (k : κ) : OrderedMap κ α :=
  ⟨m.entries.filter fun e => decide (e.1 ≠ k)⟩

@[simp] theorem find?_empty (k : κ) : (empty : OrderedMap κ α).find? k = none := rfl

section Insertion

variable [KeyOrder κ]

/-- Put an entry into a list: in place of the one with its key, or before the first key that
comes after its own. -/
def insertIn (k : κ) (v : α) : List (κ × α) → List (κ × α)
  | [] => [(k, v)]
  | (k', v') :: rest =>
    if k = k' then (k, v) :: rest
    else if KeyOrder.isBefore k k' then (k, v) :: (k', v') :: rest
    else (k', v') :: insertIn k v rest

/-- The map with `v` at `k`. -/
def insert (m : OrderedMap κ α) (k : κ) (v : α) : OrderedMap κ α := ⟨insertIn k v m.entries⟩

/-- The map of a list of entries, a later entry replacing an earlier one with its key. -/
def ofList (entries : List (κ × α)) : OrderedMap κ α :=
  entries.foldl (fun m e => m.insert e.1 e.2) empty

/-! ### Look-ups -/

theorem findIn_insertIn_self (k : κ) (v : α) (es : List (κ × α)) :
    findIn k (insertIn k v es) = some v := by
  induction es with
  | nil => simp [insertIn, findIn]
  | cons e rest ih =>
    obtain ⟨k', v'⟩ := e
    simp only [insertIn]
    split
    · simp [findIn]
    · split <;> simp_all [findIn]

theorem findIn_insertIn_of_ne {k k' : κ} (h : k' ≠ k) (v : α) (es : List (κ × α)) :
    findIn k' (insertIn k v es) = findIn k' es := by
  induction es with
  | nil => simp [insertIn, findIn, h]
  | cons e rest ih =>
    obtain ⟨k₁, v₁⟩ := e
    simp only [insertIn]
    split
    · next e => subst e; simp [findIn, h]
    · split <;> simp [findIn, h, ih]

@[simp] theorem find?_insert_self (m : OrderedMap κ α) (k : κ) (v : α) :
    (m.insert k v).find? k = some v :=
  findIn_insertIn_self k v m.entries

theorem find?_insert_of_ne (m : OrderedMap κ α) {k k' : κ} (h : k' ≠ k) (v : α) :
    (m.insert k v).find? k' = m.find? k' :=
  findIn_insertIn_of_ne h v m.entries

end Insertion

@[simp] theorem find?_erase_self (m : OrderedMap κ α) (k : κ) : (m.erase k).find? k = none := by
  obtain ⟨es⟩ := m
  simp only [find?, erase]
  induction es with
  | nil => rfl
  | cons e rest ih =>
    by_cases h : e.1 = k
    · simpa [h] using ih
    · have : k ≠ e.1 := fun e' => h e'.symm
      simp_all [findIn]

theorem find?_erase_of_ne (m : OrderedMap κ α) {k k' : κ} (h : k' ≠ k) :
    (m.erase k).find? k' = m.find? k' := by
  obtain ⟨es⟩ := m
  simp only [find?, erase]
  induction es with
  | nil => rfl
  | cons e rest ih =>
    obtain ⟨k₁, v₁⟩ := e
    by_cases h₁ : k₁ = k
    · subst h₁
      rw [List.filter_cons_of_neg (by simp), ih, findIn, if_neg h]
    · rw [List.filter_cons_of_pos (by simp [h₁]), findIn, findIn, ih]

end OrderedMap

end ClusterNet
