import ClusterNet.Json.Codec
import ClusterNet.Proofs.Json.RoundTrip
import ClusterNet.Proofs.OrderedMap

/-!
# Codecs that undo themselves

A codec keeps a value if what it writes for it is plain and is read back as the value, and a codec
that keeps all values is lawful. Codecs are built from codecs, and a record from its fields, so the
law is proved along the same lines: one lemma for each way of building. It is proved value by
value, since not every codec is lawful: a list of entries is read back only if it is in the order
of its keys, and a text only if it has the form that is asked for.

A record is read by the names of its fields, each of which looks through all members. So the law of
a record is not about its own members alone, but about any members in which *its names stand for
what they stand for among its own*. That is what lets one field be put before others.

## Main definitions

* `Codec.Keeps`, `Codec.Lawful` — codecs that read what they write for one value, or for all
* `Codec.Solid` — codecs that never write `null`
* `Field.Keeps`, `Field.Lawful`, `Record.Keeps`, `Record.Reads` — the same for fields and for
  records

## Main results

* `Record.Keeps.field`, `Record.Keeps.iso` — records are read back if their fields are
* `Record.Keeps.codec` — so are the values of their codecs
* `Codec.Keeps.parse_compact`, `Codec.Keeps.parse_indented` — the texts of what a codec writes
-/

namespace ClusterNet

/-! ### Codecs -/

namespace Codec

variable {α : Type} {c : Codec α} {a : α}

/-- Values that a codec reads from what it writes for them. -/
structure Keeps (c : Codec α) (a : α) : Prop where
  /-- What is written is plain. -/
  plain : (c.encode a).IsPlain
  /-- What is written is read. -/
  back : c.decode (c.encode a) = some a

/-- Codecs that read what they write. -/
def Lawful (c : Codec α) : Prop := ∀ a, c.Keeps a

/-- Codecs that never write `null`. -/
def Solid (c : Codec α) : Prop := ∀ a, c.encode a ≠ .null

@[simp] theorem lawful_text : Lawful text := fun s => ⟨.string s, rfl⟩

@[simp] theorem solid_text : Solid text := fun _ h => nomatch h

@[simp] theorem lawful_bool : Lawful bool := fun b => ⟨.bool b, rfl⟩

@[simp] theorem solid_bool : Solid bool := fun _ h => nomatch h

@[simp] theorem lawful_int64 : Lawful int64 := by
  intro n
  have hbounds : Int64.minValue.toInt ≤ n.toInt ∧ n.toInt ≤ Int64.maxValue.toInt :=
    ⟨Int64.minValue_le_toInt n, Int64.toInt_le n⟩
  refine ⟨.integer n.toInt, ?_⟩
  show (if Int64.minValue.toInt ≤ n.toInt ∧ n.toInt ≤ Int64.maxValue.toInt then
    some (Int64.ofInt n.toInt) else none) = some n
  rw [if_pos hbounds, Int64.ofInt_toInt]

@[simp] theorem solid_int64 : Solid int64 := fun _ h => nomatch h

theorem keeps_natBelow {bound n : Nat} (h : n < bound) : (natBelow bound).Keeps n where
  plain := .integer n
  back := by
    have hbounds : 0 ≤ (n : Int) ∧ (n : Int) < bound := ⟨Int.natCast_nonneg n, Int.ofNat_lt.mpr h⟩
    rw [natBelow]
    exact if_pos hbounds

theorem lawful_uint64 : Lawful uint64 := by
  intro n
  have hencode : uint64.encode n = (natBelow UInt64.size).encode n.toNat := rfl
  have hdecode : ∀ v, uint64.decode v = ((natBelow UInt64.size).decode v).map UInt64.ofNat :=
    fun _ => rfl
  have hkept : (natBelow UInt64.size).Keeps n.toNat := keeps_natBelow n.toNat_lt
  refine ⟨.integer n.toNat, ?_⟩
  rw [hdecode, hencode, hkept.back, Option.map_some, UInt64.ofNat_toNat]

/-- A list is read back if its items are. -/
theorem Lawful.list (h : c.Lawful) : (list c).Lawful := by
  intro as
  refine ⟨.array fun v hv => ?_, ?_⟩
  · obtain ⟨a, -, rfl⟩ := List.mem_map.mp hv
    exact (h a).plain
  · show (as.map c.encode).mapM c.decode = some as
    induction as with
    | nil => rfl
    | cons a as ih =>
      rw [List.map_cons, List.mapM_cons, (h a).back, ih]
      rfl

/-- A map is read back if its entries are in the order of their keys. -/
theorem Lawful.keeps_map (h : c.Lawful) {m : OrderedMap String α} (hm : m.IsSorted) :
    (map c).Keeps m where
  plain := by
    refine .object fun m' hmem => ?_
    obtain ⟨e, -, rfl⟩ := List.mem_map.mp hmem
    exact (h e.2).plain
  back := by
    have hentries : ∀ es : List (String × α),
        (es.map fun e => (e.1, c.encode e.2)).mapM
          (fun m : String × Json => (c.decode m.2).map fun a => (m.1, a)) = some es := by
      intro es
      induction es with
      | nil => rfl
      | cons e es ih =>
        rw [List.map_cons, List.mapM_cons, (h e.2).back, ih]
        rfl
    exact (congrArg (Option.map OrderedMap.ofList) (hentries m.entries)).trans
      (congrArg some (OrderedMap.ofList_entries hm))

/-- What is not `null` is a value. -/
theorem decode_nullable {v : Json} (h : v ≠ .null) :
    c.nullable.decode v = (c.decode v).map some := by
  cases v with
  | null => exact absurd rfl h
  | bool _ | integer _ | decimal _ | string _ | array _ | object _ | unreadable => rfl

/-- A codec that never writes `null` leaves it to the missing value. -/
theorem Lawful.nullable (h : c.Lawful) (hsolid : c.Solid) : c.nullable.Lawful := by
  intro a
  cases a with
  | none => exact ⟨.null, rfl⟩
  | some a =>
    refine ⟨(h a).plain, ?_⟩
    show c.nullable.decode (c.encode a) = some (some a)
    rw [decode_nullable (hsolid a), (h a).back]
    rfl

/-- A value that is kept is read from its text without spaces. -/
theorem Keeps.parse_compact (h : c.Keeps a) :
    (Json.parse (c.encode a).compact).bind c.decode = some a := by
  rw [Json.parse_compact h.plain, Option.bind_some, h.back]

/-- Values that are kept are the same if their texts are. -/
theorem Keeps.eq_of_compact_eq {b : α} (h : c.Keeps a) (h' : c.Keeps b)
    (heq : (c.encode a).compact = (c.encode b).compact) : a = b := by
  have hback := h.parse_compact
  rw [heq, h'.parse_compact] at hback
  exact (Option.some.inj hback).symm

/-- A value that is kept is read from its indented text. -/
theorem Keeps.parse_indented (h : c.Keeps a) :
    (Json.parse (c.encode a).indented).bind c.decode = some a := by
  rw [Json.parse_indented h.plain, Option.bind_some, h.back]

end Codec

/-! ### Fields -/

namespace Field

variable {α : Type} {f : Field α} {a : α}

/-- Values that a field reads as it writes them, or as missing where it leaves them out. -/
structure Keeps (f : Field α) (a : α) : Prop where
  /-- What is written is plain. -/
  plain : (f.codec.encode a).IsPlain
  /-- What is written is read. -/
  back : f.isOmitted a = false → f.codec.decode (f.codec.encode a) = some a
  /-- What is left out is what a missing member stands for. -/
  omitted : f.isOmitted a = true → f.absent = some a

/-- Fields that keep every value. -/
def Lawful (f : Field α) : Prop := ∀ a, f.Keeps a

@[simp] theorem name_required (name : String) (c : Codec α) : (required name c).name = name := rfl

@[simp] theorem name_optional (name : String) (c : Codec α) : (optional name c).name = name := rfl

@[simp] theorem name_defaulted (name : String) (c : Codec α) (value : α) :
    (defaulted name c value).name = name := rfl

@[simp] theorem name_items (name : String) (c : Codec α) : (items name c).name = name := rfl

@[simp] theorem name_itemsIfAny (name : String) (c : Codec α) :
    (itemsIfAny name c).name = name := rfl

theorem keeps_required {c : Codec α} (h : c.Keeps a) (name : String) :
    (required name c).Keeps a where
  plain := h.plain
  back _ := h.back
  omitted hom := nomatch hom

@[simp] theorem lawful_required {c : Codec α} (h : c.Lawful) (name : String) :
    (required name c).Lawful :=
  fun a => keeps_required (h a) name

theorem keeps_defaulted {c : Codec α} (h : c.Keeps a) (name : String) (value : α) :
    (defaulted name c value).Keeps a where
  plain := h.plain
  back _ := h.back
  omitted hom := nomatch hom

@[simp] theorem lawful_defaulted {c : Codec α} (h : c.Lawful) (name : String) (value : α) :
    (defaulted name c value).Lawful :=
  fun a => keeps_defaulted (h a) name value

@[simp] theorem lawful_items {c : Codec α} (h : c.Lawful) (name : String) :
    (items name c).Lawful :=
  lawful_defaulted h.list name []

@[simp] theorem lawful_itemsIfAny {c : Codec α} (h : c.Lawful) (name : String) :
    (itemsIfAny name c).Lawful := by
  intro as
  refine ⟨(h.list as).plain, fun _ => (h.list as).back, fun hom => ?_⟩
  rw [List.isEmpty_iff.mp hom]
  rfl

@[simp] theorem lawful_optional {c : Codec α} (h : c.Lawful) (hsolid : c.Solid) (name : String) :
    (optional name c).Lawful := by
  intro a
  refine ⟨(h.nullable hsolid a).plain, fun _ => (h.nullable hsolid a).back, fun hom => ?_⟩
  cases a with
  | none => rfl
  | some a => exact nomatch hom

/-- A field is read from members in which its name stands for what it stands for among its own. -/
theorem Keeps.ofMembers (h : f.Keeps a) {ms : List (String × Json)}
    (hms : Json.valuesOf f.name ms = Json.valuesOf f.name (f.members a)) :
    f.ofMembers ms = some a := by
  rw [Field.ofMembers, hms, members]
  cases homitted : f.isOmitted a with
  | true => exact h.omitted homitted
  | false =>
    have hown : Json.valuesOf f.name [(f.name, f.codec.encode a)] = [f.codec.encode a] := by
      simp [Json.valuesOf]
    rw [if_neg Bool.false_ne_true, hown]
    exact h.back homitted

/-- A field writes no other name than its own. -/
theorem name_of_mem_members {m : String × Json} (h : m ∈ f.members a) : m.1 = f.name := by
  rw [members] at h
  split at h
  · exact absurd h List.not_mem_nil
  · rw [List.mem_singleton.mp h]

theorem Keeps.plain_of_mem (h : f.Keeps a) {m : String × Json} (hm : m ∈ f.members a) :
    m.2.IsPlain := by
  rw [members] at hm
  split at hm
  · exact absurd hm List.not_mem_nil
  · rw [List.mem_singleton.mp hm]
    exact h.plain

end Field

/-! ### Records -/

theorem Json.valuesOf_append (name : String) (ms ms' : List (String × Json)) :
    Json.valuesOf name (ms ++ ms') = Json.valuesOf name ms ++ Json.valuesOf name ms' :=
  List.filterMap_append

/-- A name that no member has stands for nothing. -/
theorem Json.valuesOf_eq_nil {name : String} {ms : List (String × Json)}
    (h : ∀ m ∈ ms, m.1 ≠ name) : Json.valuesOf name ms = [] := by
  refine List.filterMap_eq_nil_iff.mpr ?_
  intro m hmem
  exact if_neg (h m hmem)

namespace Record

variable {α β : Type} {r : Record α} {names : List String} {a : α} {b : β}

/-- Values that a record is read back as, by the given names. -/
structure Keeps (r : Record α) (names : List String) (a : α) : Prop where
  /-- No other names are written. -/
  named : ∀ m ∈ r.members a, m.1 ∈ names
  /-- What is written is plain. -/
  plain : ∀ m ∈ r.members a, m.2.IsPlain
  /-- The record is read from members in which its names stand for the same. -/
  back : ∀ ms, (∀ name ∈ names, Json.valuesOf name ms = Json.valuesOf name (r.members a)) →
    r.ofMembers ms = some a

/-- Records that are read back by the given names. -/
def Reads (r : Record α) (names : List String) : Prop := ∀ a, r.Keeps names a

@[simp] theorem reads_nil : Reads .nil [] := fun _ =>
  { named := fun _ hm => absurd hm List.not_mem_nil
    plain := fun _ hm => absurd hm List.not_mem_nil
    back := fun _ _ => rfl }

/-- A field of another name is put before the others. -/
theorem Keeps.field (h : r.Keeps names a) {f : Field β} (hf : f.Keeps b) (hname : f.name ∉ names) :
    (Record.field f r).Keeps (f.name :: names) (b, a) where
  named := by
    intro m hm
    rcases List.mem_append.mp hm with hm | hm
    · rw [Field.name_of_mem_members hm]
      exact List.mem_cons_self
    · exact List.mem_cons_of_mem _ (h.named m hm)
  plain := by
    intro m hm
    rcases List.mem_append.mp hm with hm | hm
    · exact hf.plain_of_mem hm
    · exact h.plain m hm
  back := by
    intro ms hms
    have hhead : Json.valuesOf f.name ms = Json.valuesOf f.name (f.members b) := by
      have hrest : Json.valuesOf f.name (r.members a) = [] :=
        Json.valuesOf_eq_nil fun m hm heq => hname (heq ▸ h.named m hm)
      rw [hms f.name List.mem_cons_self, Record.field, Json.valuesOf_append, hrest,
        List.append_nil]
    have htail : ∀ name ∈ names, Json.valuesOf name ms = Json.valuesOf name (r.members a) := by
      intro name hmem
      have hown : Json.valuesOf name (f.members b) = [] :=
        Json.valuesOf_eq_nil fun m hm heq =>
          hname ((Field.name_of_mem_members hm).symm.trans heq ▸ hmem)
      rw [hms name (List.mem_cons_of_mem _ hmem), Record.field, Json.valuesOf_append, hown,
        List.nil_append]
    rw [Record.field]
    dsimp only
    rw [hf.ofMembers hhead, Option.bind_some, h.back ms htail]
    rfl

theorem Keeps.iso {make : α → β} {back : β → α} (h : r.Keeps names (back b))
    (hmake : make (back b) = b) : (r.iso make back).Keeps names b where
  named := h.named
  plain := h.plain
  back ms hms := by
    show (r.ofMembers ms).map make = some b
    rw [h.back ms hms, Option.map_some, hmake]

/-- **What a record is read back as is kept by its codec.** -/
theorem Keeps.codec (h : r.Keeps names a) : r.codec.Keeps a where
  plain := .object h.plain
  back := h.back (r.members a) fun _ _ => rfl

theorem Reads.field (h : r.Reads names) {f : Field β} (hf : f.Lawful) (hname : f.name ∉ names) :
    (Record.field f r).Reads (f.name :: names) :=
  fun (b, a) => (h a).field (hf b) hname

theorem Reads.iso (h : r.Reads names) {make : α → β} {back : β → α}
    (hmake : ∀ b, make (back b) = b) : (r.iso make back).Reads names :=
  fun b => (h (back b)).iso (hmake b)

theorem Reads.codec (h : r.Reads names) : r.codec.Lawful := fun a => (h a).codec

/-- A record whose fields are read back stands for another type if `make` undoes `back`. -/
theorem lawful_iso {make : α → β} {back : β → α} (hmake : ∀ b, make (back b) = b)
    (h : r.Reads names) : (r.iso make back).codec.Lawful :=
  (h.iso hmake).codec

@[simp] theorem solid_codec (r : Record α) : r.codec.Solid := fun _ h => nomatch h

end Record

end ClusterNet
