import ClusterNet.ControlPlane.Kind
import ClusterNet.Text.Decimal
import Mathlib.Data.List.Basic
import Mathlib.Data.String.Basic

/-!
# Reading paths back

A path is a sequence of parts. Both readers of paths look at single parts, whatever the path: one at
the last, the other at the one behind the parts that the paths of tier-1 gateways start with. So the
id of an object and that of the gateway it belongs to are read from the object's path, as long as
they do not themselves separate parts.

## Main definitions

* `Path.IsId` — ids that can be part of a path
* `Path.IsPlain` — ids that separate nothing
* `Path.parts` — the parts of a path

## Main results

* `Path.parts_intercalate` — texts that separate nothing are the parts of the path made of them
* `Path.getLast?_parts`, `Path.tier1IdOf?_eq_some_iff` — which parts the readers of paths look at
* `Path.tier1IdOf?_path` — the gateway that an object belongs to is read from the object's path
* `Path.isId_numberedId` — ids that are made of numbers can be part of paths
* `Kind.place_eq_of_path_eq`, `Kind.place_eq_of_isPlain` — an object that belongs to another one has
  a path of its own
-/

namespace ClusterNet

namespace ControlPlane

namespace Path

/-- Ids that can be part of a path: they are not empty and separate nothing. -/
structure IsId (id : String) : Prop where
  /-- There is something. -/
  nonempty : id ≠ ""
  /-- Nothing is separated. -/
  unseparated : ∀ c ∈ id.toList, isSeparator c = false

/-- Ids that separate nothing. They may be empty. -/
def IsPlain (id : String) : Prop := ∀ c ∈ id.toList, isSeparator c = false

theorem IsId.isPlain {id : String} (h : IsId id) : IsPlain id := h.unseparated

/-! ### The parts of a path -/

/-- The parts of a path, which are the texts around its separators. -/
def parts (path : String) : List String := (path.toList.splitOn '/').map String.ofList

theorem parts_append (front rest : String) :
    parts (front ++ "/" ++ rest) = parts front ++ parts rest := by
  have hchars : (front ++ "/" ++ rest).toList = front.toList ++ '/' :: rest.toList := by
    rw [String.toList_append, String.toList_append, List.append_assoc]
    rfl
  rw [parts, hchars, List.splitOn_append_cons_self, List.map_append, parts, parts]

theorem IsPlain.not_mem {part : String} (h : IsPlain part) : '/' ∉ part.toList := fun hmem =>
  Bool.noConfusion (h '/' hmem)

theorem IsPlain.parts_eq {part : String} (h : IsPlain part) : parts part = [part] := by
  rw [parts, List.splitOn_eq_singleton h.not_mem, List.map_singleton, String.ofList_toList]

/-- What is in front of a separator, and separates nothing itself, is the first part. -/
theorem IsPlain.parts_append {part : String} (h : IsPlain part) (rest : String) :
    parts (part ++ "/" ++ rest) = part :: parts rest := by
  rw [Path.parts_append, h.parts_eq]
  rfl

/-- A path is its parts with separators between them. -/
theorem intercalate_parts (path : String) : "/".intercalate (parts path) = path := by
  have hmap : (parts path).map String.toList = path.toList.splitOn '/' := by
    rw [parts, List.map_map]
    exact List.map_id'' (fun _ => String.toList_ofList) _
  refine String.toList_injective ?_
  rw [String.toList_intercalate, hmap]
  exact List.intercalate_splitOn '/'

/-- Texts that separate nothing are the parts of the path that is made of them. -/
theorem parts_intercalate {ps : List String} (hne : ps ≠ []) (hplain : ∀ part ∈ ps, IsPlain part) :
    parts ("/".intercalate ps) = ps := by
  have hparts : ∀ cs ∈ ps.map String.toList, '/' ∉ cs := by
    intro cs hmem
    obtain ⟨part, hpart, rfl⟩ := List.mem_map.mp hmem
    exact (hplain part hpart).not_mem
  have hsplit : (['/'].intercalate (ps.map String.toList)).splitOn '/' = ps.map String.toList :=
    List.splitOn_intercalate '/' hparts fun h => hne (List.map_eq_nil_iff.mp h)
  have hjoin : ("/".intercalate ps).toList = ['/'].intercalate (ps.map String.toList) :=
    String.toList_intercalate
  rw [parts, hjoin, hsplit, List.map_map]
  exact List.map_id'' (fun _ => String.ofList_toList) _

/-! ### Readers of paths -/

/-- What is in front of a text's first separator is the text, or the separator follows it. -/
theorem exists_front (cs : List Char) :
    ∃ front, cs.takeWhile (fun c => !isSeparator c) = front ∧ '/' ∉ front ∧
      (cs = front ∨ ∃ rest, cs = front ++ '/' :: rest) := by
  have hfront : '/' ∉ cs.takeWhile fun c => !isSeparator c := fun hmem =>
    Bool.noConfusion (List.all_eq_true.mp List.all_takeWhile '/' hmem)
  have hcut := List.takeWhile_append_dropWhile (p := fun c => !isSeparator c) (l := cs)
  refine ⟨_, rfl, hfront, ?_⟩
  cases hrest : cs.dropWhile fun c => !isSeparator c with
  | nil =>
    rw [hrest, List.append_nil] at hcut
    exact .inl hcut.symm
  | cons c rest =>
    have hhead := List.head?_dropWhile_not (fun c => !isSeparator c) cs
    rw [hrest] at hhead
    have hsep : c = '/' := by simpa [isSeparator] using hhead
    rw [hrest, hsep] at hcut
    exact .inr ⟨rest, hcut.symm⟩

/-- The first part of a path is in front of its first separator. -/
theorem head?_parts (path : String) : (parts path).head? =
    some (String.ofList (path.toList.takeWhile fun c => !isSeparator c)) := by
  obtain ⟨front, hread, hfront, hcut⟩ := exists_front path.toList
  rw [hread, parts]
  rcases hcut with hcut | ⟨rest, hcut⟩
  · rw [hcut, List.splitOn_eq_singleton hfront]
    rfl
  · rw [hcut, List.splitOn_append_cons_self_of_not_mem hfront]
    rfl

/-- **The id that is read from a path is its last part**, whatever the path. -/
theorem getLast?_parts (path : String) : (parts path).getLast? = some (idOf path) := by
  obtain ⟨front, hread, hfront, hcut⟩ := exists_front path.toList.reverse
  rw [← List.mem_reverse] at hfront
  rw [idOf, hread, parts]
  rcases hcut with hcut | ⟨rest, hcut⟩
  · rw [List.reverse_eq_iff.mp hcut, List.splitOn_eq_singleton hfront]
    rfl
  · have hchars := List.reverse_eq_iff.mp hcut
    rw [List.reverse_append, List.reverse_cons, List.append_assoc, List.singleton_append] at hchars
    rw [hchars, List.splitOn_append_cons_self, List.splitOn_eq_singleton hfront, List.map_append]
    exact List.getLast?_append_of_ne_nil _ (List.cons_ne_nil _ _)

/-- The parts of a path that starts as those of tier-1 gateways do. -/
theorem parts_tier1Start_append (rest : String) :
    parts (tier1Start ++ rest) = "" :: "infra" :: "tier-1s" :: parts rest := by
  have hstart : parts "/infra/tier-1s" = ["", "infra", "tier-1s"] := by decide +kernel
  have happend := parts_append "/infra/tier-1s" rest
  rwa [hstart] at happend

/-- Behind the start of the paths of gateways, the gateway's id is the first part. -/
theorem tier1IdOf?_tier1Start_append {rest id : String} :
    tier1IdOf? (tier1Start ++ rest) = some id ↔ id ≠ "" ∧ (parts rest).head? = some id := by
  have hstart : tier1Start.toList.isPrefixOf (tier1Start.toList ++ rest.toList) = true :=
    List.isPrefixOf_iff_prefix.mpr (List.prefix_append _ _)
  rw [tier1IdOf?, String.toList_append, hstart, if_pos rfl, List.drop_left, head?_parts]
  cases rest.toList.takeWhile (fun c => !isSeparator c) with
  | nil =>
    constructor
    · intro hread
      exact nomatch hread
    · rintro ⟨hne, hread⟩
      exact absurd (Option.some.inj hread).symm hne
  | cons c front =>
    have hne : String.ofList (c :: front) ≠ "" := fun h =>
      List.cons_ne_nil _ _ (String.ofList_eq_empty_iff.mp h)
    constructor
    · intro hread
      exact ⟨Option.some.inj hread ▸ hne, hread⟩
    · rintro ⟨-, hread⟩
      exact hread

/-- **The id of a gateway that is read from a path is its fourth part**, whatever the path, as long
as it starts with the parts that lead to gateways and the fourth is not empty. -/
theorem tier1IdOf?_eq_some_iff {path id : String} : tier1IdOf? path = some id ↔
    id ≠ "" ∧ ∃ rest, parts path = "" :: "infra" :: "tier-1s" :: id :: rest := by
  constructor
  · intro hread
    have hstart : tier1Start.toList <+: path.toList := by
      by_contra hstart
      rw [← List.isPrefixOf_iff_prefix] at hstart
      rw [tier1IdOf?, if_neg hstart] at hread
      exact nomatch hread
    obtain ⟨cs, hcs⟩ := hstart
    have hpath : path = tier1Start ++ String.ofList cs := by
      refine String.toList_injective ?_
      rw [String.toList_append, String.toList_ofList, hcs]
    rw [hpath, tier1IdOf?_tier1Start_append] at hread
    obtain ⟨rest, hrest⟩ := List.head?_eq_some_iff.mp hread.2
    rw [hpath, parts_tier1Start_append, hrest]
    exact ⟨hread.1, rest, rfl⟩
  · rintro ⟨hne, rest, hparts⟩
    have hpath : path = tier1Start ++ "/".intercalate (id :: rest) := by
      rw [← intercalate_parts path, hparts]
      exact String.intercalate_append_of_ne_nil (l := ["", "infra", "tier-1s"])
        (List.cons_ne_nil _ _) (List.cons_ne_nil _ _)
    rw [hpath, parts_tier1Start_append] at hparts
    rw [hpath, tier1IdOf?_tier1Start_append]
    simp only [List.cons.injEq, true_and] at hparts
    rw [hparts]
    exact ⟨hne, rfl⟩

/-! ### Objects by their paths -/

/-- The id of a gateway is read up to the separator behind it. -/
theorem tier1IdOf?_tier1_append {id : String} (hid : IsId id) (rest : String) :
    tier1IdOf? (tier1 id ++ ("/" ++ rest)) = some id := by
  have hpath : tier1 id ++ ("/" ++ rest) = tier1Start ++ (id ++ "/" ++ rest) := by
    rw [tier1, String.append_assoc, String.append_assoc]
  rw [hpath, tier1IdOf?_tier1Start_append, hid.isPlain.parts_append]
  exact ⟨hid.nonempty, rfl⟩

/-- The paths of objects of a gateway go on behind the gateway's own. -/
theorem path_eq_tier1_append {k : PolicyKind} (hk : k.isOfTier1 = true) :
    ∃ middle, ∀ place : Place, k.path place = tier1 place.parent ++ ("/" ++ middle) ++ place.id := by
  cases k with
  | localeService => exact ⟨"locale-services/", fun _ => rfl⟩
  | segment => exact ⟨"segments/", fun _ => rfl⟩
  | natRule =>
    have hmiddle : "/" ++ "nat/USER/nat-rules/" = "/nat/" ++ natSection ++ "/nat-rules/" := rfl
    refine ⟨"nat/USER/nat-rules/", fun place => ?_⟩
    rw [hmiddle, ← String.append_assoc, ← String.append_assoc]
    rfl
  | tier1 | ipAllocation | dhcpServerConfig => exact absurd hk Bool.false_ne_true

/-- **The gateway that an object belongs to is read from the object's path.** -/
theorem tier1IdOf?_path {k : PolicyKind} (hk : k.isOfTier1 = true) {place : Place}
    (hparent : IsId place.parent) : tier1IdOf? (k.path place) = some place.parent := by
  obtain ⟨middle, hpath⟩ := path_eq_tier1_append hk
  rw [hpath, String.append_assoc, String.append_assoc, tier1IdOf?_tier1_append hparent]

/-- The id of an object is what is behind the last separator of its path. -/
theorem idOf_append (front : String) {id : String} (hid : IsPlain id) :
    idOf (front ++ "/" ++ id) = id := by
  have hlast := getLast?_parts (front ++ "/" ++ id)
  rw [parts_append, hid.parts_eq, List.getLast?_append_of_ne_nil _ (List.cons_ne_nil _ _)] at hlast
  exact (Option.some.inj hlast).symm

theorem idOf_segment (parent : String) {id : String} (hid : IsId id) :
    idOf (segment parent id) = id := by
  have hfront : tier1 parent ++ "/segments" ++ "/" = tier1 parent ++ ("/segments" ++ "/") :=
    String.append_assoc
  have hread := idOf_append (tier1 parent ++ "/segments") hid.isPlain
  rwa [hfront] at hread

/-! ### Numbered ids -/

theorem isSeparator_of_mem_hexPadded {count n : Nat} {rest : List Char}
    (hrest : ∀ c ∈ rest, isSeparator c = false) :
    ∀ c ∈ Text.hexPadded count n rest, isSeparator c = false := by
  induction count generalizing n rest with
  | zero => exact hrest
  | succ count ih =>
    have hdigit : ∀ value < 16, isSeparator (Text.hexDigit value) = false := by decide
    refine ih ?_
    intro c hmem
    rcases List.mem_cons.mp hmem with rfl | hmem
    · exact hdigit _ (Nat.mod_lt n (by decide))
    · exact hrest c hmem

/-- Ids that are made of numbers can be part of paths. -/
theorem isId_numberedId (n : Nat) : IsId (Text.numberedId n) := by
  have hstart : "00000000-0000-4000-8000-".toList.all (fun c => !isSeparator c) = true ∧
      "00000000-0000-4000-8000-".toList.isEmpty = false := by decide +kernel
  have hchars : (Text.numberedId n).toList =
      "00000000-0000-4000-8000-".toList ++ Text.hexPadded 12 (n + 1) [] :=
    String.toList_append.trans (congrArg _ String.toList_ofList)
  constructor
  · intro h
    rw [h, String.toList_empty] at hchars
    have hnil := (List.append_eq_nil_iff.mp hchars.symm).1
    rw [hnil] at hstart
    exact absurd hstart.2.symm Bool.false_ne_true
  · intro c hmem
    rw [hchars, List.mem_append] at hmem
    rcases hmem with hmem | hmem
    · simpa using List.all_eq_true.mp hstart.1 c hmem
    · exact isSeparator_of_mem_hexPadded (fun c hmem => absurd hmem List.not_mem_nil) c hmem

end Path

/-! ### Places by their paths -/

/-- The path of an object that belongs to another one is made of both ids, and goes on with a
separator behind the first of them. -/
theorem Kind.path_eq_append {k : Kind} (hk : k.isNested = true) :
    ∃ start middle, ∀ place : Place,
      k.path place = start ++ place.parent ++ ("/" ++ middle) ++ place.id := by
  match k with
  | .policy .localeService => exact ⟨_, Path.path_eq_tier1_append (k := .localeService) rfl⟩
  | .policy .segment => exact ⟨_, Path.path_eq_tier1_append (k := .segment) rfl⟩
  | .policy .natRule => exact ⟨_, Path.path_eq_tier1_append (k := .natRule) rfl⟩
  | .policy .ipAllocation => exact ⟨Path.ipPools ++ "/", "ip-allocations/", fun _ => rfl⟩
  | .manager .dhcpIpPool => exact ⟨"/api/v1/dhcp/servers/", "ip-pools/", fun _ => rfl⟩
  | .policy .tier1 | .policy .dhcpServerConfig | .manager .dhcpProfile | .manager .dhcpServer
  | .manager .logicalPort => exact nomatch hk

/-- Objects that belong to different ones have different paths. -/
theorem Kind.place_eq_of_path_eq {k : Kind} (hk : k.isNested = true) {place place' : Place}
    (hid : place.id = place'.id) (hpath : k.path place = k.path place') : place = place' := by
  obtain ⟨start, middle, hmade⟩ := Kind.path_eq_append hk
  rw [hmade, hmade, hid, String.append_left_inj, String.append_left_inj,
    String.append_right_inj] at hpath
  cases place
  cases place'
  simp_all

/-- Places whose first halves separate nothing have different paths. -/
theorem Kind.place_eq_of_isPlain {k : Kind} (hk : k.isNested = true) {place place' : Place}
    (hplain : Path.IsPlain place.parent) (hplain' : Path.IsPlain place'.parent)
    (hpath : k.path place = k.path place') : place = place' := by
  obtain ⟨start, middle, hmade⟩ := Kind.path_eq_append hk
  have hrest : place.parent ++ "/" ++ (middle ++ place.id) =
      place'.parent ++ "/" ++ (middle ++ place'.id) := by
    rw [hmade, hmade] at hpath
    simpa only [String.append_assoc, String.append_right_inj] using hpath
  have hparts := congrArg Path.parts hrest
  rw [hplain.parts_append, hplain'.parts_append] at hparts
  have hparent := (List.cons.inj hparts).1
  rw [hparent, String.append_right_inj, String.append_right_inj] at hrest
  cases place
  cases place'
  exact congrArg₂ Place.mk hparent hrest

end ControlPlane

end ClusterNet
