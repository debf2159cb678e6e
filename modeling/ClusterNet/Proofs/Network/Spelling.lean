import ClusterNet.Proofs.Network.AddressPlan
import ClusterNet.Proofs.Text.Decimal
import Mathlib.Data.List.Forall2
import Mathlib.Data.List.TakeWhile

/-!
# Spellings

An address can be spelled in many ways: with leading zeros, with letters in both cases, with a run
of zero groups left out or not, with its last two groups as a dotted address. A network can be
spelled through any of its addresses. Here it is said what the spellings are, without a word about
how they are read, and that what is shown is one of them.

## Main definitions

* `Numeral`, `Dotted`, `ColonGroups` — the parts of spellings
* `Address.SpelledBy` — the spellings of an address
* `Cidr.DenotedBy` — the texts that denote a network

## Main results

* `Address.spelledBy_text` — an address is shown by one of its spellings
* `Cidr.denotedBy_withLength` — an address of a network with the network's length denotes it
-/

namespace ClusterNet

namespace Network

/-! ### Numbers -/

/-- The number that digits of a radix stand for, the highest first. -/
def positional (radix : Nat) (ds : List Nat) : Nat := ds.foldl (fun n d => n * radix + d) 0

/-- Characters that spell a number below a bound: at least one digit, and not too many. -/
structure Numeral (radix maxDigits bound : Nat) (cs : List Char) (n : Nat) : Prop where
  /-- There is a digit. -/
  length_pos : 0 < cs.length
  /-- There are not too many. -/
  length_le : cs.length ≤ maxDigits
  /-- They stand for the number. -/
  value : ∃ ds, List.Forall₂ (fun c d => Text.digitValue? radix c = some d) cs ds ∧
    positional radix ds = n
  /-- The number is below the bound. -/
  lt_bound : n < bound

/-- Characters that spell one of the four numbers of a dotted address. -/
abbrev Octet : List Char → Nat → Prop := Numeral 10 3 256

/-- Characters that spell a group. -/
abbrev Hextet : List Char → Nat → Prop := Numeral 16 4 0x10000

/-- Characters that spell the number of leading bits of a network. -/
abbrev Family.Length (f : Family) : List Char → Nat → Prop :=
  Numeral 10 (match f with | .v4 => 2 | .v6 => 3) (f.width + 1)

/-! ### Addresses -/

/-- Characters that spell a number as four numbers with points between them. -/
def Dotted (cs : List Char) (n : Nat) : Prop :=
  ∃ as bs cs' ds a b c d, Octet as a ∧ Octet bs b ∧ Octet cs' c ∧ Octet ds d ∧
    cs = as ++ '.' :: (bs ++ '.' :: (cs' ++ '.' :: ds)) ∧ n = positional 256 [a, b, c, d]

/-- Characters that spell groups, with colons between them. A dotted address may stand in place of
the last two. -/
inductive ColonGroups : (isDotted : Bool) → List Char → List Nat → Prop
  /-- There is no group. -/
  | none : ColonGroups false [] []
  /-- There is one. -/
  | one {cs : List Char} {g : Nat} (h : Hextet cs g) : ColonGroups false cs [g]
  /-- There are two, spelled as a dotted address. -/
  | dotted {cs : List Char} {n : Nat} (h : Dotted cs n) :
    ColonGroups true cs [n / 0x10000, n % 0x10000]
  /-- There is one in front of others. -/
  | cons {isDotted : Bool} {cs rest : List Char} {g : Nat} {gs : List Nat} (h : Hextet cs g)
    (hne : gs ≠ []) (hrest : ColonGroups isDotted rest gs) :
    ColonGroups isDotted (cs ++ ':' :: rest) (g :: gs)

/-- Characters that spell a number in eight groups. A run of zero groups may be left out. -/
inductive Grouped : List Char → Nat → Prop
  /-- All groups are there. -/
  | full {isDotted : Bool} {cs : List Char} {gs : List Nat} (h : ColonGroups isDotted cs gs)
    (hlength : gs.length = 8) : Grouped cs (positional 0x10000 gs)
  /-- Zero groups are left out between the others. -/
  | short {isDotted : Bool} {head tail : List Char} {hs ts : List Nat}
    (hhead : ColonGroups false head hs) (hlt : hs.length < 8) (htail : ColonGroups isDotted tail ts)
    (hle : ts.length ≤ 8 - hs.length) :
    Grouped (head ++ ':' :: ':' :: tail)
      (positional 0x10000 (hs ++ List.replicate (8 - hs.length - ts.length) 0 ++ ts))

/-- Characters that spell an address. -/
def Address.SpelledBy (a : Address) (cs : List Char) : Prop :=
  match a.family with
  | .v4 => Dotted cs a.value
  | .v6 => Grouped cs a.value

/-- Characters that denote a network: an address of the network and the number of its leading
bits. -/
def Cidr.SpelledBy (n : Cidr) (cs : List Char) : Prop :=
  ∃ a address length, n.Contains a ∧ a.SpelledBy address ∧
    n.base.family.Length length n.length ∧ cs = address ++ '/' :: length

/-- A text that denotes a network. There may be blanks around it. -/
def Cidr.DenotedBy (n : Cidr) (s : String) : Prop :=
  ∃ before cs after, n.SpelledBy cs ∧ s.toList = before ++ cs ++ after ∧
    (∀ c ∈ before, Text.isBlank c = true) ∧ ∀ c ∈ after, Text.isBlank c = true

/-! ### Digits that are shown -/

theorem foldl_partsFrom (bits count n v : Nat) (rest : List Nat) :
    (Address.partsFrom bits count n rest).foldl (fun m d => m * powerOfTwo bits + d) v =
      rest.foldl (fun m d => m * powerOfTwo bits + d)
        (v * powerOfTwo bits ^ count + n % powerOfTwo bits ^ count) := by
  induction count generalizing n rest with
  | zero => simp [Address.partsFrom, Nat.mod_one]
  | succ count ih =>
    rw [Address.partsFrom, ih, List.foldl_cons, Nat.pow_succ', Nat.mod_mul]
    congr 1
    ring

/-- **The parts of a number stand for it.** -/
theorem positional_partsFrom (bits count : Nat) {n : Nat} (h : n < powerOfTwo bits ^ count) :
    positional (powerOfTwo bits) (Address.partsFrom bits count n []) = n := by
  rw [positional, foldl_partsFrom, List.foldl_nil, Nat.zero_mul, Nat.zero_add, Nat.mod_eq_of_lt h]

theorem partsFrom_append (bits count n : Nat) (rest : List Nat) :
    Address.partsFrom bits count n rest = Address.partsFrom bits count n [] ++ rest := by
  induction count generalizing n rest with
  | zero => rfl
  | succ count ih =>
    rw [Address.partsFrom, Address.partsFrom, ih, ih _ [_], List.append_assoc]
    rfl

theorem length_partsFrom (bits count n : Nat) :
    (Address.partsFrom bits count n []).length = count := by
  induction count generalizing n with
  | zero => rfl
  | succ count ih =>
    rw [Address.partsFrom, partsFrom_append, List.length_append, ih]
    rfl

theorem lt_of_mem_partsFrom {bits count n d : Nat}
    (h : d ∈ Address.partsFrom bits count n []) : d < powerOfTwo bits := by
  induction count generalizing n with
  | zero => exact absurd h List.not_mem_nil
  | succ count ih =>
    rw [Address.partsFrom, partsFrom_append] at h
    rcases List.mem_append.mp h with h | h
    · exact ih h
    · rw [List.mem_singleton.mp h]
      exact Nat.mod_lt _ (powerOfTwo_pos bits)

/-! ### Numbers that are shown -/

/-- What digits are read as is what they stand for. -/
theorem numberFrom?_eq_some_iff {radix v n : Nat} {cs : List Char} :
    Text.numberFrom? radix v cs = some n ↔
      ∃ ds, List.Forall₂ (fun c d => Text.digitValue? radix c = some d) cs ds ∧
        ds.foldl (fun m d => m * radix + d) v = n := by
  induction cs generalizing v with
  | nil => simp [Text.numberFrom?]
  | cons c cs ih =>
    rw [Text.numberFrom?, Option.bind_eq_some_iff]
    constructor
    · rintro ⟨d, hd, h⟩
      obtain ⟨ds, hds, rfl⟩ := ih.mp h
      exact ⟨d :: ds, .cons hd hds, rfl⟩
    · rintro ⟨_, hds, rfl⟩
      cases hds with
      | cons hd hds => exact ⟨_, hd, ih.mpr ⟨_, hds, rfl⟩⟩

theorem numeral_toDigits {maxDigits bound n : Nat} (hpos : 0 < maxDigits)
    (hdigits : n < 10 ^ maxDigits) (hbound : n < bound) :
    Numeral 10 maxDigits bound (Nat.toDigits 10 n) n where
  length_pos := Nat.length_toDigits_pos
  length_le := (Nat.length_toDigits_le_iff (by decide) hpos).mpr hdigits
  value := numberFrom?_eq_some_iff.mp (Text.numberFrom?_toDigits n)
  lt_bound := hbound

theorem octet_toDigits {n : Nat} (h : n < 256) : Octet (Nat.toDigits 10 n) n :=
  numeral_toDigits (by decide) (h.trans (by decide)) h

/-- The number of leading bits is shown by few enough digits. -/
theorem length_toDigits {f : Family} {n : Nat} (h : n ≤ f.width) :
    f.Length (Nat.toDigits 10 n) n := by
  have hbound : n < f.width + 1 := Nat.lt_succ_of_le h
  cases f with
  | v4 => exact numeral_toDigits (by decide) (Nat.lt_of_le_of_lt h (by decide)) hbound
  | v6 => exact numeral_toDigits (by decide) (Nat.lt_of_le_of_lt h (by decide)) hbound

/-- Hexadecimal digits are those of the parts of four bits. -/
theorem hexPadded_eq (count n : Nat) (ds : List Nat) :
    Text.hexPadded count n (ds.map Text.hexDigit) =
      (Address.partsFrom 4 count n ds).map Text.hexDigit := by
  induction count generalizing n ds with
  | zero => rfl
  | succ count ih => exact ih (n / 16) (n % 16 :: ds)

theorem lt_pow_hexLength (n : Nat) : n < 16 ^ Text.hexLength n := by
  induction n using Nat.strong_induction_on with
  | _ n ih =>
    rw [Text.hexLength]
    split
    · next hsmall => simpa using hsmall
    · next hlarge =>
      have hrest := ih (n / 16) (by omega)
      rw [Nat.pow_succ]
      omega

theorem hexLength_le {count n : Nat} (h : n < 16 ^ (count + 1)) :
    Text.hexLength n ≤ count + 1 := by
  induction count generalizing n with
  | zero =>
    rw [Text.hexLength, if_pos (by simpa using h)]
  | succ count ih =>
    rw [Text.hexLength]
    split
    · omega
    · have hrest : n / 16 < 16 ^ (count + 1) := by
        rw [Nat.pow_succ] at h
        omega
      exact Nat.succ_le_succ (ih hrest)

theorem hexLength_pos (n : Nat) : 0 < Text.hexLength n := by
  rw [Text.hexLength]
  split <;> omega

theorem digitValue?_hexDigit : ∀ d < 16, Text.digitValue? 16 (Text.hexDigit d) = some d := by
  decide

theorem hextet_hex {g : Nat} (h : g < 0x10000) : Hextet (Text.hex g) g := by
  have hdigits : Text.hex g =
      (Address.partsFrom 4 (Text.hexLength g) g []).map Text.hexDigit := hexPadded_eq _ g []
  have hlength : (Text.hex g).length = Text.hexLength g := by
    rw [hdigits, List.length_map, length_partsFrom]
  refine ⟨hlength ▸ hexLength_pos g, hlength ▸ hexLength_le h, ?_, h⟩
  refine ⟨Address.partsFrom 4 (Text.hexLength g) g [], ?_,
    positional_partsFrom 4 (Text.hexLength g) (lt_pow_hexLength g)⟩
  rw [hdigits, List.forall₂_map_left_iff, List.forall₂_same]
  intro d hd
  exact digitValue?_hexDigit d (lt_of_mem_partsFrom hd)

/-! ### Addresses that are shown -/

/-- Four decimal numbers are a spelling. -/
theorem dotted_dotted {n : Nat} (h : n < powerOfTwo 32) : Dotted (Address.dotted n) n := by
  have hparts := positional_partsFrom 8 4 h
  have hlt : ∀ d ∈ Address.partsFrom 8 4 n [], d < 256 := fun d hd => lt_of_mem_partsFrom hd
  have hlength := length_partsFrom 8 4 n
  rw [Address.dotted]
  generalize Address.partsFrom 8 4 n [] = ds at hparts hlt hlength
  match ds, hlength with
  | [a, b, c, d], _ =>
    simp only [List.forall_mem_cons] at hlt
    obtain ⟨ha, hb, hc, hd, -⟩ := hlt
    exact ⟨_, _, _, _, a, b, c, d, octet_toDigits ha, octet_toDigits hb, octet_toDigits hc,
      octet_toDigits hd, by simp [List.intercalate], hparts.symm⟩

/-- Hexadecimal groups with colons between them are a spelling of the groups. -/
theorem colonGroups_colonSeparated {gs : List Nat} (h : ∀ g ∈ gs, g < 0x10000) :
    ColonGroups false (Address.colonSeparated gs) gs := by
  induction gs with
  | nil => exact .none
  | cons g gs ih =>
    have hg : Hextet (Text.hex g) g := hextet_hex (h g (.head gs))
    have hgs := ih fun g' hmem => h g' (.tail g hmem)
    cases gs with
    | nil =>
      have hone : Address.colonSeparated [g] = Text.hex g := by
        simp [Address.colonSeparated, List.intercalate]
      rw [hone]
      exact .one hg
    | cons g' gs =>
      have hmore : Address.colonSeparated (g :: g' :: gs) =
          Text.hex g ++ ':' :: Address.colonSeparated (g' :: gs) := by
        simp [Address.colonSeparated, List.intercalate]
      rw [hmore]
      exact .cons hg (List.cons_ne_nil g' gs) hgs

/-- The run of zero groups that is found is one. -/
theorem longestZeroRun_spec (position : Nat) (gs : List Nat) :
    0 < (Address.longestZeroRun position gs).2 → ∃ before after,
      gs = before ++ List.replicate (Address.longestZeroRun position gs).2 0 ++ after ∧
      (Address.longestZeroRun position gs).1 = position + before.length := by
  induction gs generalizing position with
  | nil => exact fun h => absurd h (lt_irrefl 0)
  | cons g gs ih =>
    rw [Address.longestZeroRun]
    split
    · intro _
      refine ⟨[], (g :: gs).dropWhile (· == 0), ?_, rfl⟩
      have hzeros : (g :: gs).takeWhile (· == 0) =
          List.replicate (Address.zeroRun (g :: gs)) 0 := by
        refine List.eq_replicate_iff.mpr ⟨rfl, fun d hd => ?_⟩
        exact eq_of_beq (List.mem_takeWhile_imp (p := (· == 0)) hd)
      rw [List.nil_append, ← hzeros, List.takeWhile_append_dropWhile]
    · intro hpos
      obtain ⟨before, after, hgs, hposition⟩ := ih (position + 1) hpos
      refine ⟨g :: before, after, ?_, ?_⟩
      · rw [List.cons_append, List.cons_append, ← hgs]
      · rw [hposition, List.length_cons]
        omega

/-- Eight groups without their longest run of zero groups are a spelling. -/
theorem grouped_compressed {gs : List Nat} (h : ∀ g ∈ gs, g < 0x10000) (hlength : gs.length = 8) :
    Grouped (Address.compressed gs) (positional 0x10000 gs) := by
  have hrun := longestZeroRun_spec 0 gs
  rw [Address.compressed]
  generalize Address.longestZeroRun 0 gs = run at hrun
  obtain ⟨start, zeros⟩ := run
  dsimp only at hrun ⊢
  split
  · next hlong =>
    obtain ⟨before, after, rfl, rfl⟩ := hrun (by omega)
    have hcount : before.length + zeros + after.length = 8 := by
      simpa [Nat.add_assoc] using hlength
    have htake : (before ++ List.replicate zeros 0 ++ after).take (0 + before.length) = before := by
      simp
    have hdrop : (before ++ List.replicate zeros 0 ++ after).drop (0 + before.length + zeros) =
        after := by
      simp
    have hzeros : zeros = 8 - before.length - after.length := by omega
    simp only [List.forall_mem_append] at h
    rw [htake, hdrop, List.append_assoc, List.cons_append, List.cons_append, List.nil_append,
      hzeros]
    exact .short (colonGroups_colonSeparated h.1.1) (by omega) (colonGroups_colonSeparated h.2)
      (by omega)
  · exact .full (colonGroups_colonSeparated h) hlength

/-- An address that stands for a dotted one is a spelling of it. -/
theorem grouped_mapped {n : Nat} (h : n < powerOfTwo 32) :
    Grouped ("::ffff:".toList ++ Address.dotted n) (0xffff * powerOfTwo 32 + n) := by
  have hprefix : Hextet "ffff".toList 0xffff :=
    ⟨by decide, by decide, ⟨[15, 15, 15, 15], .cons rfl (.cons rfl (.cons rfl (.cons rfl .nil))),
      rfl⟩, by decide⟩
  have htail : ColonGroups true ("ffff".toList ++ ':' :: Address.dotted n)
      [0xffff, n / 0x10000, n % 0x10000] :=
    .cons hprefix (List.cons_ne_nil _ _) (.dotted (dotted_dotted h))
  have hshort : Grouped ([] ++ ':' :: ':' :: ("ffff".toList ++ ':' :: Address.dotted n))
      (positional 0x10000 ([] ++ List.replicate 5 0 ++ [0xffff, n / 0x10000, n % 0x10000])) :=
    .short .none (by decide) htail (by simp)
  have hvalue : positional 0x10000
      ([] ++ List.replicate 5 0 ++ [0xffff, n / 0x10000, n % 0x10000]) =
        0xffff * powerOfTwo 32 + n := by
    have hsize : powerOfTwo 32 = 0x10000 * 0x10000 := rfl
    simp only [positional, List.replicate, List.nil_append, List.cons_append, List.foldl_cons,
      List.foldl_nil]
    omega
  rw [hvalue] at hshort
  exact hshort

/-- **An address is shown by one of its spellings.** -/
theorem Address.spelledBy_text (a : Address) : a.SpelledBy a.text.toList := by
  obtain ⟨family, value, hlt⟩ := a
  cases family with
  | v4 =>
    rw [Address.text, String.toList_ofList]
    exact dotted_dotted hlt
  | v6 =>
    rw [Address.text, String.toList_ofList]
    dsimp only [Address.SpelledBy]
    split
    · next hmapped =>
      have hvalue : value = 0xffff * powerOfTwo 32 + value % powerOfTwo 32 := by
        have hsplit := Nat.div_add_mod value (powerOfTwo 32)
        rw [show value / powerOfTwo 32 = 0xffff from hmapped] at hsplit
        omega
      conv_rhs => rw [hvalue]
      exact grouped_mapped (Nat.mod_lt _ (powerOfTwo_pos 32))
    · have hvalue := positional_partsFrom 16 8 hlt
      conv_rhs => rw [← hvalue]
      exact grouped_compressed (fun g hg => lt_of_mem_partsFrom hg) (length_partsFrom 16 8 value)

/-! ### Networks that are shown -/

theorem toList_withLength (address : String) (length : Nat) :
    s!"{address}/{length}".toList = address.toList ++ '/' :: Nat.toDigits 10 length := by
  have hdigits : (toString length).toList = Nat.toDigits 10 length := Nat.toList_repr
  change (address ++ "/" ++ toString length).toList = _
  rw [String.toList_append, String.toList_append, hdigits, List.append_assoc]
  rfl

/-- **An address of a network with the network's length denotes the network.** -/
theorem Cidr.denotedBy_withLength {n : Cidr} {a : Address} (h : n.Contains a) :
    n.DenotedBy s!"{a.text}/{n.length}" := by
  refine ⟨[], _, [], ⟨a, a.text.toList, Nat.toDigits 10 n.length, h, a.spelledBy_text,
    length_toDigits n.length_le, rfl⟩, ?_, by simp, by simp⟩
  rw [toList_withLength, List.nil_append, List.append_nil]

end Network

end ClusterNet
