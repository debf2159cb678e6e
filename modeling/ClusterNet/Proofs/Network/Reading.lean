import ClusterNet.Proofs.Network.Spelling

/-!
# Spellings are what is read

A network is read from a text exactly if the text denotes it. The readers take as much as they can:
all digits that lie ahead, and all groups. So each law is one about a text with something behind it,
and says that nothing of what lies behind could have been taken as well.

A dotted address looks like a group up to its first point, and it is tried first wherever there is
room for it. It is not found in front of anything but a point, so no group is ever mistaken for one.

## Main results

* `number_eq_some_iff`, `dottedAddress_eq_some_iff` — what numbers and dotted addresses are read as
* `groupsAhead_sound`, `groupsAhead_complete` — what groups are read as
* `Cidr.parse_eq_ok_iff` — **the network that a text denotes is the one that is read**
-/

namespace ClusterNet

namespace Network

/-! ### Numbers -/

theorem character_eq_some_iff {c : Char} {cs rest : List Char} :
    character c cs = some rest ↔ cs = c :: rest := by
  cases cs with
  | nil => simp [character]
  | cons d cs =>
    rw [character]
    split
    · next heq => simp [heq]
    · next hne =>
      constructor
      · intro h
        cases h
      · intro h
        exact absurd (List.cons.inj h).1 hne

@[simp] theorem character_cons (c : Char) (rest : List Char) :
    character c (c :: rest) = some rest := character_eq_some_iff.mpr rfl

/-- No digit of a radix lies ahead. -/
def NoDigit (radix : Nat) (cs : List Char) : Prop := ∀ c ∈ cs.head?, Text.digitValue? radix c = none

/-- Digits are all that is taken in front of something that is no digit. -/
theorem takeWhile_digits {radix : Nat} {cs rest : List Char} {ds : List Nat}
    (hdigits : List.Forall₂ (fun c d => Text.digitValue? radix c = some d) cs ds)
    (hrest : NoDigit radix rest) :
    (cs ++ rest).takeWhile (fun c => (Text.digitValue? radix c).isSome) = cs ∧
      (cs ++ rest).dropWhile (fun c => (Text.digitValue? radix c).isSome) = rest := by
  induction hdigits with
  | nil =>
    cases rest with
    | nil => exact ⟨rfl, rfl⟩
    | cons c rest =>
      have hc : Text.digitValue? radix c = none := hrest c rfl
      simp [hc]
  | cons hd _ ih => simp [hd, ih.1, ih.2]

theorem Numeral.digit {radix maxDigits bound n : Nat} {cs : List Char}
    (h : Numeral radix maxDigits bound cs n) {c : Char} (hc : c ∈ cs) :
    Text.digitValue? radix c ≠ none := by
  obtain ⟨ds, hdigits, -⟩ := h.value
  clear h
  induction hdigits with
  | nil => exact absurd hc List.not_mem_nil
  | cons hd _ ih =>
    rcases List.mem_cons.mp hc with rfl | hc
    · simp [hd]
    · exact ih hc

/-- **What a number is read from**: a spelling with no digit behind it. -/
theorem number_eq_some_iff {radix maxDigits bound n : Nat} {cs rest : List Char} :
    number radix maxDigits bound cs = some (n, rest) ↔
      ∃ ds, Numeral radix maxDigits bound ds n ∧ NoDigit radix rest ∧ cs = ds ++ rest := by
  rw [number]
  constructor
  · intro h
    split at h
    · next hlength =>
      simp only [Option.map_eq_some_iff, Option.filter_eq_some_iff, decide_eq_true_eq,
        Prod.mk.injEq] at h
      obtain ⟨_, ⟨hnumber, hbound⟩, rfl, rfl⟩ := h
      rw [Text.number?] at hnumber
      split at hnumber
      · cases hnumber
      · next hsome =>
        refine ⟨_, ⟨?_, hlength, numberFrom?_eq_some_iff.mp hnumber, hbound⟩, ?_,
          List.takeWhile_append_dropWhile.symm⟩
        · rw [List.isEmpty_iff] at hsome
          exact List.length_pos_of_ne_nil hsome
        · intro c hc
          have hstop := List.head?_dropWhile_not (fun c => (Text.digitValue? radix c).isSome) cs
          rw [Option.mem_def.mp hc] at hstop
          simpa using hstop
    · cases h
  · rintro ⟨ds, ⟨hpos, hlength, ⟨values, hvalues, hvalue⟩, hbound⟩, hstop, rfl⟩
    obtain ⟨htake, hdrop⟩ := takeWhile_digits hvalues hstop
    have hsome : ds.isEmpty = false := by
      rw [List.isEmpty_eq_false_iff]
      exact List.ne_nil_of_length_pos hpos
    have hread : Text.number? radix ds = some n := by
      rw [Text.number?, hsome, if_neg Bool.false_ne_true]
      exact numberFrom?_eq_some_iff.mpr ⟨values, hvalues, hvalue⟩
    simp only [htake, hdrop, if_pos hlength, hread]
    simp [hbound]

/-- A point is no digit, nor is a colon or a slash. -/
theorem digitValue?_eq_none {radix : Nat} {c : Char} (h : c ∈ ['.', ':', '/']) :
    Text.digitValue? radix c = none := by
  have hnone : ∀ c ∈ ['.', ':', '/'], Text.digitValue? radix c = none := by
    simp [Text.digitValue?]
  exact hnone c h

theorem noDigit_cons {radix : Nat} {c : Char} {rest : List Char} (h : c ∈ ['.', ':', '/']) :
    NoDigit radix (c :: rest) := by
  intro c' hc'
  obtain rfl : c = c' := Option.some.inj hc'
  exact digitValue?_eq_none h

/-- A number starts with a digit. -/
theorem number_eq_none {radix maxDigits bound : Nat} {c : Char} {rest : List Char}
    (h : c ∈ ['.', ':', '/']) : number radix maxDigits bound (c :: rest) = none := by
  rw [Option.eq_none_iff_forall_ne_some]
  rintro ⟨n, r⟩ hread
  obtain ⟨ds, hds, -, heq⟩ := number_eq_some_iff.mp hread
  cases ds with
  | nil => exact absurd hds.length_pos (lt_irrefl 0)
  | cons d ds =>
    obtain rfl : c = d := (List.cons.inj heq).1
    exact hds.digit (.head ds) (digitValue?_eq_none h)

/-! ### Dotted addresses -/

/-- **What a dotted address is read from**: a spelling with no digit behind it. -/
theorem dottedAddress_eq_some_iff {n : Nat} {cs rest : List Char} :
    dottedAddress cs = some (n, rest) ↔
      ∃ text, Dotted text n ∧ NoDigit 10 rest ∧ cs = text ++ rest := by
  constructor
  · intro h
    simp only [dottedAddress, octetsAfter, octet, Option.bind_eq_some_iff, Prod.exists,
      number_eq_some_iff, character_eq_some_iff, Option.some.injEq, Prod.mk.injEq] at h
    obtain ⟨a, _, ⟨as, ha, -, rfl⟩, _, rfl, b, _, ⟨bs, hb, -, rfl⟩, _, rfl, c, _,
      ⟨cs, hc, -, rfl⟩, _, rfl, d, _, ⟨ds, hd, hstop, rfl⟩, hvalue, rfl⟩ := h
    refine ⟨_, ⟨as, bs, cs, ds, a, b, c, d, ha, hb, hc, hd, rfl, ?_⟩, hstop, by simp⟩
    simpa [positional] using hvalue.symm
  · rintro ⟨_, ⟨as, bs, cs, ds, a, b, c, d, ha, hb, hc, hd, rfl, rfl⟩, hstop, rfl⟩
    have hread : ∀ {cs rest : List Char} {n : Nat}, Octet cs n → NoDigit 10 rest →
        octet (cs ++ rest) = some (n, rest) :=
      fun hn hrest => number_eq_some_iff.mpr ⟨_, hn, hrest, rfl⟩
    have hpoint : ∀ rest, NoDigit 10 ('.' :: rest) := fun rest => noDigit_cons (by simp)
    simp only [dottedAddress, octetsAfter, List.append_assoc, List.cons_append, hread ha (hpoint _),
      hread hb (hpoint _), hread hc (hpoint _), hread hd hstop, character_cons, Option.bind_some]
    simp [positional]

/-- A dotted address does not lie ahead where something else follows the first digits. -/
theorem dottedAddress_eq_none {cs rest : List Char} {c : Char} (hcs : '.' ∉ cs)
    (hc : c ∈ [':', '/']) : dottedAddress (cs ++ c :: rest) = none := by
  have hpoint : c ≠ '.' := by
    rintro rfl
    exact absurd hc (by decide)
  have hdigit : Text.digitValue? 10 c = none := digitValue?_eq_none (.tail _ hc)
  rw [Option.eq_none_iff_forall_ne_some]
  rintro ⟨n, r⟩ h
  obtain ⟨_, ⟨as, _, _, _, _, _, _, _, ha, -, -, -, rfl, -⟩, -, heq⟩ :=
    dottedAddress_eq_some_iff.mp h
  rw [List.append_assoc, List.cons_append] at heq
  -- the first point lies behind digits only, and what is ahead has something else in between
  rcases List.append_eq_append_iff.mp heq with ⟨k, rfl, hk⟩ | ⟨k, rfl, hk⟩
  · cases k with
    | nil => exact hpoint (List.cons.inj hk).1
    | cons d k =>
      obtain rfl : c = d := (List.cons.inj hk).1
      exact ha.digit (by simp) hdigit
  · cases k with
    | nil => exact hpoint (List.cons.inj hk).1.symm
    | cons d k =>
      obtain rfl : '.' = d := (List.cons.inj hk).1
      exact hcs (by simp)

/-! ### Groups -/

/-- What stands in front of groups that are read. -/
def front (isFirst : Bool) : List Char := if isFirst then [] else [':']

theorem separator_eq_some_iff {isFirst : Bool} {cs rest : List Char} :
    separator isFirst cs = some rest ↔ cs = front isFirst ++ rest := by
  cases isFirst with
  | false => exact character_eq_some_iff
  | true => exact Option.some_inj

/-- **What groups are read from**: nothing, or a spelling of them. -/
theorem groupsAhead_sound {limit : Nat} {isFirst isDotted : Bool} {cs rest : List Char}
    {gs : List Nat} (h : groupsAhead limit isFirst cs = (gs, isDotted, rest)) :
    gs.length ≤ limit ∧ ((gs = [] ∧ isDotted = false ∧ rest = cs) ∨
      (gs ≠ [] ∧ ∃ text, ColonGroups isDotted text gs ∧ cs = front isFirst ++ text ++ rest)) := by
  induction limit generalizing isFirst cs gs isDotted rest with
  | zero =>
    cases h
    exact ⟨Nat.le_refl _, .inl ⟨rfl, rfl, rfl⟩⟩
  | succ limit ih =>
    rw [groupsAhead] at h
    dsimp only at h
    split at h
    · next n r hdotted =>
      cases h
      split at hdotted
      · next hroom =>
        obtain ⟨_, hsep, hread⟩ := Option.bind_eq_some_iff.mp hdotted
        obtain ⟨text, htext, -, rfl⟩ := dottedAddress_eq_some_iff.mp hread
        refine ⟨Nat.succ_le_succ hroom, .inr ⟨List.cons_ne_nil _ _, text, .dotted htext, ?_⟩⟩
        rw [separator_eq_some_iff.mp hsep, List.append_assoc]
      · cases hdotted
    · split at h
      · cases h
        exact ⟨Nat.zero_le _, .inl ⟨rfl, rfl, rfl⟩⟩
      · next g r hnumber =>
        obtain ⟨_, hsep, hread⟩ := Option.bind_eq_some_iff.mp hnumber
        obtain ⟨text, htext, -, rfl⟩ := number_eq_some_iff.mp hread
        rcases hbehind : groupsAhead limit false r with ⟨gs', isDotted', rest'⟩
        rw [hbehind] at h
        cases h
        obtain ⟨hlength, hcases⟩ := ih hbehind
        refine ⟨Nat.succ_le_succ hlength, .inr ⟨List.cons_ne_nil _ _, ?_⟩⟩
        rw [separator_eq_some_iff.mp hsep]
        rcases hcases with ⟨rfl, rfl, rfl⟩ | ⟨hne, text', htext', rfl⟩
        · exact ⟨text, .one htext, by simp⟩
        · exact ⟨text ++ ':' :: text', .cons htext hne htext', by simp [front]⟩

/-- What may lie behind groups: a slash, or another colon behind the one that could separate
groups. -/
def Stops (rest : List Char) : Prop :=
  (∃ tail, rest = '/' :: tail) ∨ ∃ tail, rest = ':' :: ':' :: tail

theorem Stops.exists_cons {rest : List Char} (h : Stops rest) :
    ∃ c ∈ [':', '/'], ∃ tail, rest = c :: tail := by
  rcases h with ⟨tail, rfl⟩ | ⟨tail, rfl⟩
  · exact ⟨'/', by simp, tail, rfl⟩
  · exact ⟨':', by simp, ':' :: tail, rfl⟩

/-- No group is read there, be it behind others or not. -/
theorem Stops.groupsAhead {rest : List Char} (h : Stops rest) (limit : Nat) (isFirst : Bool) :
    Network.groupsAhead limit isFirst rest = ([], false, rest) := by
  have hbehind : ∀ ahead, separator isFirst rest = some ahead →
      ∃ c ∈ [':', '/'], ∃ tail, ahead = c :: tail := by
    intro ahead hahead
    cases isFirst with
    | true =>
      obtain rfl := Option.some.inj hahead
      exact h.exists_cons
    | false =>
      have hcolon := separator_eq_some_iff.mp hahead
      rcases h with ⟨tail, rfl⟩ | ⟨tail, rfl⟩
      · cases hcolon
      · obtain rfl : ':' :: tail = ahead := (List.cons.inj hcolon).2
        exact ⟨':', by simp, tail, rfl⟩
  have hdotted : (separator isFirst rest).bind dottedAddress = none := by
    rw [Option.bind_eq_none_iff]
    intro ahead hahead
    obtain ⟨c, hc, tail, rfl⟩ := hbehind ahead hahead
    have hnil : '.' ∉ ([] : List Char) := List.not_mem_nil
    exact dottedAddress_eq_none hnil hc
  have hnumber : (separator isFirst rest).bind (number 16 4 0x10000) = none := by
    rw [Option.bind_eq_none_iff]
    intro ahead hahead
    obtain ⟨c, hc, tail, rfl⟩ := hbehind ahead hahead
    exact number_eq_none (.tail _ hc)
  cases limit with
  | zero => rfl
  | succ limit =>
    rw [Network.groupsAhead]
    dsimp only
    rw [hdotted, hnumber, ite_self]

/-- One group is read in front of what is read behind it. -/
theorem groupsAhead_hextet {limit g : Nat} {isFirst : Bool} {cs rest : List Char} {c : Char}
    (h : Hextet cs g) (hc : c ∈ [':', '/']) :
    groupsAhead (limit + 1) isFirst (front isFirst ++ (cs ++ c :: rest)) =
      (g :: (groupsAhead limit false (c :: rest)).1, (groupsAhead limit false (c :: rest)).2) := by
  have hsep : separator isFirst (front isFirst ++ (cs ++ c :: rest)) = some (cs ++ c :: rest) :=
    separator_eq_some_iff.mpr rfl
  have hpoint : '.' ∉ cs := fun hmem => h.digit hmem (digitValue?_eq_none (.head _))
  have hnumber : number 16 4 0x10000 (cs ++ c :: rest) = some (g, c :: rest) :=
    number_eq_some_iff.mpr ⟨cs, h, noDigit_cons (.tail _ hc), rfl⟩
  rw [groupsAhead]
  dsimp only
  rw [hsep, Option.bind_some, Option.bind_some, dottedAddress_eq_none hpoint hc, ite_self, hnumber]

/-- **Groups are read from every spelling of them**, if there is room. -/
theorem groupsAhead_complete {limit : Nat} {isFirst isDotted : Bool} {text rest : List Char}
    {gs : List Nat} (h : ColonGroups isDotted text gs) (hne : gs ≠ []) (hlimit : gs.length ≤ limit)
    (hrest : Stops rest) :
    groupsAhead limit isFirst (front isFirst ++ (text ++ rest)) = (gs, isDotted, rest) := by
  induction h generalizing limit isFirst with
  | none => exact absurd rfl hne
  | @one cs g hg =>
    obtain ⟨limit, rfl⟩ := Nat.exists_eq_succ_of_ne_zero (Nat.ne_of_gt hlimit)
    obtain ⟨c, hc, tail, rfl⟩ := hrest.exists_cons
    rw [groupsAhead_hextet hg hc, hrest.groupsAhead]
  | @dotted cs n hn =>
    obtain ⟨limit, rfl⟩ := Nat.exists_eq_add_of_le' hlimit
    obtain ⟨c, hc, tail, rfl⟩ := hrest.exists_cons
    have hread : dottedAddress (cs ++ c :: tail) = some (n, c :: tail) :=
      dottedAddress_eq_some_iff.mpr ⟨cs, hn, noDigit_cons (.tail _ hc), rfl⟩
    have hsep : separator isFirst (front isFirst ++ (cs ++ c :: tail)) = some (cs ++ c :: tail) :=
      separator_eq_some_iff.mpr rfl
    rw [List.length_cons, List.length_singleton, ← Nat.add_assoc, groupsAhead]
    dsimp only
    rw [if_pos (Nat.succ_pos _), hsep, Option.bind_some, hread]
  | @cons isDotted cs tail g gs hg hgs htail ih =>
    obtain ⟨limit, rfl⟩ := Nat.exists_eq_succ_of_ne_zero (Nat.ne_of_gt (Nat.zero_lt_of_lt hlimit))
    have hbehind : groupsAhead limit false (':' :: (tail ++ rest)) = (gs, isDotted, rest) :=
      ih hgs (Nat.le_of_succ_le_succ hlimit)
    rw [List.append_assoc, List.cons_append, groupsAhead_hextet hg (.head _), hbehind]

/-! ### Addresses in groups -/

/-- What the groups at a start are read from. -/
theorem groupsAhead_start_sound {limit : Nat} {isDotted : Bool} {cs rest : List Char}
    {gs : List Nat} (h : groupsAhead limit true cs = (gs, isDotted, rest)) :
    gs.length ≤ limit ∧ ∃ text, ColonGroups isDotted text gs ∧ cs = text ++ rest := by
  obtain ⟨hlength, ⟨rfl, rfl, rfl⟩ | ⟨-, text, htext, rfl⟩⟩ := groupsAhead_sound h
  · exact ⟨hlength, [], .none, rfl⟩
  · exact ⟨hlength, text, htext, rfl⟩

theorem groupsAhead_start_complete {limit : Nat} {isDotted : Bool} {text rest : List Char}
    {gs : List Nat} (h : ColonGroups isDotted text gs) (hlimit : gs.length ≤ limit)
    (hrest : Stops rest) : groupsAhead limit true (text ++ rest) = (gs, isDotted, rest) := by
  by_cases hne : gs = []
  · subst hne
    cases h
    exact hrest.groupsAhead limit true
  · show groupsAhead limit true (front true ++ (text ++ rest)) = _
    exact groupsAhead_complete h hne hlimit hrest

/-- **An address in groups is read from a spelling of it.** -/
theorem groupedAddress_sound {n : Nat} {cs rest : List Char}
    (h : groupedAddress cs = some (n, rest)) : ∃ text, Grouped text n ∧ cs = text ++ rest := by
  rw [groupedAddress] at h
  rcases hread : groupsAhead 8 true cs with ⟨hs, isDotted, behind⟩
  obtain ⟨hle, head, hhead, rfl⟩ := groupsAhead_start_sound hread
  rw [hread] at h
  dsimp only at h
  split at h
  · next hlength =>
    cases h
    exact ⟨head, .full hhead hlength, rfl⟩
  · next hshort =>
    split at h
    · cases h
    · next hplain =>
      simp only [Option.bind_eq_some_iff, Option.map_eq_some_iff, character_eq_some_iff] at h
      obtain ⟨_, rfl, behind, rfl, h⟩ := h
      rcases htail : groupsAhead (8 - hs.length) true behind with ⟨ts, isDotted', behind'⟩
      obtain ⟨hle', tail, htail', rfl⟩ := groupsAhead_start_sound htail
      rw [htail] at h
      cases h
      rw [Bool.not_eq_true] at hplain
      subst hplain
      exact ⟨_, .short hhead (by omega) htail' hle', by simp⟩

/-- **An address in groups is read from every spelling of it** with a slash behind it. -/
theorem groupedAddress_complete {n : Nat} {text : List Char} (h : Grouped text n)
    (rest : List Char) : groupedAddress (text ++ '/' :: rest) = some (n, '/' :: rest) := by
  have hslash : Stops ('/' :: rest) := .inl ⟨rest, rfl⟩
  rw [groupedAddress]
  cases h with
  | full h hlength =>
    rw [groupsAhead_start_complete h (Nat.le_of_eq hlength) hslash]
    dsimp only
    rw [if_pos hlength]
    rfl
  | @short isDotted head tail hs ts hhead hlt htail hle =>
    have hcolons : Stops (':' :: ':' :: (tail ++ '/' :: rest)) := .inr ⟨_, rfl⟩
    rw [List.append_assoc, List.cons_append, List.cons_append,
      groupsAhead_start_complete hhead (Nat.le_of_lt hlt) hcolons]
    dsimp only
    rw [if_neg (Nat.ne_of_lt hlt), if_neg Bool.false_ne_true, character_cons, Option.bind_some,
      character_cons, Option.map_some, groupsAhead_start_complete htail hle hslash]
    rfl

/-- No address in groups starts like a dotted address. -/
theorem dottedAddress_eq_none_of_grouped {n : Nat} {text : List Char} (h : Grouped text n)
    (rest : List Char) : dottedAddress (text ++ '/' :: rest) = none := by
  have hhextet : ∀ {cs : List Char} {g : Nat}, Hextet cs g → '.' ∉ cs :=
    fun hg hmem => hg.digit hmem (digitValue?_eq_none (.head _))
  have hcolon : ∀ {cs tail : List Char}, '.' ∉ cs → dottedAddress (cs ++ ':' :: tail) = none :=
    fun hcs => dottedAddress_eq_none hcs (.head _)
  cases h with
  | full h hlength =>
    cases h with
    | none | one | dotted => cases hlength
    | cons hg _ _ =>
      rw [List.append_assoc]
      exact hcolon (hhextet hg)
  | short hhead _ _ _ =>
    rw [List.append_assoc]
    cases hhead with
    | none => exact hcolon List.not_mem_nil
    | one hg => exact hcolon (hhextet hg)
    | cons hg _ _ =>
      rw [List.append_assoc]
      exact hcolon (hhextet hg)

/-! ### Networks -/

namespace Cidr

/-- **The network around an address** is the one of that length that contains it. -/
theorem around_eq_iff {a : Address} {length : Nat} {h : length ≤ a.family.width} {n : Cidr} :
    around a length h = n ↔ n.Contains a ∧ n.length = length := by
  have hmod := Nat.mod_le a.value (powerOfTwo (a.family.width - length))
  have hlt := Nat.mod_lt a.value (powerOfTwo_pos (a.family.width - length))
  constructor
  · rintro rfl
    refine ⟨⟨rfl, Nat.sub_le _ _, ?_⟩, rfl⟩
    dsimp only [around, withoutLow, size, hostBits]
    omega
  · rintro ⟨⟨hfamily, hlow, hhigh⟩, rfl⟩
    obtain ⟨⟨family, value, hvalue⟩, length, hlength, haligned⟩ := n
    obtain ⟨family', value', hvalue'⟩ := a
    obtain rfl : family' = family := hfamily
    dsimp only [size, hostBits] at *
    -- the value lies in the block that starts at the base, so they agree but for the low bits
    have hlow : value' % powerOfTwo (family'.width - length) = value' - value := by
      obtain ⟨block, hblock⟩ : powerOfTwo (family'.width - length) ∣ value :=
        Nat.dvd_of_mod_eq_zero haligned
      obtain ⟨offset, hoffset⟩ := Nat.exists_eq_add_of_le hlow
      rw [hoffset, hblock, Nat.mul_add_mod, Nat.mod_eq_of_lt (by omega)]
      omega
    have hbase : withoutLow (family'.width - length) value' = value := by
      rw [withoutLow, hlow]
      omega
    simp only [around, hbase]

/-- **What the length behind an address is read from.** -/
theorem behindAddress_eq_some_iff {f : Family} {maxDigits v : Nat} {rest : List Char} {n : Cidr} :
    behindAddress f maxDigits (v, rest) = some n ↔
      ∃ (hv : v < f.size) (length : List Char), rest = '/' :: length ∧
        Numeral 10 maxDigits (f.width + 1) length n.length ∧ n.Contains ⟨f, v, hv⟩ := by
  simp only [behindAddress, Option.bind_eq_some_iff, character_eq_some_iff, Prod.exists,
    number_eq_some_iff]
  constructor
  · rintro ⟨_, rfl, length, _, ⟨digits, hdigits, -, rfl⟩, h⟩
    split at h
    · next hall =>
      obtain ⟨rfl, hv, hle⟩ := hall
      obtain ⟨hcontains, rfl⟩ := around_eq_iff.mp (Option.some.inj h)
      exact ⟨hv, digits, by rw [List.append_nil], hdigits, hcontains⟩
    · cases h
  · rintro ⟨hv, length, rfl, hdigits, hcontains⟩
    have hle : n.length ≤ f.width := Nat.le_of_lt_succ hdigits.lt_bound
    refine ⟨length, rfl, n.length, [], ⟨length, hdigits, fun c hc => (nomatch hc),
      (List.append_nil length).symm⟩, ?_⟩
    rw [dif_pos ⟨rfl, hv, hle⟩]
    exact congrArg some (around_eq_iff.mpr ⟨hcontains, rfl⟩)

/-- **The network that characters denote is the one that is read.** -/
theorem ofChars?_eq_some_iff {cs : List Char} {n : Cidr} :
    ofChars? cs = some n ↔ n.SpelledBy cs := by
  rw [ofChars?, Option.or_eq_some_iff]
  constructor
  · rintro (h | ⟨-, h⟩)
    · obtain ⟨⟨v, rest⟩, hread, hbehind⟩ := Option.bind_eq_some_iff.mp h
      obtain ⟨text, htext, -, rfl⟩ := dottedAddress_eq_some_iff.mp hread
      obtain ⟨hv, length, rfl, hlength, hcontains⟩ := behindAddress_eq_some_iff.mp hbehind
      refine ⟨⟨.v4, v, hv⟩, text, length, hcontains, htext, ?_, rfl⟩
      rw [← hcontains.family]
      exact hlength
    · obtain ⟨⟨v, rest⟩, hread, hbehind⟩ := Option.bind_eq_some_iff.mp h
      obtain ⟨text, htext, rfl⟩ := groupedAddress_sound hread
      obtain ⟨hv, length, rfl, hlength, hcontains⟩ := behindAddress_eq_some_iff.mp hbehind
      refine ⟨⟨.v6, v, hv⟩, text, length, hcontains, htext, ?_, rfl⟩
      rw [← hcontains.family]
      exact hlength
  · rintro ⟨⟨family, v, hv⟩, address, length, hcontains, haddress, hlength, rfl⟩
    rw [← hcontains.family] at hlength
    cases family with
    | v4 =>
      refine .inl (Option.bind_eq_some_iff.mpr ⟨(v, '/' :: length), ?_, ?_⟩)
      · exact dottedAddress_eq_some_iff.mpr ⟨address, haddress, noDigit_cons (by simp), rfl⟩
      · exact behindAddress_eq_some_iff.mpr ⟨hv, length, rfl, hlength, hcontains⟩
    | v6 =>
      refine .inr ⟨?_, Option.bind_eq_some_iff.mpr ⟨(v, '/' :: length), ?_, ?_⟩⟩
      · rw [dottedAddress_eq_none_of_grouped haddress, Option.bind_none]
      · exact groupedAddress_complete haddress length
      · exact behindAddress_eq_some_iff.mpr ⟨hv, length, rfl, hlength, hcontains⟩

end Cidr

/-! ### Blanks -/

/-- A digit is not blank, nor is a point, a colon or a slash. -/
theorem isBlank_eq_false {radix : Nat} {c : Char}
    (h : Text.digitValue? radix c ≠ none ∨ c ∈ ['.', ':', '/']) : Text.isBlank c = false := by
  rcases h with h | h
  · rw [Text.digitValue?] at h
    have hrange : (48 ≤ c.toNat ∧ c.toNat ≤ 57) ∨ (97 ≤ c.toNat ∧ c.toNat ≤ 102) ∨
        (65 ≤ c.toNat ∧ c.toNat ≤ 70) := by
      split at h
      · next hdecimal => exact .inl (by simpa using hdecimal)
      · split at h
        · next hlower => exact .inr (.inl (by simpa using hlower))
        · split at h
          · next hupper => exact .inr (.inr (by simpa using hupper))
          · exact absurd rfl h
    simp [Text.isBlank]
    omega
  · simp only [List.mem_cons, List.not_mem_nil, or_false] at h
    rcases h with rfl | rfl | rfl <;> decide

theorem Numeral.not_blank {radix maxDigits bound n : Nat} {cs : List Char}
    (h : Numeral radix maxDigits bound cs n) : ∀ c ∈ cs, Text.isBlank c = false :=
  fun _ hc => isBlank_eq_false (.inl (h.digit hc))

theorem Dotted.not_blank {n : Nat} {cs : List Char} (h : Dotted cs n) :
    ∀ c ∈ cs, Text.isBlank c = false := by
  obtain ⟨as, bs, cs, ds, a, b, c, d, ha, hb, hc, hd, rfl, -⟩ := h
  have hpoint : Text.isBlank '.' = false := rfl
  simp only [List.forall_mem_append, List.forall_mem_cons]
  exact ⟨ha.not_blank, hpoint, hb.not_blank, hpoint, hc.not_blank, hpoint, hd.not_blank⟩

theorem ColonGroups.not_blank {isDotted : Bool} {cs : List Char} {gs : List Nat}
    (h : ColonGroups isDotted cs gs) : ∀ c ∈ cs, Text.isBlank c = false := by
  induction h with
  | none => simp
  | one h => exact h.not_blank
  | dotted h => exact h.not_blank
  | cons h _ _ ih =>
    simp only [List.forall_mem_append, List.forall_mem_cons]
    exact ⟨h.not_blank, rfl, ih⟩

theorem Grouped.not_blank {n : Nat} {cs : List Char} (h : Grouped cs n) :
    ∀ c ∈ cs, Text.isBlank c = false := by
  cases h with
  | full h _ => exact h.not_blank
  | short hhead _ htail _ =>
    simp only [List.forall_mem_append, List.forall_mem_cons]
    exact ⟨hhead.not_blank, rfl, rfl, htail.not_blank⟩

/-- What stands between blanks is found by trimming. -/
theorem trimList_eq {before cs after : List Char} (hbefore : ∀ c ∈ before, Text.isBlank c = true)
    (hcs : ∀ c ∈ cs, Text.isBlank c = false) (hafter : ∀ c ∈ after, Text.isBlank c = true) :
    Text.trimList (before ++ cs ++ after) = cs := by
  have hrest : ∀ c ∈ after.reverse, Text.isBlank c = true :=
    fun c hc => hafter c (List.mem_reverse.mp hc)
  rw [Text.trimList, List.append_assoc, List.dropWhile_append_of_pos hbefore]
  cases cs with
  | nil =>
    rw [List.nil_append, List.dropWhile_eq_nil_iff.mpr hafter]
    rfl
  | cons c cs =>
    have hstart : ¬ Text.isBlank c = true := by simp [hcs c (.head cs)]
    have hend : (c :: cs).reverse.dropWhile Text.isBlank = (c :: cs).reverse := by
      rw [List.dropWhile_eq_self_iff]
      intro hlength
      simp only [hcs _ (List.mem_reverse.mp (List.getElem_mem hlength))]
      exact Bool.false_ne_true
    rw [List.cons_append, List.dropWhile_cons_of_neg hstart, ← List.cons_append,
      List.reverse_append, List.dropWhile_append_of_pos hrest, hend, List.reverse_reverse]

/-- Nothing but blanks is lost by trimming. -/
theorem exists_trimList (cs : List Char) : ∃ before after,
    cs = before ++ Text.trimList cs ++ after ∧ (∀ c ∈ before, Text.isBlank c = true) ∧
      ∀ c ∈ after, Text.isBlank c = true := by
  refine ⟨cs.takeWhile Text.isBlank,
    ((cs.dropWhile Text.isBlank).reverse.takeWhile Text.isBlank).reverse, ?_, ?_, ?_⟩
  · rw [Text.trimList, List.append_assoc, ← List.reverse_append, List.takeWhile_append_dropWhile,
      List.reverse_reverse, List.takeWhile_append_dropWhile]
  · exact fun c hc => List.mem_takeWhile_imp hc
  · exact fun c hc => List.mem_takeWhile_imp (List.mem_reverse.mp hc)

namespace Cidr

theorem SpelledBy.not_blank {n : Cidr} {cs : List Char} (h : n.SpelledBy cs) :
    ∀ c ∈ cs, Text.isBlank c = false := by
  obtain ⟨⟨family, v, hv⟩, address, length, -, haddress, hlength, rfl⟩ := h
  have hnone : ∀ c ∈ address, Text.isBlank c = false := by
    cases family with
    | v4 => exact Dotted.not_blank haddress
    | v6 => exact Grouped.not_blank haddress
  simp only [List.forall_mem_append, List.forall_mem_cons]
  exact ⟨hnone, rfl, hlength.not_blank⟩

/-- **The network that a text denotes is the one that is read.** -/
theorem parse_eq_ok_iff {s : String} {n : Cidr} : parse s = .ok n ↔ n.DenotedBy s := by
  have hread : parse s = .ok n ↔ n.SpelledBy (Text.trimList s.toList) := by
    rw [← ofChars?_eq_some_iff, parse]
    cases ofChars? (Text.trimList s.toList) with
    | none => exact ⟨fun h => (nomatch h), fun h => (nomatch h)⟩
    | some n' => rw [Except.ok.injEq, Option.some_inj]
  rw [hread]
  constructor
  · intro h
    obtain ⟨before, after, hs, hbefore, hafter⟩ := exists_trimList s.toList
    exact ⟨before, _, after, h, hs, hbefore, hafter⟩
  · rintro ⟨before, cs, after, hspelled, hs, hbefore, hafter⟩
    rw [hs, trimList_eq hbefore hspelled.not_blank hafter]
    exact hspelled

end Cidr

end Network

end ClusterNet
