import ClusterNet.Network.AddressPlan
import ClusterNet.Proofs.Network.Cidr

/-!
# Address plans are consistent

The addresses that a plan sets aside are counted from both ends of a network. In a network of
sixteen addresses the tenth from the front still lies before the last but one, and in a smaller one
there is no tenth at all. In the two networks whose sizes do not fit an index, the last but one is
not where it should be, but it lies far behind the others and before the end all the same.

So a network has a plan exactly if it has four bits for its hosts, and the comparison that is made
when a plan is drawn up never fails.

## Main definitions

* `Cidr.Contains`, `Cidr.last` — the addresses of a network and the last one of them
* `AddressPlan.Consistent` — how the addresses of a plan lie

## Main results

* `AddressPlan.ofNetwork_eq_ok_iff` — the plans of a network
* `AddressPlan.ofCidr_ok_iff` — the texts that have a plan, and how its addresses lie
-/

namespace ClusterNet

namespace Network

theorem Address.lt_iff_of_family_eq {a b : Address} (h : a.family = b.family) :
    a < b ↔ a.value < b.value := by
  constructor
  · rintro (hwidth | ⟨-, hlt⟩)
    · rw [h] at hwidth
      exact absurd hwidth (lt_irrefl _)
    · exact hlt
  · intro hlt
    exact .inr ⟨h, hlt⟩

theorem Address.le_iff_of_family_eq {a b : Address} (h : a.family = b.family) :
    a ≤ b ↔ a.value ≤ b.value := by
  constructor
  · rintro (hwidth | ⟨-, hle⟩)
    · rw [h] at hwidth
      exact absurd hwidth (lt_irrefl _)
    · exact hle
  · intro hle
    exact .inr ⟨h, hle⟩

/-- What lies between two addresses of a family is of that family. -/
theorem Address.value_of_between {a b c : Address} (h : a.family = c.family) (hab : a ≤ b)
    (hbc : b ≤ c) : b.family = a.family ∧ a.value ≤ b.value ∧ b.value ≤ c.value := by
  rcases hab with hab | ⟨hfamily, hab⟩
  · rcases hbc with hbc | ⟨hfamily, -⟩
    · rw [h] at hab
      exact absurd hbc (Nat.not_lt_of_gt hab)
    · rw [h, hfamily] at hab
      exact absurd hab (lt_irrefl _)
  · refine ⟨hfamily.symm, hab, ?_⟩
    rwa [Address.le_iff_of_family_eq (hfamily.symm.trans h)] at hbc

namespace Cidr

/-- Whether an address belongs to a network. -/
structure Contains (n : Cidr) (a : Address) : Prop where
  /-- It is of the network's family. -/
  family : a.family = n.base.family
  /-- It does not lie before the first address. -/
  base_le : n.base.value ≤ a.value
  /-- Nor does it lie behind the last one. -/
  lt_end : a.value < n.base.value + n.size

/-- The last address of a network. -/
def last (n : Cidr) : Address := .ofNat n.base.family (n.base.value + (n.size - 1))

variable (n : Cidr)

theorem value_last : n.last.value = n.base.value + (n.size - 1) := by
  refine Address.value_ofNat (n.value_add_lt ?_)
  have := n.size_pos
  omega

/-- The address at an index belongs to the network and lies at the place that the index stands
for. -/
theorem contains_of_address {n : Cidr} {index : Int} {a : Address} (h : n.address index = .ok a) :
    n.Contains a ∧ (a.value : Int) = n.base.value + n.place index ∧ 0 ≤ n.place index ∧
      n.place index < n.indexable := by
  rw [address_eq] at h
  split at h
  · next hplace =>
    have hsize := n.indexable_le_size
    have hlt : (n.place index).toNat < n.size := by omega
    have hvalue := Address.value_ofNat (n.value_add_lt hlt)
    obtain rfl := Except.ok.inj h
    exact ⟨⟨rfl, by omega, by omega⟩, by omega, hplace⟩
  · cases h

/-- A network with four bits for its hosts has sixteen indexable addresses. -/
theorem le_indexable (h : 4 ≤ n.hostBits) : 16 ≤ n.indexable := by
  obtain ⟨bits, hbits⟩ := Nat.exists_eq_add_of_le h
  have hsize : n.size = 16 * powerOfTwo bits := by
    rw [size, hbits, powerOfTwo_add]
    rfl
  have hpos := powerOfTwo_pos bits
  have hlarge : 16 ≤ powerOfTwo 127 - 1 := by decide
  rcases n.indexable_cases with ⟨-, hall⟩ | ⟨-, hall, -⟩ <;> omega

/-- A network with fewer bits than that has at most eight. -/
theorem indexable_le (h : n.hostBits < 4) : n.indexable ≤ 8 := by
  have hsmall : ∀ bits < 4, powerOfTwo bits ≤ 8 := by decide
  exact n.indexable_le_size.trans (hsmall _ h)

end Cidr

namespace AddressPlan

open Cidr (Contains)

/-- The addresses of a plan, the first and the last one of its network around them, in the order in
which they lie. -/
structure Consistent (p : AddressPlan) : Prop where
  /-- The gateway comes behind the first address of the network. -/
  gateway : p.network.base < p.gateway
  /-- The DHCP server comes behind the gateway. -/
  dhcpServer : p.gateway < p.dhcpServer
  /-- What DHCP hands out comes behind the server. -/
  dhcpRangeStart : p.dhcpServer < p.dhcpRangeStart
  /-- It hands out something. -/
  dhcpRange : p.dhcpRangeStart ≤ p.dhcpRangeEnd
  /-- It does not hand out the last address of the network. -/
  dhcpRangeEnd : p.dhcpRangeEnd < p.network.last
  /-- The addresses that are set aside belong to the network. -/
  contains : ∀ a ∈ [p.gateway, p.dhcpServer, p.dhcpRangeStart, p.dhcpRangeEnd],
    p.network.Contains a
  /-- So do those that DHCP hands out, and none of them has another use. -/
  free : ∀ a, p.dhcpRangeStart ≤ a → a ≤ p.dhcpRangeEnd → p.network.Contains a ∧
    a ∉ [p.network.base, p.gateway, p.dhcpServer, p.network.last]

/-- What it takes for a plan to be that of a network. -/
theorem ofNetwork_eq_ok_iff {n : Cidr} {p : AddressPlan} :
    ofNetwork n = .ok p ↔
      p.network = n ∧ n.address gatewayIndex = .ok p.gateway ∧
        n.address dhcpServerIndex = .ok p.dhcpServer ∧
        n.address dhcpRangeStartIndex = .ok p.dhcpRangeStart ∧
        n.address dhcpRangeEndIndex = .ok p.dhcpRangeEnd ∧ ¬ p.dhcpRangeEnd < p.dhcpRangeStart := by
  obtain ⟨network, gateway, dhcpServer, dhcpRangeStart, dhcpRangeEnd⟩ := p
  constructor
  · intro h
    simp only [ofNetwork, bind, Except.bind] at h
    split at h
    · cases h
    next hgateway =>
    split at h
    · cases h
    next hserver =>
    split at h
    · cases h
    next hstart =>
    split at h
    · cases h
    next hend =>
    split at h
    · cases h
    next hroom =>
    cases h
    exact ⟨rfl, hgateway, hserver, hstart, hend, hroom⟩
  · rintro ⟨rfl, hgateway, hserver, hstart, hend, hroom⟩
    dsimp only at *
    rw [ofNetwork, hgateway, hserver, hstart, hend]
    exact if_neg hroom

/-- The texts that have a plan are those of the networks that do. -/
theorem ofCidr_eq_ok_iff {s : String} {p : AddressPlan} :
    ofCidr s = .ok p ↔ Cidr.parse s = .ok p.network ∧ ofNetwork p.network = .ok p := by
  rw [ofCidr]
  cases hparse : Cidr.parse s with
  | error e => exact ⟨fun h => (nomatch h), fun h => (nomatch h.1)⟩
  | ok n =>
    change ofNetwork n = .ok p ↔ _
    constructor
    · intro h
      obtain rfl := (ofNetwork_eq_ok_iff.mp h).1
      exact ⟨rfl, h⟩
    · rintro ⟨hn, h⟩
      rw [Except.ok.inj hn]
      exact h

/-- **The addresses of a plan lie as they should**, and its network has four bits for its hosts. -/
theorem consistent_of_ofNetwork {n : Cidr} {p : AddressPlan} (h : ofNetwork n = .ok p) :
    4 ≤ n.hostBits ∧ p.Consistent := by
  obtain ⟨rfl, hgateway, hserver, hstart, hend, -⟩ := ofNetwork_eq_ok_iff.mp h
  obtain ⟨hgateway, hgatewayValue, -⟩ := Cidr.contains_of_address hgateway
  obtain ⟨hserver, hserverValue, -⟩ := Cidr.contains_of_address hserver
  obtain ⟨hstart, hstartValue, -, htenth⟩ := Cidr.contains_of_address hstart
  obtain ⟨hend, hendValue, -⟩ := Cidr.contains_of_address hend
  -- there is a tenth address, so there are more than eight, and hence sixteen
  have hbits : 4 ≤ p.network.hostBits := by
    by_contra hfew
    have hsmall := p.network.indexable_le (by omega)
    have hten : p.network.place dhcpRangeStartIndex = 10 := rfl
    omega
  have hlarge := p.network.le_indexable hbits
  have hsize := p.network.indexable_le_size
  have hlast := p.network.value_last
  have hgatewayPlace : p.network.place gatewayIndex = 1 := rfl
  have hserverPlace : p.network.place dhcpServerIndex = 2 := rfl
  have hstartPlace : p.network.place dhcpRangeStartIndex = 10 := rfl
  have hendPlace : p.network.place dhcpRangeEndIndex = p.network.indexable - 2 := rfl
  refine ⟨hbits, ?_⟩
  have hlastFamily : p.network.last.family = p.network.base.family := rfl
  constructor
  · rw [Address.lt_iff_of_family_eq hgateway.family.symm]
    omega
  · rw [Address.lt_iff_of_family_eq (hgateway.family.trans hserver.family.symm)]
    omega
  · rw [Address.lt_iff_of_family_eq (hserver.family.trans hstart.family.symm)]
    omega
  · rw [Address.le_iff_of_family_eq (hstart.family.trans hend.family.symm)]
    omega
  · rw [Address.lt_iff_of_family_eq (hend.family.trans hlastFamily.symm)]
    omega
  · simp only [List.forall_mem_cons]
    exact ⟨hgateway, hserver, hstart, hend, fun _ hnone => nomatch hnone⟩
  · intro a hlow hhigh
    obtain ⟨hfamily, hlow, hhigh⟩ :=
      Address.value_of_between (hstart.family.trans hend.family.symm) hlow hhigh
    have hcontains : p.network.Contains a :=
      ⟨hfamily.trans hstart.family, by omega, by have := hend.lt_end; omega⟩
    refine ⟨hcontains, ?_⟩
    have hdiffers : ∀ b : Address, a.value ≠ b.value → a ≠ b := fun b hne heq => hne (heq ▸ rfl)
    simp only [List.mem_cons, List.not_mem_nil, or_false, not_or]
    exact ⟨hdiffers _ (by omega), hdiffers _ (by omega), hdiffers _ (by omega),
      hdiffers _ (by omega)⟩

/-- **A network with four bits for its hosts has a plan.** -/
theorem exists_ofNetwork {n : Cidr} (h : 4 ≤ n.hostBits) : ∃ p, ofNetwork n = .ok p := by
  have hlarge := n.le_indexable h
  have haddress : ∀ index, 0 ≤ n.place index ∧ n.place index < n.indexable →
      ∃ a, n.address index = .ok a := by
    intro index hplace
    obtain ⟨a, ha, -⟩ := n.gives_iff.mpr ⟨rfl, hplace⟩
    exact ⟨a, ha⟩
  have hgatewayPlace : n.place gatewayIndex = 1 := rfl
  have hserverPlace : n.place dhcpServerIndex = 2 := rfl
  have hstartPlace : n.place dhcpRangeStartIndex = 10 := rfl
  have hendPlace : n.place dhcpRangeEndIndex = n.indexable - 2 := rfl
  obtain ⟨gateway, hgateway⟩ := haddress gatewayIndex (by omega)
  obtain ⟨dhcpServer, hserver⟩ := haddress dhcpServerIndex (by omega)
  obtain ⟨dhcpRangeStart, hstart⟩ := haddress dhcpRangeStartIndex (by omega)
  obtain ⟨dhcpRangeEnd, hend⟩ := haddress dhcpRangeEndIndex (by omega)
  refine ⟨⟨n, gateway, dhcpServer, dhcpRangeStart, dhcpRangeEnd⟩,
    ofNetwork_eq_ok_iff.mpr ⟨rfl, hgateway, hserver, hstart, hend, ?_⟩⟩
  obtain ⟨hstart, hstartValue, -⟩ := Cidr.contains_of_address hstart
  obtain ⟨hend, hendValue, -⟩ := Cidr.contains_of_address hend
  rw [Address.lt_iff_of_family_eq (hend.family.trans hstart.family.symm)]
  omega

/-- **Address plans are consistent.** A text has a plan exactly if it denotes a network with four
bits for its hosts. The plan is one of that network, and its addresses lie as they should. -/
theorem ofCidr_ok_iff (s : String) :
    ((∃ p, ofCidr s = .ok p) ↔ ∃ n, Cidr.parse s = .ok n ∧ 4 ≤ n.hostBits) ∧
      ∀ p, ofCidr s = .ok p → Cidr.parse s = .ok p.network ∧ p.Consistent := by
  refine ⟨⟨?_, ?_⟩, ?_⟩
  · rintro ⟨p, hp⟩
    obtain ⟨hparse, hplan⟩ := ofCidr_eq_ok_iff.mp hp
    exact ⟨p.network, hparse, (consistent_of_ofNetwork hplan).1⟩
  · rintro ⟨n, hparse, hbits⟩
    obtain ⟨p, hplan⟩ := exists_ofNetwork hbits
    obtain rfl := (ofNetwork_eq_ok_iff.mp hplan).1
    exact ⟨p, ofCidr_eq_ok_iff.mpr ⟨hparse, hplan⟩⟩
  · intro p hp
    obtain ⟨hparse, hplan⟩ := ofCidr_eq_ok_iff.mp hp
    exact ⟨hparse, (consistent_of_ofNetwork hplan).2⟩

/-- The network of everything has a plan, although its size does not fit an index. -/
theorem ofCidr_ok_iff_everything : ∃ p, ofCidr "::/0" = .ok p ∧ p.dhcpRangeEnd.value =
    powerOfTwo 127 - 3 ∧ Cidr.parse "::/0" = .ok p.network ∧ p.Consistent := by
  obtain ⟨p, hp⟩ : ∃ p, ofCidr "::/0" = .ok p := ⟨_, rfl⟩
  have hend : p.dhcpRangeEnd.value = powerOfTwo 127 - 3 := by
    cases hp
    decide
  exact ⟨p, hp, hend, (ofCidr_ok_iff "::/0").2 p hp⟩

end AddressPlan

end Network

end ClusterNet
