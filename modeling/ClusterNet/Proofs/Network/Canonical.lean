import ClusterNet.Pipeline.Desired
import ClusterNet.Proofs.Network.Reading

/-!
# Texts of networks are canonical

Objects are compared with how they should be by the texts of networks in them. So a network must
have one text only, whichever way it was spelled by whoever asked for it, and that text must be one
of its spellings. The same goes for the addresses in a plan that are shown with the length of their
network.

## Main results

* `Cidr.canonical` — what is made of a text that denotes a network depends on the network only, and
  whatever is shown of it denotes it again
-/

namespace ClusterNet

namespace Network

namespace Cidr

open Pipeline (draft workersNetwork)

variable {n : Cidr}

/-- The first address of a network has no bits set behind the leading ones. -/
theorem testBit_base (n : Cidr) {i : Nat} (h : i < n.hostBits) :
    n.base.value.testBit i = false := by
  have hbits : (n.base.value % 2 ^ n.hostBits).testBit i = n.base.value.testBit i := by
    rw [Nat.testBit_mod_two_pow, decide_eq_true h, Bool.true_and]
  have haligned : n.base.value % 2 ^ n.hostBits = 0 := n.aligned
  rw [← hbits, haligned, Nat.zero_testBit]

/-- **What is shown of a network and one of its addresses is read as the network.** -/
theorem parse_withLength {a : Address} (h : n.Contains a) :
    parse s!"{a.text}/{n.length}" = .ok n :=
  parse_eq_ok_iff.mpr (denotedBy_withLength h)

theorem contains_base (n : Cidr) : n.Contains n.base where
  family := rfl
  base_le := Nat.le_refl _
  lt_end := Nat.lt_add_of_pos_right n.size_pos

theorem parse_text (n : Cidr) : parse n.text = .ok n := by
  rw [text]
  exact parse_withLength n.contains_base

/-- How objects should be depends on the network that was asked for, but not on its spelling. -/
theorem draft_congr {s t : String} (hs : parse s = .ok n) (ht : parse t = .ok n)
    (identity : ControlPlane.ClusterIdentity) (spec : Cluster.Spec) (state : Cluster.State)
    (k : ControlPlane.Kind) :
    draft identity { spec with workersNetwork := t } state k =
      draft identity { spec with workersNetwork := s } state k := by
  have hplan : Cluster.Spec.addressPlan { spec with workersNetwork := t } =
      Cluster.Spec.addressPlan { spec with workersNetwork := s } := by
    rw [Cluster.Spec.addressPlan, Cluster.Spec.addressPlan, AddressPlan.ofCidr, AddressPlan.ofCidr,
      hs, ht]
  have hworkers : workersNetwork { spec with workersNetwork := t } =
      workersNetwork { spec with workersNetwork := s } := by
    rw [workersNetwork, workersNetwork, hs, ht]
  rcases k with k | k <;> cases k <;> simp only [draft, hplan, hworkers] <;> rfl

/-- **Texts of networks are canonical.** Of a text that is read as a network: the network has no
host bits, and its own text is read as the same network, as are the texts of its gateway and its
DHCP server. Every other text that denotes the network is read as the same, has the same plan and
asks for the same objects. -/
theorem canonical {s : String} (h : parse s = .ok n) :
    (∀ i < n.hostBits, n.base.value.testBit i = false) ∧ parse n.text = .ok n ∧
      (∀ p, AddressPlan.ofCidr s = .ok p →
        parse p.gatewayCidr = .ok n ∧ parse p.dhcpServerCidr = .ok n) ∧
      ∀ t, (parse t = .ok n ↔ n.DenotedBy t) ∧ (n.DenotedBy t →
        AddressPlan.ofCidr t = AddressPlan.ofCidr s ∧ ∀ identity (spec : Cluster.Spec) state k,
          draft identity { spec with workersNetwork := t } state k =
            draft identity { spec with workersNetwork := s } state k) := by
  refine ⟨fun i => n.testBit_base, parse_text n, ?_, ?_⟩
  · intro p hp
    obtain ⟨hparse, hplan⟩ := AddressPlan.ofCidr_eq_ok_iff.mp hp
    obtain rfl : n = p.network := Except.ok.inj (h.symm.trans hparse)
    obtain ⟨-, hgateway, hserver, -⟩ := AddressPlan.ofNetwork_eq_ok_iff.mp hplan
    rw [AddressPlan.gatewayCidr, AddressPlan.dhcpServerCidr, AddressPlan.withLength,
      AddressPlan.withLength]
    exact ⟨parse_withLength (contains_of_address hgateway).1,
      parse_withLength (contains_of_address hserver).1⟩
  · intro t
    refine ⟨parse_eq_ok_iff, fun hdenoted => ?_⟩
    have ht : parse t = .ok n := parse_eq_ok_iff.mpr hdenoted
    refine ⟨?_, draft_congr h ht⟩
    rw [AddressPlan.ofCidr, AddressPlan.ofCidr, h, ht]

/-- Two spellings of one network that differ in all that they can differ in. -/
theorem canonical_respelled :
    let s := " 2001:DB8::00ff/64\n"
    let t := "2001:0db8:0:0:0::192.0.2.1/064"
    ∃ n, parse s = .ok n ∧ n.DenotedBy t ∧ parse n.text = .ok n ∧
      AddressPlan.ofCidr t = AddressPlan.ofCidr s := by
  intro s t
  obtain ⟨n, hs⟩ : ∃ n, parse " 2001:DB8::00ff/64\n" = .ok n := ⟨_, rfl⟩
  have hsame : parse t = parse s := by decide
  have ht : parse t = .ok n := hsame.trans hs
  obtain ⟨-, htext, -, hother⟩ := canonical hs
  have hdenoted : n.DenotedBy t := (hother t).1.mp ht
  exact ⟨n, hs, hdenoted, htext, ((hother t).2 hdenoted).1⟩

end Cidr

end Network

end ClusterNet
