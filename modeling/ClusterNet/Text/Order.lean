/-!
# The order of texts

Texts are ordered by their characters' code points, the first difference deciding. This is also
the order of their UTF-8 encodings.

## Main definitions

* `Text.isBefore` — the strict order;
* `Text.sorted` — a list of texts in that order.
-/

namespace ClusterNet

namespace Text

/-- Whether the first list of characters comes strictly before the second. -/
def isBeforeList : List Char → List Char → Bool
  | [], [] => false
  | [], _ :: _ => true
  | _ :: _, [] => false
  | a :: as, b :: bs => Nat.blt a.toNat b.toNat || (a == b && isBeforeList as bs)

/-- Whether the first text comes strictly before the second. -/
def isBefore (s t : String) : Bool :=
  isBeforeList s.toList t.toList

/-- The texts in order. -/
def sorted (texts : List String) : List String :=
  texts.mergeSort fun s t => !isBefore t s

end Text

end ClusterNet
