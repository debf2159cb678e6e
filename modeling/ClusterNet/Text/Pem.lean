import ClusterNet.Text.Base64
import ClusterNet.Text.Blank

/-!
# Armoured blocks

Certificates and keys are handed over as text: blocks of base64 between a line that opens them and
a line that closes them, each with a label. Text outside of blocks is skipped.

## Main definitions

* `Text.Pem.labels?` — the labels of the blocks in a text, if all of them are well formed.

What a block holds is not looked at.
-/

namespace ClusterNet

namespace Text

namespace Pem

/-- What opens a block, in front of its label. -/
def opening : List Char := "-----BEGIN ".toList

/-- What closes a block, in front of its label. -/
def closing : List Char := "-----END ".toList

/-- What follows a label. -/
def dashes : List Char := "-----".toList

/-- What precedes the dashes in the line. -/
def untilDashes : List Char → Option (List Char)
  | [] => none
  | c :: cs =>
    if dashes.isPrefixOf (c :: cs) then some [] else (untilDashes cs).map (c :: ·)

/-- The label in a line with the given start. -/
def label? (start line : List Char) : Option (List Char) :=
  if start.isPrefixOf line then untilDashes (line.drop start.length) else none

/-- The labels in the lines. If a block is open, `within` is its label and `letters` is what it
holds so far. -/
def labelsFrom (within : Option (List Char)) (letters : List Char) :
    List (List Char) → Option (List String)
  | [] => if within.isNone then some [] else none
  | line :: lines =>
    match within with
    | none => labelsFrom (label? opening line) [] lines
    | some label =>
      match label? closing line with
      | none => labelsFrom within (letters ++ line) lines
      | some label' =>
        if label = label' && isBase64 letters then
          (labelsFrom none [] lines).map (String.ofList label :: ·)
        else none

/-- The labels of the blocks in a text. There is no answer if a block is not closed or does not
hold base64. -/
def labels? (s : String) : Option (List String) :=
  labelsFrom none [] ((s.splitOn "\n").map fun line => trimList line.toList)

/-- The label of a certificate. -/
def certificate : String := "CERTIFICATE"

/-- The labels of keys. -/
def keys : List String := ["PRIVATE KEY", "RSA PRIVATE KEY", "EC PRIVATE KEY"]

/-- Whether a text holds at least one certificate and a key for it. -/
def isIdentity (s : String) : Bool :=
  match labels? s with
  | some labels => labels.contains certificate && labels.any keys.contains
  | none => false

end Pem

end Text

end ClusterNet
