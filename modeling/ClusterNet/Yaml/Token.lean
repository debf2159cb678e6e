/-!
# YAML tokens

## Main definitions

* `Yaml.Style` — how a scalar is written;
* `Yaml.Token` — the parts of a YAML text.

Blocks are marked by indentation in the text and by tokens at their start and end here. So are
the keys of mappings, which are marked in the text by what follows them.
-/

namespace ClusterNet

namespace Yaml

/-- How a scalar is written. -/
inductive Style where
  /-- Without any marks. -/
  | plain
  /-- Between quotes. -/
  | quoted
  /-- As a block whose line breaks are kept. -/
  | literal
  /-- As a block whose line breaks are folded. -/
  | folded
deriving DecidableEq, Repr, Inhabited

/-- A part of a YAML text. -/
inductive Token where
  /-- The version that the text is written for. -/
  | version (major minor : Nat)
  /-- What a handle of tags stands for. -/
  | handle (name expansion : String)
  /-- The start of a document. -/
  | documentStart
  /-- The end of a document. -/
  | documentEnd
  /-- The end of the text. -/
  | streamEnd
  /-- The start of a list in a block. -/
  | blockSequenceStart
  /-- The start of a mapping in a block. -/
  | blockMappingStart
  /-- The end of a block. -/
  | blockEnd
  /-- The start of a list between brackets. -/
  | flowSequenceStart
  /-- Its end. -/
  | flowSequenceEnd
  /-- The start of a mapping between braces. -/
  | flowMappingStart
  /-- Its end. -/
  | flowMappingEnd
  /-- The dash before an item. -/
  | blockEntry
  /-- The comma behind an item or a pair. -/
  | flowEntry
  /-- What stands before a key. -/
  | key
  /-- What stands before a value. -/
  | value
  /-- A reference to an anchor. -/
  | alias (name : String)
  /-- The name of the node that follows. -/
  | anchor (name : String)
  /-- The kind of the node that follows. -/
  | tag (handle suffix : String)
  /-- A text. -/
  | scalar (text : String) (style : Style)
deriving DecidableEq, Repr, Inhabited

end Yaml

end ClusterNet
