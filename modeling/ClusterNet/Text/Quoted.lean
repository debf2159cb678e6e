import ClusterNet.Text.Decimal

/-!
# Quoted texts

A text as it is shown to an operator: between double quotes, with the characters that would not
show escaped. A character does not show by itself if it is a control or format character, a
separator other than the space, a private or unassigned code point, or a mark that combines with
the character before it.

## Main definitions

* `Text.isPrintable` — the characters that are shown as they are;
* `Text.quoted` — a text between quotes.
-/

namespace ClusterNet

namespace Text

/-- Ranges of code points that do not show by themselves: controls, format characters,
separators, private use, and the blocks that no character is assigned to. -/
def hiddenRanges : List (Nat × Nat) :=
  [(0x00, 0x1f), (0x7f, 0xa0), (0xad, 0xad), (0x600, 0x605), (0x61c, 0x61c), (0x6dd, 0x6dd),
   (0x70f, 0x70f), (0x8e2, 0x8e2), (0x1680, 0x1680), (0x180e, 0x180e), (0x2000, 0x200f),
   (0x2028, 0x202f), (0x205f, 0x206f), (0x3000, 0x3000), (0xe000, 0xf8ff), (0xfeff, 0xfeff),
   (0xfff0, 0xfffb), (0xfffe, 0xffff), (0x1fffe, 0x1ffff), (0x2fffe, 0x2ffff), (0x3fffe, 0x10ffff)]

/-- Ranges of marks that combine with the character before them. -/
def combiningRanges : List (Nat × Nat) :=
  [(0x300, 0x36f), (0x483, 0x489), (0x591, 0x5bd), (0x610, 0x61a), (0x64b, 0x65f), (0x93c, 0x93c),
   (0x94d, 0x94d), (0xe31, 0xe31), (0xe34, 0xe3a), (0xe47, 0xe4e), (0x1ab0, 0x1ace),
   (0x1dc0, 0x1dff), (0x20d0, 0x20f0), (0x302a, 0x302f), (0x3099, 0x309a), (0xfe00, 0xfe0f),
   (0xfe20, 0xfe2f)]

/-- Whether the character is shown as it is. -/
def isPrintable (c : Char) : Bool :=
  !(hiddenRanges ++ combiningRanges).any fun (low, high) => low ≤ c.toNat && c.toNat ≤ high

/-- The characters that one character is shown as. -/
def escapedChar (c : Char) : List Char :=
  if c == '"' then ['\\', '"']
  else if c == '\\' then ['\\', '\\']
  else if c == '\n' then ['\\', 'n']
  else if c == '\r' then ['\\', 'r']
  else if c == '\t' then ['\\', 't']
  else if c.toNat == 0 then ['\\', '0']
  else if isPrintable c then [c]
  else ['\\', 'u', '\x7b'] ++ hex c.toNat ++ ['\x7d']

/-- The text between double quotes. -/
def quoted (s : String) : String :=
  String.ofList ('"' :: s.toList.flatMap escapedChar ++ ['"'])

end Text

end ClusterNet
