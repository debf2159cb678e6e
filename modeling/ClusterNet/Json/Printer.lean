import ClusterNet.Json
import ClusterNet.Text.Decimal

/-!
# Printing JSON

## Main definitions

* `Json.compact` — a value without any spaces;
* `Json.indented` — a value with one item or member a line, each level indented by two spaces.

In both a text is written with the shortest escape of each quote, backslash and control
character, and all other characters as they are.
-/

namespace ClusterNet

namespace Json

/-- The characters that one character of a text is written with. -/
def escapedChar (c : Char) : List Char :=
  if c = '"' then ['\\', '"']
  else if c = '\\' then ['\\', '\\']
  else if c = '\n' then ['\\', 'n']
  else if c = '\r' then ['\\', 'r']
  else if c = '\t' then ['\\', 't']
  else if c = '\x08' then ['\\', 'b']
  else if c = '\x0c' then ['\\', 'f']
  else if c.toNat < 0x20 then '\\' :: 'u' :: Text.hexPadded 4 c.toNat []
  else [c]

/-- A text between quotes. -/
def quoted (s : String) : List Char :=
  '"' :: (s.toList.flatMap escapedChar ++ ['"'])

/-- An integer in decimal digits. -/
def integerChars (n : Int) : List Char :=
  match n with
  | .ofNat n => Nat.toDigits 10 n
  | .negSucc n => '-' :: Nat.toDigits 10 (n + 1)

mutual

/-- The characters of a value without spaces. -/
def compactChars : Json → List Char
  | .null => "null".toList
  | .bool true => "true".toList
  | .bool false => "false".toList
  | .integer n => integerChars n
  | .decimal text => text.toList
  | .string s => quoted s
  | .array [] => ['[', ']']
  | .array (v :: vs) => '[' :: (compactChars v ++ (compactItems vs ++ [']']))
  | .object [] => ['\x7b', '\x7d']
  | .object ((k, v) :: ms) =>
    '\x7b' :: (quoted k ++ (':' :: (compactChars v ++ (compactMembers ms ++ ['\x7d']))))
  | .unreadable => "null".toList

/-- The items behind the first one, each with a comma before it. -/
def compactItems : List Json → List Char
  | [] => []
  | v :: vs => ',' :: (compactChars v ++ compactItems vs)

/-- The members behind the first one, each with a comma before it. -/
def compactMembers : List (String × Json) → List Char
  | [] => []
  | (k, v) :: ms => ',' :: (quoted k ++ (':' :: (compactChars v ++ compactMembers ms)))

end

/-- A value without spaces. -/
def compact (v : Json) : String := String.ofList v.compactChars

/-- A line break and the indentation of a level. -/
def newline (level : Nat) : List Char := '\n' :: List.replicate (2 * level) ' '

mutual

/-- The characters of a value whose lines are indented. -/
def indentedChars (level : Nat) : Json → List Char
  | .array (v :: vs) =>
    '[' :: (newline (level + 1) ++ (indentedChars (level + 1) v ++
      (indentedItems level vs ++ (newline level ++ [']']))))
  | .object ((k, v) :: ms) =>
    '\x7b' :: (newline (level + 1) ++ (quoted k ++ (':' :: ' ' ::
      (indentedChars (level + 1) v ++ (indentedMembers level ms ++ (newline level ++ ['\x7d']))))))
  | v => compactChars v

/-- The items behind the first one, each on a line of its own. -/
def indentedItems (level : Nat) : List Json → List Char
  | [] => []
  | v :: vs =>
    ',' :: (newline (level + 1) ++ (indentedChars (level + 1) v ++ indentedItems level vs))

/-- The members behind the first one, each on a line of its own. -/
def indentedMembers (level : Nat) : List (String × Json) → List Char
  | [] => []
  | (k, v) :: ms =>
    ',' :: (newline (level + 1) ++ (quoted k ++ (':' :: ' ' ::
      (indentedChars (level + 1) v ++ indentedMembers level ms))))

end

/-- A value with one item or member a line. -/
def indented (v : Json) : String := String.ofList (v.indentedChars 0)

end Json

end ClusterNet
