import ClusterNet.Text.Decimal
import ClusterNet.Text.Percent

/-!
# Addresses of resources

An absolute address names a scheme, a host and what is asked of it. What is asked is sent along
with the request: a path and a query.

## Main definitions

* `Http.baseUrl` — the address of a host given by its name or by its address;
* `Http.Url` — an address in parts;
* `Http.Url.parse?` — the parts of an address;
* `Http.Url.target` — what is asked of the host.

## Form of the parts

Characters that may not stand in a path or in a query are percent-encoded there. A path has no
parts `.` and `..`: the first stays where it is, the second goes one part back. What follows `#` is
not sent.
-/

namespace ClusterNet

namespace Http

/-- The schemes by which hosts are addressed, as they are written in front of the host. -/
def schemes : List String := ["http://", "https://"]

/-- The address of a host. A name that does not say how the host is to be addressed is completed.
Slashes at the end are dropped. -/
def baseUrl (host : String) : String :=
  let host := String.ofList (host.toList.reverse.dropWhile (· == '/')).reverse
  if schemes.any fun s => s.toList.isPrefixOf host.toList then host else "https://" ++ host

/-- An address in parts. -/
structure Url where
  /-- Whether the exchange is encrypted. -/
  isSecure : Bool
  /-- The host and, unless it is the usual one, the port. -/
  authority : String
  /-- The parts of the path, in the form in which they are sent. -/
  path : List (List Char)
  /-- The query, in the form in which it is sent. -/
  query : Option (List Char)
deriving DecidableEq, Repr

namespace Url

/-! ### Characters -/

/-- Whether the character is a visible ASCII character. -/
def isVisible (c : Char) : Bool := 33 ≤ c.toNat && c.toNat ≤ 126

/-- The characters that stand for themselves in a path. -/
def isPathPlain (c : Char) : Bool := isVisible c && !"\"#<>?\x60\x7b\x7d".toList.contains c

/-- The characters that stand for themselves in a query. -/
def isQueryPlain (c : Char) : Bool := isVisible c && !"\"#<>'".toList.contains c

/-- The characters that no host's name has. -/
def isForbiddenInHost (c : Char) : Bool :=
  c.toNat ≤ 32 || c.toNat == 127 || "#/:<>?@[\\]^|%".toList.contains c

/-- Whether the character separates the parts of a path. -/
def isSlash (c : Char) : Bool := c == '/' || c == '\\'

/-! ### Host and port -/

/-- A port, unless it is the usual one. There is no answer if it is none. -/
def port? (isSecure : Bool) (digits : List Char) : Option (List Char) :=
  if digits.isEmpty then some []
  else ((Text.number? 10 digits).filter (· < 0x10000)).map fun n =>
    if n = (if isSecure then 443 else 80) then [] else ':' :: (toString n).toList

/-- A host and a port as they are written behind any user. -/
def authority? (isSecure : Bool) (cs : List Char) : Option String :=
  let cs := if cs.contains '@' then (cs.reverse.takeWhile (· != '@')).reverse else cs
  let (host, port) :=
    match cs with
    | '[' :: rest =>
      let inner := rest.takeWhile (· != ']')
      ('[' :: inner ++ [']'], rest.drop (inner.length + 1))
    | _ => cs.span (· != ':')
  let isHost :=
    match host with
    | '[' :: inner => inner.dropLast.all fun c => c.isAlphanum || c == ':' || c == '.'
    | host => !host.isEmpty && !host.any isForbiddenInHost
  let digits :=
    match port with
    | [] => some []
    | ':' :: digits => some digits
    | _ => none
  if isHost then
    (digits.bind (port? isSecure)).map fun port => String.ofList (host.map Char.toLower ++ port)
  else none

/-! ### Paths -/

/-- The spellings of a part that stays where it is. -/
def stays : List String := [".", "%2e"]

/-- The spellings of a part that goes back. -/
def goesBack : List String := ["..", ".%2e", "%2e.", "%2e%2e"]

/-- Whether a part is one of some spellings, in either case. -/
def isOneOf (spellings : List String) (part : List Char) : Bool :=
  spellings.contains (String.ofList (part.map Char.toLower))

/-- The parts that are left of a path when the parts in `done` have been gone through, the last of
them in front. A path that ends in a part that stays or goes back ends in an empty one. -/
def resolved (done : List (List Char)) : List (List Char) → List (List Char)
  | [] => done.reverse
  | part :: parts =>
    let done' :=
      if isOneOf goesBack part then done.tail
      else if isOneOf stays part then done
      else part :: done
    if parts.isEmpty && isOneOf (stays ++ goesBack) part then ([] :: done').reverse
    else resolved done' parts

/-- The parts of a text between the characters of a class. -/
def partsBy (isMark : Char → Bool) : List Char → List (List Char)
  | [] => [[]]
  | c :: cs =>
    if isMark c then [] :: partsBy isMark cs
    else
      match partsBy isMark cs with
      | part :: parts => (c :: part) :: parts
      | [] => [[c]]

/-- The path that is written as such. -/
def pathOf (cs : List Char) : List (List Char) :=
  let encoded (part : List Char) := Text.percentEncoded isPathPlain (String.ofList part)
  resolved [] ((partsBy isSlash (cs.drop 1)).map encoded)

/-! ### Addresses -/

/-- The text without what is never part of an address: control characters and blanks at its ends,
and tabs and line ends anywhere. -/
def cleaned (s : String) : List Char :=
  let isEnd (c : Char) : Bool := c.toNat ≤ 32
  let cs := ((s.toList.dropWhile isEnd).reverse.dropWhile isEnd).reverse
  cs.filter fun c => !"\t\r\n".toList.contains c

/-- The parts of an address. -/
def parse? (s : String) : Option Url :=
  let cs := cleaned s
  match schemes.find? fun scheme => scheme.toList.isPrefixOf cs with
  | none => none
  | some scheme =>
    let isSecure := scheme == "https://"
    let rest := (cs.drop scheme.length).dropWhile isSlash
    let sent := rest.takeWhile (· != '#')
    let (place, query) := sent.span (· != '?')
    let (authority, path) := place.span fun c => !isSlash c
    (authority? isSecure authority).map fun authority => {
      isSecure, authority
      path := pathOf path
      query := if query.isEmpty then none
        else some (Text.percentEncoded isQueryPlain (String.ofList (query.drop 1))) }

/-- The address with more fields in its query. -/
def withFields (u : Url) (fields : List (String × String)) : Url :=
  if fields.isEmpty then u
  else
    let added := (Text.form fields).toList
    let query := (u.query.filter fun q => !q.isEmpty).map fun q => q ++ '&' :: added
    { u with query := some (query.getD added) }

/-- What is asked of the host. -/
def target (u : Url) : String :=
  let path := u.path.flatMap fun part => '/' :: part
  String.ofList (path ++ (u.query.map fun q => '?' :: q).getD [])

end Url

end Http

end ClusterNet
