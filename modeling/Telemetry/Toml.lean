import Telemetry.Toml.Scalar
import Telemetry.Toml.Table

/-!
# TOML

The document of a TOML text, version 1.0. Each line holds a header, or a key and a value, or nothing
but a comment. Arrays and braces are nested less than eighty deep, and keys have less than eighty
parts.

## Main definitions

* `Toml.readValue?`: a value.
* `Toml.read?`: the document of a text.
-/

namespace Telemetry.Toml

/-! ## Keys -/

def isBareKey (c : Char) : Bool :=
  c.isAlphanum || c == '-' || c == '_'

/-- One part of a key, with the blanks around it. -/
def readPart? (cs : List Char) : Option (String × List Char) := do
  let cs := skipBlank cs
  let (part, rest) ← match cs.span isBareKey with
    | ([], _) => readShort? cs
    | (part, rest) => some (part, rest)
  return (String.ofList part, skipBlank rest)

/-- Keys have less parts than this, and values are nested less deep. -/
def depthLimit : Nat := 80

/-- The parts of a dotted key: those before the last, the last, and what follows. -/
def readKey? : Nat → List Char → Option (List String × String × List Char)
  | 0, _ => none
  | fuel + 1, cs => do
    match ← readPart? cs with
    | (part, '.' :: rest) =>
      let (path, key, rest) ← readKey? fuel rest
      return (part :: path, key, rest)
    | (part, rest) => return ([], part, rest)

/-! ## Values -/

/-- The items of an array up to the closing bracket. A comma may follow the last one. -/
def readItems? (readValue : List Char → Option (Document × List Char)) :
    Nat → List Char → Option (List Document × List Char)
  | 0, _ => none
  | fuel + 1, cs =>
    match skipLines false cs with
    | ']' :: rest => some ([], rest)
    | cs => do
      let (item, rest) ← readValue cs
      match skipLines false rest with
      | ']' :: rest => return ([item], rest)
      | ',' :: rest =>
        let (items, rest) ← readItems? readValue fuel rest
        return (item :: items, rest)
      | _ => none

/-- Keys and values, divided by commas, up to the closing brace. -/
def readMembers? (readValue : List Char → Option (Document × List Char)) :
    Nat → Members → List Char → Option (Members × List Char)
  | 0, _, _ => none
  | fuel + 1, m, cs => do
    let (path, key, rest) ← readKey? (depthLimit - 1) cs
    let (value, rest) ← readValue (skipBlank (← expect? '=' rest))
    let m ← m.insert? path key value
    match skipBlank rest with
    | '\x7d' :: rest => return (m, rest)
    | ',' :: rest => readMembers? readValue fuel m rest
    | _ => none

/-- A value that holds no other. -/
def readScalar? (cs : List Char) : Option (Document × List Char) :=
  match cs with
  | [] => none
  | c :: _ =>
    if c = '\x22' || c = '\'' then
      (readText? cs).map fun (text, rest) => (.ofString (String.ofList text), rest)
    else
      match cs with
      | 't' :: 'r' :: 'u' :: 'e' :: rest => some (.boolean true, rest)
      | 'f' :: 'a' :: 'l' :: 's' :: 'e' :: rest => some (.boolean false, rest)
      | _ => (readMoment? cs).orElse fun _ => readNumber? cs

/-- A value in which at most `depth` arrays and braces are nested. -/
def readValue? : Nat → List Char → Option (Document × List Char)
  | 0, cs =>
    match cs with
    | '[' :: _ => none
    | '\x7b' :: _ => none
    | _ => readScalar? cs
  | depth + 1, cs =>
    match cs with
    | '[' :: rest =>
      (readItems? (readValue? depth) (rest.length + 1) rest).map fun (items, rest) =>
        (.array items, rest)
    | '\x7b' :: rest =>
      match skipBlank rest with
      | '\x7d' :: rest => some (.object [], rest)
      | rest =>
        (readMembers? (readValue? depth) (rest.length + 1) [] rest).map fun (m, rest) =>
          (m.document, rest)
    | _ => readScalar? cs

/-! ## Lines -/

/-- A text as far as it was read: the tree, and the header that keys belong to. -/
structure Draft where
  members : Members := []
  header : List String := []

namespace Draft

/-- A header whose opening bracket was read. -/
def readHeader? (s : Draft) (cs : List Char) : Option (Draft × List Char) := do
  match cs with
  | '[' :: rest =>
    let (path, key, rest) ← readKey? (depthLimit - 1) rest
    let rest ← expect? ']' (← expect? ']' rest)
    return (⟨← s.members.append? path key, path ++ [key]⟩, ← endLine? rest)
  | _ =>
    let (path, key, rest) ← readKey? (depthLimit - 1) cs
    let rest ← expect? ']' rest
    return (⟨← s.members.open? path key, path ++ [key]⟩, ← endLine? rest)

/-- A key with its value. -/
def readPair? (s : Draft) (cs : List Char) : Option (Draft × List Char) := do
  let (path, key, rest) ← readKey? (depthLimit - 1) cs
  let (value, rest) ← readValue? (depthLimit - 1) (skipBlank (← expect? '=' rest))
  return ({ s with members := ← s.members.insertBelow? s.header path key value },
    ← endLine? rest)

/-- All lines. Each takes one character at least. -/
def readLines? : Nat → Draft → List Char → Option Members
  | 0, _, _ => none
  | fuel + 1, s, cs =>
    match skipLines false cs with
    | [] => some s.members
    | '[' :: rest => do
      let (s, rest) ← s.readHeader? rest
      readLines? fuel s rest
    | cs => do
      let (s, rest) ← s.readPair? cs
      readLines? fuel s rest

end Draft

/-- What follows a byte order mark, if there is one. -/
def skipMark (cs : List Char) : List Char :=
  match cs with
  | c :: rest => if c.toNat = 0xfeff then rest else cs
  | [] => cs

def read? (s : String) : Option Document :=
  let cs := skipMark s.toList
  (Draft.readLines? (cs.length + 1) {} cs).map Members.document

end Telemetry.Toml
