/-!
# Texts in TOML

The characters that lines may hold, and the four ways to write a text: between double quotes, with
escapes, or between single quotes, as it stands; on one line, or between three quotes on several.
In the long forms a line break counts as one newline character however it is written, and one that
follows the opening quotes does not count.

## Main definitions

* `Toml.skipBlank`, `Toml.skipLines`, `Toml.endLine?`: what stands between tokens.
* `Toml.readText?`: a text in any of the four forms.
-/

namespace Telemetry.Toml

def isBlank (c : Char) : Bool :=
  c == ' ' || c == '\t'

/-- Characters of a line: no controls but the tab. -/
def isLine (c : Char) : Bool :=
  c == '\t' || (0x20 ≤ c.toNat && c.toNat ≠ 0x7f)

def skipBlank (cs : List Char) : List Char :=
  cs.dropWhile isBlank

/-- What follows a line break. -/
def newline? : List Char → Option (List Char)
  | '\n' :: rest => some rest
  | '\r' :: '\n' :: rest => some rest
  | _ => none

/-- What follows an optional comment. -/
def skipComment : List Char → List Char
  | '#' :: rest => rest.dropWhile isLine
  | cs => cs

/-- The next line, if nothing but blanks and a comment is left of this one. -/
def endLine? (cs : List Char) : Option (List Char) :=
  match skipComment (skipBlank cs) with
  | [] => some []
  | rest => newline? rest

/-- What follows blanks, line breaks and comments. -/
def skipLines (inComment : Bool) : List Char → List Char
  | [] => []
  | '\n' :: rest => skipLines false rest
  | '\r' :: '\n' :: rest => skipLines false rest
  | c :: rest =>
    if inComment then if isLine c then skipLines true rest else c :: rest
    else if isBlank c then skipLines false rest
    else if c = '#' then skipLines true rest
    else c :: rest

def hexDigit? (c : Char) : Option Nat :=
  if '0' ≤ c && c ≤ '9' then some (c.toNat - '0'.toNat)
  else if 'a' ≤ c && c ≤ 'f' then some (c.toNat - 'a'.toNat + 10)
  else if 'A' ≤ c && c ≤ 'F' then some (c.toNat - 'A'.toNat + 10)
  else none

/-- The character whose number these digits are, if it is one. -/
def numbered? (digits : List Char) : Option Char := do
  let n ← digits.foldlM (fun n c => (hexDigit? c).map (16 * n + ·)) 0
  if n < 0xd800 || (0xe000 ≤ n && n < 0x110000) then some (Char.ofNat n) else none

def unescape? : Char → Option Char
  | 'b' => some '\x08'
  | 't' => some '\t'
  | 'n' => some '\n'
  | 'f' => some '\x0c'
  | 'r' => some '\r'
  | '\x22' => some '\x22'
  | '\\' => some '\\'
  | _ => none

/-- A text on one line whose opening double quote was read. -/
def readBasic? : List Char → Option (List Char × List Char)
  | [] => none
  | '\x22' :: rest => some ([], rest)
  | '\\' :: 'u' :: a :: b :: c :: d :: rest => do
    let c ← numbered? [a, b, c, d]
    let (text, rest) ← readBasic? rest
    return (c :: text, rest)
  | '\\' :: 'U' :: a :: b :: c :: d :: e :: f :: g :: h :: rest => do
    let c ← numbered? [a, b, c, d, e, f, g, h]
    let (text, rest) ← readBasic? rest
    return (c :: text, rest)
  | '\\' :: c :: rest => do
    let c ← unescape? c
    let (text, rest) ← readBasic? rest
    return (c :: text, rest)
  | c :: rest =>
    if isLine c && c ≠ '\\' then (readBasic? rest).map fun (text, rest) => (c :: text, rest)
    else none

/-- A text on one line whose opening single quote was read. -/
def readLiteral? : List Char → Option (List Char × List Char)
  | [] => none
  | '\'' :: rest => some ([], rest)
  | c :: rest =>
    if isLine c then (readLiteral? rest).map fun (text, rest) => (c :: text, rest) else none

/-- Whether line breaks count in a long text. A backslash at the end of a line starts a gap, in
which neither blanks nor line breaks count; the first line break has to come after blanks only. -/
inductive Gap
  | closed
  | opening
  | opened
  deriving DecidableEq

/-- A long text whose opening double quotes were read. Up to two quotes may stand before the closing
ones. -/
def readLongBasic? : Gap → List Char → Option (List Char × List Char)
  | _, [] => none
  | .opening, '\n' :: rest => readLongBasic? .opened rest
  | .opening, '\r' :: '\n' :: rest => readLongBasic? .opened rest
  | .opening, c :: rest => if isBlank c then readLongBasic? .opening rest else none
  | gap, '\n' :: rest =>
    if gap = .opened then readLongBasic? .opened rest
    else (readLongBasic? .closed rest).map fun (text, rest) => ('\n' :: text, rest)
  | gap, '\r' :: '\n' :: rest =>
    if gap = .opened then readLongBasic? .opened rest
    else (readLongBasic? .closed rest).map fun (text, rest) => ('\n' :: text, rest)
  | _, '\x22' :: '\x22' :: '\x22' :: '\x22' :: '\x22' :: rest => some (['\x22', '\x22'], rest)
  | _, '\x22' :: '\x22' :: '\x22' :: '\x22' :: rest => some (['\x22'], rest)
  | _, '\x22' :: '\x22' :: '\x22' :: rest => some ([], rest)
  | _, '\\' :: 'u' :: a :: b :: c :: d :: rest => do
    let c ← numbered? [a, b, c, d]
    let (text, rest) ← readLongBasic? .closed rest
    return (c :: text, rest)
  | _, '\\' :: 'U' :: a :: b :: c :: d :: e :: f :: g :: h :: rest => do
    let c ← numbered? [a, b, c, d, e, f, g, h]
    let (text, rest) ← readLongBasic? .closed rest
    return (c :: text, rest)
  | _, '\\' :: c :: rest =>
    if isBlank c || c = '\n' || c = '\r' then readLongBasic? .opening (c :: rest)
    else do
      let c ← unescape? c
      let (text, rest) ← readLongBasic? .closed rest
      return (c :: text, rest)
  | gap, c :: rest =>
    if gap = .opened && isBlank c then readLongBasic? .opened rest
    else if isLine c && c ≠ '\\' then
      (readLongBasic? .closed rest).map fun (text, rest) => (c :: text, rest)
    else none

/-- A long text whose opening single quotes were read. -/
def readLongLiteral? : List Char → Option (List Char × List Char)
  | [] => none
  | '\n' :: rest => (readLongLiteral? rest).map fun (text, rest) => ('\n' :: text, rest)
  | '\r' :: '\n' :: rest => (readLongLiteral? rest).map fun (text, rest) => ('\n' :: text, rest)
  | '\'' :: '\'' :: '\'' :: '\'' :: '\'' :: rest => some (['\'', '\''], rest)
  | '\'' :: '\'' :: '\'' :: '\'' :: rest => some (['\''], rest)
  | '\'' :: '\'' :: '\'' :: rest => some ([], rest)
  | c :: rest =>
    if isLine c then (readLongLiteral? rest).map fun (text, rest) => (c :: text, rest) else none

/-- What follows a line break, if there is one. -/
def skipNewline (cs : List Char) : List Char :=
  (newline? cs).getD cs

/-- A text on one line. -/
def readShort? : List Char → Option (List Char × List Char)
  | '\x22' :: rest => readBasic? rest
  | '\'' :: rest => readLiteral? rest
  | _ => none

/-- A text in any form. -/
def readText? : List Char → Option (List Char × List Char)
  | '\x22' :: '\x22' :: '\x22' :: rest => readLongBasic? .closed (skipNewline rest)
  | '\'' :: '\'' :: '\'' :: rest => readLongLiteral? (skipNewline rest)
  | cs => readShort? cs

end Telemetry.Toml
