import Telemetry.Document

/-!
# Tables in TOML

The rules by which headers and keys make up a tree of tables. A table has one header at most. A
header may come after the tables below it. Tables that a dotted key made take more dotted keys and
no header, and tables with a header take no dotted keys from outside.

## Main definitions

* `Toml.Item`: what stands under a key.
* `Toml.Members.insert?`, `Toml.Members.open?`, `Toml.Members.append?`: the effect of a key, of a
  header and of the header of an array.
* `Toml.Members.document`: the finished tree.
-/

namespace Telemetry.Toml

/-- Where a table comes from. -/
inductive Origin
  /-- Its own header, or braces. -/
  | header
  /-- The header of a table below it. -/
  | implied
  /-- A dotted key. -/
  | dotted
  deriving DecidableEq

inductive Item
  | value (d : Document)
  | table (origin : Origin) (members : List (String × Item))
  /-- An array of tables, each with a header of its own. -/
  | tables (items : List (List (String × Item)))

abbrev Members := List (String × Item)

namespace Members

/-- The members with another item under a key that is there. -/
def replace (m : Members) (key : String) (item : Item) : Members :=
  m.map fun entry => if entry.1 = key then (key, item) else entry

/-- Changes the table at the end of a path. Tables on the way that are not there yet are made, with
the given origin. The way leads through the last table of an array, and for a dotted key through
no table with a header. -/
def modify? (origin : Origin) (f : Origin → Members → Option Members) :
    List String → Origin → Members → Option Members
  | [], here, m => f here m
  | key :: path, _, m =>
    match List.lookup key m with
    | none => do
      let inner ← modify? origin f path origin []
      return m ++ [(key, .table origin inner)]
    | some (.value _) => none
    | some (.table below inner) =>
      if origin = .dotted && below = .header then none
      else do
        let inner ← modify? origin f path below inner
        return replace m key (.table below inner)
    | some (.tables items) =>
      match items.getLast? with
      | none => none
      | some last => do
        let last ← modify? origin f path .header last
        return replace m key (.tables (items.dropLast ++ [last]))

/-- A value under a new key, which may be dotted. -/
def insert? (path : List String) (key : String) (d : Document) (m : Members) : Option Members :=
  modify? .dotted (fun here m =>
    if (here = .dotted) = path.isEmpty then none
    else if (List.lookup key m).isSome then none
    else some (m ++ [(key, .value d)])) path .header m

/-- The header of a table. -/
def open? (path : List String) (key : String) (m : Members) : Option Members :=
  modify? .implied (fun _ m =>
    match List.lookup key m with
    | none => some (m ++ [(key, .table .header [])])
    | some (.table .implied inner) => some (replace m key (.table .header inner))
    | some _ => none) path .header m

/-- The header of one more table of an array. -/
def append? (path : List String) (key : String) (m : Members) : Option Members :=
  modify? .implied (fun _ m =>
    match List.lookup key m with
    | none => some (m ++ [(key, .tables [[]])])
    | some (.tables items) => some (replace m key (.tables (items ++ [[]])))
    | some _ => none) path .header m

/-- A value under a key of the table that a header opened. -/
def insertBelow? (header path : List String) (key : String) (d : Document) (m : Members) :
    Option Members :=
  modify? .implied (fun _ m => insert? path key d m) header .header m

end Members

mutual

def Item.document : Item → Document
  | .value d => d
  | .table _ members => .object (Members.documents members)
  | .tables items => .array (Members.objects items)

def Members.documents : List (String × Item) → List (Quotation × Document)
  | [] => []
  | (key, item) :: rest => (.ofString key, item.document) :: Members.documents rest

def Members.objects : List (List (String × Item)) → List Document
  | [] => []
  | members :: rest => .object (Members.documents members) :: Members.objects rest

end

namespace Members

def document (m : Members) : Document :=
  .object (documents m)

end Members

end Telemetry.Toml
