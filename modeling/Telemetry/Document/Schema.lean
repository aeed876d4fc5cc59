import Telemetry.Config
import Telemetry.Document.Fields
import Telemetry.Filter

/-!
# Documents of registers, values and settings

The document form of each type that is read from or written to a text. Fields are written in a
fixed order; on reading, fields that have a default may be missing.

## Main definitions

* `Register.document`, `Register.ofDocument?`, and the same for selections and settings.
* `Value.document`: a value with its register and time.
* `Value.published`: the payload alone, as it is shown to the outside.
-/

namespace Telemetry

namespace RegisterKind

def constants : List (String × RegisterKind) :=
  [number, text, enumeration].map fun kind => (kind.name, kind)

end RegisterKind

namespace Overflow

def constants : List (String × Overflow) :=
  [block, dropNewest].map fun overflow => (overflow.name, overflow)

end Overflow

namespace Register

def labelsDocument (labels : Labels) : Document :=
  .ofMembers (labels.items.map fun entry =>
    (String.ofList (integerText entry.1.toInt), .ofString entry.2))

def fieldNames : List String :=
  ["category", "name", "description", "kind", "enum_values", "unit", "sort", "writable"]

/-- Labels are left out if there are none. -/
def document (r : Register) : Document :=
  .ofMembers ([("category", .ofString r.category), ("name", .ofString r.name),
      ("description", .ofString r.description), ("kind", .ofString r.kind.name)] ++
    (if r.labels.isEmpty then [] else [("enum_values", labelsDocument r.labels)]) ++
    [("unit", .ofString r.unit), ("sort", .integer r.sort.toInt),
      ("writable", .boolean r.writable)])

/-- Of labels with the same index the last one counts. -/
def labels? (d : Document) : Option Labels :=
  (d.numbered? Document.string?).map Keyed.ofList

def ofDocument? (format : Format) (d : Document) : Option Register := do
  let record ← Record.of? format fieldNames d
  let category ← record.required? "category" Document.string?
  let name ← record.required? "name" Document.string?
  let description ← record.withDefault? "description" Document.string? ""
  let kind ← record.required? "kind" (Document.constant? format RegisterKind.constants)
  let labels ← record.withDefault? "enum_values" labels? .empty
  let unit ← record.withDefault? "unit" Document.string? ""
  let sort ← record.withDefault? "sort" Document.int32? 0
  let writable ← record.withDefault? "writable" Document.boolean? false
  return { category, name, description, kind, labels, unit, sort, writable }

end Register

namespace Selection

def fieldNames : List String :=
  ["include_registers", "skip_registers", "include_categories", "skip_categories",
    "default_include"]

def document (s : Selection) : Document :=
  .ofMembers [("include_registers", .ofStrings s.includeRegisters),
    ("skip_registers", .ofStrings s.skipRegisters),
    ("include_categories", .ofStrings s.includeCategories),
    ("skip_categories", .ofStrings s.skipCategories),
    ("default_include", .boolean s.defaultInclude)]

/-- Every field may be missing. -/
def ofDocument? (format : Format) (d : Document) : Option Selection := do
  let record ← Record.of? format fieldNames d
  let includeRegisters ← record.withDefault? "include_registers" Document.strings? []
  let skipRegisters ← record.withDefault? "skip_registers" Document.strings? []
  let includeCategories ← record.withDefault? "include_categories" Document.strings? []
  let skipCategories ← record.withDefault? "skip_categories" Document.strings? []
  let defaultInclude ← record.withDefault? "default_include" Document.boolean? true
  return { includeRegisters, skipRegisters, includeCategories, skipCategories, defaultInclude }

end Selection

namespace StoreConfig

def fieldNames : List String :=
  ["name", "input_capacity", "subscriber_capacity", "overflow"]

def document (c : StoreConfig) : Document :=
  .ofMembers [("name", .ofString c.name), ("input_capacity", .integer c.inputCapacity.toNat),
    ("subscriber_capacity", .integer c.subscriberCapacity.toNat),
    ("overflow", .ofString c.overflow.name)]

/-- Every field may be missing. -/
def ofDocument? (format : Format) (d : Document) : Option StoreConfig := do
  let base : StoreConfig := {}
  let record ← Record.of? format fieldNames d
  let name ← record.withDefault? "name" Document.string? base.name
  let inputCapacity ← record.withDefault? "input_capacity" Document.word? base.inputCapacity
  let subscriberCapacity ←
    record.withDefault? "subscriber_capacity" Document.word? base.subscriberCapacity
  let overflow ←
    record.withDefault? "overflow" (Document.constant? format Overflow.constants) base.overflow
  return { name, inputCapacity, subscriberCapacity, overflow }

end StoreConfig

namespace CatalogConfig

def fieldNames : List String :=
  ["name", "subscriber_capacity", "overflow"]

def document (c : CatalogConfig) : Document :=
  .ofMembers [("name", .ofString c.name),
    ("subscriber_capacity", .integer c.subscriberCapacity.toNat),
    ("overflow", .ofString c.overflow.name)]

/-- Every field may be missing. -/
def ofDocument? (format : Format) (d : Document) : Option CatalogConfig := do
  let base : CatalogConfig := {}
  let record ← Record.of? format fieldNames d
  let name ← record.withDefault? "name" Document.string? base.name
  let subscriberCapacity ←
    record.withDefault? "subscriber_capacity" Document.word? base.subscriberCapacity
  let overflow ←
    record.withDefault? "overflow" (Document.constant? format Overflow.constants) base.overflow
  return { name, subscriberCapacity, overflow }

end CatalogConfig

namespace Payload

/-- Type and value; nothing has a type only. -/
def document (p : Payload) : Document :=
  let value : List (String × Document) := match p with
    | numeric x => [("value", .real (some x))]
    | text s => [("value", .ofString s)]
    | enumeration i => [("value", .integer i.toInt)]
    | null => []
  .ofMembers (("type", .ofString p.typeName) :: value)

end Payload

namespace Value

def document (v : Value) : Document :=
  .ofMembers [("device_name", .ofString v.device), ("register", v.register.document),
    ("payload", v.payload.document), ("timestamp", .ofString v.time.text)]

/-- The payload as it is shown to the outside: the label of an index, if it has one. -/
def published (v : Value) : Document :=
  match v.payload with
  | .numeric x => .real (some x)
  | .text s => .ofString s
  | .enumeration i =>
    match v.register.label? i with
    | some label => .ofString label
    | none => .integer i.toInt
  | .null => .null

end Value

end Telemetry
