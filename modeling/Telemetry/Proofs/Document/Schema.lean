import Telemetry.Proofs.Document.Rearrangement

/-!
# Registers and settings read back from JSON

Registers, selections of registers and settings of stores and catalogs read back from their JSON
texts and from every rearrangement of them. All members of settings and selections may be missing;
of a register those may that are not given when it is made.
-/

namespace Telemetry

@[simp] theorem RegisterKind.constant?_name (kind : RegisterKind) :
    (Document.ofString kind.name).constant? .json constants = some kind := by
  cases kind <;> rfl

namespace Register

def schema : Schema Register where
  document := document
  ofDocument? := ofDocument? .json
  names := fieldNames
  optional := ["description", "enum_values", "unit", "sort", "writable"]
  base r := .ofKind r.kind r.category r.name

@[simp] theorem named_document (r : Register) : r.document.named =
    [("category", .ofString r.category), ("name", .ofString r.name),
      ("description", .ofString r.description), ("kind", .ofString r.kind.name)] ++
    (if r.labels.isEmpty then [] else [("enum_values", labelsDocument r.labels)]) ++
    [("unit", .ofString r.unit), ("sort", .integer r.sort.toInt),
      ("writable", .boolean r.writable)] :=
  Document.named_ofMembers _

theorem read?_labelsDocument (labels : Labels) :
    Json.read? (Json.text (labelsDocument labels)) = some (labelsDocument labels) :=
  Json.read?_ofMembers (by grind [Json.read?_ofString])

/-- Labels that are left out are the empty ones. -/
theorem labels_withDefault? {r : Register} {fields : List (String × Document)}
    (h : schema.Holds r fields) :
    Record.withDefault? ⟨fields⟩ "enum_values" labels? .empty = some r.labels := by
  by_cases none_left : r.labels.isEmpty
  · have missing : "enum_values" ∉ r.document.named.map Prod.fst := by simp [none_left]
    rw [h.withDefault?_of_missing (by simp [schema, fieldNames]) missing]
    exact congrArg some (Keyed.eq_of_items (List.isEmpty_iff.1 none_left).symm)
  · exact h.withDefault? _ (labelsDocument r.labels) _ (by simp [schema, none_left])
      (labels?_labelsDocument _) (by simp [schema, ofKind, Keyed.isEmpty, Keyed.empty])

theorem reads {r : Register} {fields : List (String × Document)} (h : schema.Holds r fields) :
    ofDocument? .json (.ofMembers fields) = some r := by
  have record : Record.of? .json fieldNames (.ofMembers fields) = some ⟨fields⟩ :=
    Record.of?_ofMembers h.once
  have category := h.required? "category" (.ofString r.category)
    (by simp [schema]) (by simp [schema]) (Document.string?_ofString _)
  have name := h.required? "name" (.ofString r.name)
    (by simp [schema]) (by simp [schema]) (Document.string?_ofString _)
  have description := h.withDefault? "description" (.ofString r.description) ""
    (by simp [schema]) (Document.string?_ofString _) (by simp [schema, ofKind])
  have kind := h.required? "kind" (.ofString r.kind.name)
    (by simp [schema]) (by simp [schema]) (RegisterKind.constant?_name _)
  have labels := labels_withDefault? h
  have unit := h.withDefault? "unit" (.ofString r.unit) ""
    (by simp [schema]) (Document.string?_ofString _) (by simp [schema, ofKind])
  have sort := h.withDefault? "sort" (.integer r.sort.toInt) 0
    (by simp [schema]) (Document.int32?_toInt _)
    (by simp [schema, ofKind, Document.int32?, Document.integer?])
  have writable := h.withDefault? "writable" (.boolean r.writable) false
    (by simp [schema]) (Document.boolean?_boolean _) (by simp [schema, ofKind])
  simp only [ofDocument?, record, category, name, description, kind, labels, unit, sort,
    writable, Option.bind_eq_bind, Option.bind_some, Option.pure_def]

theorem faithful : schema.Faithful where
  object r := by simp [schema, document]
  distinct r := by
    by_cases empty : r.labels.isEmpty <;> simp [schema, empty]
  known r := by
    by_cases empty : r.labels.isEmpty <;> simp [schema, empty, fieldNames]
  values r := by
    by_cases empty : r.labels.isEmpty <;> simp [schema, empty, read?_labelsDocument]
  reads _ _ := reads

end Register

namespace Selection

def schema : Schema Selection :=
  .ofDefault document (ofDocument? .json) fieldNames {}

@[simp] theorem named_document (c : Selection) : c.document.named =
    [("include_registers", .ofStrings c.includeRegisters),
      ("skip_registers", .ofStrings c.skipRegisters),
      ("include_categories", .ofStrings c.includeCategories),
      ("skip_categories", .ofStrings c.skipCategories),
      ("default_include", .boolean c.defaultInclude)] :=
  Document.named_ofMembers _

theorem reads {c : Selection} {fields : List (String × Document)} (h : schema.Holds c fields) :
    ofDocument? .json (.ofMembers fields) = some c := by
  have record : Record.of? .json fieldNames (.ofMembers fields) = some ⟨fields⟩ :=
    Record.of?_ofMembers h.once
  have includeRegisters := h.withDefault? "include_registers" (.ofStrings c.includeRegisters) []
    (by simp [schema]) (Document.strings?_ofStrings _) (by simp [schema])
  have skipRegisters := h.withDefault? "skip_registers" (.ofStrings c.skipRegisters) []
    (by simp [schema]) (Document.strings?_ofStrings _) (by simp [schema])
  have includeCategories := h.withDefault? "include_categories" (.ofStrings c.includeCategories) []
    (by simp [schema]) (Document.strings?_ofStrings _) (by simp [schema])
  have skipCategories := h.withDefault? "skip_categories" (.ofStrings c.skipCategories) []
    (by simp [schema]) (Document.strings?_ofStrings _) (by simp [schema])
  have defaultInclude := h.withDefault? "default_include" (.boolean c.defaultInclude) true
    (by simp [schema]) (Document.boolean?_boolean _) (by simp [schema])
  simp only [ofDocument?, record, includeRegisters, skipRegisters, includeCategories,
    skipCategories, defaultInclude, Option.bind_eq_bind, Option.bind_some, Option.pure_def]

theorem faithful : schema.Faithful where
  object _ := by simp [schema, document]
  distinct _ := by simp [schema]
  known _ := by simp [schema, fieldNames]
  values _ := by simp [schema]
  reads _ _ := reads

end Selection

@[simp] theorem Overflow.constant?_name (o : Overflow) :
    (Document.ofString o.name).constant? .json constants = some o := by
  cases o <;> rfl

namespace StoreConfig

def schema : Schema StoreConfig :=
  .ofDefault document (ofDocument? .json) fieldNames {}

@[simp] theorem named_document (c : StoreConfig) : c.document.named =
    [("name", .ofString c.name), ("input_capacity", .integer c.inputCapacity.toNat),
      ("subscriber_capacity", .integer c.subscriberCapacity.toNat),
      ("overflow", .ofString c.overflow.name)] :=
  Document.named_ofMembers _

theorem reads {c : StoreConfig} {fields : List (String × Document)} (h : schema.Holds c fields) :
    ofDocument? .json (.ofMembers fields) = some c := by
  have record : Record.of? .json fieldNames (.ofMembers fields) = some ⟨fields⟩ :=
    Record.of?_ofMembers h.once
  have name := h.withDefault? "name" (.ofString c.name) "state"
    (by simp [schema]) (Document.string?_ofString _) (by simp [schema])
  have input := h.withDefault? "input_capacity" (.integer c.inputCapacity.toNat) 4
    (by simp [schema]) (Document.word?_toNat _)
    (by simp [schema, Document.word?, Document.below?, Document.integer?])
  have subscriber := h.withDefault? "subscriber_capacity" (.integer c.subscriberCapacity.toNat) 256
    (by simp [schema]) (Document.word?_toNat _)
    (by simp [schema, Document.word?, Document.below?, Document.integer?])
  have overflow := h.withDefault? "overflow" (.ofString c.overflow.name) .block
    (by simp [schema]) (Overflow.constant?_name _) (by simp [schema])
  simp only [ofDocument?, record, name, input, subscriber, overflow, Option.bind_eq_bind,
    Option.bind_some, Option.pure_def]

theorem faithful : schema.Faithful where
  object _ := by simp [schema, document]
  distinct _ := by simp [schema]
  known _ := by simp [schema, fieldNames]
  values _ := by simp [schema]
  reads _ _ := reads

end StoreConfig

namespace CatalogConfig

def schema : Schema CatalogConfig :=
  .ofDefault document (ofDocument? .json) fieldNames {}

@[simp] theorem named_document (c : CatalogConfig) : c.document.named =
    [("name", .ofString c.name), ("subscriber_capacity", .integer c.subscriberCapacity.toNat),
      ("overflow", .ofString c.overflow.name)] :=
  Document.named_ofMembers _

theorem reads {c : CatalogConfig} {fields : List (String × Document)}
    (h : schema.Holds c fields) : ofDocument? .json (.ofMembers fields) = some c := by
  have record : Record.of? .json fieldNames (.ofMembers fields) = some ⟨fields⟩ :=
    Record.of?_ofMembers h.once
  have name := h.withDefault? "name" (.ofString c.name) "registers"
    (by simp [schema]) (Document.string?_ofString _) (by simp [schema])
  have subscriber := h.withDefault? "subscriber_capacity" (.integer c.subscriberCapacity.toNat) 16
    (by simp [schema]) (Document.word?_toNat _)
    (by simp [schema, Document.word?, Document.below?, Document.integer?])
  have overflow := h.withDefault? "overflow" (.ofString c.overflow.name) .block
    (by simp [schema]) (Overflow.constant?_name _) (by simp [schema])
  simp only [ofDocument?, record, name, subscriber, overflow, Option.bind_eq_bind,
    Option.bind_some, Option.pure_def]

theorem faithful : schema.Faithful where
  object _ := by simp [schema, document]
  distinct _ := by simp [schema]
  known _ := by simp [schema, fieldNames]
  values _ := by simp [schema]
  reads _ _ := reads

end CatalogConfig

/-- Registers, selections of registers and settings read back from their JSON texts and from every
rearrangement of them. -/
theorem schemas_roundTrip :
    Register.schema.RoundTrips ∧ Selection.schema.RoundTrips ∧ StoreConfig.schema.RoundTrips ∧
      CatalogConfig.schema.RoundTrips :=
  ⟨Register.faithful.roundTrips, Selection.faithful.roundTrips, StoreConfig.faithful.roundTrips,
    CatalogConfig.faithful.roundTrips⟩

/-- Members in another order, one that nobody knows, and none where the value is the usual one. -/
example : Register.schema.read?
    "\x7b\"sort\":-3,\"x\":[null],\"kind\":\"text\",\"name\":\"b\",\"category\":\"a\"\x7d" =
      some ((Register.text "a" "b").withSort (-3)) := by
  decide +kernel

end Telemetry
