import Telemetry.Value

/-!
# Filters

Pure predicates on registers and values, closed under conjunction. Selections are the form in
which configurations choose registers: lists of names and categories to include and to skip.

## Main definitions

* `Selection`: include and skip lists.
* `RegisterFilter`, `ValueFilter`: the predicates.
-/

namespace Telemetry

/-- Which registers to take. Names come before categories, inclusion before skipping, and
`defaultInclude` decides on registers that no list mentions. -/
structure Selection where
  includeRegisters : List String := []
  skipRegisters : List String := []
  includeCategories : List String := []
  skipCategories : List String := []
  defaultInclude : Bool := true
  deriving DecidableEq, Repr

namespace Selection

def includeAll : Selection := {}

def excludeAll : Selection := { defaultInclude := false }

def includeRegister (s : Selection) (name : String) : Selection :=
  { s with includeRegisters := s.includeRegisters ++ [name] }

def skipRegister (s : Selection) (name : String) : Selection :=
  { s with skipRegisters := s.skipRegisters ++ [name] }

def includeCategory (s : Selection) (category : String) : Selection :=
  { s with includeCategories := s.includeCategories ++ [category] }

def skipCategory (s : Selection) (category : String) : Selection :=
  { s with skipCategories := s.skipCategories ++ [category] }

def accepts (s : Selection) (r : Register) : Bool :=
  if s.includeRegisters.contains r.name then true
  else if s.skipRegisters.contains r.name then false
  else if s.includeCategories.contains r.category then true
  else if s.skipCategories.contains r.category then false
  else s.defaultInclude

end Selection

inductive RegisterFilter
  | all
  | writable
  | selection (s : Selection)
  | names (allowed : List String)
  /-- Any predicate. -/
  | test (p : Register → Bool)
  | and (a b : RegisterFilter)

namespace RegisterFilter

def accepts : RegisterFilter → Register → Bool
  | all, _ => true
  | writable, r => r.writable
  | selection s, r => s.accepts r
  | names l, r => l.contains r.name
  | test p, r => p r
  | and a b, r => a.accepts r && b.accepts r

/-- The accepted registers, in their order. -/
def filter (f : RegisterFilter) (registers : List Register) : List Register :=
  registers.filter f.accepts

end RegisterFilter

inductive ValueFilter
  | all
  | device (name : String)
  | nonNull
  | writable
  /-- The register of the value passes. -/
  | register (f : RegisterFilter)
  /-- Any predicate. -/
  | test (p : Value → Bool)
  | and (a b : ValueFilter)

namespace ValueFilter

def accepts : ValueFilter → Value → Bool
  | all, _ => true
  | device n, v => v.device == n
  | nonNull, v => !v.isNull
  | writable, v => v.register.writable
  | register f, v => f.accepts v.register
  | test p, v => p v
  | and a b, v => a.accepts v && b.accepts v

def selection (s : Selection) : ValueFilter :=
  .register (.selection s)

/-- Values of one device whose register the selection takes. -/
def deviceSelection (name : String) (s : Selection) : ValueFilter :=
  .and (.device name) (selection s)

/-- Commands that wait for one device: addressed to it, writable and not yet carried out. -/
def commandsFor (name : String) : ValueFilter :=
  .and (.and (.device name) .writable) .nonNull

end ValueFilter

end Telemetry
