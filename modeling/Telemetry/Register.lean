import Telemetry.Keyed

/-!
# Registers

A register describes one named data point of a device: what a reading of it means, how to show it
and whether it may be commanded. Registers never change; an edited register is a new one, and two
registers are equal when all their fields are.

## Main definitions

* `Register`: the description.
* `Register.ordered`: the order in which registers are shown.
-/

namespace Telemetry

/-- What a reading of a register holds. -/
inductive RegisterKind
  | number
  | text
  | enumeration
  deriving DecidableEq, Repr

namespace RegisterKind

def name : RegisterKind → String
  | number => "number"
  | text => "text"
  | enumeration => "enum"

end RegisterKind

/-- Labels of the indices that an enumeration register can take. -/
abbrev Labels := Keyed (Prod.fst : Int32 × String → Int32)

structure Register where
  category : String
  /-- Unique among the registers of one device. -/
  name : String
  description : String := ""
  kind : RegisterKind
  labels : Labels := .empty
  /-- Empty for a quantity without dimension. -/
  unit : String := ""
  /-- Registers are shown in ascending order of this number. -/
  sort : Int32 := 0
  /-- Whether consumers may command the register. -/
  writable : Bool := false
  deriving DecidableEq

namespace Register

def ofKind (kind : RegisterKind) (category name : String) : Register :=
  { category, name, kind }

def number : String → String → Register := ofKind .number

def text : String → String → Register := ofKind .text

def enumeration : String → String → Register := ofKind .enumeration

def withDescription (r : Register) (description : String) : Register :=
  { r with description }

def withUnit (r : Register) (unit : String) : Register :=
  { r with unit }

def withSort (r : Register) (sort : Int32) : Register :=
  { r with sort }

def withLabel (r : Register) (index : Int32) (label : String) : Register :=
  { r with labels := r.labels.insert (index, label) }

def withLabels (r : Register) (entries : List (Int32 × String)) : Register :=
  { r with labels := entries.foldl (fun m e => m.insert e) r.labels }

def asWritable (r : Register) : Register :=
  { r with writable := true }

/-- The label of an index, if the register has one for it. -/
def label? (r : Register) (index : Int32) : Option String :=
  (r.labels.find? index).map Prod.snd

def isEnumeration (r : Register) : Bool :=
  r.kind == .enumeration

/-- By sort number, then category, then name. -/
def compareShown (a b : Register) : Ordering :=
  ((compare a.sort b.sort).then (compare a.category b.category)).then (compare a.name b.name)

/-- Registers in the order in which they are shown. Those that compare equal keep their order. -/
def ordered (registers : List Register) : List Register :=
  registers.mergeSort fun a b => (compareShown a b).isLE

end Register

end Telemetry
