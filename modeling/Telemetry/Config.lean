import Telemetry.Error
import Telemetry.Text.Blank

/-!
# Settings of stores and catalogs

Sizes of queues and what to do when a subscriber's queue is full, with defaults, validation and
overrides from the environment.

## Main definitions

* `Overflow`: what happens at a full queue.
* `StoreConfig`, `CatalogConfig`: the settings.
* `StoreConfig.override`: the settings under an environment.
-/

namespace Telemetry

/-- What happens to an update for a subscriber whose queue is full: the store waits for room, or
this subscriber misses it. -/
inductive Overflow
  | block
  | dropNewest
  deriving DecidableEq, Repr

namespace Overflow

def name : Overflow → String
  | block => "block"
  | dropNewest => "drop_newest"

/-- Reads a policy, in any case and with blanks around it. -/
def read (s : String) : Except Error Overflow :=
  match Text.lower (Text.trim s) with
  | "block" => .ok .block
  | "drop_newest" | "drop-newest" | "drop" => .ok .dropNewest
  | other => .error (.unknownOverflow other)

end Overflow

structure StoreConfig where
  name : String := "state"
  /-- Room for values that wait to be applied. -/
  inputCapacity : UInt64 := 4
  /-- Room for live updates of one subscriber, on top of its replay. -/
  subscriberCapacity : UInt64 := 256
  overflow : Overflow := .block
  deriving DecidableEq, Repr

structure CatalogConfig where
  name : String := "registers"
  subscriberCapacity : UInt64 := 16
  overflow : Overflow := .block
  deriving DecidableEq, Repr

/-- Requests that wait for the owner of a store. -/
def controlCapacity : Nat := 16

/-- No queue can be larger. -/
def queueLimit : Nat := Nat.pow 2 61 - 1

/-- The digits of a number below `2 ^ 64`. The first digit that is none or does not fit decides
the fault. -/
def readDigits (n : Nat) : List Char → Except CapacityFault UInt64
  | [] => .ok (UInt64.ofNat n)
  | c :: rest =>
    if !c.isDigit then .error .digit
    else
      let next := 10 * n + (c.toNat - '0'.toNat)
      if next < Nat.pow 2 64 then readDigits next rest else .error .tooLarge

/-- A number below `2 ^ 64`, with a plus sign or none. -/
def readCapacity (s : String) : Except CapacityFault UInt64 :=
  match s.toList with
  | [] => .error .empty
  | ['+'] => .error .digit
  | '+' :: rest => readDigits 0 rest
  | cs => readDigits 0 cs

namespace StoreConfig

def named (name : String) : StoreConfig := { name }

def validate (c : StoreConfig) : Except Error Unit :=
  if c.inputCapacity = 0 then .error (.noInputCapacity c.name)
  else if c.subscriberCapacity = 0 then .error (.noSubscriberCapacity c.name)
  else .ok ()

def inputVariable : String := "FIELDFLOW_INPUT_CAPACITY"

def subscriberVariable : String := "FIELDFLOW_SUBSCRIBER_CAPACITY"

def overflowVariable : String := "FIELDFLOW_OVERFLOW"

private def capacityOf (lookup : String → Option String) (setting : String)
    (otherwise : UInt64) : Except Error UInt64 :=
  match lookup setting with
  | none => .ok otherwise
  | some text =>
    match readCapacity (Text.trim text) with
    | .ok n => .ok n
    | .error fault => .error (.badCapacity setting text fault)

/-- The variables of the environment that count. -/
def settingNames : List String :=
  [inputVariable, subscriberVariable, overflowVariable]

/-- The settings with those that the environment sets put in their place. -/
def override (c : StoreConfig) (lookup : String → Option String) : Except Error StoreConfig := do
  let inputCapacity ← capacityOf lookup inputVariable c.inputCapacity
  let subscriberCapacity ← capacityOf lookup subscriberVariable c.subscriberCapacity
  let overflow ← match lookup overflowVariable with
    | none => .ok c.overflow
    | some text => Overflow.read text
  return { c with inputCapacity, subscriberCapacity, overflow }

end StoreConfig

namespace CatalogConfig

def named (name : String) : CatalogConfig := { name }

def validate (c : CatalogConfig) : Except Error Unit :=
  if c.subscriberCapacity = 0 then .error (.noSubscriberCapacity c.name) else .ok ()

end CatalogConfig

end Telemetry
