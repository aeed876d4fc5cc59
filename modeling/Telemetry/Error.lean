import Telemetry.Value

/-!
# Errors

Every cause of failure of the library, with its wording. Waiting for room is never an error.

## Main definitions

* `Error`: the causes.
* `Error.kind`, `Error.message`: the family of a cause and its text.
-/

namespace Telemetry

/-- Why a text is not a capacity. -/
inductive CapacityFault
  | empty
  | digit
  | tooLarge
  deriving DecidableEq, Repr

namespace CapacityFault

def message : CapacityFault → String
  | empty => "cannot parse integer from empty string"
  | digit => "invalid digit found in string"
  | tooLarge => "number too large to fit in target type"

end CapacityFault

inductive Error
  /-- The owner of a store is gone. -/
  | closed (store : String)
  | noInputCapacity (store : String)
  | noSubscriberCapacity (store : String)
  | unknownOverflow (word : String)
  | badCapacity (setting text : String) (fault : CapacityFault)
  | kind (fault : KindFault)
  deriving DecidableEq

inductive ErrorKind
  | closed
  | config
  | validation
  deriving DecidableEq, Repr

namespace KindFault

def message : KindFault → String
  | unmapped key index => s!"{key.text}: enum index {index.toInt} is not mapped"
  | mismatch key payload kind => s!"{key.text}: {payload} payload on a {kind.name} register"

end KindFault

namespace Error

def errorKind : Error → ErrorKind
  | closed _ => .closed
  | kind _ => .validation
  | _ => .config

/-- The cause without the words for its family. -/
def detail : Error → String
  | closed store => store
  | noInputCapacity store => s!"{store}: input_capacity must be at least 1"
  | noSubscriberCapacity store => s!"{store}: subscriber_capacity must be at least 1"
  | unknownOverflow word => s!"unknown overflow policy: {word}"
  | badCapacity setting text fault => s!"{setting}={Text.quote text}: {fault.message}"
  | kind fault => fault.message

def message (e : Error) : String :=
  match e.errorKind with
  | .closed => "Store closed: " ++ e.detail
  | .config => "Configuration error: " ++ e.detail
  | .validation => "Validation error: " ++ e.detail

end Error

end Telemetry
