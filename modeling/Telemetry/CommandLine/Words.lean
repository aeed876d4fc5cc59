/-!
# Words on a command line

Switches and the word of a command, in the usual form: `--name`, `--name value`, `--name=value`,
`-n`, `-n value`, `-nvalue`, `-n=value`, and several letters behind one dash. No switch may be given
twice. A switch may ask for something else instead, such as a version, and what follows it is then
not looked at.

## Main definitions

* `Switch`, `Interrupt`: what may be given, and what stops the reading.
* `read`: the switches before the first word.
-/

namespace Telemetry.CommandLine

/-- Why reading stops before the end. -/
inductive Interrupt
  | version
  | help
  | misuse
  deriving DecidableEq, Repr

inductive Effect
  /-- It is there or not. -/
  | flag
  /-- It takes a value of some form. -/
  | value (accepts : String → Bool)
  | interrupt (i : Interrupt)

structure Switch where
  name : String
  letter : Option Char := none
  effect : Effect

/-- The switches given, with their values. -/
abbrev Given := List (String × String)

/-- The switches given so far, and one that waits for its value. -/
structure Reading where
  given : Given := []
  pending : Option Switch := none

namespace Reading

def record (r : Reading) (name value : String) : Except Interrupt Reading :=
  if r.given.any (·.1 == name) then .error .misuse
  else .ok { given := r.given ++ [(name, value)] }

def giveValue (r : Reading) (s : Switch) (value : String) : Except Interrupt Reading :=
  match s.effect with
  | .value accepts => if accepts value then r.record s.name value else .error .misuse
  | _ => .error .misuse

/-- A switch without a value, or with one still to come. -/
def give (r : Reading) (s : Switch) : Except Interrupt Reading :=
  match s.effect with
  | .flag => r.record s.name ""
  | .value _ => .ok { r with pending := some s }
  | .interrupt i => .error i

/-- The letters behind a dash. Behind one that takes a value, the rest is the value. -/
def letters (switches : List Switch) (r : Reading) : List Char → Except Interrupt Reading
  | [] => .ok r
  | c :: rest =>
    match switches.find? (·.letter == some c) with
    | none => .error .misuse
    | some s =>
      match s.effect, rest with
      | .value _, '=' :: value => r.giveValue s (String.ofList value)
      | .value _, _ :: _ => r.giveValue s (String.ofList rest)
      | _, _ =>
        match r.give s with
        | .ok r => letters switches r rest
        | .error i => .error i

/-- What stands behind two dashes. -/
def long (switches : List Switch) (r : Reading) (text : List Char) : Except Interrupt Reading :=
  let name := String.ofList (text.takeWhile (· != '='))
  match switches.find? (·.name == name), text.dropWhile (· != '=') with
  | none, _ => .error .misuse
  | some s, [] => r.give s
  | some s, _ :: value => r.giveValue s (String.ofList value)

/-- A word that is neither a switch nor the word of a command. -/
def plain (r : Reading) (word : String) : Except Interrupt Reading :=
  match r.pending with
  | some s => { r with pending := none }.giveValue s word
  | none => .error .misuse

/-- One word. A switch cannot be the value of another. -/
def word (switches : List Switch) (r : Reading) (word : String) : Except Interrupt Reading :=
  match word.toList with
  | '-' :: '-' :: text =>
    if r.pending.isSome then .error .misuse else r.long switches text
  | '-' :: c :: rest =>
    if r.pending.isSome then .error .misuse else r.letters switches (c :: rest)
  | _ => r.plain word

def close (r : Reading) (rest : List String) : Except Interrupt (Given × List String) :=
  if r.pending.isSome then .error .misuse else .ok (r.given, rest)

end Reading

/-- Reads switches up to the end or up to one of the command words, which begins the rest. Nothing
may follow two dashes alone. -/
def readFrom (switches : List Switch) (commands : List String) (r : Reading) :
    List String → Except Interrupt (Given × List String)
  | [] => r.close []
  | word :: rest =>
    if word == "--" then if rest.isEmpty then r.close [] else .error .misuse
    else if r.pending.isNone && commands.contains word then r.close (word :: rest)
    else
      match r.word switches word with
      | .ok r => readFrom switches commands r rest
      | .error i => .error i

def read (switches : List Switch) (commands : List String) (words : List String) :
    Except Interrupt (Given × List String) :=
  readFrom switches commands {} words

end Telemetry.CommandLine
