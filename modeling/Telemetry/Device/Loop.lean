import Telemetry.Device
import Telemetry.Error

/-!
# Running devices

What a device does once it is switched on: it announces its registers, reports the initial position
of its switch if it has one, and asks for its commands. From then on it waits for whatever comes
first: the next poll, a command, or the end. A poll reports one sample. A valid command is first
carried out, which shows in a report, and then consumed; any other is consumed at once.

A running device is a machine that asks for one thing at a time and is told the outcome.

## Main definitions

* `Device.Loop`: the machine.
* `Device.Loop.start`, `Device.Loop.resume`: how it begins and how it goes on.
-/

namespace Telemetry.Device

/-- What a running device asks for. -/
inductive Call
  | announce (registers : List Register)
  /-- Puts a value into the state. -/
  | report (v : Value)
  /-- Asks for the commands to this device. -/
  | listen
  /-- Waits for a poll that is due at some time, a command, or the end. -/
  | await (due : Nat)
  /-- Marks a command as carried out. -/
  | consume (command : Value)

/-- What a running device is told. -/
inductive Event
  | done
  | failed (e : Error)
  | tick
  | command (v : Value)
  | cancelled

inductive Phase
  | announcing
  | introducing
  | subscribing
  | waiting
  | sampling (left : List Value)
  | switching (command : Value)
  | consuming

/-- How a running device ends. -/
inductive Ending
  | finished
  | failed (e : Error)
  /-- A device cannot be polled without any time in between. -/
  | noInterval

structure Loop where
  device : Device
  phase : Phase
  switchOn : Bool := false
  /-- When the next poll is due, in nanoseconds. -/
  due : Nat := 0

namespace Loop

/-- A poll that comes later than this counts as late, and the next one is due an interval after it
instead of an interval after it was due. -/
def tolerance : Nat := 5 * nanosecondsPerMillisecond

def nextDue (due now interval : Nat) : Nat :=
  if due + tolerance < now then now + interval else due + interval

def start (d : Device) : Loop × Call :=
  ({ device := d, phase := .announcing }, .announce d.registers)

def wait (l : Loop) : Loop × Except Ending Call :=
  ({ l with phase := .waiting }, .ok (.await l.due))

/-- Reports values one after the other. -/
def reportAll (l : Loop) : List Value → Loop × Except Ending Call
  | [] => l.wait
  | v :: left => ({ l with phase := .sampling left }, .ok (.report v))

def listen (l : Loop) : Loop × Except Ending Call :=
  ({ l with phase := .subscribing }, .ok .listen)

def consume (l : Loop) (command : Value) : Loop × Except Ending Call :=
  ({ l with phase := .consuming }, .ok (.consume command))

/-- Carries out a command, if it is a valid one. -/
def obey (l : Loop) (stamp : Timestamp) (command : Value) : Loop × Except Ending Call :=
  match switchPosition? command with
  | some on =>
    ({ l with phase := .switching command, switchOn := on },
      .ok (.report (switchValue l.device.name command.register on stamp)))
  | none => l.consume command

/-- The switch of a device, if it has one. -/
def switch? (l : Loop) : Option Register :=
  l.device.registers.find? fun r => r.name == switchName

/-- Goes on after an event, at time `now`. The end comes with the reason for it. -/
def resume (noise : String → Float) (stamp : Timestamp) (now : Nat) (l : Loop) (e : Event) :
    Loop × Except Ending Call :=
  match e, l.phase with
  | .failed e, _ => (l, .error (.failed e))
  | .done, .announcing =>
    match l.switch? with
    | some r =>
      ({ l with phase := .introducing },
        .ok (.report (switchValue l.device.name r false stamp)))
    | none => l.listen
  | .done, .introducing => l.listen
  | .done, .subscribing =>
    if l.device.pollInterval = 0 then (l, .error .noInterval) else { l with due := now }.wait
  | .done, .sampling left => l.reportAll left
  | .done, .switching command => l.consume command
  | .done, .consuming => l.wait
  | .cancelled, .waiting => (l, .error .finished)
  | .tick, .waiting =>
    { l with due := nextDue l.due now l.device.pollInterval }.reportAll
      (l.device.sample noise stamp l.device.registers l.switchOn)
  | .command v, .waiting => l.obey stamp v
  | _, _ => l.wait

end Loop

end Telemetry.Device
