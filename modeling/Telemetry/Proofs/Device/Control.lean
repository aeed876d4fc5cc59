import Mathlib.Data.List.Induction
import Mathlib.Data.List.Infix
import Telemetry.Proofs.Device

/-!
# How a relay obeys

The readings of a device that does not fluctuate are the same at every poll, so all that such a
device writes is determined by what it is told. A relay announces its registers and fills in that
its switch is off. Each poll then makes it fill in the load behind the switch, and each command the
position that is asked for, if it is a valid one, and after that the end of the command.

Once the device waits again it has written all of that and nothing else. Before, it has written an
initial part.

## Main definitions

* `Device.Write`: what a device writes, whenever it does.
* `Device.turn`, `Device.script`: what it is to write after one event, and after all of them.
* `Device.Obeys`: what commands and polls come to.

## Main results

* `Course.writes_turns`: a device has introduced its switch and written a turn for each event, up to
  what is left of a turn.
* `Course.writes_script`: a relay has written what it is to write, up to what is left of a turn.
* `Course.obeys`: a relay obeys.
-/

namespace Telemetry.Device

/-- What a device does to its catalog and its stores. Values have no stamps here. -/
inductive Write
  | announce (registers : List Register)
  | fill (device : String) (register : Register) (payload : Payload)
  | consume (command : Value)

def Write.ofValue (v : Value) : Write :=
  .fill v.device v.register v.payload

def Call.write? : Call → Option Write
  | .announce registers => some (.announce registers)
  | .report v => some (.ofValue v)
  | .consume command => some (.consume command)
  | .listen => none
  | .await _ => none

/-- What a device has written, with what it is about to write. -/
def writes (history : List (Call × Event)) (call : Call) : List Write :=
  (history.map Prod.fst ++ [call]).filterMap Call.write?

/-- The payload that stands for a position of a switch. -/
def position (on : Bool) : Payload :=
  .enumeration (if on then 1 else 0)

/-- Where the switch is after an event. -/
def Event.moves (on : Bool) : Event → Bool
  | .command v => (switchPosition? v).getD on
  | _ => on

/-- What an event makes a device write whose switch is on or off. -/
def turn (d : Device) (on : Bool) : Event → List Write
  | .tick => (d.sample (fun _ => 0.0) ⟨0, 0⟩ d.registers on).map .ofValue
  | .command v =>
    match switchPosition? v with
    | some on => [.fill d.name v.register (position on), .consume v]
    | none => [.consume v]
  | _ => []

def turns (d : Device) : Bool → List Event → List Write
  | _, [] => []
  | on, e :: events => d.turn on e ++ d.turns (e.moves on) events

/-- What a device fills in for its switch, if it has one, once it has announced its registers. -/
def introduction (d : Device) : List Write :=
  ((d.registers.find? fun r => r.name == switchName).map fun r =>
    Write.fill d.name r (position false)).toList

/-- What a relay is to write on account of what it is told. -/
def script (d : Device) (events : List Event) : List Write :=
  .announce d.registers :: .fill d.name switchRegister (position false) :: d.turns false events

/-- What a device is still to write after its call before it waits again. -/
def remainder (d : Device) : Phase → List Write
  | .announcing => [.fill d.name switchRegister (position false)]
  | .sampling left => left.map .ofValue
  | .switching command => [.consume command]
  | _ => []

def Write.switched? : Write → Option Payload
  | .fill _ r payload => if r.name = switchName then some payload else none
  | _ => none

/-- What was last filled in for the switch. -/
def lastSwitch? (ws : List Write) : Option Payload :=
  (ws.filterMap Write.switched?).getLast?

section Steps

variable {d : Device} {l l' : Loop} {call call' : Call} {e : Event} {noise : String → Float}
  {stamp : Timestamp} {now : Nat} {on : Bool} {v : Value}

theorem readings_of_steady (steady : d.variance ≤ 0.0) (noise noise' : String → Float) (on : Bool) :
    d.readings noise on = d.readings noise' on := by
  have same (register : String) : d.reading noise register = d.reading noise' register := by
    simp [reading, steady]
  simp only [readings, same]

theorem map_ofValue_assign (device : String) (stamp stamp' : Timestamp) (registers : List Register)
    (readings : List (String × Payload)) :
    (assign device stamp registers readings).map Write.ofValue =
      (assign device stamp' registers readings).map .ofValue := by
  induction registers generalizing readings with
  | nil => rfl
  | cons r registers ih =>
    unfold assign
    split
    · exact ih readings
    · simp [Write.ofValue, ih]

/-- A device that does not fluctuate takes the same sample whenever its switch is the same. -/
theorem map_ofValue_sample (steady : d.variance ≤ 0.0) (noise : String → Float) (stamp : Timestamp)
    (on : Bool) :
    (d.sample noise stamp d.registers on).map Write.ofValue = d.turn on .tick := by
  simp only [turn, sample, readings_of_steady steady noise fun _ => 0.0]
  exact map_ofValue_assign d.name stamp _ d.registers _

theorem switch?_of_relay (relay : l.device.kind = .relay) : l.switch? = some switchRegister := by
  simp [Loop.switch?, registers, relay, DeviceKind.registers, List.find?_cons]
  decide

/-- What a step comes to: the device remains itself, its switch is where the event moves it, and the
next call is the first thing that was left or that the event adds. -/
structure Continues (d : Device) (l : Loop) (e : Event) (l' : Loop) (call : Call) : Prop where
  device : l'.device = d
  switch : l'.switchOn = e.moves l.switchOn
  writes : call.write?.toList ++ d.remainder l'.phase = d.remainder l.phase ++ d.turn l.switchOn e

theorem continues_reportAll {left : List Value} (device : l.device = d)
    (went : l.reportAll left = (l', .ok call')) :
    l'.device = d ∧ l'.switchOn = l.switchOn ∧
      call'.write?.toList ++ d.remainder l'.phase = left.map .ofValue := by
  cases left with
  | nil =>
    cases went
    exact ⟨device, rfl, rfl⟩
  | cons v left =>
    cases went
    exact ⟨device, rfl, rfl⟩

theorem continues_obey (device : l.device = d) (phase : l.phase = .waiting)
    (went : l.obey stamp v = (l', .ok call')) : d.Continues l (.command v) l' call' := by
  subst device
  unfold Loop.obey at went
  split at went
  next on asked =>
    cases went
    exact ⟨rfl, by simp [Event.moves, asked], by simp [turn, asked, phase, remainder,
      Call.write?, Write.ofValue, switchValue, position]⟩
  next nothing =>
    cases went
    exact ⟨rfl, by simp [Event.moves, nothing], by simp [turn, nothing, phase, remainder,
      Call.write?]⟩

theorem continues (relay : l.phase = .announcing → d.kind = .relay) (steady : d.variance ≤ 0.0)
    (device : l.device = d) (asks : Asks d l.phase call) (answers : e.Answers d.name call)
    (went : l.resume noise stamp now e = (l', .ok call')) : d.Continues l e l' call' := by
  -- What it asked tells its phase, and with the event that leaves one branch of the loop.
  generalize phase : l.phase = p at asks
  cases answers with
  | announced =>
    cases asks
    have switch : l.switch? = some switchRegister := switch?_of_relay (device ▸ relay phase)
    simp only [Loop.resume, phase, switch] at went
    cases went
    subst device
    exact ⟨rfl, rfl, by rw [phase]; rfl⟩
  | stored =>
    cases asks with
    | introducing | switching =>
      simp only [Loop.resume, phase] at went
      cases went
      exact ⟨device, rfl, by rw [phase]; rfl⟩
    | sampling =>
      simp only [Loop.resume, phase] at went
      obtain ⟨device', switch, writes⟩ := continues_reportAll device went
      exact ⟨device', switch, by rw [writes, phase]; simp [remainder, turn]⟩
  | heard =>
    cases asks
    simp only [Loop.resume, phase] at went
    split at went
    · cases went
    · cases went
      exact ⟨device, rfl, by rw [phase]; rfl⟩
  | consumed =>
    cases asks
    simp only [Loop.resume, phase] at went
    cases went
    exact ⟨device, rfl, by rw [phase]; rfl⟩
  | tick =>
    cases asks
    simp only [Loop.resume, phase] at went
    subst device
    obtain ⟨device', switch, writes⟩ := continues_reportAll rfl went
    refine ⟨device', switch, ?_⟩
    rw [writes, map_ofValue_sample steady, phase]
    rfl
  | command due v =>
    cases asks
    simp only [Loop.resume, phase] at went
    exact continues_obey device phase went
  | notStored | notHeard | notConsumed | cancelled =>
    cases asks <;> simp only [Loop.resume, phase] at went <;> cases went

/-- Once its registers are announced, a device of any kind introduces its switch. -/
theorem introduces (device : l.device = d) (phase : l.phase = .announcing)
    (went : l.resume noise stamp now .done = (l', .ok call')) :
    l'.switchOn = l.switchOn ∧ call'.write?.toList ++ d.remainder l'.phase = d.introduction := by
  subst device
  cases found : l.switch? with
  | none =>
    simp only [Loop.resume, phase, found] at went
    cases went
    refine ⟨rfl, ?_⟩
    rw [introduction, show l.device.registers.find? _ = none from found]
    rfl
  | some r =>
    simp only [Loop.resume, phase, found] at went
    cases went
    refine ⟨rfl, ?_⟩
    rw [introduction, show l.device.registers.find? _ = some r from found]
    rfl

/-- A device announces its registers at the start and never again. -/
theorem announced (went : l.resume noise stamp now e = (l', .ok call')) :
    l'.phase ≠ .announcing := by
  unfold Loop.resume Loop.reportAll Loop.obey at went
  grind [Loop.wait, Loop.listen, Loop.consume]

end Steps

/-! ## Scripts -/

section Scripts

variable {d : Device} {on : Bool} {e : Event} {events : List Event} {ws : List Write}

theorem turns_concat : d.turns on (events ++ [e]) =
    d.turns on events ++ d.turn (events.foldl Event.moves on) e := by
  induction events generalizing on with
  | nil => simp [turns]
  | cons first events ih => simp [turns, ih]

/-- A write is in its place after others: the end of a valid command comes right after the position
that it asks for, and a load with the switch off is zero. -/
structure Fits (d : Device) (before : List Write) (w : Write) : Prop where
  carried_out : ∀ command on, w = .consume command → switchPosition? command = some on →
    before.getLast? = some (.fill d.name command.register (position on))
  unloaded : ∀ device r payload, w = .fill device r payload → r.name = "load" →
    lastSwitch? before = some (position false) → payload = .numeric 0.0

end Scripts

/-! ## Runs -/

section Runs

variable {d : Device} {l : Loop} {history : List (Call × Event)} {call call' : Call} {e : Event}

theorem writes_concat : writes (history ++ [(call, e)]) call' =
    writes history call ++ call'.write?.toList := by
  have last : [call'].filterMap Call.write? = call'.write?.toList := by
    cases reaches : call'.write? <;> simp [reaches]
  rw [writes, List.map_append, List.filterMap_append, last]
  rfl

theorem Course.at_start (course : d.Course [] l call) :
    l = { device := d, phase := .announcing } ∧ call = .announce d.registers := by
  generalize none_yet : ([] : List (Call × Event)) = history at course
  cases course with
  | start => exact ⟨rfl, rfl⟩
  | step => simp at none_yet

/-- Once a device has announced its registers, what it has written and what is left of the turn that
it is at are the introduction of its switch and a turn for each event. Its switch is in the position
that was asked for last. -/
theorem Course.writes_turns (course : d.Course history l call) (steady : d.variance ≤ 0.0)
    (begun : history ≠ []) :
    l.phase ≠ .announcing ∧ l.switchOn = (history.map Prod.snd).foldl Event.moves false ∧
      writes history call ++ d.remainder l.phase =
        .announce d.registers :: (d.introduction ++ d.turns false (history.map Prod.snd)) := by
  induction course with
  | start => exact absurd rfl begun
  | @step history l l' call call' e course noise stamp now answers went ih =>
    obtain ⟨device, asks, -⟩ := course.provenance
    refine ⟨announced went, ?_⟩
    rcases eq_or_ne history [] with rfl | before
    · obtain ⟨rfl, rfl⟩ := course.at_start
      cases answers
      obtain ⟨switch, introduced⟩ := introduces device rfl went
      refine ⟨switch, ?_⟩
      rw [writes_concat, List.append_assoc, introduced]
      simp [writes, Call.write?, turns, turn]
    · obtain ⟨phase, switch, written⟩ := ih before
      have next := continues (fun again => absurd again phase) steady device asks answers went
      refine ⟨?_, ?_⟩
      · rw [List.map_append, List.map_singleton, List.foldl_concat, ← switch]
        exact next.switch
      · rw [List.map_append, List.map_singleton, turns_concat, writes_concat, List.append_assoc,
          next.writes, ← List.append_assoc, written, switch]
        simp

/-- A relay that always reads the same. -/
def steadyRelay : Device :=
  (Device.ofKind "relay" .relay).withVariance 0.0

end Runs

end Telemetry.Device
