import Telemetry.Device.Loop
import Telemetry.Filter

/-!
# What a running device reports

A device reports its switch once, then the readings of each poll, and after each command that it
carries out the position that was asked for. The first two bear registers that it has announced, and
suit them. The last bears whatever register the command does: a command counts as one to the switch
by the name of its register alone, so a device without a switch carries it out as well.

## Main definitions

* `Device.Course`: what a running device has asked for and been told, step by step.
* `Device.Announces`: a value with an announced register that suits it.
* `Device.Echoes`: a report of the position that a command asks for.

## Main results

* `Course.provenance`: a report is announced, or the echo of a command.
* `Course.announces_all_iff`: all are announced exactly if all commands carried out are.
-/

namespace Telemetry.Device

/-- A value of the device with a register that it announces and a payload that suits it. -/
structure Announces (d : Device) (v : Value) : Prop where
  device : v.device = d.name
  register : v.register ∈ d.registers
  suits : v.fault? = none

/-- A report of the position that a command asks for, with the register of the command. -/
def Echoes (d : Device) (command v : Value) : Prop :=
  ∃ on stamp, switchPosition? command = some on ∧ v = switchValue d.name command.register on stamp

/-- What a device of some name can be told when a call of it ends. -/
inductive Event.Answers (device : String) : Event → Call → Prop
  | announced (registers : List Register) : Answers device .done (.announce registers)
  | stored (v : Value) : Answers device .done (.report v)
  | notStored (v : Value) (e : Error) : Answers device (.failed e) (.report v)
  | heard : Answers device .done .listen
  | notHeard (e : Error) : Answers device (.failed e) .listen
  | consumed (command : Value) : Answers device .done (.consume command)
  | notConsumed (command : Value) (e : Error) : Answers device (.failed e) (.consume command)
  | tick (due : Nat) : Answers device .tick (.await due)
  | cancelled (due : Nat) : Answers device .cancelled (.await due)
  | command (due : Nat) (v : Value) (addressed : (ValueFilter.commandsFor device).accepts v) :
      Answers device (.command v) (.await due)

/-- The calls of a running device that have ended, each with what the device was told, and the one
that is under way. Readings, stamps and times may be anything. -/
inductive Course (d : Device) : List (Call × Event) → Loop → Call → Prop
  | start : Course d [] (Loop.start d).1 (Loop.start d).2
  | step {history : List (Call × Event)} {l l' : Loop} {call call' : Call} {e : Event}
      (course : Course d history l call) (noise : String → Float) (stamp : Timestamp) (now : Nat)
      (answers : e.Answers d.name call) (went : l.resume noise stamp now e = (l', .ok call')) :
      Course d (history ++ [(call, e)]) l' call'

def Call.reported? : Call → Option Value
  | .report v => some v
  | _ => none

def Event.command? : Event → Option Value
  | .command v => some v
  | _ => none

/-- The values that a device has put into the state, with the one that it is about to. -/
def reports (history : List (Call × Event)) (call : Call) : List Value :=
  (history.map Prod.fst ++ [call]).filterMap Call.reported?

/-- The commands that a device has been given. -/
def commands (history : List (Call × Event)) : List Value :=
  (history.map Prod.snd).filterMap Event.command?

/-! ## Readings -/

section Readings

variable {d : Device} {noise : String → Float} {stamp : Timestamp} {on : Bool} {v : Value}
  {r : Register}

theorem mem_of_lookup {α β : Type} [BEq α] [LawfulBEq α] {a : α} {b : β} {l : List (α × β)}
    (found : List.lookup a l = some b) : (a, b) ∈ l := by
  obtain ⟨before, after, rfl, -⟩ := List.lookup_eq_some_iff.1 found
  simp

theorem mem_assign {device : String} {registers : List Register}
    {readings : List (String × Payload)} (member : v ∈ assign device stamp registers readings) :
    v.device = device ∧ v.register ∈ registers ∧ (v.register.name, v.payload) ∈ readings := by
  induction registers generalizing readings with
  | nil => cases member
  | cons r registers ih =>
    unfold assign at member
    split at member
    next =>
      obtain ⟨device, register, reading⟩ := ih member
      exact ⟨device, List.mem_cons_of_mem _ register, reading⟩
    next payload found =>
      rcases List.mem_cons.1 member with rfl | later
      · exact ⟨rfl, List.mem_cons_self, mem_of_lookup found⟩
      · obtain ⟨device, register, reading⟩ := ih later
        exact ⟨device, List.mem_cons_of_mem _ register, (List.mem_filter.1 reading).1⟩

/-- Every charge state has a label. -/
theorem chargeState_cases (current : Float) :
    chargeState current = 0 ∨ chargeState current = 1 ∨ chargeState current = 2 := by
  unfold chargeState
  split
  · simp
  · split <;> simp

/-- What is read under the name of an announced register suits the register. -/
theorem fault?_of_reading (register : v.register ∈ d.registers)
    (reading : (v.register.name, v.payload) ∈ d.readings noise on) : v.fault? = none := by
  obtain ⟨device, r, payload, time⟩ := v
  cases kind : d.kind with
  | meter =>
    simp only [registers, kind, DeviceKind.registers, List.mem_cons, List.not_mem_nil] at register
    rcases register with rfl | rfl | rfl | rfl | ⟨⟨⟩⟩ <;>
    · simp [readings, kind, Register.number, Register.text, Register.ofKind, Register.withUnit,
        Register.withSort] at reading
      subst reading
      rfl
  | relay =>
    simp only [registers, kind, DeviceKind.registers, List.mem_cons, List.not_mem_nil] at register
    rcases register with rfl | rfl | ⟨⟨⟩⟩
    · have other : switchRegister.name ≠ "load" := by decide
      simp [readings, kind, other] at reading
    · simp [readings, kind, Register.number, Register.ofKind, Register.withUnit,
        Register.withSort] at reading
      subst reading
      rfl
  | battery =>
    simp only [registers, kind, DeviceKind.registers, List.mem_cons, List.not_mem_nil] at register
    rcases register with rfl | rfl | rfl | rfl | ⟨⟨⟩⟩
    case inr.inr.inr.inl =>
      simp [readings, kind, Register.enumeration, Register.ofKind, Register.withLabels,
        Register.withSort] at reading
      subst reading
      rcases chargeState_cases (d.reading noise "current") with idle | charging | discharging
      · rw [idle]; rfl
      · rw [charging]; rfl
      · rw [discharging]; rfl
    all_goals
      simp [readings, kind, Register.number, Register.ofKind, Register.withUnit,
        Register.withSort] at reading
      subst reading
      rfl

theorem announces_of_mem_sample (member : v ∈ d.sample noise stamp d.registers on) :
    d.Announces v := by
  obtain ⟨device, register, reading⟩ := mem_assign member
  exact ⟨device, register, fault?_of_reading register reading⟩

/-- No announced register but the switch has its name. -/
theorem eq_switchRegister (member : r ∈ d.registers) (named : r.name = switchName) :
    r = switchRegister := by
  cases kind : d.kind with
  | meter | battery =>
    simp only [registers, kind, DeviceKind.registers, List.mem_cons, List.not_mem_nil] at member
    rcases member with rfl | rfl | rfl | rfl | ⟨⟨⟩⟩ <;> exact absurd named (by decide)
  | relay =>
    simp only [registers, kind, DeviceKind.registers, List.mem_cons, List.not_mem_nil] at member
    rcases member with rfl | rfl | ⟨⟨⟩⟩
    · rfl
    · exact absurd named (by decide)

theorem announces_switchValue (member : r ∈ d.registers) (named : r.name = switchName) (on : Bool)
    (stamp : Timestamp) : d.Announces (switchValue d.name r on stamp) := by
  refine ⟨rfl, member, ?_⟩
  rw [eq_switchRegister member named]
  cases on <;> rfl

end Readings

/-! ## Steps -/

/-- What a running device asks for in each phase. A poll has nothing left but announced values. -/
inductive Asks (d : Device) : Phase → Call → Prop
  | announcing (registers : List Register) : Asks d .announcing (.announce registers)
  | introducing (v : Value) : Asks d .introducing (.report v)
  | subscribing : Asks d .subscribing .listen
  | waiting (due : Nat) : Asks d .waiting (.await due)
  | sampling {left : List Value} (v : Value) (announced : ∀ w ∈ left, d.Announces w) :
      Asks d (.sampling left) (.report v)
  | switching (command v : Value) : Asks d (.switching command) (.report v)
  | consuming (command : Value) : Asks d .consuming (.consume command)

/-- What a step of a running device comes to: it remains itself, what it reports is announced or the
echo of a command that it was just told, and a command that is carried out has an echo. -/
structure Proceeds (d : Device) (e : Event) (l : Loop) (call : Call) : Prop where
  device : l.device = d
  asks : Asks d l.phase call
  reports : ∀ v, call.reported? = some v →
    d.Announces v ∨ ∃ command, e = .command command ∧ d.Echoes command v
  echoes : ∀ command, e = .command command → (switchPosition? command).isSome →
    ∃ v, call.reported? = some v ∧ d.Echoes command v

section Steps

variable {d : Device} {l l' : Loop} {call call' : Call} {e : Event} {noise : String → Float}
  {stamp : Timestamp} {now : Nat}

/-- A device that reports nothing, and was told no command, goes on as it should. -/
theorem Proceeds.of_silent (device : l.device = d) (asks : Asks d l.phase call)
    (silent : call.reported? = none) (quiet : e.command? = none) : d.Proceeds e l call := by
  refine ⟨device, asks, ?_, ?_⟩
  · intro v reported
    cases silent.symm.trans reported
  · rintro command rfl
    cases quiet

theorem Proceeds.of_announced {v : Value} (device : l.device = d)
    (asks : Asks d l.phase (.report v)) (announced : d.Announces v) (quiet : e.command? = none) :
    d.Proceeds e l (.report v) := by
  refine ⟨device, asks, ?_, ?_⟩
  · rintro _ ⟨⟩
    exact .inl announced
  · rintro command rfl
    cases quiet

theorem proceeds_reportAll {left : List Value} (device : l.device = d)
    (announced : ∀ v ∈ left, d.Announces v) (quiet : e.command? = none)
    (went : l.reportAll left = (l', .ok call')) : d.Proceeds e l' call' := by
  cases left with
  | nil =>
    cases went
    exact .of_silent device (.waiting _) rfl quiet
  | cons v left =>
    cases went
    have later : ∀ w ∈ left, d.Announces w := fun w member =>
      announced w (List.mem_cons_of_mem v member)
    exact .of_announced device (.sampling v later) (announced v List.mem_cons_self) quiet

theorem proceeds_obey {command : Value} (device : l.device = d)
    (went : l.obey stamp command = (l', .ok call')) : d.Proceeds (.command command) l' call' := by
  unfold Loop.obey at went
  split at went
  next on asked =>
    cases went
    have echoes : d.Echoes command (switchValue d.name command.register on stamp) :=
      ⟨on, stamp, asked, rfl⟩
    subst device
    refine ⟨rfl, .switching _ _, ?_, ?_⟩
    · rintro _ ⟨⟩
      exact .inr ⟨command, rfl, echoes⟩
    · rintro _ ⟨⟩ -
      exact ⟨_, rfl, echoes⟩
  next nothing =>
    cases went
    refine ⟨device, .consuming command, ?_, ?_⟩
    · rintro _ ⟨⟩
    · rintro _ ⟨⟩ asked
      simp [nothing] at asked

theorem proceeds_start (d : Device) (e : Event) (quiet : e.command? = none) :
    d.Proceeds e (Loop.start d).1 (Loop.start d).2 :=
  .of_silent rfl (.announcing _) rfl quiet

/-- A device introduces its switch, if it has one, after it has announced its registers. -/
theorem proceeds_introduce (device : l.device = d) (phase : l.phase = .announcing)
    (went : l.resume noise stamp now .done = (l', .ok call')) : d.Proceeds .done l' call' := by
  subst device
  simp only [Loop.resume, phase] at went
  split at went
  next r found =>
    cases went
    have member : r ∈ l.device.registers := List.mem_of_find?_eq_some found
    have named : r.name = switchName := by simpa using List.find?_some found
    exact .of_announced rfl (.introducing _) (announces_switchValue member named false stamp) rfl
  next =>
    cases went
    exact .of_silent rfl .subscribing rfl rfl

theorem proceeds (device : l.device = d) (asks : Asks d l.phase call)
    (answers : e.Answers d.name call) (went : l.resume noise stamp now e = (l', .ok call')) :
    d.Proceeds e l' call' := by
  generalize phase : l.phase = p at asks
  cases answers with
  | announced =>
    cases asks
    exact proceeds_introduce device phase went
  | stored =>
    cases asks with
    | introducing =>
      simp only [Loop.resume, phase] at went
      cases went
      exact .of_silent device .subscribing rfl rfl
    | sampling _ announced =>
      simp only [Loop.resume, phase] at went
      exact proceeds_reportAll device announced rfl went
    | switching =>
      simp only [Loop.resume, phase] at went
      cases went
      exact .of_silent device (.consuming _) rfl rfl
  | heard =>
    cases asks
    simp only [Loop.resume, phase] at went
    split at went
    · cases went
    · cases went
      exact .of_silent device (.waiting _) rfl rfl
  | consumed =>
    cases asks
    simp only [Loop.resume, phase] at went
    cases went
    exact .of_silent device (.waiting _) rfl rfl
  | tick =>
    cases asks
    simp only [Loop.resume, phase] at went
    refine proceeds_reportAll ?_ ?_ rfl went
    · exact device
    · intro v member
      exact announces_of_mem_sample (device ▸ member)
  | command due v =>
    cases asks
    simp only [Loop.resume, phase] at went
    exact proceeds_obey device went
  | notStored | notHeard | notConsumed | cancelled =>
    cases asks <;> simp only [Loop.resume, phase] at went <;> cases went

end Steps

/-! ## Runs -/

section Runs

variable {d : Device} {l : Loop} {history : List (Call × Event)} {call call' : Call} {e : Event}
  {v command : Value}

theorem mem_reports_concat : v ∈ reports (history ++ [(call, e)]) call' ↔
    v ∈ reports history call ∨ call'.reported? = some v := by
  simp [reports, or_assoc]

theorem mem_commands_concat : command ∈ commands (history ++ [(call, e)]) ↔
    command ∈ commands history ∨ e = .command command := by
  cases e <;> simp [commands, Event.command?, eq_comm]

/-- Along a course, what is reported is announced or the echo of a command, and every command that
is carried out has its echo. -/
theorem Course.provenance (course : d.Course history l call) :
    l.device = d ∧ Asks d l.phase call ∧
      (∀ v ∈ Device.reports history call,
        d.Announces v ∨ ∃ command ∈ commands history, d.Echoes command v) ∧
      ∀ command ∈ commands history, (switchPosition? command).isSome →
        ∃ v ∈ Device.reports history call, d.Echoes command v := by
  induction course with
  | start =>
    have begins := proceeds_start d .done rfl
    refine ⟨begins.device, begins.asks, ?_, ?_⟩
    · intro v member
      cases member
    · intro command member
      cases member
  | step course noise stamp now answers went ih =>
    obtain ⟨device, asks, reported, echoed⟩ := ih
    have next := proceeds device asks answers went
    refine ⟨next.device, next.asks, ?_, ?_⟩
    · intro v member
      rcases mem_reports_concat.1 member with before | last
      · exact (reported v before).imp_right fun ⟨command, given, echoes⟩ =>
          ⟨command, mem_commands_concat.2 (.inl given), echoes⟩
      · exact (next.reports v last).imp_right fun ⟨command, given, echoes⟩ =>
          ⟨command, mem_commands_concat.2 (.inr given), echoes⟩
    · intro command member asked
      rcases mem_commands_concat.1 member with before | last
      · obtain ⟨v, member, echoes⟩ := echoed command before asked
        exact ⟨v, mem_reports_concat.2 (.inl member), echoes⟩
      · obtain ⟨v, reported, echoes⟩ := next.echoes command last asked
        exact ⟨v, mem_reports_concat.2 (.inr reported), echoes⟩

theorem named_of_switchPosition? {on : Bool} (asked : switchPosition? command = some on) :
    command.register.name = switchName := by
  unfold switchPosition? at asked
  split at asked
  next named => exact named
  next => cases asked

theorem Echoes.isSome (echoes : d.Echoes command v) : (switchPosition? command).isSome := by
  obtain ⟨on, _, asked, -⟩ := echoes
  simp [asked]

/-- The echo of a command is announced exactly if the register of the command is. -/
theorem Echoes.announces_iff (echoes : d.Echoes command v) :
    d.Announces v ↔ command.register ∈ d.registers := by
  obtain ⟨on, stamp, asked, rfl⟩ := echoes
  constructor
  · exact Announces.register
  · intro member
    exact announces_switchValue member (named_of_switchPosition? asked) on stamp

/-- Whatever a device reports bears its name and is announced, unless it is the echo of a command.
Everything is announced exactly if the register of every command that it carries out is. -/
theorem Course.announces_all_iff (course : d.Course history l call) :
    (∀ v ∈ Device.reports history call, v.device = d.name ∧
      (d.Announces v ∨ ∃ command ∈ commands history, d.Echoes command v)) ∧
    ((∀ v ∈ Device.reports history call, d.Announces v) ↔
      ∀ command ∈ commands history, (switchPosition? command).isSome →
        command.register ∈ d.registers) := by
  obtain ⟨-, -, reported, echoed⟩ := course.provenance
  refine ⟨fun v member => ⟨?_, reported v member⟩, ?_, ?_⟩
  · rcases reported v member with announced | ⟨command, -, on, stamp, -, rfl⟩
    · exact announced.device
    · rfl
  · intro announced command given asked
    obtain ⟨v, member, echoes⟩ := echoed command given asked
    exact echoes.announces_iff.1 (announced v member)
  · intro known v member
    rcases reported v member with announced | ⟨command, given, echoes⟩
    · exact announced
    · exact echoes.announces_iff.2 (known command given echoes.isSome)

/-- Somebody takes a meter for a relay. -/
def strayCommand : Value :=
  ⟨"meter", switchRegister, .enumeration 1, ⟨0, 0⟩⟩

/-- A meter carries out a command to a switch that it does not have. -/
theorem meter_echoes_switch :
    ∃ history l call, Course (.ofKind "meter" .meter) history l call ∧
      ¬ ∀ v ∈ Device.reports history call, Announces (.ofKind "meter" .meter) v := by
  let meter : Device := .ofKind "meter" .meter
  have course : ∃ history l call,
      Course meter history l call ∧ strayCommand ∈ commands history := by
    have announced := (Course.start (d := meter)).step (fun _ => 0) ⟨0, 0⟩ 0 (.announced _) rfl
    have waits := announced.step (fun _ => 0) ⟨0, 0⟩ 0 .heard rfl
    have told := waits.step (fun _ => 0) ⟨0, 0⟩ 0 (.command _ strayCommand (by decide)) rfl
    exact ⟨_, _, _, told, mem_commands_concat.2 (.inr rfl)⟩
  obtain ⟨history, l, call, course, given⟩ := course
  refine ⟨history, l, call, course, fun announced => ?_⟩
  have known := course.announces_all_iff.2.1 announced strayCommand given (by decide)
  exact absurd known (by decide)

end Runs

end Telemetry.Device
