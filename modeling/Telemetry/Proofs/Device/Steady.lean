import Mathlib.Data.List.Nodup
import Telemetry.Proofs.Device.Control
import Telemetry.Proofs.Value

/-!
# What a device without fluctuation reports

As long as nobody commands it, a device that does not fluctuate reports the introduction of its
switch and then one and the same sample at every poll. The introduction and the first sample have
one value for each register of the device, and every later value repeats one of them, whatever the
readings are: an undefined number is the same reading as any other.

## Main definitions

* `Device.keys`, `Device.owns`: where a device reports, and the values there.
* `Device.stored`: the values of reports that have returned.
* `Device.polls`: how many polls have begun.
* `Device.Repeats`: one value for each register, then repetitions.

## Main results

* `Course.fills`: the reports of a device without fluctuation, up to what is left of a poll.
* `Course.repeats`: they are repetitions from the second poll on.
* `Course.length_stored`: the second poll begins after as many values as there are registers.
-/

namespace Telemetry.Device

open scoped List

/-- The keys of a device, one for each register that it announces. -/
def keys (d : Device) : List Key :=
  d.registers.map fun r => ⟨d.name, r.name⟩

/-- The value is at one of the keys of a device. -/
def owns (d : Device) (v : Value) : Bool :=
  d.keys.contains v.key

/-- The values of the reports that have returned. -/
def stored (history : List (Call × Event)) : List Value :=
  (history.map Prod.fst).filterMap Call.reported?

def Event.isTick : Event → Bool
  | .tick => true
  | _ => false

/-- The polls that have begun. -/
def polls (history : List (Call × Event)) : Nat :=
  (history.map Prod.snd).countP Event.isTick

/-- Values of a device that begin with one for each register, in their order, and go on with
repetitions. -/
structure Repeats (d : Device) (values : List Value) : Prop where
  owned : ∀ v ∈ values, v.key ∈ d.keys
  first : (values.take d.keys.length).map Value.key <+: d.keys
  same : ∀ v ∈ values, ∀ w ∈ values, v.key = w.key → v.same w = true

def Write.isFill : Write → Bool
  | .fill _ _ _ => true
  | _ => false

def Write.key? : Write → Option Key
  | .fill device r _ => some ⟨device, r.name⟩
  | _ => none

/-! ## Values and what is written for them -/

section Writes

variable {d : Device} {values : List Value} {v w : Value}

theorem nodup_keys (d : Device) : d.keys.Nodup := by
  have names : (d.registers.map Register.name).Nodup := by
    unfold registers
    cases d.kind <;> decide
  refine List.pairwise_map.2 ((List.pairwise_map.1 names).imp ?_)
  intro r r' differ same
  apply differ
  exact congrArg Key.register same

theorem length_keys (d : Device) : d.keys.length = d.registers.length :=
  List.length_map _

theorem owns_iff : d.owns v = true ↔ v.key ∈ d.keys :=
  List.contains_iff_mem

/-- What is written for a value tells the reading. -/
theorem same_of_ofValue (written : Write.ofValue v = .ofValue w) : v.same w = true := by
  simp only [Write.ofValue, Write.fill.injEq] at written
  obtain ⟨device, register, payload⟩ := written
  exact Value.same_iff.2 ⟨payload ▸ Payload.same_refl _, device, register⟩

theorem map_key?_ofValue (values : List Value) :
    (values.map Write.ofValue).map Write.key? = (values.map Value.key).map some := by
  simp only [List.map_map]
  rfl

/-- Among the writes are the fills, and these are the reports. -/
theorem filter_writes (history : List (Call × Event)) (call : Call) :
    (writes history call).filter Write.isFill = (reports history call).map .ofValue := by
  rw [writes, reports]
  induction history.map Prod.fst ++ [call] with
  | nil => rfl
  | cons call calls ih =>
    cases call with
    | report v => exact congrArg (Write.ofValue v :: ·) ih
    | _ => exact ih

theorem filter_introduction (d : Device) : d.introduction.filter Write.isFill = d.introduction := by
  rw [List.filter_eq_self]
  simp only [introduction, Option.mem_toList, Option.map_eq_some_iff]
  rintro _ ⟨r, -, rfl⟩
  rfl

theorem filter_tick (d : Device) (on : Bool) :
    (d.turn on .tick).filter Write.isFill = d.turn on .tick := by
  rw [List.filter_eq_self]
  simp only [turn, List.mem_map]
  rintro _ ⟨v, -, rfl⟩
  rfl

/-- The introduction and the sample of a poll fill in one value for each register, in their
order. -/
theorem map_key?_round (d : Device) :
    (d.introduction ++ d.turn false .tick).map Write.key? = d.keys.map some := by
  cases kind : d.kind <;>
  · simp only [introduction, turn, sample, registers, readings, keys, kind, DeviceKind.registers]
    rfl

theorem mem_round {n : Nat} {x : Write}
    (member : x ∈ d.introduction ++ (List.replicate n (d.turn false .tick)).flatten) :
    x ∈ d.introduction ++ d.turn false .tick := by
  simp only [List.mem_append, List.mem_flatten, List.mem_replicate] at member ⊢
  rcases member with introduced | ⟨sample, ⟨-, rfl⟩, polled⟩
  · exact .inl introduced
  · exact .inr polled

theorem length_round (d : Device) :
    (d.introduction ++ d.turn false .tick).length = d.keys.length := by
  simpa using congrArg List.length (map_key?_round d)

theorem take_le_round (d : Device) (n : Nat) :
    (d.introduction ++ (List.replicate n (d.turn false .tick)).flatten).take d.keys.length <+:
      d.introduction ++ d.turn false .tick := by
  cases n with
  | zero =>
    refine (List.take_prefix _ _).trans ?_
    rw [List.replicate_zero, List.flatten_nil, List.append_nil]
    exact List.prefix_append _ _
  | succ n =>
    rw [List.replicate_succ, List.flatten_cons, ← List.append_assoc, ← length_round,
      List.take_left]

/-- Values that are written in one introduction and any number of equal samples are repetitions but
for one of each. -/
theorem repeats_of_le {n : Nat} (written : values.map .ofValue <+:
    d.introduction ++ (List.replicate n (d.turn false .tick)).flatten) : d.Repeats values := by
  have keyed (v : Value) (member : v ∈ values) :
      .ofValue v ∈ d.introduction ++ d.turn false .tick :=
    mem_round (written.subset (List.mem_map_of_mem member))
  refine ⟨?_, ?_, ?_⟩
  · intro v member
    have known : some v.key ∈ d.keys.map some :=
      map_key?_round d ▸ List.mem_map_of_mem (f := Write.key?) (keyed v member)
    simpa using known
  · have begin_alike := ((written.take d.keys.length).trans (take_le_round d n)).map Write.key?
    rw [map_key?_round, ← List.map_take, map_key?_ofValue] at begin_alike
    simpa [List.filterMap_map] using begin_alike.filterMap id
  · intro v member w member' same
    have distinct : ((d.introduction ++ d.turn false .tick).map Write.key?).Nodup := by
      rw [map_key?_round]
      exact (nodup_keys d).map fun _ _ => Option.some.inj
    refine same_of_ofValue ?_
    exact List.inj_on_of_nodup_map distinct (keyed v member) (keyed w member')
      (congrArg some same)

theorem Repeats.of_le {more : List Value} (repeats : d.Repeats more) (le : values <+: more) :
    d.Repeats values where
  owned v member := repeats.owned v (le.subset member)
  first := ((le.take d.keys.length).map Value.key).trans repeats.first
  same v member w member' := repeats.same v (le.subset member) w (le.subset member')

end Writes

/-! ## Courses without commands -/

section Courses

variable {d : Device} {l : Loop} {history : List (Call × Event)} {call call' : Call}

/-- Without commands there is a sample for each poll. -/
theorem turns_of_uncommanded {events : List Event}
    (uncommanded : events.filterMap Event.command? = []) :
    d.turns false events =
      (List.replicate (events.countP Event.isTick) (d.turn false .tick)).flatten := by
  induction events with
  | nil => rfl
  | cons e events ih =>
    cases e with
    | command v => simp [Event.command?] at uncommanded
    | tick =>
      rw [List.countP_cons_of_pos rfl, List.replicate_succ, List.flatten_cons, ← ih uncommanded]
      rfl
    | _ =>
      rw [List.countP_cons_of_neg Bool.false_ne_true, ← ih uncommanded]
      rfl

/-- The reports of a device that does not fluctuate and is given no command, and what is left of the
poll that it is at, are the introduction of its switch and one sample for each poll. -/
theorem Course.fills (course : d.Course history l call) (steady : d.variance ≤ 0.0)
    (uncommanded : commands history = []) (begun : history ≠ []) :
    (reports history call).map .ofValue ++ (d.remainder l.phase).filter Write.isFill =
      d.introduction ++ (List.replicate (polls history) (d.turn false .tick)).flatten := by
  obtain ⟨-, -, written⟩ := course.writes_turns steady begun
  have fills := congrArg (List.filter Write.isFill) written
  rw [turns_of_uncommanded uncommanded, List.filter_append, filter_writes,
    List.filter_cons_of_neg Bool.false_ne_true, List.filter_append, filter_introduction,
    List.filter_flatten, List.map_replicate, filter_tick] at fills
  exact fills

theorem reports_eq (history : List (Call × Event)) (call : Call) :
    reports history call = stored history ++ call.reported?.toList := by
  rw [reports, List.filterMap_append]
  cases call <;> rfl

/-- Whatever a device that does not fluctuate reports without commands repeats what it reported in
its first poll or before it. -/
theorem Course.repeats (course : d.Course history l call) (steady : d.variance ≤ 0.0)
    (uncommanded : commands history = []) : d.Repeats (reports history call) := by
  rcases eq_or_ne history [] with rfl | begun
  · obtain ⟨-, rfl⟩ := course.at_start
    exact repeats_of_le (n := 0) List.nil_prefix
  · exact repeats_of_le ⟨_, course.fills steady uncommanded begun⟩

theorem Course.last {e : Event} (course : d.Course (history ++ [(call, e)]) l call') :
    ∃ l', d.Course history l' call := by
  generalize whole : history ++ [(call, e)] = h at course
  cases course with
  | start => simp at whole
  | step course =>
    obtain ⟨rfl, same⟩ := List.append_inj' whole rfl
    cases same
    exact ⟨_, course⟩

theorem Course.at_step {before after : List (Call × Event)} {e : Event}
    (course : d.Course (before ++ (call, e) :: after) l call') : ∃ l', d.Course before l' call := by
  induction after using List.reverseRecOn generalizing l call' with
  | nil => exact course.last
  | append_singleton after st ih =>
    rw [← List.cons_append, ← List.append_assoc] at course
    obtain ⟨l', earlier⟩ := Course.last course
    exact ih earlier

/-- When the second poll begins, a value was reported for each register. -/
theorem Course.length_stored {before after : List (Call × Event)} {due : Nat}
    (course : d.Course (before ++ (.await due, .tick) :: after) l call) (steady : d.variance ≤ 0.0)
    (uncommanded : commands before = []) (second : polls before = 1) :
    (stored before).length = d.registers.length := by
  obtain ⟨l', earlier⟩ := course.at_step
  obtain ⟨-, asks, -⟩ := earlier.provenance
  have begun : before ≠ [] := by
    rintro rfl
    cases second
  have fills := earlier.fills steady uncommanded begun
  generalize l'.phase = phase at asks fills
  cases asks
  rw [second, reports_eq] at fills
  rw [← length_keys, ← length_round]
  simpa [remainder, Call.reported?] using congrArg List.length fills

end Courses

end Telemetry.Device
