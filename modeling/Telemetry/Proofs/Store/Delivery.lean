import Telemetry.Proofs.Desk.Conveyance
import Telemetry.Proofs.Store.Ledger
import Telemetry.Proofs.Store.Watch

/-!
# Deliveries of a store

The roster of a store and the delivery under way make a desk, and each step of the store is an act
at that desk.
-/

namespace Telemetry.Store

open scoped List

/-- The delivery under way. -/
def delivery? : Activity → Option (Delivery Value)
  | .delivering d _ => some d
  | _ => none

def desk (s : Store) : Desk Value where
  roster := s.roster
  delivery := delivery? s.activity
  ended := s.isOver

namespace Step

/-- The act at the desk. -/
def act (st : Step) : Desk.Act Value :=
  match st.store.roster.enrolled? st.next.roster, st.updates with
  | some g, _ => .enroll g
  | none, v :: _ => .publish v
  | none, [] =>
    match st.event, st.output with
    | .act (.owner .deliver), _ =>
      match delivery? st.store.activity with
      | some d =>
        match d.rest with
        | s :: _ =>
          .turn s.id d.item (st.store.roster.fate? st.signals st.store.config.overflow d s)
        | [] => .other
      | none => .other
    | .act (.read id _), .delivered (.item v) => .read id v
    | _, _ => .other

/-- The item that the reader of a subscription gets. -/
def received (id : Nat) (st : Step) : List Value :=
  match st.event, st.output with
  | .act (.read reader _), .delivered (.item v) => if reader = id then [v] else []
  | _, _ => []

end Step

namespace Trace

/-- The acts at the desk, in order. -/
def history (tr : Trace) : Desk.History Value :=
  tr.map Step.act

/-- What became of each update for a subscription. -/
def entries (id : Nat) (tr : Trace) : List (Desk.Entry Value) :=
  Desk.log id (history tr)

/-- What the reader of a subscription got. -/
def received (id : Nat) (tr : Trace) : List Value :=
  tr.flatMap (Step.received id)

theorem entries_snoc (id : Nat) (tr : Trace) (st : Step) :
    entries id (tr ++ [st]) =
      entries id tr ++ st.act.logged id (Desk.published tr.history).length := by
  rw [entries, history, List.map_append]
  exact Desk.log_snoc _ _ _

@[simp] theorem received_append (id : Nat) (tr more : Trace) :
    received id (tr ++ more) = received id tr ++ received id more :=
  List.flatMap_append

@[simp] theorem received_singleton (id : Nat) (st : Step) : received id [st] = st.received id := by
  simp [received]

end Trace

section Steps

variable {σ σ' : Signals} {s s' : Store} {e : Event} {o : Output}

theorem delivery?_of_ready {m : Move} {after : Option (Message × Nat)} (ready : s.Ready m after) :
    delivery? s.activity = none := by
  cases ready with
  | idle h | draining h => rw [h]; rfl

theorem delivery?_of_serves {message : Message} (serves : s.Serves message) :
    delivery? s.activity = none := by
  obtain ⟨left, draining, -⟩ := serves
  rw [draining]
  rfl

theorem desk_of_idle {roster : Roster Value} (t : Store) (idle : t.activity = .idle)
    (same : t.roster = roster) : t.desk = ⟨roster, none, false⟩ := by
  simp [desk, idle, same, delivery?, isOver]

theorem desk_of_resume {roster : Roster Value} {after : Option (Message × Nat)} (t : Store)
    (h : t.activity = resume after) (same : t.roster = roster) :
    t.desk = ⟨roster, none, false⟩ := by
  cases after <;> simp [desk, h, same, delivery?, isOver, resume]

theorem desk_of_ready {m : Move} {after : Option (Message × Nat)} (ready : s.Ready m after) :
    s.desk = ⟨s.roster, none, false⟩ := by
  simp [desk, delivery?_of_ready ready, isOver_eq_false_of_ready ready]

theorem desk_of_serves {message : Message} (serves : s.Serves message) :
    s.desk = ⟨s.roster, none, false⟩ := by
  simp [desk, delivery?_of_serves serves, isOver_eq_false_of_serves serves]

theorem desk_of_delivering {d : Delivery Value} {after : Option (Message × Nat)}
    (delivering : s.activity = .delivering d after) : s.desk = ⟨s.roster, some d, false⟩ := by
  simp [desk, delivering, delivery?, isOver]

/-- An event by which nobody is enrolled and nothing is taken, delivered or read is no act. -/
theorem act_eq_other (same : s'.roster.shape = s.roster.shape)
    (none_new : Step.updates ⟨σ, s, e, o, s'⟩ = []) (apart : e ≠ .act (.owner .deliver))
    (unread : ∀ id token, e ≠ .act (.read id token)) : Step.act ⟨σ, s, e, o, s'⟩ = .other := by
  simp only [Step.act, Roster.enrolled?_of_shape same, none_new]
  cases e with
  | fire => rfl
  | act a =>
    cases a with
    | owner m =>
      cases m with
      | deliver => exact absurd rfl apart
      | _ => rfl
    | read id token => exact absurd rfl (unread id token)
    | _ => rfl

theorem act_eq_publish {v : Value} (same : s'.roster.shape = s.roster.shape)
    (new : Step.updates ⟨σ, s, e, o, s'⟩ = [v]) : Step.act ⟨σ, s, e, o, s'⟩ = .publish v := by
  simp only [Step.act, Roster.enrolled?_of_shape same, new]

theorem act_eq_enroll {accepts : Value → Bool} {token : Token} {initial : List Value} {extra : Nat}
    (enrolled : s'.roster = s.roster.enroll accepts token initial extra) :
    Step.act ⟨σ, s, e, o, s'⟩ =
      .enroll ⟨s.roster.nextId, accepts, token, initial, initial.length + extra⟩ := by
  simp only [Step.act, enrolled, Roster.enrolled?_enroll]

theorem act_eq_turn {d : Delivery Value} {sub : Subscriber Value} {rest : List (Subscriber Value)}
    {after : Option (Message × Nat)} (same : s'.roster.shape = s.roster.shape)
    (delivering : s.activity = .delivering d after) (first : d.rest = sub :: rest) :
    Step.act ⟨σ, s, .act (.owner .deliver), o, s'⟩ =
      .turn sub.id d.item (s.roster.fate? σ s.config.overflow d sub) := by
  have none_new : Step.updates ⟨σ, s, .act (.owner .deliver), o, s'⟩ = [] := rfl
  simp only [Step.act, Roster.enrolled?_of_shape same, none_new, delivering, delivery?, first]

theorem act_of_finish {d : Delivery Value} {after : Option (Message × Nat)}
    (same : s'.roster.shape = s.roster.shape) (delivering : s.activity = .delivering d after)
    (served : d.rest = []) : Step.act ⟨σ, s, .act (.owner .deliver), o, s'⟩ = .other := by
  have none_new : Step.updates ⟨σ, s, .act (.owner .deliver), o, s'⟩ = [] := rfl
  simp only [Step.act, Roster.enrolled?_of_shape same, none_new, delivering, delivery?, served]

theorem act_eq_read {id : Nat} {token : Token} {v : Value}
    (same : s'.roster.shape = s.roster.shape) :
    Step.act ⟨σ, s, .act (.read id token), .delivered (.item v), s'⟩ = .read id v := by
  have none_new : Step.updates ⟨σ, s, .act (.read id token), .delivered (.item v), s'⟩ = [] := rfl
  simp only [Step.act, Roster.enrolled?_of_shape same, none_new]

theorem updates_of_ready {m : Move} {after : Option (Message × Nat)} {v : Value} {rest : List Value}
    (ready : s.Ready m after) (first : s.input.items = v :: rest) :
    Step.updates ⟨σ, s, .act (.owner m), o, s'⟩ = if s.holds v then [] else [v] := by
  rw [Step.updates, taken_of_ready ready first]
  cases h : s.holds v <;> simp [h]

theorem updates_of_serves {message : Message} (serves : s.Serves message) :
    Step.updates ⟨σ, s, .act (.owner .drain), o, s'⟩ = [] := by
  rw [Step.updates, taken_of_serves serves]
  rfl

/-- A client that gives up leaves the roster as it is, or is the reader of a new subscription. -/
theorem roster_abandon (s : Store) (client : Nat) :
    (s.abandon client).roster = s.roster ∨
      ∃ id, (s.abandon client).roster = s.roster.close id := by
  unfold abandon
  dsimp only
  split
  · exact .inr ⟨_, rfl⟩
  · exact .inl rfl

theorem shape_abandon (s : Store) (client : Nat) :
    (s.abandon client).roster.shape = s.roster.shape := by
  rcases roster_abandon s client with same | ⟨id, closed⟩
  · rw [same]
  · rw [closed]
    exact Roster.shape_updateOutbox fun _ => rfl

theorem act_abandon (s : Store) (client : Nat) :
    Step.act ⟨σ, s, .act (.abandon client), o, s.abandon client⟩ = .other :=
  act_eq_other (shape_abandon s client) rfl (by simp) (by simp)

/-- Each step of a store is an act at its desk. -/
theorem Change.desk (h : Change σ s e σ' s' o) (watching : Watching σ s) :
    s.desk.Change σ s.config.overflow (Step.act ⟨σ, s, e, o, s'⟩) s'.desk := by
  cases h with
  | @suppress m after v rest ready first old =>
    exact .of_act (act_eq_other rfl (by simp [updates_of_ready ready first, old])
      (by cases ready <;> simp) (by simp))
      (.stay_of_eq ((desk_of_resume _ rfl rfl).trans (desk_of_ready ready).symm))
  | @update m after v rest ready first new =>
    refine .of_act (act_eq_publish rfl (by simp [updates_of_ready ready first, new]) (v := v)) ?_
    rw [desk_of_ready ready, desk_of_delivering rfl]
    exact .publish v rfl rfl
  | takeRequest idle =>
    exact .of_act (act_eq_other rfl rfl (by simp) (by simp))
      (.stay_of_eq (by simp [Store.desk, idle, delivery?, isOver]))
  | answer serves | ignore serves =>
    exact .of_act (act_eq_other rfl (updates_of_serves serves) (by simp) (by simp))
      (.stay_of_eq ((desk_of_idle _ rfl rfl).trans (desk_of_serves serves).symm))
  | grant serves =>
    refine .of_act (act_eq_enroll rfl) ?_
    rw [desk_of_serves serves, desk_of_idle _ rfl rfl]
    exact .enroll _ _ _ _ rfl
  | skip serves =>
    refine .of_act (act_eq_other rfl (updates_of_serves serves) (by simp) (by simp)) ?_
    rw [desk_of_serves serves, desk_of_idle _ rfl rfl]
    exact .skip
  | die serves =>
    refine .of_act
      (act_eq_other (Roster.shape_clear _) (updates_of_serves serves) (by simp) (by simp)) ?_
    rw [desk_of_serves serves]
    exact .clear rfl
  | @strike id serves =>
    refine .of_act
      (act_eq_other (Roster.shape_remove _ _) (updates_of_serves serves) (by simp) (by simp)) ?_
    rw [desk_of_serves serves, desk_of_idle _ rfl rfl]
    exact .strike id rfl (watching.cancelled id (.inl (sent_of_serves serves))).2
  | finish delivering served =>
    refine .of_act (act_of_finish (Roster.shape_remove _ _) delivering served) ?_
    rw [desk_of_delivering delivering, desk_of_resume _ rfl rfl]
    exact .finish rfl served
  | deliver delivering served =>
    obtain ⟨sub, rest, first⟩ := Roster.first_of_serve? served
    have turn := Roster.turn_of_serve? first served
    refine .of_act (act_eq_turn turn.shape delivering first) ?_
    rw [desk_of_delivering delivering, desk_of_delivering rfl]
    exact .turn rfl first turn
  | giveUp delivering passed =>
    obtain ⟨sub, rest, first, cancelled, rfl⟩ := Roster.strike_of_giveUp? passed
    refine .of_act (act_eq_other rfl rfl (by simp) (by simp)) ?_
    rw [desk_of_delivering delivering, desk_of_delivering rfl]
    exact .giveUp rfl first cancelled
  | stop idle =>
    refine .of_act (act_eq_other (Roster.shape_clear _) rfl (by simp) (by simp)) ?_
    rw [desk_of_idle s idle rfl]
    exact .clear rfl
  | read id token live item =>
    exact .of_act (act_eq_read (Roster.shape_read item)) (.read item)
  | close id =>
    exact .of_act (act_eq_other (Roster.shape_updateOutbox fun _ => rfl) rfl (by simp) (by simp))
      (.close id)
  | refuse client | abandon client =>
    refine .of_act (act_eq_other (shape_abandon s client) rfl (by simp) (by simp)) ?_
    rcases roster_abandon s client with same | ⟨id, closed⟩
    · exact .stay_of_eq (by rw [Store.desk, same]; rfl)
    · have desk : (s.abandon client).desk = { s.desk with roster := s.roster.close id } := by
        rw [Store.desk, closed]
        rfl
      rw [desk]
      exact .close id
  | readEnd id token =>
    have act : Step.act ⟨σ, s, .act (.read id token), .delivered .ended, s⟩ = .other := by
      have none_new : Step.updates ⟨σ, s, .act (.read id token), .delivered .ended, s⟩ = [] := rfl
      simp only [Step.act, Roster.enrolled?_self, none_new]
    exact .of_act act .stay
  | _ => exact .of_act (act_eq_other rfl rfl (by simp) (by simp)) .stay

/-- Nobody is enrolled in a step in which a value is taken. -/
theorem Change.roster_of_updates (h : Change σ s e σ' s' o)
    (new : Step.updates ⟨σ, s, e, o, s'⟩ ≠ []) : s'.roster = s.roster := by
  cases h with
  | suppress | update => rfl
  | answer serves | ignore serves | grant serves | skip serves | die serves | strike serves =>
    exact absurd (updates_of_serves serves) new
  | _ => exact absurd rfl new

/-- What a store publishes are the values that change its state. -/
theorem Change.published (h : Change σ s e σ' s' o) :
    (Step.act ⟨σ, s, e, o, s'⟩).published = Step.updates ⟨σ, s, e, o, s'⟩ := by
  have short : (Step.updates ⟨σ, s, e, o, s'⟩).length ≤ 1 :=
    (List.length_filter_le _ _).trans (length_taken_le _)
  cases new : Step.updates ⟨σ, s, e, o, s'⟩ with
  | nil =>
    simp only [Step.act, new]
    split
    · rfl
    · contradiction
    · split
      · split
        · split <;> rfl
        · rfl
      · rfl
      · rfl
  | cons v rest =>
    have same := h.roster_of_updates (by simp [new])
    obtain rfl : rest = [] := by
      rw [new, List.length_cons] at short
      exact List.length_eq_zero_iff.1 (by omega)
    rw [act_eq_publish (congrArg Roster.shape same) new]
    rfl

theorem act_of_read {id : Nat} {token : Token} (same : s'.roster.shape = s.roster.shape)
    (reader : Nat) : (Step.act ⟨σ, s, .act (.read id token), o, s'⟩).received reader =
      Step.received reader ⟨σ, s, .act (.read id token), o, s'⟩ := by
  have none_new : Step.updates ⟨σ, s, .act (.read id token), o, s'⟩ = [] := rfl
  simp only [Step.act, Roster.enrolled?_of_shape same, none_new]
  cases o with
  | delivered d => cases d <;> rfl
  | _ => rfl

/-- What readers get is what the acts tell. -/
theorem Change.received (h : Change σ s e σ' s' o) (reader : Nat) :
    (Step.act ⟨σ, s, e, o, s'⟩).received reader = Step.received reader ⟨σ, s, e, o, s'⟩ := by
  have unread (apart : ∀ id token, e ≠ .act (.read id token)) :
      (Step.act ⟨σ, s, e, o, s'⟩).received reader = Step.received reader ⟨σ, s, e, o, s'⟩ := by
    have none_received : Step.received reader ⟨σ, s, e, o, s'⟩ = [] := by
      unfold Step.received
      cases e with
      | fire => rfl
      | act a =>
        cases a with
        | read id token => exact absurd rfl (apart id token)
        | _ => rfl
    rw [none_received]
    unfold Step.act
    split
    · rfl
    · rfl
    · split
      · split
        · split <;> rfl
        · rfl
      next same _ => exact absurd same (apart _ _)
      · rfl
  cases h with
  | read id token live item =>
    exact act_of_read (Roster.shape_read item) reader
  | readEnd id token => exact act_of_read rfl reader
  | _ => exact unread (by simp)

theorem Change.grows (h : Change σ s e σ' s' o) : σ.Grows σ' := by
  cases h with
  | fire t => exact σ.grows_fire t
  | stop => exact σ.grows_fireAll _
  | _ => exact σ.grows_refl

theorem Change.watching (h : Change σ s e σ' s' o) (watching : Watching σ s) : Watching σ' s' := by
  have change := h.desk watching
  refine change.watched h.grows watching (fun id token => h.watches) fun id condemned => ?_
  rcases h.condemns condemned with before | ⟨token, watched, cancelled⟩
  · exact .inl before
  · exact .inr ⟨token, .inl watched, cancelled⟩

end Steps

/-! ## Runs -/

section Runs

variable {config : StoreConfig} {tr : Trace} {σ : Signals} {s : Store}

theorem Run.watching (run : Run config tr σ s) : Watching σ s := by
  induction run with
  | start σ made =>
    rw [ofConfig?_eq_some made]
    exact Desk.watched_nil σ 1 (by simp [Watches]) (by simp [Condemns, inFlight])
  | step run e permitted happened ih => exact (change_of_effect happened).watching ih

/-- A run of a store is a run of its desk. -/
theorem Run.desk (run : Run config tr σ s) : Desk.Run config.overflow tr.history σ s.desk := by
  induction run with
  | start σ made =>
    rw [ofConfig?_eq_some made]
    exact .start σ 1
  | @step tr σ σ' s s' o run e permitted happened ih =>
    have change := change_of_effect happened
    have act := change.desk run.watching
    rw [run.config_eq] at act
    rw [Trace.history, List.map_append]
    exact ih.step act change.grows

theorem Run.published (run : Run config tr σ s) : Desk.published tr.history = tr.updates := by
  induction run with
  | start => rfl
  | @step tr σ σ' s s' o run e permitted happened ih =>
    rw [Trace.history, List.map_append, Desk.published_append, Trace.updates_append,
      Trace.updates_singleton, ← (change_of_effect happened).published]
    exact congrArg₂ _ ih (List.append_nil _)

theorem Run.received (run : Run config tr σ s) (id : Nat) :
    Desk.received id tr.history = tr.received id := by
  induction run with
  | start => rfl
  | @step tr σ σ' s s' o run e permitted happened ih =>
    rw [Trace.history, List.map_append, Desk.received_append, Trace.received_append,
      Trace.received_singleton, ← (change_of_effect happened).received]
    exact congrArg₂ _ ih (List.append_nil _)

/-- A delivery of a store is never broken off. -/
theorem Step.cuts_act (st : Step) : st.act.cuts = false := by
  unfold Step.act
  split
  · rfl
  · rfl
  · split
    · split
      next d _ =>
        split
        next sub _ _ =>
          cases fate : st.store.roster.fate? st.signals st.store.config.overflow d sub with
          | none => rfl
          | some fate' =>
            cases fate' with
            | cut => exact absurd fate Roster.fate?_ne_cut
            | _ => rfl
        · rfl
      · rfl
    · rfl
    · rfl

theorem Trace.uncut (tr : Trace) : Desk.Uncut tr.history := by
  intro a member
  obtain ⟨st, -, rfl⟩ := List.mem_map.1 member
  exact st.cuts_act

end Runs

end Telemetry.Store
