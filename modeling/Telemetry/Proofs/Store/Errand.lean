import Telemetry.Proofs.Store.Client

/-!
# Clients that never give up

A client that never gives up has one errand at a time. A value of it waits to enter the input queue,
or a request of it waits, is on its way, or has its answer, and nothing else is held for it. While
others act the errand stays as it is or the owner gets on with it; once the client has its result
nothing is left of it.

## Main definitions

* `Errand`: what a store holds for such a client.
* `Advance`: how an errand goes on while others act.
* `Hosts`: a store all of whose clients are such.

## Main results

* `Change.advance`, `Change.resolves`: errands go on, and end with a result.
* `Change.hosts`: a store goes on to host its clients.
-/

namespace Telemetry.Store

/-- Nothing is held for a client. -/
def View.none : View :=
  ⟨[], [], false, [], []⟩

/-- What a store can hold for a client that never gives up, what it asks and what it may be told. -/
inductive Errand (client : Nat) (asks : Request → Prop) (told : Reply → Prop) : View → Prop
  | none : Errand client asks told .none
  | filling (v : Value) : Errand client asks told ⟨[v], [], false, [], []⟩
  | asking {request : Request} (asked : asks request) :
      Errand client asks told ⟨[], [.ask client request], false, [], []⟩
  | sent {request : Request} (asked : asks request) :
      Errand client asks told ⟨[], [], true, [], [.ask client request]⟩
  | lost : Errand client asks told ⟨[], [], true, [], []⟩
  | answered {reply : Reply} (given : told reply) :
      Errand client asks told ⟨[], [], false, [reply], []⟩

/-- How an errand goes on while the client waits. -/
inductive Advance (s s' : Store) (client : Nat) : View → View → Prop
  | stays (w : View) : Advance s s' client w w
  | enters (request : Request) :
      Advance s s' client ⟨[], [.ask client request], false, [], []⟩
        ⟨[], [], true, [], [.ask client request]⟩
  | served {request : Request} {reply : Reply} (gives : s.Gives s' request reply) :
      Advance s s' client ⟨[], [], true, [], [.ask client request]⟩ ⟨[], [], false, [reply], []⟩
  | lost (request : Request) :
      Advance s s' client ⟨[], [], true, [], [.ask client request]⟩ ⟨[], [], true, [], []⟩

/-- The clients of a store never give up, and only some of them are busy. -/
structure Hosts (busy : Nat → Prop) (asks : Nat → Request → Prop) (told : Nat → Reply → Prop)
    (s : Store) : Prop where
  reports : s.Reports
  /-- Nothing is left to serve when the owner is gone. -/
  settled : s.isOver = true → s.control.items = []
  errand : ∀ c, Errand c (asks c) (told c) (s.view c)
  idle : ∀ c, ¬ busy c → s.view c = .none

section Errands

variable {s s' : Store} {client : Nat} {asks : Request → Prop} {told told' : Reply → Prop}
  {w w' : View}

theorem Errand.mono {asks' : Request → Prop} (errand : Errand client asks told w)
    (keeps : ∀ request, asks request → asks' request) (keeps' : ∀ reply, told reply → told' reply) :
    Errand client asks' told' w := by
  cases errand with
  | none => exact .none
  | filling v => exact .filling v
  | asking asked => exact .asking (keeps _ asked)
  | sent asked => exact .sent (keeps _ asked)
  | lost => exact .lost
  | answered given => exact .answered (keeps' _ given)

theorem Errand.of_asking {m : Message} (errand : Errand client asks told (s.view client))
    (waits : (Party.client client, m) ∈ s.control.waiting) :
    ∃ request, m = .ask client request ∧
      s.view client = ⟨[], [.ask client request], false, [], []⟩ := by
  have member : m ∈ (s.view client).asking :=
    List.mem_map.2 ⟨_, List.mem_filter.2 ⟨waits, by simp⟩, rfl⟩
  generalize s.view client = w at *
  cases errand with
  | @asking request asked => exact ⟨request, List.mem_singleton.1 member, rfl⟩
  | _ => cases member

theorem Errand.of_flight {request : Request} (errand : Errand client asks told (s.view client))
    (sent : .ask client request ∈ s.inFlight) :
    asks request ∧ s.view client = ⟨[], [], true, [], [.ask client request]⟩ := by
  have member : .ask client request ∈ (s.view client).inFlight :=
    List.mem_filter.2 ⟨sent, by simp [Message.isFrom]⟩
  generalize s.view client = w at *
  cases errand with
  | sent asked =>
    cases List.mem_singleton.1 member
    exact ⟨asked, rfl⟩
  | _ => cases member

theorem Errand.of_reply {reply : Reply} (errand : Errand client asks told (s.view client))
    (there : List.lookup client s.replies = some reply) :
    told reply ∧ s.view client = ⟨[], [], false, [reply], []⟩ := by
  obtain ⟨l, l', split, -⟩ := List.lookup_eq_some_iff.1 there
  have member : reply ∈ (s.view client).replies :=
    List.mem_map.2 ⟨(client, reply), List.mem_filter.2 ⟨by simp [split], by simp⟩, rfl⟩
  generalize s.view client = w at *
  cases errand with
  | answered given =>
    obtain rfl := List.mem_singleton.1 member
    exact ⟨given, rfl⟩
  | _ => cases member

theorem Errand.of_filling {v : Value} (errand : Errand client asks told (s.view client))
    (waits : (client, v) ∈ s.input.waiting) : s.view client = ⟨[v], [], false, [], []⟩ := by
  have member : v ∈ (s.view client).filling :=
    List.mem_map.2 ⟨_, List.mem_filter.2 ⟨waits, by simp⟩, rfl⟩
  generalize s.view client = w at *
  cases errand with
  | filling =>
    obtain rfl := List.mem_singleton.1 member
    rfl
  | _ => cases member

/-- Clients for whom nothing is held may have any errand. -/
theorem Hosts.alter {busy busy' : Nat → Prop} {asks asks' : Nat → Request → Prop}
    {told told' : Nat → Reply → Prop} (hosts : Hosts busy asks told s)
    (keeps : ∀ c, s.view c ≠ .none → (busy c → busy' c) ∧
      (∀ request, asks c request → asks' c request) ∧ ∀ reply, told c reply → told' c reply) :
    Hosts busy' asks' told' s where
  reports := hosts.reports
  settled := hosts.settled
  errand c := by
    by_cases free : s.view c = .none
    · rw [free]
      exact .none
    · exact (hosts.errand c).mono (keeps c free).2.1 (keeps c free).2.2
  idle c idle := by
    by_contra held
    exact held (hosts.idle c fun busy => idle ((keeps c held).1 busy))

theorem Advance.errand (advance : Advance s s' client w w') (errand : Errand client asks told w)
    (keeps : ∀ reply, told reply → told' reply)
    (answers : ∀ request reply, asks request → s.Gives s' request reply → told' reply) :
    Errand client asks told' w' := by
  cases advance with
  | stays => exact errand.mono (fun _ => id) keeps
  | enters =>
    cases errand with
    | asking asked => exact .sent asked
  | served gives =>
    cases errand with
    | sent asked => exact .answered (answers _ _ asked gives)
  | lost => exact .lost

theorem Advance.eq_none (advance : Advance s s' client .none w') : w' = .none := by
  generalize nothing : View.none = w at advance
  cases advance with
  | stays => rfl
  | _ => cases nothing

end Errands

section Steps

variable {σ σ' : Signals} {s s' : Store} {e : Event} {o : Output} {client : Nat}
  {busy busy' : Nat → Prop} {asks : Nat → Request → Prop} {told told' : Nat → Reply → Prop}

/-- While a client waits its errand stays as it is or goes on. -/
theorem Change.advance (h : Change σ s e σ' s' o) (hosts : Hosts busy asks told s)
    (apart : e.by? ≠ some client) : Advance s s' client (s.view client) (s'.view client) := by
  have stays (same : s'.view client = s.view client) :
      Advance s s' client (s.view client) (s'.view client) := by
    rw [same]
    exact .stays _
  cases h with
  | fill c v =>
    have other : c ≠ client := fun same => apart (congrArg some same)
    exact stays (by rw [view_fill, if_neg other, List.append_nil])
  | ask c request =>
    have other : c ≠ client := fun same => apart (congrArg some same)
    exact stays (by rw [view_ask, if_neg other, List.append_nil])
  | send c going entered =>
    obtain ⟨m, entry⟩ := Queue.entry_of_enter? entered
    obtain ⟨request, rfl, old⟩ := (hosts.errand c).of_asking entry.waits
    rw [view_send c entry.waiting entry.items (fun _ => rfl)]
    split
    next same =>
      subst same
      rw [old]
      exact .enters request
    · exact .stays _
  | report id going entered =>
    obtain ⟨m, entry⟩ := Queue.entry_of_enter? entered
    obtain rfl := hosts.reports id m entry.waits
    exact stays (view_report entry.waiting entry.items)
  | collect c =>
    have other : c ≠ client := fun same => apart (congrArg some same)
    exact stays (by rw [view_handOver, if_neg other])
  | refuse c | abandon c =>
    have other : c ≠ client := fun same => apart (congrArg some same)
    exact stays (by rw [view_abandon, if_neg other])
  | accept c _ _ entered =>
    obtain ⟨v, entry⟩ := Queue.entry_of_enter? entered
    have other : c ≠ client := fun same => apart (congrArg some same)
    exact stays (by rw [view_accept c entry.waiting, if_neg other])
  | wake => exact stays (view_wake _ _)
  | disperse => exact stays (view_disperse _)
  | @answer c request reply serves is =>
    rw [view_answered serves]
    split
    next same =>
      subst same
      rw [((hosts.errand c).of_flight (sent_of_serves serves)).2]
      exact .served (gives_of_replyTo? is)
    · exact .stays _
  | @grant c filter replay token serves =>
    rw [view_answered serves]
    split
    next same =>
      subst same
      rw [((hosts.errand c).of_flight (sent_of_serves serves)).2]
      exact .served ⟨rfl, rfl⟩
    · exact .stays _
  | @ignore c _ _ serves _ unawaited | @skip c _ _ _ serves unawaited =>
    have there := ((hosts.errand c).of_flight (sent_of_serves serves)).2
    have awaited : (s.view c).awaiting = true := by rw [there]
    exact absurd (List.contains_iff_mem.1 awaited) unawaited
  | strike serves =>
    exact stays (by rw [view_passed serves, if_neg (by simp [Message.isFrom])])
  | die =>
    rw [view_die]
    have errand := hosts.errand client
    generalize s.view client = w at *
    cases errand with
    | @sent request asked => exact .lost request
    | _ => exact .stays _
  | suppress ready | update ready =>
    refine stays (view_congr rfl rfl rfl rfl ?_)
    simp [inFlight, owed_of_ready ready]
  | takeRequest idle first =>
    refine stays (view_congr rfl rfl rfl rfl ?_)
    simp [inFlight, idle, Queue.dequeue, first]
  | finish delivering | deliver delivering | giveUp delivering =>
    refine stays (view_congr rfl rfl rfl rfl ?_)
    simp [inFlight, delivering]
  | stop idle =>
    refine stays (view_congr rfl rfl rfl rfl ?_)
    simp [inFlight, idle]
  | _ => exact .stays _

theorem Change.settled (h : Change σ s e σ' s' o)
    (settled : s.isOver = true → s.control.items = []) (ended : s'.isOver = true) :
    s'.control.items = [] := by
  cases before : s.isOver with
  | true =>
    have none_left := settled before
    cases h with
    | send _ going | report _ going => cases going.symm.trans before
    | takeRequest idle => simp [isOver, idle] at before
    | die => rfl
    | _ => exact none_left
  | false =>
    cases h with
    | @suppress _ after => cases after <;> cases ended
    | @finish _ after => cases after <;> cases ended
    | update | takeRequest | deliver | giveUp => cases ended
    | answer | ignore | grant | skip | strike => cases ended
    | die => rfl
    | stop idle done =>
      simp only [mayStop, Bool.and_eq_true, List.isEmpty_iff] at done
      exact done.1.2
    | _ => exact absurd (before.symm.trans ended) Bool.false_ne_true

/-- When an errand ends, nothing is left of it. -/
theorem Change.resolves (h : Change σ s (.act (.resolve client)) σ' s' o)
    (hosts : Hosts busy asks told s) :
    s'.view client = .none ∧ ∃ r, o = .result r ∧ ∀ reply, r = .ok reply →
      reply = .done ∨ told client reply := by
  have errand := hosts.errand client
  cases h with
  | collect _ there =>
    obtain ⟨given, view⟩ := errand.of_reply there
    refine ⟨?_, _, rfl, ?_⟩
    · rw [view_handOver, if_pos rfl, view]
      rfl
    · rintro _ ⟨⟩
      exact .inr given
  | refuse _ _ ended =>
    refine ⟨?_, _, rfl, nofun⟩
    have none_sent : s.inFlight = [] := by
      rw [inFlight, hosts.settled ended]
      unfold isOver at ended
      split at ended
      next stopped => rw [stopped]; rfl
      next dead => rw [dead]; rfl
      · cases ended
    rw [view_abandon, if_pos rfl, view, none_sent]
    rfl
  | accept _ _ _ entered =>
    obtain ⟨v, entry⟩ := Queue.entry_of_enter? entered
    refine ⟨?_, _, rfl, ?_⟩
    · rw [view_accept client entry.waiting, if_pos rfl, errand.of_filling entry.waits]
      rfl
    · rintro _ ⟨⟩
      exact .inl rfl

/-- A store hosts its clients as long as whoever acts is one of them. -/
theorem Change.hosts (h : Change σ s e σ' s' o) (hosts : Hosts busy asks told s)
    (keeps : ∀ c reply, told c reply → told' c reply)
    (answers : ∀ c request reply, asks c request → s.Gives s' request reply → told' c reply)
    (others : ∀ c, e.by? ≠ some c → busy c → busy' c)
    (own : ∀ c, e.by? = some c →
      Errand c (asks c) (told' c) (s'.view c) ∧ (¬ busy' c → s'.view c = .none)) :
    Hosts busy' asks told' s' where
  reports := h.reports hosts.reports
  settled := h.settled hosts.settled
  errand c := by
    by_cases acts : e.by? = some c
    · exact (own c acts).1
    · exact (h.advance hosts acts).errand (hosts.errand c) (keeps c) (answers c)
  idle c free := by
    by_cases acts : e.by? = some c
    · exact (own c acts).2 free
    · have advance := h.advance hosts acts
      rw [hosts.idle c fun was => free (others c acts was)] at advance
      exact advance.eq_none

end Steps

end Telemetry.Store
