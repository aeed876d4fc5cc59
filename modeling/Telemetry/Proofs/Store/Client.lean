import Telemetry.Proofs.Store.Ledger

/-!
# Clients of a store

At each moment of a run a client is in one of six phases: it has nothing under way, a value of it
waits to enter the input queue, a request of it waits to enter the control queue, the request is on
its way through the owner, the owner broke down before it came to the request, or the answer is
there. What a store holds for one client is its view of that client, and the phase
ties the view to what the client has begun.

## Main definitions

* `Trace.Begun`, `Trace.Sent`, `Trace.Answered`: how far a client has come with what it does.
* `Store.view`, `Phase`: what a store holds for a client, and what that means.
-/

namespace Telemetry

namespace Store

open scoped List

/-- The client that begins or ends something. -/
def Event.by? : Event → Option Nat
  | act (.fill client _) | act (.ask client _) | act (.resolve client) | act (.abandon client) =>
    some client
  | _ => none

/-- A request gets a reply; one for a subscription also gets a queue with the replay in it. -/
def Gives (s next : Store) (request : Request) (reply : Reply) : Prop :=
  match request with
  | .subscribe filter replay token =>
    reply = .subscribed s.roster.nextId token ∧
      next.roster = s.roster.enroll filter.accepts token (s.replayOf filter replay)
        s.config.subscriberCapacity.toNat
  | request => s.replyTo? request = some reply

/-- The owner gives a client the answer to its request. -/
structure Step.Answers (st : Step) (client : Nat) (request : Request) (reply : Reply) : Prop where
  event : st.event = .act (.owner .drain)
  serves : st.store.Serves (.ask client request)
  gives : st.store.Gives st.next request reply

namespace Trace

/-- A client neither begins nor ends anything. -/
def Quiet (client : Nat) (tr : Trace) : Prop :=
  ∀ st ∈ tr, st.event.by? ≠ some client

/-- What a client has begun and not ended. -/
def Begun (client : Nat) (e : Event) (tr : Trace) : Prop :=
  ∃ before st later, tr = before ++ st :: later ∧ st.event = e ∧ Quiet client later

/-- A client waits for the answer to a request that it has sent. When the request got into its
queue, `n` values had entered the input queue. -/
def Sent (client : Nat) (request : Request) (n : Nat) (tr : Trace) : Prop :=
  ∃ before ask between sent later, tr = before ++ ask :: (between ++ sent :: later) ∧
    ask.event = .act (.ask client request) ∧ sent.event = .act (.enter (.client client)) ∧
    Quiet client (between ++ sent :: later) ∧ (values (before ++ ask :: between)).length = n

end Trace

/-- A trace with three of its steps: a request is asked, it gets into its queue, and it is
served. -/
structure Course where
  before : Trace
  ask : Step
  between : Trace
  sent : Step
  waiting : Trace
  served : Step
  later : Trace

namespace Course

def trace (c : Course) : Trace :=
  c.before ++ c.ask :: (c.between ++ c.sent :: (c.waiting ++ c.served :: c.later))

/-- What had happened when the request got into its queue. -/
def untilSent (c : Course) : Trace :=
  c.before ++ c.ask :: c.between

/-- What had happened when the request was served. -/
def untilServed (c : Course) : Trace :=
  c.before ++ c.ask :: (c.between ++ c.sent :: c.waiting)

theorem trace_eq (c : Course) : c.trace = c.untilServed ++ c.served :: c.later := by
  simp [trace, untilServed]

theorem untilServed_le (c : Course) : c.untilServed <+: c.trace :=
  ⟨_, c.trace_eq.symm⟩

theorem untilSent_le (c : Course) : c.untilSent <+: c.untilServed :=
  ⟨c.sent :: c.waiting, by simp [untilSent, untilServed]⟩

/-- The course of a request of a client: the client does nothing meanwhile, and before the owner
serves the request it takes all values that had entered the input queue when the request was
sent. -/
structure Of (c : Course) (client : Nat) (request : Request) (reply : Reply) : Prop where
  asks : c.ask.event = .act (.ask client request)
  sends : c.sent.event = .act (.enter (.client client))
  answers : c.served.Answers client request reply
  quiet : Trace.Quiet client (c.between ++ c.sent :: (c.waiting ++ c.served :: c.later))
  counted : Trace.values c.untilSent <+: Trace.taken c.untilServed

end Course

namespace Trace

/-- The answer to a request of a client is there. -/
def Answered (client : Nat) (request : Request) (reply : Reply) (tr : Trace) : Prop :=
  ∃ c : Course, c.trace = tr ∧ c.Of client request reply

variable {client : Nat} {tr more : Trace} {st : Step}

theorem append_cons_append (before between : Trace) (ask : Step) :
    before ++ ask :: (between ++ more) = (before ++ ask :: between) ++ more := by
  simp

theorem quiet_nil : Quiet client [] := by
  simp [Quiet]

theorem quiet_append : Quiet client (tr ++ more) ↔ Quiet client tr ∧ Quiet client more := by
  simp only [Quiet, List.mem_append, or_imp, forall_and]

theorem Quiet.snoc (h : Quiet client tr) (quiet : st.event.by? ≠ some client) :
    Quiet client (tr ++ [st]) :=
  quiet_append.2 ⟨h, by simpa [Quiet] using quiet⟩

theorem begun_snoc {e : Event} (h : st.event = e) : Begun client e (tr ++ [st]) :=
  ⟨tr, st, [], rfl, h, quiet_nil⟩

theorem Begun.snoc {e : Event} (h : Begun client e tr) (quiet : st.event.by? ≠ some client) :
    Begun client e (tr ++ [st]) := by
  obtain ⟨before, first, later, rfl, event, silent⟩ := h
  exact ⟨before, first, later ++ [st], by simp, event, silent.snoc quiet⟩

theorem Sent.snoc {request : Request} {n : Nat} (h : Sent client request n tr)
    (quiet : st.event.by? ≠ some client) : Sent client request n (tr ++ [st]) := by
  obtain ⟨before, ask, between, sent, later, rfl, asks, sends, silent, count⟩ := h
  refine ⟨before, ask, between, sent, later ++ [st], by simp, asks, sends, ?_, count⟩
  simpa using silent.snoc quiet

theorem Answered.snoc {request : Request} {reply : Reply} (h : Answered client request reply tr)
    (quiet : st.event.by? ≠ some client) : Answered client request reply (tr ++ [st]) := by
  obtain ⟨c, rfl, of⟩ := h
  refine ⟨{ c with later := c.later ++ [st] }, by simp [Course.trace], { of with quiet := ?_ }⟩
  simpa using of.quiet.snoc quiet

/-- A request that was begun is sent once it gets into its queue. -/
theorem Begun.sent {request : Request} (h : Begun client (.act (.ask client request)) tr)
    (sends : st.event = .act (.enter (.client client))) :
    Sent client request (values tr).length (tr ++ [st]) := by
  obtain ⟨before, ask, between, rfl, asks, silent⟩ := h
  refine ⟨before, ask, between, st, [], by simp, asks, sends, ?_, rfl⟩
  exact silent.snoc (by simp [sends, Event.by?])

/-- No more values had entered when a request was sent than have entered now. -/
theorem Sent.count_le {request : Request} {n : Nat} (h : Sent client request n tr) :
    n ≤ (values tr).length := by
  obtain ⟨before, ask, between, sent, later, rfl, -, -, -, rfl⟩ := h
  rw [append_cons_append]
  exact (values_le_append _ _).length_le

/-- A request is answered in time if the owner has taken as many values as had entered when it was
sent. -/
theorem Sent.answered {request : Request} {reply : Reply} {n : Nat} (h : Sent client request n tr)
    (order : taken tr <+: values tr) (enough : n ≤ (taken tr).length)
    (answers : st.Answers client request reply) : Answered client request reply (tr ++ [st]) := by
  obtain ⟨before, ask, between, sent, waiting, rfl, asks, sends, silent, rfl⟩ := h
  have earlier : values (before ++ ask :: between) <+:
      values (before ++ ask :: (between ++ sent :: waiting)) := by
    rw [append_cons_append]
    exact values_le_append _ _
  refine ⟨⟨before, ask, between, sent, waiting, st, []⟩, by simp [Course.trace],
    asks, sends, answers, ?_, List.prefix_of_prefix_length_le earlier order enough⟩
  have quiet : st.event.by? ≠ some client := by simp [answers.event, Event.by?]
  simpa using silent.snoc quiet

theorem begun_of_play? {events rest : List Event} {e : Event} {now now' : Trace × Signals × Store}
    (played : play? (events ++ e :: rest) now = some now')
    (quiet : ∀ e ∈ rest, e.by? ≠ some client) : Begun client e now'.1 := by
  obtain ⟨more, trace, same⟩ := events_of_play? played
  obtain ⟨first, last, rfl, -, same⟩ := List.map_eq_append_iff.1 same
  obtain ⟨st, last, rfl, event, same⟩ := List.map_eq_cons_iff.1 same
  refine ⟨now.1 ++ first, st, last, by rw [trace, List.append_assoc], event, ?_⟩
  intro st member
  exact quiet _ (same ▸ List.mem_map_of_mem member)

/-- There is one step after which a client is quiet. -/
theorem split_unique {before before' later later' : Trace} {st st' : Step}
    (same : before ++ st :: later = before' ++ st' :: later')
    (by_client : st.event.by? = some client) (by_client' : st'.event.by? = some client)
    (silent : Quiet client later) (silent' : Quiet client later') :
    before = before' ∧ st = st' := by
  rcases List.append_eq_append_iff.1 same with ⟨l, -, split⟩ | ⟨l, -, split⟩
  · cases l with
    | nil => simp_all
    | cons x l =>
      obtain ⟨rfl, rfl⟩ := List.cons.inj split
      exact absurd by_client' (silent st' (by simp))
  · cases l with
    | nil => simp_all
    | cons x l =>
      obtain ⟨rfl, rfl⟩ := List.cons.inj split
      exact absurd by_client (silent' st (by simp))

/-- A client has begun one thing at a time. -/
theorem Begun.unique {e e' : Event} (h : Begun client e tr) (h' : Begun client e' tr)
    (by_client : e.by? = some client) (by_client' : e'.by? = some client) : e = e' := by
  obtain ⟨before, st, later, rfl, rfl, silent⟩ := h
  obtain ⟨before', st', later', same, rfl, silent'⟩ := h'
  exact congrArg Step.event (split_unique same by_client by_client' silent silent').2

end Trace

theorem Course.Of.begun {c : Course} {client : Nat} {request : Request} {reply : Reply}
    (of : c.Of client request reply) : Trace.Begun client (.act (.ask client request)) c.trace :=
  ⟨c.before, c.ask, _, rfl, of.asks, of.quiet⟩

/-! ## Views -/

/-- What a store holds for one client. -/
structure View where
  filling : List Value
  asking : List Message
  awaiting : Bool
  replies : List Reply
  inFlight : List Message

def view (client : Nat) (s : Store) : View where
  filling := (s.input.waiting.filter (·.1 == client)).map Prod.snd
  asking := (s.control.waiting.filter (·.1 == .client client)).map Prod.snd
  awaiting := s.awaiting.contains client
  replies := (s.replies.filter (·.1 == client)).map Prod.snd
  inFlight := s.inFlight.filter (Message.isFrom client)

/-- What a store can hold for a client after a run. A client that gave up may have left a request on
its way that nobody waits for; it can fill meanwhile. -/
inductive Phase (client : Nat) (tr : Trace) : View → Prop
  | free (inFlight : List Message) : Phase client tr ⟨[], [], false, [], inFlight⟩
  | filling {v : Value} (begun : tr.Begun client (.act (.fill client v)))
      (inFlight : List Message) : Phase client tr ⟨[v], [], false, [], inFlight⟩
  | asking {request : Request} (begun : tr.Begun client (.act (.ask client request))) :
      Phase client tr ⟨[], [.ask client request], false, [], []⟩
  | sent {request : Request} {n : Nat} (sent : tr.Sent client request n) :
      Phase client tr ⟨[], [], true, [], [.ask client request]⟩
  | lost : Phase client tr ⟨[], [], true, [], []⟩
  | answered {request : Request} {reply : Reply} (answered : tr.Answered client request reply) :
      Phase client tr ⟨[], [], false, [reply], []⟩

section Views

variable {client : Nat} {tr : Trace} {st : Step} {w : View} {s s' : Store}

/-- A client stays in its phase as long as it does nothing and the store does nothing for it. -/
theorem Phase.snoc (h : Phase client tr w) (quiet : st.event.by? ≠ some client) :
    Phase client (tr ++ [st]) w := by
  cases h with
  | free inFlight => exact .free inFlight
  | filling begun inFlight => exact .filling (begun.snoc quiet) inFlight
  | asking begun => exact .asking (begun.snoc quiet)
  | sent sent => exact .sent (sent.snoc quiet)
  | lost => exact .lost
  | answered answered => exact .answered (answered.snoc quiet)

theorem Phase.carry (h : Phase client tr (s.view client)) (quiet : st.event.by? ≠ some client)
    (same : s'.view client = s.view client) : Phase client (tr ++ [st]) (s'.view client) := by
  rw [same]
  exact h.snoc quiet

/-- A step that means something to one client only. -/
theorem Phase.branch {c : Nat} {w' : View} (h : Phase client tr w)
    (quiet : c ≠ client → st.event.by? ≠ some client)
    (own : c = client → Phase client (tr ++ [st]) w') :
    Phase client (tr ++ [st]) (if c = client then w' else w) := by
  split
  next same => exact own same
  next differ => exact h.snoc (quiet differ)

theorem view_congr (input : s'.input.waiting = s.input.waiting)
    (control : s'.control.waiting = s.control.waiting) (awaiting : s'.awaiting = s.awaiting)
    (replies : s'.replies = s.replies) (inFlight : s'.inFlight = s.inFlight) :
    s'.view client = s.view client := by
  simp only [view, input, control, awaiting, replies, inFlight]

theorem filling_eq_nil (h : s.input.waits client = false) : (s.view client).filling = [] := by
  simpa [view, Queue.waits] using h

theorem asking_eq_nil (h : s.control.waits (.client client) = false) :
    (s.view client).asking = [] := by
  simpa [view, Queue.waits] using h

theorem replies_eq_nil (h : List.lookup client s.replies = none) :
    (s.view client).replies = [] := by
  have none_there := List.lookup_eq_none_iff.1 h
  simp only [view, List.map_eq_nil_iff, List.filter_eq_nil_iff]
  intro p member
  have differ : client ≠ p.1 := by simpa using none_there p member
  simpa using Ne.symm differ

/-- A client that may begin something is in no queue and nothing is there for it. -/
theorem Phase.eq_of_isFree (h : Phase client tr (s.view client)) (free : s.isFree client = true) :
    s.view client = ⟨[], [], false, [], (s.view client).inFlight⟩ := by
  obtain ⟨⟨⟨fills, asks⟩, awaits⟩, replies⟩ : ((s.input.waits client = false ∧
      s.control.waits (.client client) = false) ∧ s.awaiting.contains client = false) ∧
      List.lookup client s.replies = none := by
    simpa [isFree, isPending] using free
  have filling := filling_eq_nil fills
  have asking := asking_eq_nil asks
  have awaiting : (s.view client).awaiting = false := awaits
  have replies := replies_eq_nil replies
  generalize s.view client = w at *
  cases h with
  | free => rfl
  | filling => cases filling
  | asking => cases asking
  | sent | lost => cases awaiting
  | answered => cases replies

theorem gives_of_replyTo? {request : Request} {reply : Reply}
    (is : s.replyTo? request = some reply) : s.Gives s' request reply := by
  cases request with
  | subscribe => cases is
  | _ => exact is

/-- What the line for requests holds of one who waits for the end of a subscription. -/
def Reports (s : Store) : Prop :=
  ∀ id message, (Party.watcher id, message) ∈ s.control.waiting → message = .unsubscribe id

end Views

section Steps

variable {client : Nat} {tr : Trace} {σ σ' : Signals} {s s' : Store} {e : Event} {o : Output}

theorem Change.reports (h : Change σ s e σ' s' o) (reports : s.Reports) : s'.Reports := by
  intro id message waits
  cases h with
  | ask c request =>
    simp only [Store.ask, Queue.join, List.mem_append, List.mem_singleton, Prod.mk.injEq,
      reduceCtorEq, false_and, or_false] at waits
    exact reports id message waits
  | send c going entered | report c going entered =>
    obtain ⟨m, entry⟩ := Queue.entry_of_enter? entered
    have waits : (Party.watcher id, message) ∈ (s.control.leave _).waiting := entry.waiting ▸ waits
    exact reports id message (List.mem_of_mem_filter waits)
  | refuse | abandon | disperse => exact reports id message (List.mem_of_mem_filter waits)
  | @wake other token =>
    rcases List.mem_append.1 waits with waits | last
    · exact reports id message waits
    · cases List.mem_singleton.1 last
      rfl
  | _ => exact reports id message waits

/-- What belongs to one client is not touched when another leaves. -/
theorem bne_and_beq_of_ne {c : Nat} (h : c ≠ client) (n : Nat) :
    (n != c && n == client) = (n == client) := by
  by_cases same : n = client <;> simp [same, Ne.symm h]

theorem view_fill (c : Nat) (v : Value) :
    (s.fill c v).view client =
      { s.view client with
        filling := (s.view client).filling ++ if c = client then [v] else [] } := by
  by_cases h : c = client <;> simp [view, fill, Queue.join, inFlight, h]

theorem view_ask (c : Nat) (request : Request) :
    (s.ask c request).view client =
      { s.view client with
        asking := (s.view client).asking ++ if c = client then [.ask c request] else [] } := by
  by_cases h : c = client <;> simp [view, Store.ask, Queue.join, inFlight, h]

theorem view_abandon (c : Nat) :
    (s.abandon c).view client =
      if c = client then ⟨[], [], false, [], (s.view client).inFlight⟩ else s.view client := by
  by_cases h : c = client
  · subst h
    simp [view, abandon, inFlight, Queue.filter_leave]
  · rw [if_neg h]
    simp [view, abandon, inFlight, Queue.filter_leave, h, List.filter_filter, Bool.and_comm,
      bne_and_beq_of_ne h, Ne.symm h]

theorem view_handOver (c : Nat) (reply : Reply) :
    (s.handOver c reply).view client =
      if c = client then { s.view client with replies := [] } else s.view client := by
  by_cases h : c = client
  · subst h
    simp [view, handOver, inFlight, List.filter_filter]
  · simp [view, handOver, inFlight, List.filter_filter, Bool.and_comm, bne_and_beq_of_ne h, h]

theorem view_accept (c : Nat) {input : Queue Nat Value}
    (waiting : input.waiting = (s.input.leave c).waiting) :
    { s with input }.view client =
      if c = client then { s.view client with filling := [] } else s.view client := by
  by_cases h : c = client <;> simp [view, inFlight, waiting, Queue.filter_leave, h]

theorem view_send (c : Nat) {control : Queue Party Message} {m : Message}
    (waiting : control.waiting = (s.control.leave (.client c)).waiting)
    (items : control.items = s.control.items ++ [m]) (sender : ∀ n, m.isFrom n = (c == n)) :
    { s with control, awaiting := s.awaiting ++ [c] }.view client =
      if c = client then
        { s.view client with
          asking := []
          awaiting := true
          inFlight := (s.view client).inFlight ++ [m] }
      else s.view client := by
  by_cases h : c = client <;>
    simp [view, inFlight, waiting, items, Queue.filter_leave, sender, h, Ne.symm]

theorem view_report {id : Nat} {control : Queue Party Message}
    (waiting : control.waiting = (s.control.leave (.watcher id)).waiting)
    (items : control.items = s.control.items ++ [.unsubscribe id]) :
    { s with control }.view client = s.view client := by
  simp [view, inFlight, waiting, items, Queue.filter_leave, Message.isFrom]

theorem view_wake (id : Nat) (m : Message) :
    { s.unwatch id with control := s.control.join (.watcher id) m }.view client =
      s.view client := by
  simp [view, unwatch, Queue.join, inFlight]

theorem view_disperse (id : Nat) :
    { s with control := s.control.leave (.watcher id) }.view client = s.view client := by
  simp [view, inFlight, Queue.filter_leave]

theorem view_answered {c : Nat} {request : Request} {reply : Reply} {roster : Roster Value}
    (serves : s.Serves (.ask c request)) :
    { s with
      activity := .idle
      roster
      awaiting := s.awaiting.filter (· != c)
      replies := s.replies ++ [(c, reply)] }.view client =
      if c = client then
        { s.view client with
          awaiting := false
          replies := (s.view client).replies ++ [reply]
          inFlight := (s.view client).inFlight.tail }
      else s.view client := by
  by_cases h : c = client <;>
    simp [view, inFlight_of_serves serves, inFlight_of_idle, h, Ne.symm, Message.isFrom]

/-- A message that nobody waits for is gone once it is served. -/
theorem view_passed {message : Message} {roster : Roster Value} (serves : s.Serves message) :
    { s with activity := .idle, roster }.view client =
      if message.isFrom client then
        { s.view client with inFlight := (s.view client).inFlight.tail }
      else s.view client := by
  by_cases h : message.isFrom client <;>
    simp [view, inFlight_of_serves serves, inFlight_of_idle, h]

theorem view_die : s.die.view client = { s.view client with inFlight := [] } := by
  simp [view, die, inFlight]

/-! ## Phases -/

theorem Phase.of_asking {c : Nat} {m : Message} (h : Phase c tr (s.view c))
    (waits : (Party.client c, m) ∈ s.control.waiting) :
    ∃ request, m = .ask c request ∧ tr.Begun c (.act (.ask c request)) ∧
      s.view c = ⟨[], [.ask c request], false, [], []⟩ := by
  have member : m ∈ (s.view c).asking :=
    List.mem_map.2 ⟨_, List.mem_filter.2 ⟨waits, by simp⟩, rfl⟩
  generalize s.view c = w at *
  cases h with
  | @asking request begun => exact ⟨request, List.mem_singleton.1 member, begun, rfl⟩
  | _ => cases member

theorem Phase.of_filling {c : Nat} {v : Value} (h : Phase c tr (s.view c))
    (waits : (c, v) ∈ s.input.waiting) :
    tr.Begun c (.act (.fill c v)) ∧ s.view c = ⟨[v], [], false, [], (s.view c).inFlight⟩ := by
  have member : v ∈ (s.view c).filling :=
    List.mem_map.2 ⟨_, List.mem_filter.2 ⟨waits, by simp⟩, rfl⟩
  generalize s.view c = w at *
  cases h with
  | filling begun =>
    obtain rfl := List.mem_singleton.1 member
    exact ⟨begun, rfl⟩
  | _ => cases member

theorem Phase.of_reply {c : Nat} {reply : Reply} (h : Phase c tr (s.view c))
    (there : List.lookup c s.replies = some reply) :
    (∃ request, tr.Answered c request reply) ∧ s.view c = ⟨[], [], false, [reply], []⟩ := by
  obtain ⟨l, l', split, -⟩ := List.lookup_eq_some_iff.1 there
  have member : reply ∈ (s.view c).replies :=
    List.mem_map.2 ⟨(c, reply), List.mem_filter.2 ⟨by simp [split], by simp⟩, rfl⟩
  generalize s.view c = w at *
  cases h with
  | answered answered =>
    obtain rfl := List.mem_singleton.1 member
    exact ⟨⟨_, answered⟩, rfl⟩
  | _ => cases member

theorem Phase.of_flight {c : Nat} {request : Request} (h : Phase c tr (s.view c))
    (sent : .ask c request ∈ s.inFlight) (awaited : c ∈ s.awaiting) :
    (∃ n, tr.Sent c request n) ∧ s.view c = ⟨[], [], true, [], [.ask c request]⟩ := by
  have member : .ask c request ∈ (s.view c).inFlight :=
    List.mem_filter.2 ⟨sent, by simp [Message.isFrom]⟩
  have awaiting : (s.view c).awaiting = true := List.contains_iff_mem.2 awaited
  generalize s.view c = w at *
  cases h with
  | @sent request' n sent =>
    cases List.mem_singleton.1 member
    exact ⟨⟨n, sent⟩, rfl⟩
  | lost => cases member
  | _ => cases awaiting

/-- A request that nobody waits for is served. -/
theorem Phase.pass {c : Nat} {request : Request} (h : Phase c tr (s.view c))
    (serves : s.Serves (.ask c request)) (unawaited : c ∉ s.awaiting) :
    Phase c tr { s.view c with inFlight := (s.view c).inFlight.tail } := by
  have member : .ask c request ∈ (s.view c).inFlight :=
    List.mem_filter.2 ⟨sent_of_serves serves, by simp [Message.isFrom]⟩
  have awaiting : (s.view c).awaiting = false := by simpa [view] using unawaited
  generalize s.view c = w at *
  cases h with
  | free inFlight => exact .free inFlight.tail
  | filling begun inFlight => exact .filling begun inFlight.tail
  | sent => cases awaiting
  | _ => cases member

theorem Phase.die (h : Phase client tr w) : Phase client tr { w with inFlight := [] } := by
  cases h with
  | free => exact .free []
  | filling begun => exact .filling begun []
  | asking begun => exact .asking begun
  | sent | lost => exact .lost
  | answered answered => exact .answered answered

/-- What a step means to the phase of a client. -/
theorem Change.phase (h : Change σ s e σ' s' o) (permitted : e.Permitted s)
    (phases : ∀ c, Phase c tr (s.view c)) (reports : s.Reports)
    (in_time : ∀ c request reply, c ∈ s.awaiting → Step.Answers ⟨σ, s, e, o, s'⟩ c request reply →
      Trace.Answered c request reply (tr ++ [⟨σ, s, e, o, s'⟩])) :
    Phase client (tr ++ [⟨σ, s, e, o, s'⟩]) (s'.view client) := by
  have phase := phases client
  cases h with
  | fill c v =>
    rw [view_fill]
    by_cases same : c = client
    · subst same
      rw [phase.eq_of_isFree permitted, if_pos rfl]
      exact .filling (Trace.begun_snoc rfl) _
    · rw [if_neg same, List.append_nil]
      exact phase.snoc (by simpa [Event.by?] using same)
  | ask c request =>
    rw [view_ask]
    by_cases same : c = client
    · subst same
      have none_sent : (s.view c).inFlight = [] := permitted.2
      rw [phase.eq_of_isFree permitted.1, none_sent, if_pos rfl]
      exact .asking (Trace.begun_snoc rfl)
    · rw [if_neg same, List.append_nil]
      exact phase.snoc (by simpa [Event.by?] using same)
  | send c going entered =>
    obtain ⟨m, entry⟩ := Queue.entry_of_enter? entered
    obtain ⟨request, rfl, begun, old⟩ := (phases c).of_asking entry.waits
    rw [view_send c entry.waiting entry.items (fun _ => rfl)]
    refine phase.branch (by simp [Event.by?]) ?_
    rintro rfl
    rw [old]
    exact .sent (begun.sent rfl)
  | report id going entered =>
    obtain ⟨m, entry⟩ := Queue.entry_of_enter? entered
    obtain rfl := reports id m entry.waits
    rw [view_report entry.waiting entry.items]
    exact phase.snoc (by simp [Event.by?])
  | collect c there =>
    rw [view_handOver]
    refine phase.branch (by simp [Event.by?]) ?_
    rintro rfl
    rw [(phase.of_reply there).2]
    exact .free []
  | refuse c | abandon c =>
    rw [view_abandon]
    exact phase.branch (by simp [Event.by?]) fun _ => .free _
  | accept c _ _ entered =>
    obtain ⟨v, entry⟩ := Queue.entry_of_enter? entered
    rw [view_accept c entry.waiting]
    refine phase.branch (by simp [Event.by?]) ?_
    rintro rfl
    rw [(phase.of_filling entry.waits).2]
    exact .free _
  | wake =>
    rw [view_wake]
    exact phase.snoc (by simp [Event.by?])
  | disperse =>
    rw [view_disperse]
    exact phase.snoc (by simp [Event.by?])
  | @answer c request reply serves is awaited =>
    have old := ((phases c).of_flight (sent_of_serves serves) awaited).2
    have answered := in_time c request reply awaited ⟨rfl, serves, gives_of_replyTo? is⟩
    rw [view_answered serves]
    refine phase.branch (by simp [Event.by?]) ?_
    rintro rfl
    rw [old]
    exact .answered answered
  | @grant c filter replay token serves _ awaited =>
    have old := ((phases c).of_flight (sent_of_serves serves) awaited).2
    have answered := in_time c _ _ awaited ⟨rfl, serves, rfl, rfl⟩
    rw [view_answered serves]
    refine phase.branch (by simp [Event.by?]) ?_
    rintro rfl
    rw [old]
    exact .answered answered
  | @ignore c _ _ serves _ unawaited | @skip c _ _ _ serves unawaited =>
    rw [view_passed serves]
    by_cases same : c = client
    · subst same
      rw [if_pos (by simp [Message.isFrom])]
      exact (phase.pass serves unawaited).snoc (by simp [Event.by?])
    · rw [if_neg (by simpa [Message.isFrom] using same)]
      exact phase.snoc (by simp [Event.by?])
  | strike serves =>
    rw [view_passed serves, if_neg (by simp [Message.isFrom])]
    exact phase.snoc (by simp [Event.by?])
  | die =>
    rw [view_die]
    exact phase.die.snoc (by simp [Event.by?])
  | suppress ready | update ready =>
    refine phase.carry (by simp [Event.by?]) (view_congr rfl rfl rfl rfl ?_)
    simp [inFlight, owed_of_ready ready]
  | takeRequest idle first =>
    refine phase.carry (by simp [Event.by?]) (view_congr rfl rfl rfl rfl ?_)
    simp [inFlight, idle, Queue.dequeue, first]
  | finish delivering | deliver delivering | giveUp delivering =>
    refine phase.carry (by simp [Event.by?]) (view_congr rfl rfl rfl rfl ?_)
    simp [inFlight, delivering]
  | stop idle =>
    refine phase.carry (by simp [Event.by?]) (view_congr rfl rfl rfl rfl ?_)
    simp [inFlight, idle]
  | _ => exact phase.snoc (by simp [Event.by?])

end Steps

end Store

end Telemetry
