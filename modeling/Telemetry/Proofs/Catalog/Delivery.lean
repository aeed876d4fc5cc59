import Telemetry.Proofs.Catalog.Run
import Telemetry.Proofs.Desk.Conveyance
import Telemetry.Proofs.Desk.Watch

/-!
# Deliveries of a catalog

The roster of a catalog and the announcement under way make a desk, and each step of the catalog is
an act at that desk. An addition that is given up in the middle of an announcement breaks it off.

## Main definitions

* `Catalog.Held`: as long as a client has something under way, the catalog is held.
* `Step.act`: a step as an act at the desk.
-/

namespace Telemetry.Catalog

/-- As long as a client has something under way, somebody holds the catalog. -/
def Held (c : Catalog) : Prop :=
  c.isBusy = true → 0 < c.handles

/-- Those who watch subscriptions and those who wait to strike somebody off fit the roster. -/
def Watching (σ : Signals) (c : Catalog) : Prop :=
  Desk.Watched σ c.roster (fun id token => (id, token) ∈ c.watchers)
    fun id => ∃ watcher, (.watcher watcher, .unsubscribe id) ∈ c.line

def desk (c : Catalog) : Desk Register where
  roster := c.roster
  delivery := c.holder.bind Addition.delivery
  ended := c.isForgotten

/-- What a catalog grants to one who subscribes. -/
def grantOf (c : Catalog) (filter : RegisterFilter) (token : Token) : Grant Register where
  id := c.roster.nextId
  accepts := filter.accepts
  token := token
  initial := filter.filter c.registers
  capacity := c.roomFor filter

namespace Step

/-- The act at the desk. -/
def act (st : Step) : Desk.Act Register :=
  match st.event with
  | .act (.resolve client) =>
    match st.catalog.granted? (.client client), st.output with
    | some (.subscribe filter token), .reply (.subscribed _ _) =>
      .enroll (st.catalog.grantOf filter token)
    | _, _ => .other
  | .act (.proceed _) =>
    match st.catalog.holder with
    | some ⟨_, r :: _, none⟩ => if (st.catalog.put r).1 then .publish r else .other
    | some ⟨_, _, some d⟩ =>
      match d.rest with
      | s :: _ =>
        .turn s.id d.item (st.catalog.roster.fate? st.signals st.catalog.config.overflow d s)
      | [] => .other
    | _ => .other
  | .act (.abandon client) =>
    match st.catalog.holder with
    | some ⟨owner, _, some d⟩ =>
      if owner = client then
        .cut d.item ((d.rest.filter fun s => s.accepts d.item).map Subscriber.id)
      else .other
    | _ => .other
  | .act (.read id _) =>
    match st.output with
    | .delivered (.item r) => .read id r
    | _ => .other
  | _ => .other

/-- The register that the reader of a subscription gets. -/
def received (id : Nat) (st : Step) : List Register :=
  match st.event, st.output with
  | .act (.read reader _), .delivered (.item r) => if reader = id then [r] else []
  | _, _ => []

/-- What a reader gets is what the act tells. -/
theorem received_act (id : Nat) (st : Step) : st.act.received id = st.received id := by
  obtain ⟨σ, c, e, o, c'⟩ := st
  cases e with
  | fire t => rfl
  | act a =>
    cases a with
    | resolve client =>
      simp only [act, received]
      split <;> rfl
    | proceed client =>
      simp only [act, received]
      split
      · split <;> rfl
      · split <;> rfl
      · rfl
    | abandon client =>
      simp only [act, received]
      split
      · split <;> rfl
      · rfl
    | read reader token =>
      cases o with
      | delivered d => cases d <;> rfl
      | _ => rfl
    | _ => rfl

end Step

namespace Trace

/-- The acts at the desk, in order. -/
def history (tr : Trace) : Desk.History Register :=
  tr.map Step.act

/-- The registers that were announced because they were new or changed. -/
def announced (tr : Trace) : List Register :=
  Desk.published (history tr)

/-- What became of each announcement for a subscription. -/
def entries (id : Nat) (tr : Trace) : List (Desk.Entry Register) :=
  Desk.log id (history tr)

/-- What the reader of a subscription got. -/
def received (id : Nat) (tr : Trace) : List Register :=
  tr.flatMap (Step.received id)

theorem received_history (id : Nat) (tr : Trace) :
    Desk.received id (history tr) = received id tr := by
  rw [Desk.received, history, List.flatMap_map]
  exact congrArg (tr.flatMap ·) (funext (Step.received_act id))

end Trace

section Holding

variable {c c' : Catalog} {n : Nat} {access : Access}

theorem isBusy_of_line (waits : (.client n, access) ∈ c.line) : c.isBusy = true := by
  refine Bool.or_eq_true_iff.2 (.inr ?_)
  exact List.any_eq_true.2 ⟨_, waits, rfl⟩

theorem isBusy_of_holder {a : Addition} (holder : c.holder = some a) : c.isBusy = true := by
  simp [isBusy, holder]

/-- Whoever is busy was busy before, if nobody came and nobody took the lock. -/
theorem isBusy_of_le (busy : c'.isBusy = true)
    (holder : c'.holder.isSome = true → c.holder.isSome = true)
    (line : ∀ w ∈ c'.line, w ∈ c.line ∨ ∃ id, w.1 = .watcher id) : c.isBusy = true := by
  rcases Bool.or_eq_true_iff.1 busy with holds | waits
  · exact Bool.or_eq_true_iff.2 (.inl (holder holds))
  · obtain ⟨w, member, client⟩ := List.any_eq_true.1 waits
    rcases line w member with before | ⟨id, watcher⟩
    · exact Bool.or_eq_true_iff.2 (.inr (List.any_eq_true.2 ⟨w, before, client⟩))
    · simp [watcher] at client

theorem isForgotten_of_held (held : 0 < c.handles) : c.isForgotten = false := by
  have some_handle : c.handles ≠ 0 := by omega
  simp [isForgotten, some_handle]

/-- As long as a catalog is held, its desk is open. -/
theorem desk_change_of_held {σ : Signals} {overflow : Overflow} {a : Desk.Act Register}
    {before : Option Addition} (held : 0 < c.handles) (holder : c.holder = before)
    (more : c.handles ≤ c'.handles)
    (change : Desk.Change σ overflow ⟨c.roster, before.bind Addition.delivery, false⟩ a
      ⟨c'.roster, c'.holder.bind Addition.delivery, false⟩) :
    c.desk.Change σ overflow a c'.desk := by
  have open_before : c.desk = ⟨c.roster, before.bind Addition.delivery, false⟩ := by
    rw [desk, isForgotten_of_held held, holder]
  have open_after : c'.desk = ⟨c'.roster, c'.holder.bind Addition.delivery, false⟩ := by
    rw [desk, isForgotten_of_held (Nat.lt_of_lt_of_le held more)]
  rw [open_before, open_after]
  exact change

/-- Nobody waits in vain: without handles only watchers stand in line. -/
theorem line_leave (held : c.Held) (none_left : c.handles = 0) (client : Nat) :
    c.line.filter (fun w => w.1 != .client client) = c.line := by
  refine List.filter_eq_self.2 fun w member => ?_
  obtain ⟨party, access⟩ := w
  cases party with
  | client n =>
    have some_left := held (isBusy_of_line member)
    omega
  | watcher id => simp

theorem isForgotten_abandon (held : c.Held) (client : Nat) :
    (c.abandon client).isForgotten = c.isForgotten := by
  have handles : (c.abandon client).handles = c.handles := rfl
  have line : (c.abandon client).line = c.line.filter fun w => w.1 != .client client := rfl
  by_cases none_left : c.handles = 0
  · rw [isForgotten, isForgotten, handles, line, line_leave held none_left]
  · have some_left : (c.handles == 0) = false := by simpa using none_left
    simp [isForgotten, handles, some_left]

/-- To be forgotten costs a catalog nothing but its subscribers. -/
theorem forget_frame (c : Catalog) : ∃ roster, c.forget = { c with roster } := by
  unfold forget
  split <;> exact ⟨_, rfl⟩

section Forgetting

variable (c : Catalog)

@[simp] theorem config_forget : c.forget.config = c.config := by
  obtain ⟨roster, frame⟩ := c.forget_frame
  rw [frame]

@[simp] theorem handles_forget : c.forget.handles = c.handles := by
  obtain ⟨roster, frame⟩ := c.forget_frame
  rw [frame]

@[simp] theorem line_forget : c.forget.line = c.line := by
  obtain ⟨roster, frame⟩ := c.forget_frame
  rw [frame]

@[simp] theorem watchers_forget : c.forget.watchers = c.watchers := by
  obtain ⟨roster, frame⟩ := c.forget_frame
  rw [frame]

@[simp] theorem isBusy_forget : c.forget.isBusy = c.isBusy := by
  obtain ⟨roster, frame⟩ := c.forget_frame
  rw [frame]
  rfl

end Forgetting

theorem desk_forget (c : Catalog) : c.forget.desk =
    ⟨if c.isForgotten then c.roster.clear else c.roster, c.holder.bind Addition.delivery,
      c.isForgotten⟩ := by
  unfold forget
  split
  · next forgotten => exact congrArg₂ _ rfl rfl
  · rfl

end Holding

section Steps

variable {σ σ' : Signals} {c c' : Catalog} {e : Event} {o : Output}

theorem Change.held (h : Change σ c e σ' c' o) (permitted : e.Permitted c) (held : c.Held) :
    c'.Held := by
  intro busy
  cases h with
  | ask => exact permitted
  | begin _ granted | look _ granted | grant _ granted | refuse _ granted =>
    exact held (isBusy_of_line (granted?_eq_some granted).2)
  | pass holder | deliver holder | finish holder | giveUp holder | done holder =>
    exact held (isBusy_of_holder holder)
  | @announce client r left holder =>
    obtain ⟨registers, index, frame⟩ := c.put_frame r
    rw [frame]
    exact held (isBusy_of_holder holder)
  | abandon client =>
    refine held (isBusy_of_le busy (fun holds => ?_) fun w member => ?_)
    · obtain ⟨a, holder⟩ := Option.isSome_iff_exists.1 holds
      exact Option.isSome_iff_exists.2 ⟨a, (Option.filter_eq_some_iff.1 holder).1⟩
    · exact .inl (List.mem_of_mem_filter member)
  | wake =>
    refine held (isBusy_of_le busy (fun holds => holds) fun w member => ?_)
    rcases List.mem_append.1 member with before | last
    · exact .inl before
    · obtain rfl := List.mem_singleton.1 last
      exact .inr ⟨_, rfl⟩
  | strike watcher granted =>
    rw [isBusy_forget] at busy
    rw [handles_forget]
    exact held (isBusy_of_le busy (fun holds => holds)
      fun w member => .inl (List.mem_of_mem_filter member))
  | retain => exact Nat.succ_pos _
  | release =>
    rw [isBusy_forget] at busy
    rw [handles_forget]
    rcases permitted with more | free
    · exact Nat.sub_pos_of_lt more
    · exact absurd (free.symm.trans busy) (by simp)
  | _ => exact held busy

/-- A client that gives up breaks off its announcement, and nothing else changes at the desk. -/
theorem desk_abandon (held : c.Held) (client : Nat) :
    c.desk.Change σ c.config.overflow (Step.act ⟨σ, c, .act (.abandon client), o, c.abandon client⟩)
      (c.abandon client).desk := by
  have desk : (c.abandon client).desk = ⟨c.roster,
      (c.holder.filter fun a => a.client != client).bind Addition.delivery, c.isForgotten⟩ := by
    rw [Catalog.desk, isForgotten_abandon held]
    rfl
  rw [desk]
  cases holder : c.holder with
  | none =>
    refine .of_act (by simp only [Step.act, holder]) (.stay_of_eq ?_)
    simp [Catalog.desk, holder]
  | some a =>
    obtain ⟨owner, left, delivery⟩ := a
    cases delivery with
    | none =>
      refine .of_act (by simp only [Step.act, holder]) (.stay_of_eq ?_)
      by_cases own : owner = client <;> simp [Catalog.desk, holder, own, Option.filter]
    | some d =>
      have delivering : c.desk.delivery = some d := by simp [Catalog.desk, holder]
      by_cases own : owner = client
      · have cut : c.desk.Change σ c.config.overflow _ ⟨c.roster, none, c.isForgotten⟩ :=
          .cut delivering
        simpa [Step.act, holder, own, Option.filter] using cut
      · refine .of_act (by simp only [Step.act, holder, if_neg own]) (.stay_of_eq ?_)
        simp [Catalog.desk, holder, own, Option.filter]

/-- Each step of a catalog is an act at its desk. -/
theorem Change.desk (h : Change σ c e σ' c' o) (permitted : e.Permitted c) (held : c.Held)
    (watching : c.Watching σ) :
    c.desk.Change σ c.config.overflow (Step.act ⟨σ, c, e, o, c'⟩) c'.desk := by
  cases h with
  | ask => exact desk_change_of_held permitted rfl (Nat.le_refl _) .stay
  | begin client granted =>
    obtain ⟨free, waits⟩ := granted?_eq_some granted
    exact desk_change_of_held (held (isBusy_of_line waits)) free (Nat.le_refl _) .stay
  | look client granted | refuse client granted =>
    obtain ⟨free, waits⟩ := granted?_eq_some granted
    refine .of_act (b := .other) (by simp only [Step.act, granted]) ?_
    exact desk_change_of_held (held (isBusy_of_line waits)) rfl (Nat.le_refl _) .stay
  | @grant client filter token granted =>
    obtain ⟨free, waits⟩ := granted?_eq_some granted
    refine .of_act (b := .enroll (c.grantOf filter token)) (by simp only [Step.act, granted]) ?_
    refine desk_change_of_held (held (isBusy_of_line waits)) free (Nat.le_refl _) ?_
    simp only [leave, free]
    exact .enroll _ _ _ _ rfl
  | pass holder known =>
    refine .of_act (b := .other) (by simp [Step.act, holder, put_fst, known]) ?_
    exact desk_change_of_held (held (isBusy_of_holder holder)) holder (Nat.le_refl _) .stay
  | @announce client r left holder news =>
    obtain ⟨registers, index, frame⟩ := c.put_frame r
    refine .of_act (b := .publish r) (by simp [Step.act, holder, put_fst, news]) ?_
    rw [frame]
    exact desk_change_of_held (held (isBusy_of_holder holder)) holder (Nat.le_refl _)
      (.publish r rfl rfl)
  | @deliver client left d d' roster holder served =>
    obtain ⟨s, rest, first⟩ := Roster.first_of_serve? served
    have turn := Roster.turn_of_serve? first served
    have act : Step.act ⟨σ, c, .act (.proceed client), .nothing,
        { c with roster, holder := some ⟨client, left, some d'⟩ }⟩ =
          .turn s.id d.item (c.roster.fate? σ c.config.overflow d s) := by
      simp only [Step.act, holder, first]
    exact .of_act act (desk_change_of_held (held (isBusy_of_holder holder)) holder (Nat.le_refl _)
      (.turn rfl first turn))
  | finish holder served =>
    refine .of_act (b := .other) (by simp only [Step.act, holder, served]) ?_
    exact desk_change_of_held (held (isBusy_of_holder holder)) holder (Nat.le_refl _)
      (.finish rfl served)
  | giveUp holder passed =>
    obtain ⟨s, rest, first, cancelled, rfl⟩ := Roster.strike_of_giveUp? passed
    exact desk_change_of_held (held (isBusy_of_holder holder)) holder (Nat.le_refl _)
      (.giveUp rfl first cancelled)
  | @done client holder =>
    refine .of_act (b := .other) (by simp [Step.act, granted?, holder]) ?_
    exact desk_change_of_held (held (isBusy_of_holder holder)) holder (Nat.le_refl _) .stay
  | abandon client => exact desk_abandon held client
  | @wake id token watched cancelled going =>
    refine .stay_of_eq ?_
    have after : ((c.unwatch id).join (.watcher id) (.unsubscribe id)).isForgotten = false := by
      simp [isForgotten, join]
    rw [Catalog.desk, after, ← going]
    rfl
  | sleep forgotten => exact .stay
  | @strike watcher id granted =>
    obtain ⟨free, waits⟩ := granted?_eq_some granted
    have idle : c.desk.delivery = none := by simp [Catalog.desk, free]
    have going : c.isForgotten = false := by
      have waited : c.line ≠ [] := List.ne_nil_of_mem waits
      simp [isForgotten, waited]
    rw [desk_forget]
    change c.desk.Change σ c.config.overflow .other
      ⟨if (c.leave (.watcher id)).isForgotten then (c.roster.remove [id]).clear
        else c.roster.remove [id], c.desk.delivery, (c.leave (.watcher id)).isForgotten⟩
    cases (c.leave (.watcher id)).isForgotten with
    | true =>
      rw [if_pos rfl, Roster.clear_remove]
      exact .clear idle
    | false =>
      have strike : c.desk.Change σ c.config.overflow .other
          ⟨c.roster.remove [id], c.desk.delivery, c.isForgotten⟩ :=
        .strike id idle (watching.cancelled id ⟨watcher, waits⟩).2
      rwa [going] at strike
  | read id token live item => exact .read item
  | close id => exact .close id
  | retain => exact desk_change_of_held permitted rfl (Nat.le_succ _) .stay
  | release =>
    rw [desk_forget]
    change c.desk.Change σ c.config.overflow .other
      ⟨if { c with handles := c.handles - 1 }.isForgotten then c.roster.clear else c.roster,
        c.desk.delivery, { c with handles := c.handles - 1 }.isForgotten⟩
    cases forgotten : { c with handles := c.handles - 1 }.isForgotten with
    | true =>
      rw [if_pos rfl]
      obtain ⟨last, -⟩ : c.handles - 1 = 0 ∧ _ := by simpa [isForgotten] using forgotten
      have free : c.isBusy = false := permitted.resolve_left (by omega)
      have none_holds : c.holder = none := by simpa [isBusy] using (Bool.or_eq_false_iff.1 free).1
      exact .clear (by simp [Catalog.desk, none_holds])
    | false =>
      have going : c.isForgotten = false := by
        by_contra gone
        obtain ⟨handles, line⟩ : c.handles = 0 ∧ c.line = [] := by simpa [isForgotten] using gone
        simp [isForgotten, handles, line] at forgotten
      exact .stay_of_eq (by rw [Catalog.desk, going]; rfl)
  | _ => exact .stay

theorem Change.grows (h : Change σ c e σ' c' o) : σ.Grows σ' := by
  cases h with
  | fire t => exact σ.grows_fire t
  | _ => exact σ.grows_refl

theorem Change.config_eq (h : Change σ c e σ' c' o) : c'.config = c.config := by
  cases h with
  | @announce client r =>
    obtain ⟨registers, index, frame⟩ := c.put_frame r
    rw [frame]
  | strike | release => exact config_forget _
  | _ => rfl

/-- A subscription is watched because it was before, or because it is granted now. -/
theorem Change.watches (h : Change σ c e σ' c' o) {id : Nat} {token : Token}
    (watched : (id, token) ∈ c'.watchers) :
    (id, token) ∈ c.watchers ∨ id = c.roster.nextId ∧ c'.roster.nextId = c.roster.nextId + 1 ∧
      ∃ accepts, c'.roster.subscribers = c.roster.subscribers ++ [⟨id, accepts, token⟩] := by
  cases h with
  | @announce client r =>
    obtain ⟨registers, index, frame⟩ := c.put_frame r
    rw [frame] at watched
    exact .inl watched
  | grant =>
    rcases List.mem_append.1 watched with before | last
    · exact .inl before
    · cases List.mem_singleton.1 last
      exact .inr ⟨rfl, rfl, _, rfl⟩
  | wake | sleep => exact .inl (List.mem_of_mem_filter watched)
  | strike | release =>
    rw [watchers_forget] at watched
    exact .inl watched
  | _ => exact .inl watched

/-- A subscriber is to be struck off only because somebody waited for the end of a cancelled
subscription. -/
theorem Change.condemns (h : Change σ c e σ' c' o) {watcher id : Nat}
    (waits : (.watcher watcher, .unsubscribe id) ∈ c'.line) :
    (.watcher watcher, .unsubscribe id) ∈ c.line ∨
      ∃ token, (id, token) ∈ c.watchers ∧ σ.isCancelled token = true := by
  cases h with
  | ask client access =>
    rcases List.mem_append.1 waits with before | last
    · exact .inl before
    · cases List.mem_singleton.1 last
  | begin | look | grant | refuse | abandon => exact .inl (List.mem_of_mem_filter waits)
  | @announce client r =>
    obtain ⟨registers, index, frame⟩ := c.put_frame r
    rw [frame] at waits
    exact .inl waits
  | wake watched cancelled =>
    rcases List.mem_append.1 waits with before | last
    · exact .inl before
    · cases List.mem_singleton.1 last
      exact .inr ⟨_, watched, cancelled⟩
  | strike =>
    rw [line_forget] at waits
    exact .inl (List.mem_of_mem_filter waits)
  | release =>
    rw [line_forget] at waits
    exact .inl waits
  | _ => exact .inl waits

theorem Change.watching (h : Change σ c e σ' c' o) (permitted : e.Permitted c) (held : c.Held)
    (watching : c.Watching σ) : c'.Watching σ' := by
  have change := h.desk permitted held watching
  refine change.watched h.grows watching (fun id token => h.watches) fun id condemned => ?_
  obtain ⟨watcher, waits⟩ := condemned
  rcases h.condemns waits with before | found
  · exact .inl ⟨watcher, before⟩
  · exact .inr found

end Steps

/-! ## Runs -/

section Runs

variable {config : CatalogConfig} {tr : Trace} {σ : Signals} {c : Catalog}

theorem Run.config_eq (run : Run config tr σ c) : c.config = config := by
  induction run with
  | start => rfl
  | step run e permitted happened ih => exact (change_of_effect happened).config_eq.trans ih

theorem Run.held (run : Run config tr σ c) : c.Held := by
  induction run with
  | start σ => exact fun busy => absurd busy (by simp [isBusy, ofConfig])
  | step run e permitted happened ih => exact (change_of_effect happened).held permitted ih

theorem Run.watching (run : Run config tr σ c) : c.Watching σ := by
  induction run with
  | start σ => exact Desk.watched_nil σ 0 (by simp [ofConfig]) (by simp [ofConfig])
  | step run e permitted happened ih =>
    exact (change_of_effect happened).watching permitted run.held ih

/-- A run of a catalog is a run of its desk. -/
theorem Run.desk (run : Run config tr σ c) : Desk.Run config.overflow tr.history σ c.desk := by
  induction run with
  | start σ => exact .start σ 0
  | @step tr σ σ' c c' o run e permitted happened ih =>
    have change := change_of_effect happened
    have act := change.desk permitted run.held run.watching
    rw [run.config_eq] at act
    rw [Trace.history, List.map_append]
    exact ih.step act change.grows

end Runs

end Telemetry.Catalog
