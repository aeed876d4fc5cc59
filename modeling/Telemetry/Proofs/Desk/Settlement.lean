import Telemetry.Proofs.Desk.Conveyance

/-!
# Every item is settled once

Items are numbered, and there is one entry at most for each number. So an item that a live
subscription accepts has exactly one entry once it is no longer on its way to it. A delivery is broken
off at its end only; as long as it is under way, none of its entries tells that it was.

## Main results

* `Run.settled_once`: one entry for each item that is not on its way.
* `Run.delivered_once`: the item of a delivery that is over reached every live subscription that
  accepts it, unless the delivery was broken off.
-/

namespace Telemetry.Desk

open scoped List

variable {α : Type} {σ σ' : Signals} {overflow : Overflow} {h more : History α} {x x' : Desk α}
  {a : Act α} {p : Grant α × Nat} {u : α × Nat}

/-- What becomes of the item with some number for a subscription. -/
def settled (id n : Nat) (h : History α) : List (Entry α) :=
  (log id h).filter fun e => e.update.2 == n

/-- In an ascending list there is one element for each number. -/
theorem filter_eq_singleton {β : Type} {f : β → Nat} {l : List β} {b : β}
    (ascending : l.Pairwise fun x y => f x < f y) (member : b ∈ l) :
    (l.filter fun x => f x == f b) = [b] := by
  induction l with
  | nil => cases member
  | cons c l ih =>
    obtain ⟨first, ascending⟩ := List.pairwise_cons.1 ascending
    rcases List.mem_cons.1 member with rfl | later
    · have others : (l.filter fun x => f x == f b) = [] :=
        List.filter_eq_nil_iff.2 fun x inside => by simpa using Nat.ne_of_gt (first x inside)
      simp [others]
    · have other : (f c == f b) = false := by simpa using Nat.ne_of_lt (first b later)
      simp [other, ih ascending later]

theorem accepted_le_numbered : accepted p h <+ numbered h :=
  List.filter_sublist.trans (List.drop_sublist _ _)

/-- The entries of a subscription ascend. -/
theorem Run.ascending_log (run : Run overflow h σ x) (granted : p ∈ grants h) :
    (log p.1.id h).Pairwise fun e e' => e.update.2 < e'.update.2 := by
  have entries : (log p.1.id h).map Entry.update <+ numbered h :=
    ((List.sublist_append_left _ _).trans (run.conveyed granted).entries).trans
      accepted_le_numbered
  have ascending := (ascending_numbered h).sublist entries
  rw [List.pairwise_map] at ascending
  exact ascending

/-- For a live subscription there is exactly one entry for each item that it accepts, unless the item
is on its way. -/
theorem Run.settled_once (run : Run overflow h σ x) (granted : p ∈ grants h)
    (live : Live σ x p.1) (member : u ∈ accepted p h)
    (finished : u ∉ x.pending (published h).length p.1) :
    ∃ fate, settled p.1.id u.2 h = [⟨u, fate⟩] := by
  rw [← (run.conveyed granted).complete live] at member
  have logged := (List.mem_append.1 member).resolve_right finished
  obtain ⟨⟨v, fate⟩, entry, rfl⟩ := List.mem_map.1 logged
  exact ⟨fate, filter_eq_singleton (run.ascending_log granted) entry⟩

/-! ## The item under way -/

/-- The item under way is the last that was published. -/
theorem Change.last (change : x.Change σ overflow a x')
    (last : ∀ d, x.delivery = some d → (published h).getLast? = some d.item) :
    ∀ d, x'.delivery = some d → (published (h ++ [a])).getLast? = some d.item := by
  intro d delivering
  rw [published_snoc]
  cases change with
  | publish b =>
    cases delivering
    simp [Act.published, Roster.deliver]
  | turn before first turn =>
    cases delivering
    have same := last _ before
    cases turn <;> simpa [Act.published, Delivery.strike, Delivery.next] using same
  | giveUp before =>
    cases delivering
    simpa [Act.published, Delivery.strike, Delivery.next] using last _ before
  | finish | cut => cases delivering
  | _ => simpa [Act.published] using last d delivering

theorem Run.last (run : Run overflow h σ x) :
    ∀ d, x.delivery = some d → (published h).getLast? = some d.item := by
  induction run with
  | start =>
    intro d delivering
    cases delivering
  | step run change grows ih => exact change.last ih

/-- The last item has the last number. -/
theorem mem_drop_of_last {b : α} {n : Nat} (last : (published h).getLast? = some b)
    (early : n < (published h).length) : (b, (published h).length - 1) ∈ (numbered h).drop n := by
  obtain ⟨before, same⟩ := List.getLast?_eq_some_iff.1 last
  have le : n ≤ before.zipIdx.length := by
    simp only [same, List.length_append, List.length_singleton] at early
    simp only [List.length_zipIdx]
    omega
  rw [numbered, same, List.zipIdx_append, List.drop_append_of_le_length le]
  simp

theorem lt_of_mem_numbered (member : u ∈ numbered h) : u.2 < (published h).length := by
  obtain ⟨i, less, rfl⟩ := List.getElem_of_mem member
  simpa [numbered] using less

theorem Turn.fate_ne_cut {r r' : Roster α} {d d' : Delivery α} {s : Subscriber α}
    {fate : Option Fate} (turn : r.Turn σ overflow d s fate d' r') : fate ≠ some .cut := by
  cases turn <;> simp

/-- No entry for the item under way tells that its delivery was broken off. -/
theorem Run.whole_so_far (run : Run overflow h σ x) (granted : p ∈ grants h)
    (delivering : x.delivery.isSome) {e : Entry α} (entry : e ∈ log p.1.id h)
    (number : e.update.2 = (published h).length - 1) : e.fate ≠ .cut := by
  induction run with
  | start => cases delivering
  | @step h σ σ' x x' a run change grows ih =>
    rw [grants_snoc] at granted
    rw [log_snoc] at entry
    rw [published_snoc] at number
    -- Nothing is published or granted while a delivery is under way.
    have before (old : p ∈ grants h) (earlier : e ∈ log p.1.id h) :
        e.update.2 < (published h).length :=
      lt_of_mem_numbered <| accepted_le_numbered.subset <|
        (run.conveyed old).entries.subset (List.mem_append_left _ (List.mem_map_of_mem earlier))
    cases change with
    | publish b =>
      rcases List.mem_append.1 entry with earlier | now
      · have old : p ∈ grants h := by simpa [Act.granted] using granted
        have less := before old earlier
        simp [Act.published] at number
        omega
      · cases now
    | @turn d d' s rest fate roster under_way first turn =>
      have old : p ∈ grants h := by simpa [Act.granted] using granted
      rcases List.mem_append.1 entry with earlier | now
      · exact ih old (by simp [under_way]) earlier (by simpa [Act.published] using number)
      · cases fate with
        | none => cases now
        | some fate =>
          obtain ⟨-, rfl⟩ : s.id = p.1.id ∧ e = _ := by simpa [Act.logged] using now
          exact fun cut => Turn.fate_ne_cut turn (congrArg some cut)
    | giveUp under_way =>
      have old : p ∈ grants h := by simpa [Act.granted] using granted
      have earlier : e ∈ log p.1.id h := by simpa [Act.logged] using entry
      exact ih old (by simp [under_way]) earlier (by simpa [Act.published] using number)
    | enroll _ _ _ _ idle | strike _ idle | clear idle => simp [idle] at delivering
    | finish | cut => cases delivering
    | _ =>
      have old : p ∈ grants h := by simpa [Act.granted] using granted
      have earlier : e ∈ log p.1.id h := by simpa [Act.logged] using entry
      exact ih old delivering earlier (by simpa [Act.published] using number)

/-! ## Deliveries that are over -/

theorem le_of_marked {n m : Nat} (member : (m, a) ∈ marked n h) : n ≤ m := by
  induction h generalizing n with
  | nil => cases member
  | cons b rest ih =>
    rcases List.mem_cons.1 member with first | later
    · cases first
      exact Nat.le_refl _
    · exact Nat.le_trans (Nat.le_add_right _ _) (ih later)

/-- Who was granted a subscription before some item was published had it by then. -/
theorem mem_grants_of_lt (granted : p ∈ grants (h ++ more)) (early : p.2 < (published h).length) :
    p ∈ grants h := by
  rw [grants, marked_append, List.flatMap_append] at granted
  rcases List.mem_append.1 granted with before | later
  · exact before
  · obtain ⟨⟨m, a⟩, marked, given⟩ := List.mem_flatMap.1 later
    have least := le_of_marked marked
    cases a with
    | enroll g =>
      obtain rfl := List.mem_singleton.1 given
      simp only [Nat.zero_add] at least
      omega
    | _ => cases given

/-- What is accepted stays accepted. -/
theorem accepted_subset_append (p : Grant α × Nat) (h more : History α) :
    accepted p h ⊆ accepted p (h ++ more) := by
  have numbered_more : numbered h <+: numbered (h ++ more) := by
    rw [numbered, numbered, published_append, List.zipIdx_append]
    exact List.prefix_append _ _
  exact (numbered_more.drop p.2).filter _ |>.subset

/-- What becomes of an item for a subscription is told in the later part of a history if it is not
told in the earlier. -/
theorem exists_logged {id : Nat} {e : Entry α} (entry : e ∈ log id (h ++ more))
    (new : e ∉ log id h) : ∃ a ∈ more, ∃ m, e ∈ a.logged id m := by
  rw [log, marked_append, List.flatMap_append] at entry
  obtain ⟨⟨m, a⟩, marked, logged⟩ := List.mem_flatMap.1 ((List.mem_append.1 entry).resolve_left new)
  exact ⟨a, mem_of_marked marked, m, logged⟩

/-- Under the blocking policy an item whose delivery is over went once into the queue of each live
subscription that accepts it, unless the delivery was broken off. -/
theorem Run.delivered_once {d : Delivery α} (before : Run .block h σ x)
    (run : Run .block (h ++ more) σ' x') (delivering : x.delivery = some d)
    (finished : x'.delivery = none ∨ published more ≠ []) (granted : p ∈ grants (h ++ more))
    (early : p.2 < (published h).length) (accepts : p.1.accepts d.item = true)
    (live : Live σ' x' p.1) :
    ∃ fate, settled p.1.id ((published h).length - 1) (h ++ more) =
        [⟨(d.item, (published h).length - 1), fate⟩] ∧
      (fate.isKept = true ∨ fate = .cut ∧ ∃ a ∈ more, ∃ m,
        ⟨(d.item, (published h).length - 1), .cut⟩ ∈ a.logged p.1.id m) := by
  have earlier : p ∈ grants h := mem_grants_of_lt granted early
  have wanted : (d.item, (published h).length - 1) ∈ accepted p h :=
    List.mem_filter.2 ⟨mem_drop_of_last (before.last d delivering) early, accepts⟩
  have settled : (d.item, (published h).length - 1) ∉
      x'.pending (published (h ++ more)).length p.1 := by
    rcases finished with idle | later
    · simp [pending_of_idle idle]
    · have grown := List.length_pos_iff.2 later
      have number : ∀ u ∈ x'.pending (published (h ++ more)).length p.1,
          u.2 = (published (h ++ more)).length - 1 := by
        intro u member
        unfold pending at member
        split at member
        · split at member
          · rw [List.mem_singleton.1 member]
          · cases member
        · cases member
      intro member
      have same := number _ member
      simp only [published_append, List.length_append] at same
      omega
  obtain ⟨fate, once⟩ := run.settled_once granted live (accepted_subset_append p h more wanted)
    settled
  refine ⟨fate, once, ?_⟩
  have entry : ⟨(d.item, (published h).length - 1), fate⟩ ∈ log p.1.id (h ++ more) :=
    List.mem_of_mem_filter (once ▸ List.mem_singleton.2 rfl)
  have suits := (run.conveyed granted).fates _ entry
  cases fate with
  | kept => exact .inl rfl
  | lost => simp [Fate.Suits] at suits
  | cut =>
    refine .inr ⟨rfl, exists_logged entry fun old => ?_⟩
    exact before.whole_so_far earlier (by simp [delivering]) old rfl rfl

end Telemetry.Desk
