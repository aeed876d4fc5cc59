import Mathlib.Data.List.Induction
import Mathlib.Data.List.Sort
import Telemetry.Keyed

/-!
# What is found in a keyed list

A keyed list is known by what is found under each key. A list made of some items has under each key
the last of them that has the key, so it makes no difference whether whole keys are left out before
or afterwards.

## Main definitions

* `Keyed.under`: the items that have a key.
* `Keyed.Whole`: a choice of items that takes all items with a key, or none.
* `Keyed.filter`: a part of a keyed list.
-/

namespace Telemetry.Keyed

variable {α κ : Type} {key : α → κ} {a b : α} {k : κ}

/-! ## Items with a key -/

section Under

variable [DecidableEq κ] {p : α → Bool}

/-- The items that have a key, in their order. -/
def under (key : α → κ) (k : κ) (l : List α) : List α :=
  l.filter fun a => key a = k

@[simp] theorem under_nil : under key k [] = [] :=
  rfl

@[simp] theorem under_append (l l' : List α) :
    under key k (l ++ l') = under key k l ++ under key k l' :=
  List.filter_append ..

@[simp, grind =] theorem mem_under {l : List α} : a ∈ under key k l ↔ a ∈ l ∧ key a = k := by
  simp [under]

theorem under_singleton : under key k [a] = if key a = k then [a] else [] := by
  by_cases same : key a = k <;> simp [under, same]

theorem exists_getLast?_under {l : List α} (member : a ∈ under key k l) :
    ∃ b, (under key k l).getLast? = some b ∧ b ∈ l ∧ key b = k := by
  have last := List.getLast?_eq_some_getLast (List.ne_nil_of_mem member)
  exact ⟨_, last, mem_under.1 (List.getLast_mem _)⟩

/-- The last item with a key is followed by others only. -/
theorem exists_of_getLast?_under {l : List α} (last : (under key k l).getLast? = some a) :
    ∃ before after, l = before ++ a :: after ∧ under key k after = [] := by
  obtain ⟨older, split⟩ := List.getLast?_eq_some_iff.1 last
  obtain ⟨before, rest, rfl, -, split⟩ := List.filter_eq_append_iff.1 split
  obtain ⟨between, after, rfl, -, -, none_since⟩ := List.filter_eq_cons_iff.1 split
  exact ⟨before ++ between, after, by simp, none_since⟩

/-- All items with a key are chosen, or none. -/
def Whole (key : α → κ) (p : α → Bool) : Prop :=
  ∀ a b, key a = key b → p a = p b

theorem Whole.under_filter (whole : Whole key p) (k : κ) :
    (∀ l : List α, under key k (l.filter p) = under key k l) ∨
      ∀ l : List α, under key k (l.filter p) = [] := by
  by_cases chosen : ∃ a, key a = k ∧ p a = true
  · obtain ⟨a, rfl, chosen⟩ := chosen
    left
    intro l
    rw [under, under, List.filter_filter]
    refine List.filter_congr fun b _ => ?_
    by_cases same : key b = key a <;> simp [same, whole b a, chosen]
  · right
    intro l
    rw [List.eq_nil_iff_forall_not_mem]
    grind

end Under

variable [Ord κ] {m n : Keyed key}

def filter (p : α → Bool) (m : Keyed key) : Keyed key :=
  ⟨m.items.filter p, m.ascending.sublist List.filter_sublist⟩

@[simp] theorem items_filter (p : α → Bool) : (m.filter p).items = m.items.filter p :=
  rfl

@[simp] theorem find?_empty : (empty : Keyed key).find? k = none :=
  rfl

/-! ## What is found -/

section Looking

variable [Std.LawfulEqOrd κ]

theorem ne_of_lt {k k' : κ} (less : compare k k' = .lt) : k ≠ k' := by
  rintro rfl
  rw [Std.ReflOrd.compare_self] at less
  cases less

/-- No two items have the same key. -/
theorem eq_of_key_eq (ha : a ∈ m.items) (hb : b ∈ m.items) (same : key a = key b) : a = b := by
  have ascending := m.ascending
  generalize m.items = l at *
  induction l with
  | nil => cases ha
  | cons c l ih => grind [List.pairwise_cons, ne_of_lt]

theorem find?_eq_some : m.find? k = some a ↔ a ∈ m.items ∧ key a = k := by
  have equal {k' : κ} (same : (compare k k' == .eq) = true) : k' = k :=
    (Std.LawfulEqCmp.compare_eq_iff_eq.1 (eq_of_beq same)).symm
  unfold find?
  constructor
  · intro found
    exact ⟨List.mem_of_find?_eq_some found, equal (List.find?_some found :)⟩
  · rintro ⟨member, rfl⟩
    cases found : m.items.find? fun b => compare (key a) (key b) == .eq with
    | none => simpa using List.find?_eq_none.1 found a member
    | some b =>
      have same : key b = key a := equal (List.find?_some found :)
      exact congrArg some (eq_of_key_eq (List.mem_of_find?_eq_some found) member same)

theorem find?_key (member : a ∈ m.items) : m.find? (key a) = some a :=
  find?_eq_some.2 ⟨member, rfl⟩

theorem find?_filter (p : α → Bool) : (m.filter p).find? k = (m.find? k).filter p := by
  apply Option.ext
  intro a
  simp only [find?_eq_some, Option.filter_eq_some_iff, items_filter, List.mem_filter]
  tauto

variable [Std.TransOrd κ]

/-- Two keyed lists in which the same is found are the same. -/
theorem ext_find? (same : ∀ k, m.find? k = n.find? k) : m = n := by
  have irrefl : Std.Irrefl fun a b => compare (key a) (key b) = .lt :=
    ⟨fun a less => ne_of_lt less rfl⟩
  have antisymm : Std.Antisymm fun a b => compare (key a) (key b) = .lt :=
    ⟨fun a b less more => by simp [Std.OrientedCmp.gt_of_lt less] at more⟩
  refine eq_of_items (m.ascending.eq_of_mem_iff n.ascending fun a => ?_)
  constructor
  · intro member
    exact (find?_eq_some.1 ((same _).symm.trans (find?_key member))).1
  · intro member
    exact (find?_eq_some.1 ((same _).trans (find?_key member))).1

/-! ## Inserting -/

/-- What is inserted takes the place of an item with the same key, and others stay. -/
theorem mem_place_iff {l : List α}
    (ascending : l.Pairwise fun a b => compare (key a) (key b) = .lt) :
    b ∈ place key a l ↔ b = a ∨ b ∈ l ∧ key b ≠ key a := by
  induction l with
  | nil => simp [place]
  | cons c l ih =>
    have ih := ih ascending.of_cons
    have first := (List.pairwise_cons.1 ascending).1
    unfold place
    split
    next less =>
      have later : ∀ d ∈ c :: l, key d ≠ key a := by
        intro d member
        rcases List.mem_cons.1 member with rfl | member
        · exact (ne_of_lt less).symm
        · exact (ne_of_lt (Std.TransCmp.lt_trans less (first d member))).symm
      grind
    next same =>
      have same : key a = key c := Std.LawfulEqCmp.compare_eq_iff_eq.1 same
      grind [ne_of_lt]
    next more =>
      have differ := ne_of_lt (Std.OrientedCmp.lt_of_gt more)
      grind

omit [Std.LawfulEqOrd κ] [Std.TransOrd κ] in
theorem length_place_le (a : α) (l : List α) : (place key a l).length ≤ l.length + 1 := by
  induction l with
  | nil => simp [place]
  | cons b rest ih =>
    unfold place
    split <;> simp
    omega

omit [Std.LawfulEqOrd κ] in
/-- A keyed list has no more items than it was made of. -/
theorem size_ofList_le (l : List α) : (ofList l : Keyed key).size ≤ l.length := by
  induction l using List.reverseRecOn with
  | nil => simp [ofList, size, empty]
  | append_singleton l a ih =>
    rw [ofList, List.foldl_concat, List.length_append]
    exact (length_place_le a _).trans (Nat.add_le_add_right ih 1)

variable [DecidableEq κ]

theorem find?_insert : (m.insert a).find? k = if key a = k then some a else m.find? k := by
  have there (b : α) : b ∈ (m.insert a).items ↔ b = a ∨ b ∈ m.items ∧ key b ≠ key a :=
    mem_place_iff m.ascending
  apply Option.ext
  intro b
  grind [find?_eq_some]

theorem find?_foldl_insert (l : List α) :
    (l.foldl (fun m a => m.insert a) m).find? k = (under key k l).getLast?.or (m.find? k) := by
  induction l using List.reverseRecOn with
  | nil => rfl
  | append_singleton l a ih =>
    rw [List.foldl_concat, find?_insert, ih, under_append, under_singleton]
    split <;> simp

/-- Under each key is the last item that has it. -/
theorem find?_ofList (l : List α) :
    (ofList l : Keyed key).find? k = (under key k l).getLast? := by
  simp [ofList, find?_foldl_insert]

omit [Std.LawfulEqOrd κ] [DecidableEq κ] in
theorem ofList_append (l l' : List α) :
    (ofList (l ++ l') : Keyed key) = l'.foldl (fun m a => m.insert a) (ofList l) :=
  List.foldl_append

theorem under_items : under key k m.items = (m.find? k).toList := by
  cases found : m.find? k with
  | none =>
    refine List.eq_nil_iff_forall_not_mem.2 fun a member => ?_
    obtain ⟨there, rfl⟩ := mem_under.1 member
    exact absurd ((find?_key there).symm.trans found) (by simp)
  | some a =>
    obtain ⟨-, rfl⟩ := find?_eq_some.1 found
    have alone : m.filter (fun b => key b = key a) = empty.insert a := by
      apply ext_find?
      intro k
      rw [find?_filter, find?_insert]
      by_cases same : key a = k
      · simp [← same, found]
      · have others : ∀ b, m.find? k = some b → key b ≠ key a := by
          intro b there
          exact (find?_eq_some.1 there).2 ▸ Ne.symm same
        simpa [same, Option.filter_eq_none_iff] using others
    exact congrArg items alone

/-- A keyed list is made of its items. -/
theorem ofList_items (m : Keyed key) : ofList m.items = m := by
  apply ext_find?
  intro k
  rw [find?_ofList, under_items]
  cases m.find? k <;> rfl

theorem Whole.filter_ofList {p : α → Bool} (whole : Whole key p) (l : List α) :
    (ofList l : Keyed key).filter p = ofList (l.filter p) := by
  apply ext_find?
  intro k
  rw [find?_filter, find?_ofList, find?_ofList]
  have chosen {a : α} (member : a ∈ under key k l) :
      a ∈ under key k (l.filter p) ↔ p a = true := by
    grind
  cases last : (under key k l).getLast? with
  | none =>
    have none_there := List.getLast?_eq_none_iff.1 last
    rcases whole.under_filter k with all | none
    · rw [all l, none_there]
      rfl
    · rw [none l]
      rfl
  | some a =>
    have chosen := chosen (List.mem_of_getLast? last)
    rcases whole.under_filter k with all | none
    · rw [all l] at chosen ⊢
      simp [last, chosen.1 (List.mem_of_getLast? last)]
    · rw [none l] at chosen ⊢
      simpa using chosen

end Looking

end Telemetry.Keyed
