import Telemetry.Filter
import Telemetry.Proofs.Text.Bytes

/-!
# The order in which registers are shown

Registers are shown by number, then by category, then by name, texts in the order of their bytes.
Registers that agree in all three may differ in other fields; they stay in the order in which they
were given. That leaves one order only, so it does not matter whether registers are filtered before
or after they are put in order.

## Main definitions

* `Register.Precedes`, `Register.Ties`: which of two registers is shown first.
* `Register.Shows`: a list of registers in the order in which they are shown.

## Main results

* `Shows.unique`: there is one such order.
* `ordered_stably`: the order of a list is that one, and filters keep it.
-/

namespace Telemetry.Register

open scoped List

/-- One register is shown before another, wherever the two come from. -/
def Precedes (a b : Register) : Prop :=
  a.sort < b.sort ∨ a.sort = b.sort ∧
    (Text.bytes a.category < Text.bytes b.category ∨ a.category = b.category ∧
      Text.bytes a.name < Text.bytes b.name)

/-- Two registers agree in all that they are shown by. -/
def Ties (a b : Register) : Prop :=
  a.sort = b.sort ∧ a.category = b.category ∧ a.name = b.name

instance (a b : Register) : Decidable (a.Ties b) :=
  inferInstanceAs (Decidable (_ ∧ _))

/-- Some registers as they are shown: no one before another that precedes it, and those that tie as
they were. -/
structure Shows (registers shown : List Register) : Prop where
  perm : shown ~ registers
  ascending : shown.Pairwise fun a b => ¬b.Precedes a
  stable : ∀ r : Register, shown.filter (r.Ties ·) = registers.filter (r.Ties ·)

/-! ## Comparisons -/

section Comparisons

variable {a b : Register}

instance : Std.TransCmp compareShown :=
  inferInstanceAs (Std.TransCmp (compareLex
    (compareLex (compareOn Register.sort) (compareOn Register.category)) (compareOn Register.name)))

theorem compareShown_eq_lt : compareShown a b = .lt ↔ a.Precedes b := by
  have text (s t : String) : compare s t = .lt ↔ Text.bytes s < Text.bytes t := by
    rw [Text.bytes_lt_bytes]
    exact compareOfLessAndEq_eq_lt
  simp only [compareShown, Ordering.then_eq_lt, Ordering.then_eq_eq, text, Std.compare_eq_lt,
    Std.LawfulEqCmp.compare_eq_iff_eq, Precedes]
  grind

theorem compareShown_eq_eq : compareShown a b = .eq ↔ a.Ties b := by
  simp only [compareShown, Ordering.then_eq_eq, Std.LawfulEqCmp.compare_eq_iff_eq, Ties, and_assoc]

theorem isLE_compareShown : (compareShown a b).isLE = true ↔ ¬b.Precedes a := by
  rw [← compareShown_eq_lt]
  constructor
  · exact Std.OrientedCmp.not_lt_of_isLE
  · intro before
    apply Decidable.byContradiction
    intro after
    exact before (Std.OrientedCmp.lt_of_not_isLE after)

/-- Of two registers neither of which precedes the other, the one is as good as the other. -/
theorem ties_of_not_precedes (first : ¬b.Precedes a) (second : ¬a.Precedes b) : a.Ties b := by
  rw [← isLE_compareShown] at first second
  exact compareShown_eq_eq.1 (Std.OrientedCmp.isLE_antisymm first second)

theorem Ties.refl (r : Register) : r.Ties r :=
  ⟨rfl, rfl, rfl⟩

end Comparisons

/-! ## Lists -/

section Lists

variable {registers shown shown' : List Register}

/-- Registers that tie are in order wherever they stand. -/
theorem not_precedes_of_ties {r a b : Register} (first : r.Ties a) (second : r.Ties b) :
    ¬b.Precedes a := by
  rw [← isLE_compareShown, compareShown_eq_eq.2]
  · rfl
  · obtain ⟨sort, category, name⟩ := first
    exact ⟨sort ▸ second.1, category ▸ second.2.1, name ▸ second.2.2⟩

/-- The first of a list in order precedes nothing in another list of the same registers. -/
theorem not_precedes_head {a b : Register} {l l' : List Register}
    (ascending : (b :: l').Pairwise fun a b => ¬b.Precedes a)
    (same : (a :: l).filter (a.Ties ·) = (b :: l').filter (a.Ties ·)) : ¬a.Precedes b := by
  have member : a ∈ b :: l' := by
    have kept : a ∈ (a :: l).filter (a.Ties ·) := by simp [Ties.refl]
    rw [same] at kept
    exact (List.mem_filter.1 kept).1
  rcases List.mem_cons.1 member with rfl | later
  · exact not_precedes_of_ties (Ties.refl a) (Ties.refl a)
  · exact (List.pairwise_cons.1 ascending).1 a later

/-- A list in order is told by the registers that tie, for each register. -/
theorem eq_of_filter_ties {l l' : List Register}
    (ascending : l.Pairwise fun a b => ¬b.Precedes a)
    (ascending' : l'.Pairwise fun a b => ¬b.Precedes a)
    (same : ∀ r : Register, l.filter (r.Ties ·) = l'.filter (r.Ties ·)) : l = l' := by
  induction l generalizing l' with
  | nil =>
    cases l' with
    | nil => rfl
    | cons b l' => simpa [Ties.refl] using same b
  | cons a l ih =>
    cases l' with
    | nil => simpa [Ties.refl] using same a
    | cons b l' =>
      have ties : a.Ties b := ties_of_not_precedes
        (not_precedes_head ascending (same b).symm) (not_precedes_head ascending' (same a))
      have heads : a = b := by
        have first := same a
        simp only [Ties.refl, ties, decide_true, List.filter_cons_of_pos] at first
        exact (List.cons.inj first).1
      subst heads
      rw [ih (List.pairwise_cons.1 ascending).2 (List.pairwise_cons.1 ascending').2]
      intro r
      have whole := same r
      by_cases tied : r.Ties a
      · simpa [tied] using whole
      · simpa [tied] using whole

/-- Some registers are shown in one order only. -/
theorem Shows.unique (shows' : Shows registers shown) (shows'' : Shows registers shown') :
    shown = shown' := by
  apply eq_of_filter_ties shows'.ascending shows''.ascending
  intro r
  rw [shows'.stable, shows''.stable]

theorem shows_ordered (registers : List Register) : Shows registers (ordered registers) := by
  have trans (a b c : Register) : (compareShown a b).isLE = true → (compareShown b c).isLE = true →
      (compareShown a c).isLE = true := Std.TransCmp.isLE_trans
  have total (a b : Register) : ((compareShown a b).isLE || (compareShown b a).isLE) = true := by
    rw [Bool.or_eq_true]
    by_cases first : (compareShown a b).isLE = true
    · exact .inl first
    · right
      rw [Std.OrientedCmp.lt_of_not_isLE first]
      rfl
  have perm : ordered registers ~ registers := List.mergeSort_perm _ _
  refine ⟨perm, ?_, ?_⟩
  · refine (List.pairwise_mergeSort trans total registers).imp ?_
    intro a b le
    exact isLE_compareShown.1 le
  · intro r
    -- Registers that tie are in order already, so they are found in the same order afterwards; and
    -- as many are there.
    have kept : registers.filter (r.Ties ·) <+ ordered registers := by
      apply List.sublist_mergeSort trans total
      · apply List.pairwise_filter.2
        apply List.pairwise_of_forall
        intro a b first second
        rw [decide_eq_true_eq] at first second
        exact isLE_compareShown.2 (not_precedes_of_ties first second)
      · exact List.filter_sublist
    have within := kept.filter (r.Ties ·)
    rw [List.filter_filter] at within
    simp only [Bool.and_self] at within
    exact (within.eq_of_length (perm.filter _).length_eq.symm).symm

/-- Registers are shown in the one order in which none stands before another that precedes it and
those that tie stay as they were. To put them in order once more changes nothing, and it does not
matter whether a filter is applied before or after. -/
theorem ordered_stably (registers : List Register) (f : RegisterFilter) :
    Shows registers (ordered registers) ∧
    (∀ shown, Shows registers shown → shown = ordered registers) ∧
    ordered (ordered registers) = ordered registers ∧
    f.filter (ordered registers) = ordered (f.filter registers) := by
  have shows' := shows_ordered registers
  refine ⟨shows', fun shown shows'' => shows''.unique shows', ?_, ?_⟩
  · have again := shows_ordered (ordered registers)
    apply again.unique
    exact ⟨.refl _, shows'.ascending, fun _ => rfl⟩
  · have after := shows_ordered (f.filter registers)
    apply Shows.unique _ after
    refine ⟨shows'.perm.filter _, shows'.ascending.filter _, ?_⟩
    intro r
    have exchange (l : List Register) :
        (f.filter l).filter (r.Ties ·) = (l.filter (r.Ties ·)).filter f.accepts := by
      simp only [RegisterFilter.filter, List.filter_filter, Bool.and_comm]
    rw [exchange, exchange, shows'.stable]

end Lists

end Telemetry.Register
