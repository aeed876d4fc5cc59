import Telemetry.Signal

/-!
# What firing a signal cancels

Firing a signal cancels the tokens with that signal in their lineage and no other. A new signal is
in the lineage of no token that is there already, so firing it cancels nothing but what is made
below it afterwards: neither its parent nor a sibling.

## Main definitions

* `Token.Within`: a token is another one or below it.

## Main results

* `Signals.isCancelled_fire_iff`, `Signals.isCancelled_fireAll_iff`: what is cancelled after firing.
* `Signals.not_within_child`: nothing is below a new token.
-/

namespace Telemetry

/-- A token is another one or below it. -/
def Token.Within (t above : Token) : Prop :=
  ∃ n, above.lineage.head? = some n ∧ n ∈ t.lineage

instance (t above : Token) : Decidable (t.Within above) :=
  match h : above.lineage.head? with
  | none => isFalse fun ⟨_, signal, _⟩ => by simp [h] at signal
  | some n => decidable_of_iff (n ∈ t.lineage) (by simp [Token.Within, h])

namespace Signals

variable {σ : Signals} {t t' parent : Token}

theorem isCancelled_fire_iff :
    (σ.fire t).isCancelled t' = true ↔ σ.isCancelled t' = true ∨ t'.Within t := by
  obtain ⟨lineage⟩ := t
  cases lineage with
  | nil => simp [fire, Token.Within]
  | cons n rest =>
    simp only [Token.Within, List.head?_cons, Option.some.injEq, exists_eq_left', fire]
    split
    next fired =>
      refine ⟨.inl, ?_⟩
      rintro (before | member)
      · exact before
      · exact List.any_eq_true.2 ⟨n, member, fired⟩
    next =>
      simp only [isCancelled, List.any_eq_true, List.contains_iff_mem, List.mem_cons]
      constructor
      · rintro ⟨m, member, rfl | fired⟩
        · exact .inr member
        · exact .inl ⟨m, member, fired⟩
      · rintro (⟨m, member, fired⟩ | member)
        · exact ⟨m, member, .inr fired⟩
        · exact ⟨n, member, .inl rfl⟩

theorem isCancelled_fireAll_iff {tokens : List Token} :
    (σ.fireAll tokens).isCancelled t' = true ↔
      σ.isCancelled t' = true ∨ ∃ t ∈ tokens, t'.Within t := by
  induction tokens generalizing σ with
  | nil => simp [fireAll]
  | cons t rest ih =>
    have first : σ.fireAll (t :: rest) = (σ.fire t).fireAll rest := rfl
    simp [first, ih, isCancelled_fire_iff, or_assoc]

/-- Nothing that is there is below a new token. -/
theorem not_within_child (old : ∀ n ∈ t.lineage, n < σ.next) : ¬ t.Within (σ.child parent).1 := by
  rintro ⟨n, signal, member⟩
  cases signal
  exact absurd (old _ member) (Nat.lt_irrefl _)

/-- What is made later is not below a token unless its parent is. -/
theorem within_of_child_within (old : ∀ n ∈ t.lineage, n < σ.next)
    (below : (σ.child parent).1.Within t) : parent.Within t := by
  obtain ⟨n, signal, member⟩ := below
  refine ⟨n, signal, ?_⟩
  rcases List.mem_cons.1 member with rfl | above
  · exact absurd (old _ (List.mem_of_mem_head? signal)) (Nat.lt_irrefl _)
  · exact above

end Signals

end Telemetry
