import Telemetry.Document.Schema
import Telemetry.Json
import Telemetry.Proofs.Decimal
import Telemetry.Proofs.Filter
import Telemetry.Proofs.Store.Subscription

/-!
# What suppression hides from the outside

A value that is suppressed is not published; the value that the state keeps stands for it. The two
are the same reading, and the same reading is shown in the same way, as JSON and as a line of text,
with one exception: the two zeros are equal as numbers, but the sign of the negative one is shown.

## Main definitions

* `Value.OppositeZeros`: the exception.

## Main results

* `Value.json_eq_iff`, `Value.text_eq_iff`: readings that are the same are shown in the same way
  exactly outside the exception.
* `Store.kept_shown_as_suppressed`: so is a value that was suppressed, and the one that was kept.
-/

namespace Telemetry

section Numbers

variable {x y : Float}

/-- Numbers that are the same and not zeros of opposite sign are equal or both undefined. -/
theorem eq_or_isNaN_of_same (same : sameNumber x y = true) (apart : ¬(x = 0 ∧ y = -0))
    (apart' : ¬(x = -0 ∧ y = 0)) : x = y ∨ (x.isNaN = true ∧ y.isNaN = true) := by
  rw [sameNumber_iff, isZero_iff, isZero_iff] at same
  grind

/-- An undefined number has no digits. -/
theorem NumberLayout.write?_of_isNaN (layout : NumberLayout) (undefined : x.isNaN = true) :
    layout.write? x = none := by
  obtain rfl : x = .nan := by simpa using undefined
  have digits : Dyadic.ofFloat? .nan = none := by decide
  rw [write?, digits, Option.map_none]

theorem writeReal_of_isNaN (undefined : x.isNaN = true) :
    Json.writeReal (some x) = ['n', 'u', 'l', 'l'] := by
  rw [Json.writeReal, Option.bind_some, NumberLayout.json.write?_of_isNaN undefined]

theorem plainText_of_isNaN (undefined : x.isNaN = true) : plainText x = "NaN" := by
  rw [plainText, NumberLayout.plain.write?_of_isNaN undefined]
  exact if_pos undefined

end Numbers

namespace Value

/-- The values are the two zeros. -/
def OppositeZeros (a b : Value) : Prop :=
  (a.payload = .numeric 0 ∧ b.payload = .numeric (-0)) ∨
    (a.payload = .numeric (-0) ∧ b.payload = .numeric 0)

variable {a b : Value}

/-- What is shown of a value agrees for readings that are the same and not zeros of opposite sign,
if it leaves out the time and shows all undefined numbers alike. -/
theorem shown_eq {α : Type} {shown : Value → α} (same : a.same b = true)
    (timeless : ∀ (v : Value) now, shown { v with time := now } = shown v)
    (undefined : ∀ (v : Value) x y, x.isNaN = true → y.isNaN = true →
      shown { v with payload := .numeric x } = shown { v with payload := .numeric y })
    (apart : ¬a.OppositeZeros b) : shown a = shown b := by
  obtain ⟨payload, device, register⟩ := same_iff.1 same
  obtain ⟨name, r, p, time⟩ := a
  obtain ⟨name', r', q, time'⟩ := b
  obtain rfl : name = name' := device
  obtain rfl : r = r' := register
  suffices shown ⟨name, r, p, time⟩ = shown ⟨name, r, q, time⟩ from
    this.trans (timeless ⟨name, r, q, time⟩ time').symm
  rcases Payload.eq_or_numeric_of_same payload with rfl | ⟨x, y, rfl, rfl, number⟩
  · rfl
  · simp only [OppositeZeros, Payload.numeric.injEq, not_or] at apart
    rcases eq_or_isNaN_of_same number apart.1 apart.2 with rfl | ⟨nan, nan'⟩
    · rfl
    · exact undefined ⟨name, r, .null, time⟩ x y nan nan'

/-- Readings that are the same have the same JSON text unless they are zeros of opposite sign. -/
theorem json_eq_iff (same : a.same b = true) :
    Json.text a.published = Json.text b.published ↔ ¬a.OppositeZeros b := by
  refine ⟨fun alike => ?_, fun apart => ?_⟩
  · have plus : Json.text (.real (some 0)) = "0.0" := by decide +kernel
    have minus : Json.text (.real (some (-0))) = "-0.0" := by decide +kernel
    rintro (⟨zero, zero'⟩ | ⟨zero, zero'⟩)
    · simp [published, zero, zero', plus, minus] at alike
    · simp [published, zero, zero', plus, minus] at alike
  · refine @shown_eq a b _ (fun v => Json.text v.published) same (fun _ _ => rfl) ?_ apart
    intro v x y nan nan'
    simp only [published, Json.text, Json.write, writeReal_of_isNaN nan, writeReal_of_isNaN nan']

/-- Readings that are the same are the same line of text unless they are zeros of opposite sign. -/
theorem text_eq_iff (same : a.same b = true) : a.text = b.text ↔ ¬a.OppositeZeros b := by
  refine ⟨fun alike => ?_, fun apart => ?_⟩
  · obtain ⟨-, device, register⟩ := same_iff.1 same
    have null := isNull_of_same same
    have plus : plainText 0 = "0" := by decide +kernel
    have minus : plainText (-0) = "-0" := by decide +kernel
    rintro (⟨zero, zero'⟩ | ⟨zero, zero'⟩)
    all_goals
      rw [text, text, key_of_same same, null, register, String.append_left_inj,
        String.append_right_inj] at alike
      simp [payloadText, zero, zero', plus, minus] at alike
  · refine shown_eq same (fun _ _ => rfl) ?_ apart
    intro v x y nan nan'
    simp only [text, payloadText, plainText_of_isNaN nan, plainText_of_isNaN nan']
    rfl

end Value

namespace Store

variable {config : StoreConfig} {before later : Trace} {st : Step} {σ σ' : Signals} {s s' : Store}
  {e : Event} {o : Output} {v : Value}

/-- A value that the state has already leaves the state as it is. -/
theorem Change.state_of_holds (change : Change σ s e σ' s' o)
    (taken : v ∈ Step.taken ⟨σ, s, e, o, s'⟩) (held : s.holds v = true) : s'.state = s.state := by
  cases change with
  | update ready first new =>
    rw [taken_of_ready ready first, List.mem_singleton] at taken
    subst taken
    exact absurd held (by simp [new])
  | _ => rfl

/-- The state keeps the same reading for a value that is suppressed. -/
theorem Run.keeps_same (run : Run config (before ++ st :: later) σ s) (taken : v ∈ st.taken)
    (held : st.store.holds v = true) :
    st.next.state = st.store.state ∧
      ∃ kept, st.next.state.find? v.key = some kept ∧ kept.same v = true := by
  obtain ⟨_, -, -, happened, -⟩ := run.at_step
  have unchanged : st.next.state = st.store.state :=
    (change_of_effect happened).state_of_holds taken held
  refine ⟨unchanged, ?_⟩
  rw [unchanged]
  exact (Option.any_eq_true _ _).1 held

/-- Readings that are the same have the same JSON text and are the same line of text, unless they
are zeros of opposite sign. Whenever a value is suppressed, the value that the state keeps for it is
the same reading, so it is published as the suppressed one would have been, but for that case. -/
theorem kept_shown_as_suppressed :
    (∀ a b : Value, a.same b = true →
      (Json.text a.published = Json.text b.published ↔ ¬a.OppositeZeros b) ∧
        (a.text = b.text ↔ ¬a.OppositeZeros b)) ∧
    ∀ config (before : Trace) st later σ s v, Run config (before ++ st :: later) σ s →
      v ∈ st.taken → st.store.holds v = true →
      st.next.state = st.store.state ∧
        ∃ kept, st.next.state.find? v.key = some kept ∧ kept.same v = true ∧
          (Json.text kept.published = Json.text v.published ↔ ¬kept.OppositeZeros v) ∧
          (kept.text = v.text ↔ ¬kept.OppositeZeros v) := by
  refine ⟨fun a b same => ⟨Value.json_eq_iff same, Value.text_eq_iff same⟩, ?_⟩
  intro config before st later σ s v run taken held
  obtain ⟨unchanged, kept, found, same⟩ := run.keeps_same taken held
  exact ⟨unchanged, kept, found, same, Value.json_eq_iff same, Value.text_eq_iff same⟩

/-- The level of a tank, as a number. -/
def level (x : Float) (second : Int) : Value :=
  ⟨"tank", .number "Control" "level", .numeric x, ⟨second, 0⟩⟩

/-- A value is filled and applied, then another one is filled. -/
def fillingBoth (v w : Value) : List Event :=
  applying v ++ [.act (.fill 1 w), .act (.resolve 1)]

/-- A level that stays undefined is published as nothing, and so is the one that is suppressed. -/
theorem undefined_level_kept :
    ∃ (before : Trace) (st : Step) (σ : Signals) (s : Store),
      Run {} (before ++ [st]) σ s ∧ st.taken = [level .nan 2] ∧
      ∃ kept, st.next.state.find? (level .nan 2).key = some kept ∧
        Json.text kept.published = Json.text (level .nan 2).published ∧
        kept.text = (level .nan 2).text := by
  have told : ((play? (fillingBoth (level .nan 1) (level .nan 2)) (fresh {})).bind fun now =>
      (Event.effect? now.2.1 now.2.2 (.act (.owner .takeValue))).map fun after =>
        (Step.taken ⟨now.2.1, now.2.2, .act (.owner .takeValue), after.2.2, after.2.1⟩,
          now.2.2.holds (level .nan 2))) = some ([level .nan 2], true) := rfl
  obtain ⟨⟨before, σ, s⟩, played, told⟩ := Option.bind_eq_some_iff.1 told
  obtain ⟨⟨σ', s', o⟩, happened, told⟩ := Option.map_eq_some_iff.1 told
  obtain ⟨taken, held⟩ := Prod.mk.inj told
  have run : Run {} _ σ' s' :=
    (Run.of_play? (by decide) played).step (.act (.owner .takeValue)) trivial happened
  obtain ⟨-, kept, found, -, json, line⟩ :=
    kept_shown_as_suppressed.2 {} before _ [] σ' s' (level .nan 2) run (by simp [taken]) held
  have apart : ¬kept.OppositeZeros (level .nan 2) := by
    have plus : Float.nan ≠ 0 := by decide
    have minus : Float.nan ≠ -0 := by decide
    simp [Value.OppositeZeros, level, plus, minus]
  exact ⟨before, _, σ', s', run, taken, kept, found, json.2 apart, line.2 apart⟩

/-- The level falls from zero to the negative zero: the state keeps what is shown without a sign. -/
theorem zeros_shown_apart :
    (level 0 1).same (level (-0) 2) = true ∧
    Json.text (level 0 1).published = "0.0" ∧ Json.text (level (-0) 2).published = "-0.0" ∧
    (level 0 1).text = "tank:level=0" ∧ (level (-0) 2).text = "tank:level=-0" ∧
    ∃ tr σ s, Run {} tr σ s ∧ tr.taken = [level 0 1, level (-0) 2] ∧ s.suppressed = 1 ∧
      s.state.items = [level 0 1] := by
  refine ⟨by decide, by decide +kernel, by decide +kernel, by decide +kernel, by decide +kernel, ?_⟩
  have told : (play? (fillingBoth (level 0 1) (level (-0) 2) ++ [.act (.owner .takeValue)])
      (fresh {})).map
      (fun now => (now.1.taken, now.2.2.suppressed, now.2.2.state.items)) =
        some ([level 0 1, level (-0) 2], 1, [level 0 1]) := rfl
  obtain ⟨now, played, shown⟩ := Option.map_eq_some_iff.1 told
  simp only [Prod.mk.injEq] at shown
  exact ⟨now.1, now.2.1, now.2.2, .of_play? (by decide) played, shown⟩

end Store

end Telemetry
