import Telemetry.Filter

/-!
# Selections made in steps

A selection is made from one that takes everything, or nothing, by steps that each put a name or a
category on one of its lists. What it takes in the end depends on which steps were made, and neither
on their order nor on how often a step was made. A step to include never makes it take less, a step
to skip never more, and either matters only to the registers that it names.

## Main definitions

* `Selection.Edit`: the steps.
* `Selection.made`: what steps come to.
* `Selection.Chosen`: which registers are taken, told by the set of steps.

## Main results

* `accepts_made_iff`: exactly the chosen registers are taken.
* `edits_decide`: order and repetition do not matter, and each step moves the choice one way.
-/

namespace Telemetry.Selection

/-- A step in the making of a selection. -/
inductive Edit
  | includeRegister (name : String)
  | skipRegister (name : String)
  | includeCategory (category : String)
  | skipCategory (category : String)
  deriving DecidableEq

namespace Edit

def apply (s : Selection) : Edit → Selection
  | includeRegister name => s.includeRegister name
  | skipRegister name => s.skipRegister name
  | includeCategory category => s.includeCategory category
  | skipCategory category => s.skipCategory category

/-- The step is one to include. -/
def includes : Edit → Bool
  | includeRegister _ | includeCategory _ => true
  | skipRegister _ | skipCategory _ => false

/-- The register has the name or the category of the step. -/
def Concerns (r : Register) : Edit → Prop
  | includeRegister name | skipRegister name => r.name = name
  | includeCategory category | skipCategory category => r.category = category

end Edit

/-- The selection that steps come to, from one that takes everything or nothing. -/
def made (everything : Bool) (edits : List Edit) : Selection :=
  edits.foldl Edit.apply (if everything then includeAll else excludeAll)

/-- The name is included; or it is not skipped, and the category is included, or it is not skipped
either and everything is taken to begin with. -/
def Chosen (everything : Bool) (edits : List Edit) (r : Register) : Prop :=
  .includeRegister r.name ∈ edits ∨
    .skipRegister r.name ∉ edits ∧
      (.includeCategory r.category ∈ edits ∨
        .skipCategory r.category ∉ edits ∧ everything = true)

/-! ## The lists of a selection -/

theorem accepts_iff (s : Selection) (r : Register) : s.accepts r = true ↔
    r.name ∈ s.includeRegisters ∨
      r.name ∉ s.skipRegisters ∧
        (r.category ∈ s.includeCategories ∨
          r.category ∉ s.skipCategories ∧ s.defaultInclude = true) := by
  unfold accepts
  grind

/-- Each list has what some step put on it. -/
structure Lists (s : Selection) (everything : Bool) (edits : List Edit) : Prop where
  includeRegisters : ∀ name, name ∈ s.includeRegisters ↔ .includeRegister name ∈ edits
  skipRegisters : ∀ name, name ∈ s.skipRegisters ↔ .skipRegister name ∈ edits
  includeCategories : ∀ category,
    category ∈ s.includeCategories ↔ .includeCategory category ∈ edits
  skipCategories : ∀ category, category ∈ s.skipCategories ↔ .skipCategory category ∈ edits
  defaultInclude : s.defaultInclude = everything

section Making

variable {s : Selection} {everything : Bool} {edits before after : List Edit} {e : Edit}
  {r : Register}

theorem lists_start (everything : Bool) :
    Lists (if everything then includeAll else excludeAll) everything [] := by
  cases everything <;> constructor <;> simp [includeAll, excludeAll]

theorem Lists.apply (lists : Lists s everything edits) (e : Edit) :
    Lists (e.apply s) everything (edits ++ [e]) := by
  obtain ⟨inRegisters, outRegisters, inCategories, outCategories, start⟩ := lists
  cases e <;> constructor <;>
    simp [Edit.apply, includeRegister, skipRegister, includeCategory, skipCategory, *]

theorem Lists.foldl (lists : Lists s everything edits) (more : List Edit) :
    Lists (more.foldl Edit.apply s) everything (edits ++ more) := by
  induction more generalizing s edits with
  | nil => simpa using lists
  | cons e more ih => simpa using ih (lists.apply e)

/-- A selection takes exactly the registers that its steps choose. -/
theorem accepts_made_iff (everything : Bool) (edits : List Edit) (r : Register) :
    (made everything edits).accepts r = true ↔ Chosen everything edits r := by
  have lists : Lists (made everything edits) everything edits :=
    (lists_start everything).foldl edits
  rw [accepts_iff, Chosen, lists.includeRegisters, lists.skipRegisters, lists.includeCategories,
    lists.skipCategories, lists.defaultInclude]

/-! ## One step more -/

/-- A step that includes something takes nothing from the choice. -/
theorem Chosen.include (chosen : Chosen everything (before ++ after) r)
    (includes : e.includes = true) : Chosen everything (before ++ e :: after) r := by
  cases e <;> simp_all [Chosen, Edit.includes] <;> grind

/-- A step that skips something adds nothing to the choice. -/
theorem Chosen.of_skip (chosen : Chosen everything (before ++ e :: after) r)
    (skips : e.includes = false) : Chosen everything (before ++ after) r := by
  cases e <;> simp_all [Chosen, Edit.includes] <;> grind

theorem chosen_iff_of_not_concerns (apart : ¬e.Concerns r) :
    Chosen everything (before ++ e :: after) r ↔ Chosen everything (before ++ after) r := by
  cases e <;> simp_all [Chosen, Edit.Concerns]

end Making

/-- What a selection takes is told by the set of its steps, so steps in another order, or made more
than once, take the same. Wherever a step is put in, one to include keeps what was taken, one to
skip keeps what was not, and the decision changes for no register but those with its name or
category. -/
theorem edits_decide (everything : Bool) (edits : List Edit) :
    (∀ r, (made everything edits).accepts r = true ↔ Chosen everything edits r) ∧
    (∀ edits', (∀ e, e ∈ edits' ↔ e ∈ edits) →
      (made everything edits').accepts = (made everything edits).accepts) ∧
    ∀ before after e r, edits = before ++ after →
      let longer := made everything (before ++ e :: after)
      (e.includes = true → (made everything edits).accepts r = true → longer.accepts r = true) ∧
      (e.includes = false → (made everything edits).accepts r = false →
        longer.accepts r = false) ∧
      (¬e.Concerns r → longer.accepts r = (made everything edits).accepts r) := by
  refine ⟨accepts_made_iff everything edits, fun edits' same => ?_, ?_⟩
  · funext r
    rw [Bool.eq_iff_iff, accepts_made_iff, accepts_made_iff]
    simp only [Chosen, same]
  · rintro before after e r rfl
    refine ⟨fun includes => ?_, fun skips => ?_, fun apart => ?_⟩
    · rw [accepts_made_iff, accepts_made_iff]
      intro chosen
      exact chosen.include includes
    · rw [← Bool.not_eq_true, ← Bool.not_eq_true, accepts_made_iff, accepts_made_iff]
      intro left_out chosen
      exact left_out (chosen.of_skip skips)
    · rw [Bool.eq_iff_iff, accepts_made_iff, accepts_made_iff]
      exact chosen_iff_of_not_concerns apart

/-- The voltage stays skipped by name in an included category, in whatever order and however often
that is said; to include it by name takes it after all. -/
theorem skipped_in_any_order :
    let edits : List Edit := [.skipRegister "voltage", .includeCategory "Essential"]
    let edits' : List Edit :=
      [.includeCategory "Essential", .skipRegister "voltage", .includeCategory "Essential"]
    let voltage := Register.number "Essential" "voltage"
    (∀ e, e ∈ edits' ↔ e ∈ edits) ∧
      (made false edits').accepts = (made false edits).accepts ∧
      (made false edits).accepts voltage = false ∧
      ((made false edits).accepts (Register.number "Essential" "current") = true ∧
        (made false (.includeRegister "voltage" :: edits)).accepts
          (Register.number "Essential" "current") = true) := by
  intro edits edits' voltage
  have same : ∀ e, e ∈ edits' ↔ e ∈ edits := by
    simp only [edits, edits']
    grind
  obtain ⟨-, alike, step⟩ := edits_decide false edits
  have current : (made false edits).accepts (Register.number "Essential" "current") = true := by
    decide
  exact ⟨same, alike edits' same, by decide, current,
    (step [] edits (.includeRegister "voltage") _ rfl).1 rfl current⟩

end Telemetry.Selection
