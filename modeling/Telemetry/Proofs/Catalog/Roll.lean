import Telemetry.Proofs.Catalog.Index

/-!
# Rolls of registers

A roll has one register under a name. A register that is offered takes the place of the one that has
its name, or comes last; it is news unless the same register was there. What a catalog has, and what
it announces, is read off the registers that were offered to it in their order.

## Main definitions

* `Register.roll`: what registers come to that are offered one after the other.
* `Register.news`: those among them that are new or changed when their turn comes.

## Main results

* `map_name_roll`, `latest?_roll`: names in the order of discovery, and the latest under each.
* `Indexed.registers_put`: a catalog puts registers as a roll does.
-/

namespace Telemetry

namespace Register

/-- Puts a register in the place of the one that has its name, or last. -/
def enlist (known : List Register) (r : Register) : List Register :=
  if known.any fun s => s.name == r.name then known.map fun s => if s.name = r.name then r else s
  else known ++ [r]

/-- What registers come to that are offered one after the other. -/
def roll (offered : List Register) : List Register :=
  offered.foldl enlist []

/-- The registers that are new or changed when their turn comes. -/
def news (known : List Register) : List Register → List Register
  | [] => []
  | r :: rest =>
    if latest? r.name known = some r then news (enlist known r) rest
    else r :: news (enlist known r) rest

section Rolls

variable {known offered more : List Register} {r : Register} {name : String}

theorem news_append (known offered more : List Register) :
    news known (offered ++ more) =
      news known offered ++ news (offered.foldl enlist known) more := by
  induction offered generalizing known with
  | nil => rfl
  | cons r rest ih =>
    rw [List.cons_append, news, news, List.foldl_cons, ih]
    split <;> rfl

theorem roll_append (offered more : List Register) :
    roll (offered ++ more) = more.foldl enlist (roll offered) :=
  List.foldl_append

/-- A register in the place of another has its name. -/
theorem name_replace (r s : Register) : (if s.name = r.name then r else s).name = s.name := by
  split
  next same => exact same.symm
  next => rfl

theorem map_name_enlist (known : List Register) (r : Register) :
    (enlist known r).map Register.name =
      if r.name ∈ known.map Register.name then known.map Register.name
      else known.map Register.name ++ [r.name] := by
  have named : (known.any fun s => s.name == r.name) = true ↔ r.name ∈ known.map Register.name := by
    simp
  simp only [enlist, named]
  split
  · rw [List.map_map]
    exact List.map_congr_left fun s _ => name_replace r s
  · simp

theorem latest?_enlist (known : List Register) (r : Register) (name : String) :
    latest? name (enlist known r) = if r.name = name then some r else latest? name known := by
  unfold enlist
  split
  next there =>
    have replaced : latest? name (known.map fun s => if s.name = r.name then r else s) =
        (latest? name known).map fun s => if s.name = r.name then r else s := by
      rw [latest?, ← List.map_reverse, List.find?_map]
      simp only [Function.comp_def, name_replace]
      rfl
    rw [replaced]
    split
    next here =>
      obtain ⟨s, member, same⟩ := List.any_eq_true.1 there
      have named : s.name = name := (eq_of_beq same).trans here
      cases last : latest? name known with
      | none => exact absurd named (latest?_eq_none.1 last s member)
      | some t => simp [(mem_of_latest? last).2, here]
    next other =>
      cases last : latest? name known with
      | none => rfl
      | some t =>
        have differ : t.name ≠ r.name := fun same => other (same.symm.trans (mem_of_latest? last).2)
        simp [differ]
  · rw [latest?_append, latest?_singleton]
    split <;> simp

theorem eraseDups_concat {α : Type} [BEq α] [LawfulBEq α] (l : List α) (a : α) :
    (l ++ [a]).eraseDups = if a ∈ l then l.eraseDups else l.eraseDups ++ [a] := by
  by_cases there : a ∈ l <;>
    simp [List.eraseDups_append, List.removeAll, List.eraseDups_cons, there]

/-- The names of a roll are in the order of their discovery. -/
theorem map_name_roll (offered : List Register) :
    (roll offered).map Register.name = (offered.map Register.name).eraseDups := by
  induction offered using List.reverseRecOn with
  | nil => rfl
  | append_singleton offered r ih =>
    rw [roll_append, List.foldl_cons, List.foldl_nil, map_name_enlist, ih, List.map_append,
      List.map_singleton, eraseDups_concat]
    simp only [List.mem_eraseDups]

/-- A roll has the latest under each name. -/
theorem latest?_roll (offered : List Register) (name : String) :
    latest? name (roll offered) = latest? name offered := by
  induction offered using List.reverseRecOn with
  | nil => rfl
  | append_singleton offered r ih =>
    rw [roll_append, List.foldl_cons, List.foldl_nil, latest?_enlist, ih, latest?_append,
      latest?_singleton]
    split <;> simp

end Rolls

end Register

namespace Catalog

open Register

variable {c : Catalog}

/-- A catalog puts a register as a roll does. -/
theorem Indexed.registers_put (indexed : c.Indexed) (r : Register) :
    (c.put r).2.registers = enlist c.registers r := by
  have own := indexed r.name
  unfold Catalog.put
  split
  next place there =>
    obtain ⟨s, stands, named⟩ := (own place).1 there
    have known : (c.registers.any fun s => s.name == r.name) = true :=
      List.any_eq_true.2 ⟨s, List.mem_of_getElem? stands, by simp [named]⟩
    have replaced : c.registers.set place r = enlist c.registers r := by
      rw [enlist, if_pos known]
      apply List.ext_getElem?
      intro i
      have here := own i
      grind
    split
    next same =>
      rw [← replaced]
      apply List.ext_getElem?
      grind
    · exact replaced
  next missing =>
    have unknown : (c.registers.any fun s => s.name == r.name) = false := by
      rw [List.any_eq_false]
      intro s member
      obtain ⟨place, stands⟩ := List.mem_iff_getElem?.1 member
      have here := own place
      grind
    rw [enlist, unknown]
    rfl

end Catalog

end Telemetry
