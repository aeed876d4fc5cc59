import Telemetry.Document.Schema
import Telemetry.Proofs.Document.Integer
import Telemetry.Proofs.Keyed

/-!
# Values from the documents that they were put into

Every kind of field gives back the value that was put into it.
-/

namespace Telemetry

namespace Document

@[simp] theorem string?_ofString (s : String) : (ofString s).string? = some s :=
  rfl

@[simp] theorem boolean?_boolean (b : Bool) : (boolean b).boolean? = some b :=
  rfl

@[simp] theorem int32?_toInt (n : Int32) : (integer n.toInt).int32? = some n := by
  have low := n.le_toInt
  have high := n.toInt_lt
  simp only [int32?, integer?, Option.bind_some]
  rw [if_pos (by simp; omega), Int32.ofInt_toInt]

@[simp] theorem word?_toNat (n : UInt64) : (integer n.toNat).word? = some n := by
  have bound : 0 ≤ (n.toNat : Int) ∧ (n.toNat : Int).toNat < Nat.pow 2 64 := by
    rw [Nat.pow_eq, Int.toNat_natCast]
    exact ⟨by omega, n.toNat_lt⟩
  simp only [word?, below?, integer?, Option.bind_some]
  rw [if_pos (by simpa using bound), Int.toNat_natCast, Option.map_some, UInt64.ofNat_toNat]

/-- Parts that were put in one by one come out one by one. -/
theorem mapM_map_eq_some {α β : Type} {f : α → β} {g : β → Option α} {l : List α}
    (inverse : ∀ a ∈ l, g (f a) = some a) : (l.map f).mapM g = some l := by
  induction l with
  | nil => rfl
  | cons a l ih => simp_all

@[simp] theorem strings?_ofStrings (l : List String) : (ofStrings l).strings? = some l :=
  mapM_map_eq_some fun _ _ => rfl

@[simp] theorem members?_ofMembers (ms : List (String × Document)) :
    (ofMembers ms).members? = some ms :=
  mapM_map_eq_some fun _ _ => rfl

end Document

theorem Record.of?_ofMembers {format : Format} {names : List String}
    {ms : List (String × Document)}
    (once : ∀ name ∈ names, (ms.filter fun m => m.1 == name).length ≤ 1) :
    Record.of? format names (.ofMembers ms) = some ⟨ms⟩ := by
  rw [Record.of?, Document.members?_ofMembers]
  · exact if_pos (by simpa using once)
  · rintro items ⟨⟩

@[simp] theorem Register.labels?_labelsDocument (labels : Labels) :
    labels? (labelsDocument labels) = some labels := by
  have entries : (labelsDocument labels).numbered? Document.string? = some labels.items := by
    rw [labelsDocument, Document.ofMembers, Document.numbered?, List.map_map]
    refine Document.mapM_map_eq_some fun e _ => ?_
    have plain := all_isPlain_integerText e.1.toInt
    simp [Quotation.ofString, plain, readInteger?_integerText]
  rw [labels?, entries, Option.map_some, Keyed.ofList_items]

end Telemetry
