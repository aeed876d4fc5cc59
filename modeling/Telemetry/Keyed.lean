/-!
# Keyed lists

Lists in strictly ascending order of a key, so that each key occurs at most once. Inserting an
item takes the place of the one with the same key.

## Main definitions

* `Keyed key`: the lists.
* `Keyed.insert`, `Keyed.find?`, `Keyed.ofList`: the operations.
-/

namespace Telemetry

structure Keyed {α κ : Type} [Ord κ] (key : α → κ) where
  items : List α
  ascending : items.Pairwise fun a b => compare (key a) (key b) = .lt

namespace Keyed

variable {α κ : Type} [Ord κ] {key : α → κ}

/-- Puts `a` where its key belongs, in place of an item with the same key. -/
def place (key : α → κ) (a : α) : List α → List α
  | [] => [a]
  | b :: rest =>
    match compare (key a) (key b) with
    | .lt => a :: b :: rest
    | .eq => a :: rest
    | .gt => b :: place key a rest

theorem mem_place {a b : α} {l : List α} (h : b ∈ place key a l) : b = a ∨ b ∈ l := by
  induction l with
  | nil => simpa [place] using h
  | cons c rest ih =>
    unfold place at h
    split at h
    · simpa using h
    · rcases List.mem_cons.1 h with rfl | h
      · exact .inl rfl
      · exact .inr (List.mem_cons_of_mem _ h)
    · rcases List.mem_cons.1 h with rfl | h
      · exact .inr List.mem_cons_self
      · exact (ih h).imp_right (List.mem_cons_of_mem _)

theorem ascending_place [Std.TransOrd κ] (a : α) {l : List α}
    (h : l.Pairwise fun a b => compare (key a) (key b) = .lt) :
    (place key a l).Pairwise fun a b => compare (key a) (key b) = .lt := by
  induction l with
  | nil => simp [place]
  | cons c rest ih =>
    obtain ⟨first, tail⟩ := List.pairwise_cons.1 h
    unfold place
    split
    · next less =>
      refine List.pairwise_cons.2 ⟨fun b hb => ?_, h⟩
      rcases List.mem_cons.1 hb with rfl | hb
      · exact less
      · exact Std.TransCmp.lt_trans less (first b hb)
    · next same =>
      refine List.pairwise_cons.2 ⟨fun b hb => ?_, tail⟩
      exact Std.TransCmp.lt_of_eq_of_lt same (first b hb)
    · next more =>
      refine List.pairwise_cons.2 ⟨fun b hb => ?_, ih tail⟩
      rcases mem_place hb with rfl | hb
      · exact Std.OrientedCmp.lt_of_gt more
      · exact first b hb

def empty : Keyed key :=
  ⟨[], .nil⟩

def insert [Std.TransOrd κ] (a : α) (m : Keyed key) : Keyed key :=
  ⟨place key a m.items, ascending_place a m.ascending⟩

/-- The item with key `k`. -/
def find? (k : κ) (m : Keyed key) : Option α :=
  m.items.find? fun a => compare k (key a) == .eq

/-- Later items take the place of earlier ones with the same key. -/
def ofList [Std.TransOrd κ] (l : List α) : Keyed key :=
  l.foldl (fun m a => m.insert a) empty

def isEmpty (m : Keyed key) : Bool :=
  m.items.isEmpty

def size (m : Keyed key) : Nat :=
  m.items.length

theorem eq_of_items {m n : Keyed key} (h : m.items = n.items) : m = n := by
  cases m
  cases n
  simp_all

instance [DecidableEq α] : DecidableEq (Keyed key) := fun m n =>
  if h : m.items = n.items then isTrue (eq_of_items h)
  else isFalse fun same => h (congrArg items same)

instance : Inhabited (Keyed key) :=
  ⟨empty⟩

end Keyed

end Telemetry
