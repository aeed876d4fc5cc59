import Telemetry.Proofs.Document.Fields
import Telemetry.Proofs.Json.Writing

/-!
# Rearranged objects

An object may be rearranged without a change to what it stands for: its members may stand in any
order, members under unknown names may stand between them, and members may be missing whose values
are those that are taken for missing ones. A schema whose fields read back one by one reads back
from the text of a value and from every rearrangement of it.

## Main definitions

* `Schema`: how the values of a type stand in documents.
* `Schema.Rearrangement`: another object for the same value.
* `Schema.RoundTrips`: values read back from their texts and from all rearrangements.
* `Schema.Faithful`: what has to be known of a schema for that.
-/

namespace Telemetry

theorem lookup_eq_some_of_mem {α : Type} {l : List (String × α)} {name : String} {a : α}
    (once : (l.filter fun m => m.1 == name).length ≤ 1) (member : (name, a) ∈ l) :
    l.lookup name = some a := by
  obtain ⟨before, after, rfl⟩ := List.append_of_mem member
  rw [List.lookup_eq_some_iff]
  refine ⟨before, after, rfl, fun m hm => ?_⟩
  rw [bne_iff_ne]
  rintro rfl
  have first : 0 < (before.filter fun e => e.1 == m.1).length :=
    List.length_pos_of_mem (List.mem_filter.2 ⟨hm, beq_self_eq_true _⟩)
  simp only [List.filter_append, List.filter_cons, beq_self_eq_true, if_true, List.length_append,
    List.length_cons] at once
  omega

/-- The members of an object by name; none for other documents. -/
def Document.named (d : Document) : List (String × Document) :=
  d.members?.getD []

@[simp] theorem Document.named_ofMembers (ms : List (String × Document)) :
    (ofMembers ms).named = ms := by
  simp [named]

/-- How the values of a type stand in documents. -/
structure Schema (α : Type) where
  document : α → Document
  ofDocument? : Document → Option α
  /-- The names that members are looked for under. -/
  names : List String
  /-- The names of the members that may be missing. -/
  optional : List String
  /-- The value whose members are taken for those that are missing. -/
  base : α → α

namespace Schema

/-- The schema of a type with a default value, all of whose members may be missing. -/
@[simps] def ofDefault {α : Type} (document : α → Document) (ofDocument? : Document → Option α)
    (names : List String) (default : α) : Schema α where
  document := document
  ofDocument? := ofDocument?
  names := names
  optional := names
  base _ := default

variable {α β : Type} {s : Schema α} {x : α}

/-- The value that a JSON text stands for. -/
def read? (s : Schema α) (text : String) : Option α :=
  (Json.read? text).bind s.ofDocument?

/-- Another object for the same value. The texts of unknown members are those of any JSON values. -/
structure Rearrangement (s : Schema α) (x : α) where
  kept : List (String × Document)
  dropped : List (String × Document)
  unknown : List (String × String)
  /-- The names of all members and the texts of their values, in the order in which they stand. -/
  members : List (String × String)
  kept_dropped : (s.document x).named.Perm (kept ++ dropped)
  dropped_base : ∀ m ∈ dropped, m.1 ∈ s.optional ∧ m ∈ (s.document (s.base x)).named
  unknown_names : ∀ m ∈ unknown, m.1 ∉ s.names
  unknown_values : ∀ m ∈ unknown, (Json.read? m.2).isSome
  kept_unknown : members.Perm (kept.map (fun m => (m.1, Json.text m.2)) ++ unknown)

def Rearrangement.text (r : Rearrangement s x) : String :=
  Json.objectText r.members

/-- Every value reads back from its text and from all rearrangements of it. -/
def RoundTrips (s : Schema α) : Prop :=
  ∀ x, s.read? (Json.text (s.document x)) = some x ∧
    ∀ r : Rearrangement s x, s.read? r.text = some x

/-! ## Fields that are found -/

/-- The fields of an object are those of `x`, up to fields that may be missing. -/
structure Holds (s : Schema α) (x : α) (fields : List (String × Document)) : Prop where
  once : ∀ name ∈ s.names, (fields.filter fun m => m.1 == name).length ≤ 1
  found : ∀ m ∈ (s.document x).named, fields.lookup m.1 = some m.2 ∨
    fields.lookup m.1 = none ∧ m.1 ∈ s.optional ∧ m ∈ (s.document (s.base x)).named
  missing : ∀ name ∈ s.names, name ∉ (s.document x).named.map Prod.fst → fields.lookup name = none

namespace Holds

variable {fields : List (String × Document)} {read : Document → Option β} {v default : β}

theorem required? (h : s.Holds x fields) (name : String) (d : Document)
    (member : (name, d) ∈ (s.document x).named)
    (needed : name ∉ s.optional) (value : read d = some v) :
    Record.required? ⟨fields⟩ name read = some v := by
  rcases h.found _ member with found | ⟨-, missing, -⟩
  · simp [Record.required?, Record.field?, found, value]
  · exact absurd missing needed

theorem withDefault? (h : s.Holds x fields) (name : String) (d : Document) (default : β)
    (member : (name, d) ∈ (s.document x).named) (value : read d = some v)
    (base : ∀ d', (name, d') ∈ (s.document (s.base x)).named → read d' = some default) :
    Record.withDefault? ⟨fields⟩ name read default = some v := by
  rcases h.found _ member with found | ⟨missing, -, same⟩
  · simp [Record.withDefault?, Record.field?, found, value]
  · rw [base d same] at value
    simpa [Record.withDefault?, Record.field?, missing] using value

theorem withDefault?_of_missing {name : String} (h : s.Holds x fields) (known : name ∈ s.names)
    (missing : name ∉ (s.document x).named.map Prod.fst) :
    Record.withDefault? ⟨fields⟩ name read default = some default := by
  simp [Record.withDefault?, Record.field?, h.missing name known missing]

end Holds

/-- What makes values read back. -/
structure Faithful (s : Schema α) : Prop where
  object : ∀ x, s.document x = .ofMembers (s.document x).named
  distinct : ∀ x, ((s.document x).named.map Prod.fst).Nodup
  known : ∀ x, ∀ m ∈ (s.document x).named, m.1 ∈ s.names
  values : ∀ x, ∀ m ∈ (s.document x).named, Json.read? (Json.text m.2) = some m.2
  reads : ∀ x fields, s.Holds x fields → s.ofDocument? (.ofMembers fields) = some x

namespace Rearrangement

/-- A member as it is read. -/
def readMember (m : String × String) : String × Document :=
  (m.1, (Json.read? m.2).getD .null)

/-- The members as they are read. -/
def fields (r : Rearrangement s x) : List (String × Document) :=
  r.members.map readMember

theorem named_of_kept (r : Rearrangement s x) {m : String × Document} (hm : m ∈ r.kept) :
    m ∈ (s.document x).named :=
  r.kept_dropped.mem_iff.2 (List.mem_append_left _ hm)

theorem map_readMember_kept (h : s.Faithful) (r : Rearrangement s x) :
    (r.kept.map fun m => (m.1, Json.text m.2)).map readMember = r.kept := by
  rw [List.map_map]
  refine List.map_congr_left (g := id) (fun m hm => ?_) |>.trans (List.map_id _)
  simp [readMember, h.values x m (r.named_of_kept hm)]

theorem fields_perm (h : s.Faithful) (r : Rearrangement s x) :
    r.fields.Perm (r.kept ++ r.unknown.map readMember) := by
  have read := r.kept_unknown.map readMember
  rwa [List.map_append, r.map_readMember_kept h] at read

theorem isSome_read? (h : s.Faithful) (r : Rearrangement s x) :
    ∀ m ∈ r.members, (Json.read? m.2).isSome := by
  intro m hm
  rcases List.mem_append.1 (r.kept_unknown.mem_iff.1 hm) with kept | unknown
  · obtain ⟨k, hk, rfl⟩ := List.mem_map.1 kept
    rw [h.values x k (r.named_of_kept hk)]
    rfl
  · exact r.unknown_values m unknown

theorem read?_text (h : s.Faithful) (r : Rearrangement s x) :
    Json.read? r.text = some (.ofMembers r.fields) := by
  refine Json.read?_objectText (List.forall₂_map_right_iff.2 (List.forall₂_same.2 fun m hm => ?_))
  obtain ⟨d, value⟩ := Option.isSome_iff_exists.1 (r.isSome_read? h m hm)
  simp [readMember, value]

/-- Only a kept member is found under a name that is looked for. -/
theorem mem_fields_iff (h : s.Faithful) (r : Rearrangement s x) {m : String × Document}
    (known : m.1 ∈ s.names) : m ∈ r.fields ↔ m ∈ r.kept := by
  rw [(r.fields_perm h).mem_iff, List.mem_append, or_iff_left]
  rintro unknown
  obtain ⟨u, hu, rfl⟩ := List.mem_map.1 unknown
  exact r.unknown_names u hu known

theorem distinct_names (h : s.Faithful) (r : Rearrangement s x) :
    ((r.kept ++ r.dropped).map Prod.fst).Nodup :=
  (r.kept_dropped.map _).nodup_iff.1 (h.distinct x)

theorem once (h : s.Faithful) (r : Rearrangement s x) {name : String} (known : name ∈ s.names) :
    (r.fields.filter fun m => m.1 == name).length ≤ 1 := by
  have kept : (r.kept.map Prod.fst).count name ≤ 1 := by
    have distinct := r.distinct_names h
    rw [List.map_append] at distinct
    exact List.nodup_iff_count_le_one.1 distinct.of_append_left name
  have others : ((r.unknown.map readMember).map Prod.fst).count name = 0 := by
    rw [List.count_eq_zero]
    simp only [List.map_map, List.mem_map, not_exists, not_and]
    rintro u hu rfl
    exact r.unknown_names u hu known
  calc (r.fields.filter fun m => m.1 == name).length
      = (r.fields.map Prod.fst).count name := by
        rw [List.count, List.countP_map, List.countP_eq_length_filter]
        rfl
    _ = (r.kept.map Prod.fst).count name + 0 := by
        rw [((r.fields_perm h).map _).count_eq, List.map_append, List.count_append, others]
    _ ≤ 1 := kept

theorem lookup_eq_some_iff (h : s.Faithful) (r : Rearrangement s x) {name : String} {d : Document}
    (known : name ∈ s.names) : r.fields.lookup name = some d ↔ (name, d) ∈ r.kept := by
  rw [← r.mem_fields_iff h known]
  constructor
  · rw [List.lookup_eq_some_iff]
    rintro ⟨before, after, split, -⟩
    rw [split]
    exact List.mem_append_right _ List.mem_cons_self
  · exact lookup_eq_some_of_mem (r.once h known)

theorem holds (h : s.Faithful) (r : Rearrangement s x) : s.Holds x r.fields where
  once _ known := r.once h known
  found := by
    rintro ⟨name, d⟩ hm
    have known := h.known x _ hm
    rcases List.mem_append.1 (r.kept_dropped.mem_iff.1 hm) with kept | dropped
    · exact .inl ((r.lookup_eq_some_iff h known).2 kept)
    · refine .inr ⟨?_, r.dropped_base _ dropped⟩
      rw [Option.eq_none_iff_forall_ne_some]
      intro d' found
      have kept := (r.lookup_eq_some_iff h known).1 found
      have distinct := r.distinct_names h
      rw [List.map_append, List.nodup_append] at distinct
      exact distinct.2.2 _ (List.mem_map_of_mem kept) _ (List.mem_map_of_mem dropped) rfl
  missing := by
    intro name known absent
    rw [Option.eq_none_iff_forall_ne_some]
    intro d found
    have kept := (r.lookup_eq_some_iff h known).1 found
    exact absent (List.mem_map_of_mem (r.named_of_kept kept))

end Rearrangement

/-- Nothing moved, nothing added and nothing left out. -/
def Rearrangement.same (s : Schema α) (x : α) : Rearrangement s x where
  kept := (s.document x).named
  dropped := []
  unknown := []
  members := (s.document x).named.map fun m => (m.1, Json.text m.2)
  kept_dropped := by simp
  dropped_base := by simp
  unknown_names := by simp
  unknown_values := by simp
  kept_unknown := by simp

theorem Faithful.read?_text (h : s.Faithful) (r : Rearrangement s x) :
    s.read? r.text = some x := by
  rw [read?, r.read?_text h, Option.bind_some, h.reads x r.fields (r.holds h)]

theorem Faithful.roundTrips (h : s.Faithful) : s.RoundTrips := by
  intro x
  have same : Json.text (s.document x) = (Rearrangement.same s x).text := by
    rw [h.object x, Json.text_ofMembers]
    rfl
  exact ⟨same ▸ h.read?_text _, h.read?_text⟩

end Schema

end Telemetry
