import Mathlib.Data.Bool.Basic
import Mathlib.Data.List.Forall2
import Telemetry.Proofs.Document.Integer
import Telemetry.Proofs.Json.Scanning

/-!
# What is written reads back

Texts, integers, arrays and objects read back from their JSON text. An object may hold values that
were written by someone else: whatever text each member has, the object reads as the object of
what these texts read as.

## Main definitions

* `Json.objectText`: the text of an object, given the texts of its values.
-/

namespace Telemetry.Json

variable {cs rest : List Char}

/-! ## Texts -/

theorem hexDigit?_digitChar : ∀ k < 16, hexDigit? (Nat.digitChar k) = some k := by
  decide

theorem readUnits?_of_unescape? {c letter : Char} (unit : unescape? letter = some c.toNat)
    (escaped : Quotation.isPlain c = false) (cs : List Char) :
    readUnits? ('\\' :: letter :: cs) =
      (readUnits? cs).map fun r => (c.toNat :: r.1, Quotation.isPlain c && r.2.1, r.2.2) := by
  have known : letter ≠ 'u' := by
    rintro rfl
    cases unit
  rw [readUnits?_letter known, unit, escaped]
  cases readUnits? cs <;> rfl

/-- A character reads back from its escaped form, and is known for one that was not escaped. -/
theorem readUnits?_escape (c : Char) (cs : List Char) :
    readUnits? (escape c ++ cs) =
      (readUnits? cs).map fun r => (c.toNat :: r.1, Quotation.isPlain c && r.2.1, r.2.2) := by
  have letter {k : Nat} {l : Char} (same : c.toNat = k) (unit : unescape? l = some k)
      (escaped : k < 0x20 ∨ k = 0x22 ∨ k = 0x5c) :=
    readUnits?_of_unescape? (c := c) (same ▸ unit)
      (by simp only [Quotation.isPlain, same]; grind) cs
  fun_cases escape c
  case case1 same => exact letter same rfl (by decide)
  case case2 same => exact letter same rfl (by decide)
  case case3 same => exact letter same rfl (by decide)
  case case4 same => exact letter same rfl (by decide)
  case case5 same => exact letter same rfl (by decide)
  case case6 same => exact letter same rfl (by decide)
  case case7 same => exact letter same rfl (by decide)
  case case8 =>
    have high := hexDigit?_digitChar (c.toNat / 16) (by omega)
    have low := hexDigit?_digitChar (c.toNat % 16) (by omega)
    have escaped : Quotation.isPlain c = false := by
      simp only [Quotation.isPlain]
      grind
    have zero : hexDigit? '0' = some 0 := rfl
    have unit : 16 * (c.toNat / 16) + c.toNat % 16 = c.toNat := Nat.div_add_mod ..
    cases h : readUnits? cs <;> simp [readUnits?, zero, high, low, unit, escaped, h]
  case case9 =>
    have plain : Quotation.isPlain c = true := by
      simp only [Quotation.isPlain]
      grind
    rw [List.singleton_append, readUnits?_plain plain, plain]
    cases readUnits? cs <;> rfl

theorem scalar?_toNat (c : Char) : scalar? c.toNat = some c := by
  have valid : c.toNat < 0xd800 ∨ 0xdfff < c.toNat ∧ c.toNat < 0x110000 := c.valid
  unfold scalar?
  rw [if_neg, Char.ofNat_toNat]
  simp only [isHighSurrogate, isLowSurrogate, Bool.or_eq_true, Bool.and_eq_true, decide_eq_true_eq]
  omega

/-- No character has the number of a surrogate. -/
theorem joinUnits?_toNat (cs : List Char) : joinUnits? (cs.map Char.toNat) = some cs := by
  induction cs with
  | nil => rfl
  | cons c cs ih =>
    cases cs with
    | nil => simp [joinUnits?, scalar?_toNat]
    | cons d cs =>
      have valid : c.toNat < 0xd800 ∨ 0xdfff < c.toNat ∧ c.toNat < 0x110000 := c.valid
      have alone : isHighSurrogate c.toNat = false := by
        simp only [isHighSurrogate]
        grind
      simp only [List.map_cons] at ih ⊢
      simp [joinUnits?, alone, scalar?_toNat, ih]

theorem readUnits?_flatMap_escape (cs rest : List Char) :
    readUnits? (cs.flatMap escape ++ '\x22' :: rest) =
      some (cs.map Char.toNat, cs.all Quotation.isPlain, rest) := by
  induction cs with
  | nil => rfl
  | cons c cs ih =>
    rw [List.flatMap_cons, List.append_assoc, readUnits?_escape, ih]
    rfl

theorem readQuotation?_escape (s : String) (rest : List Char) :
    readQuotation? (s.toList.flatMap escape ++ '\x22' :: rest) = some (.ofString s, rest) := by
  simp [readQuotation?, readUnits?_flatMap_escape, joinUnits?_toNat, Quotation.ofString]

/-! ## Values in their place -/

theorem readChars?_eq_some_iff {d : Document} :
    readChars? cs = some d ↔
      ∃ tail, readValue? (2 * cs.length + 2) cs = some (d, tail) ∧ skip tail = [] := by
  simp only [readChars?, Option.bind_eq_bind, Option.bind_eq_some_iff, Prod.exists]
  constructor
  · rintro ⟨d', tail, value, ended⟩
    split at ended
    · next blank =>
      cases ended
      exact ⟨tail, value, List.isEmpty_iff.1 blank⟩
    · cases ended
  · rintro ⟨tail, value, blank⟩
    exact ⟨d, tail, value, by rw [blank]; rfl⟩

theorem read?_text_eq_some_iff {d d' : Document} :
    read? (text d) = some d' ↔ readChars? (write d) = some d' := by
  rw [read?, text, String.toList_ofList]

/-- A text that reads as a value reads so in front of other text, blanks at its end included. -/
theorem exists_readValue? {d : Document} (h : readChars? cs = some d) {more : List Char}
    (stop : Stops more) {fuel : Nat} (le : 2 * cs.length + 2 ≤ fuel) :
    ∃ tail, readValue? fuel (cs ++ more) = some (d, tail) ∧ skip tail = skip more := by
  obtain ⟨tail, value, blank⟩ := readChars?_eq_some_iff.1 h
  exact ⟨_, (readLocally _).value le stop value, skip_append_of_nil blank⟩

theorem skip_cons {c : Char} (visible : isSpace c = false) : skip (c :: rest) = c :: rest := by
  rw [skip, List.dropWhile_cons_of_neg (by simp [visible])]

@[simp] theorem read?_ofString (s : String) : read? (text (.ofString s)) = some (.ofString s) := by
  rw [read?_text_eq_some_iff, readChars?_eq_some_iff]
  refine ⟨[], ?_, rfl⟩
  have start : write (.ofString s) = '\x22' :: (s.toList.flatMap escape ++ ['\x22']) := rfl
  rw [start, readValue?_text (skip_cons rfl), readQuotation?_escape]
  rfl

@[simp] theorem read?_boolean (b : Bool) : read? (text (.boolean b)) = some (.boolean b) := by
  cases b <;> rfl

/-! ## Integers -/

theorem spanDigits_of_all (digits : cs.all Char.isDigit = true) : spanDigits cs = (cs, []) := by
  rw [spanDigits_eq]
  induction cs with
  | nil => rfl
  | cons c cs ih => simp_all

theorem readUnsigned?_toDigits (negative : Bool) (n : Nat) :
    readUnsigned? negative (Nat.toDigits 10 n) =
      some (number negative (Nat.toDigits 10 n) none none, []) := by
  have leading : ((Nat.toDigits 10 n).isEmpty ||
      ((Nat.toDigits 10 n).head? == some '0' && 1 < (Nat.toDigits 10 n).length)) = false := by
    rcases Nat.eq_zero_or_pos n with rfl | pos
    · rfl
    · simp [head?_toDigits pos]
  rw [readUnsigned?, spanDigits_of_all (all_isDigit_toDigits n)]
  dsimp only
  rw [leading]
  rfl

theorem readNumber?_integerText (n : Int) :
    readNumber? (integerText n) = some (.integer n, []) := by
  by_cases neg : n < 0
  · rw [integerText_of_neg neg, readNumber?_minus, readUnsigned?_toDigits]
    have nonzero : n.natAbs ≠ 0 := by omega
    have value : -(n.natAbs : Int) = n := by omega
    simp only [number, digitsValue_toDigits, Bool.not_true, Bool.false_eq_true, if_false, nonzero,
      value]
  · have unsigned : ∀ c ∈ (Nat.toDigits 10 n.natAbs).head?, c ≠ '-' := by
      rintro c hc rfl
      have digit := List.all_eq_true.1 (all_isDigit_toDigits _) _ (List.mem_of_head? hc)
      cases digit
    rw [integerText_of_nonneg (by omega), readNumber?_unsigned unsigned, readUnsigned?_toDigits]
    have value : (n.natAbs : Int) = n := by omega
    simp only [number, digitsValue_toDigits, Bool.not_false, if_true, value]

theorem isSpace_of_number {c : Char} (head : c = '-' ∨ c.isDigit = true) : isSpace c = false := by
  rw [Bool.eq_false_iff]
  intro space
  simp only [isSpace, Bool.or_eq_true, beq_iff_eq] at space
  rcases space with ((rfl | rfl) | rfl) | rfl <;> revert head <;> decide

@[simp] theorem read?_integer (n : Int) : read? (text (.integer n)) = some (.integer n) := by
  rw [read?_text_eq_some_iff, readChars?_eq_some_iff]
  refine ⟨[], ?_, rfl⟩
  have number := readNumber?_integerText n
  obtain ⟨c, tail, start, head⟩ := readNumber?_head number
  rw [write, start, readValue?_number (skip_cons (isSpace_of_number head)) head, ← start]
  exact number

/-! ## Arrays -/

theorem skip_skip (cs : List Char) : skip (skip cs) = skip cs := by
  unfold skip
  induction cs with
  | nil => rfl
  | cons c cs ih => grind [List.dropWhile_cons]

theorem readItems?_skip (fuel : Nat) (cs : List Char) :
    readItems? fuel (skip cs) = readItems? fuel cs := by
  rcases fuel with _ | _ | fuel
  · rfl
  · rfl
  · rw [readItems?, readItems?, readValue?, readValue?, skip_skip]

/-- No value starts with the bracket that closes an array. -/
theorem readValue?_head {fuel : Nat} {d : Document} (h : readValue? fuel cs = some (d, rest)) :
    ∃ c tail, skip cs = c :: tail ∧ c ≠ ']' := by
  cases fuel with
  | zero => cases h
  | succ fuel =>
    rw [readValue?] at h
    split at h
    case h_7 =>
      obtain ⟨c, tail, start, head⟩ := readNumber?_head h
      refine ⟨c, tail, start, ?_⟩
      rintro rfl
      revert head
      decide
    all_goals exact ⟨_, _, ‹_›, by decide⟩

/-- What follows an item ends it. -/
theorem stops_writeItems (items : List Document) (rest : List Char) :
    Stops (writeItems items ++ rest) := by
  cases items <;> simp [writeItems, Stops]

theorem readItems?_write {item : Document} {items : List Document}
    (h : ∀ d ∈ item :: items, readChars? (write d) = some d) {fuel : Nat}
    (le : 2 * (write item ++ writeItems items).length + 1 ≤ fuel) (rest : List Char) :
    readItems? fuel (write item ++ (writeItems items ++ rest)) = some (item :: items, rest) := by
  rw [List.length_append] at le
  obtain ⟨fuel, rfl⟩ := Nat.exists_eq_add_one_of_ne_zero (n := fuel) (by omega)
  induction items generalizing item fuel with
  | nil =>
    have room : 2 * (write item).length + 2 ≤ fuel := by
      simp only [writeItems, List.length_singleton] at le
      omega
    obtain ⟨tail, value, skipped⟩ :=
      exists_readValue? (h item List.mem_cons_self) (stops_writeItems [] rest) room
    exact readItems?_eq_some_iff.2 ⟨item, tail, value, .inl ⟨skipped, rfl⟩⟩
  | cons next items ih =>
    have length : (writeItems (next :: items)).length =
        (write next).length + (writeItems items).length + 1 := by
      simp [writeItems]
    have room : 2 * (write item).length + 2 ≤ fuel := by omega
    obtain ⟨tail, value, skipped⟩ := exists_readValue? (h item List.mem_cons_self)
      (stops_writeItems (next :: items) rest) room
    obtain ⟨fuel, rfl⟩ := Nat.exists_eq_add_one_of_ne_zero (n := fuel) (by omega)
    have others := ih (fun d hd => h d (List.mem_cons_of_mem _ hd)) fuel (by omega)
    have comma : writeItems (next :: items) ++ rest =
        ',' :: (write next ++ (writeItems items ++ rest)) := by
      simp [writeItems]
    refine readItems?_eq_some_iff.2 ⟨item, tail, value, .inr ⟨_, _, ?_, others, rfl⟩⟩
    rw [skipped, comma]
    rfl

theorem read?_array {items : List Document} (h : ∀ d ∈ items, read? (text d) = some d) :
    read? (text (.array items)) = some (.array items) := by
  simp only [read?_text_eq_some_iff] at h ⊢
  cases items with
  | nil => rfl
  | cons item items =>
    have start : write (.array (item :: items)) =
        '[' :: (write item ++ (writeItems items ++ [])) := by
      simp [write]
    have length : (write (.array (item :: items))).length =
        (write item ++ writeItems items).length + 1 := by
      simp [write]
    have room : 2 * (write item ++ writeItems items).length + 1 ≤
        2 * (write (.array (item :: items))).length + 1 := by omega
    have parts := readItems?_write h room []
    obtain ⟨tail, value, -⟩ := readChars?_eq_some_iff.1 (h item List.mem_cons_self)
    obtain ⟨c, after, first, differ⟩ := readValue?_head value
    rw [readChars?_eq_some_iff]
    refine ⟨[], ?_, rfl⟩
    have shown : skip (write item ++ (writeItems items ++ [])) =
        c :: (after ++ (writeItems items ++ [])) := skip_append_of_cons first
    rw [← readItems?_skip, shown] at parts
    rw [start, readValue?_array (skip_cons rfl) shown differ, ← start, parts]
    rfl

@[simp] theorem read?_ofStrings (l : List String) :
    read? (text (.ofStrings l)) = some (.ofStrings l) := by
  apply read?_array
  simp

/-! ## Objects -/

/-- A name and the text of a value, with a colon between them. -/
def memberText (m : String × String) : List Char :=
  quoted m.1 ++ ':' :: m.2.toList

def membersText (ms : List (String × String)) : List Char :=
  [','].intercalate (ms.map memberText)

/-- The text of an object, given the names and the texts of the values of its members. -/
def objectText (ms : List (String × String)) : String :=
  String.ofList ('\x7b' :: membersText ms ++ ['\x7d'])

theorem membersText_singleton (m : String × String) : membersText [m] = memberText m := by
  simp [membersText, List.intercalate]

theorem membersText_cons_cons (m n : String × String) (ms : List (String × String))
    (rest : List Char) :
    membersText (m :: n :: ms) ++ rest =
      memberText m ++ ',' :: (membersText (n :: ms) ++ rest) := by
  simp [membersText, List.intercalate]

theorem write_members (m : String × Document) (ms : List (String × Document)) :
    quoted m.1 ++ ':' :: write m.2 ++ writeMembers (ms.map fun m => (.ofString m.1, m.2)) =
      membersText ((m :: ms).map fun m => (m.1, text m.2)) ++ ['\x7d'] := by
  induction ms generalizing m with
  | nil => simp [membersText_singleton, memberText, writeMembers, text]
  | cons n ms ih =>
    have others := ih n
    simp only [List.map_cons, List.append_assoc, List.cons_append] at others ⊢
    rw [membersText_cons_cons, ← others]
    simp [memberText, writeMembers, writeQuotation, Quotation.ofString, text]

theorem text_ofMembers (ms : List (String × Document)) :
    text (.ofMembers ms) = objectText (ms.map fun m => (m.1, text m.2)) := by
  cases ms with
  | nil => rfl
  | cons m ms =>
    rw [objectText, List.cons_append, ← write_members]
    rfl

theorem memberText_append (m : String × String) (more : List Char) :
    memberText m ++ more =
      '\x22' :: (m.1.toList.flatMap escape ++ '\x22' :: ':' :: (m.2.toList ++ more)) := by
  simp [memberText, quoted]

theorem readMembers?_memberText {m : String × String} {d : Document} {more : List Char}
    {fuel : Nat} {ms : List (Quotation × Document)} (value : read? m.2 = some d)
    (stop : Stops more) (room : 2 * m.2.toList.length + 2 ≤ fuel)
    (next : skip more = '\x7d' :: rest ∧ ms = [(.ofString m.1, d)] ∨
      ∃ after others, skip more = ',' :: after ∧ readMembers? fuel after = some (others, rest) ∧
        ms = (.ofString m.1, d) :: others) :
    readMembers? (fuel + 1) (memberText m ++ more) = some (ms, rest) := by
  obtain ⟨ending, read, skipped⟩ := exists_readValue? value stop room
  refine readMembers?_eq_some_iff.2 ⟨_, .ofString m.1, _, _, d, ending, ?_,
    readQuotation?_escape .., skip_cons rfl, read, skipped ▸ next⟩
  rw [memberText_append, skip_cons rfl]

theorem readMembers?_membersText {ms : List (String × String)} {ds : List (String × Document)}
    (h : ms.Forall₂ (fun m d => m.1 = d.1 ∧ read? m.2 = some d.2) ds) (some_left : ms ≠ [])
    {fuel : Nat} (le : 2 * (membersText ms).length + 1 ≤ fuel) (rest : List Char) :
    readMembers? fuel (membersText ms ++ '\x7d' :: rest) =
      some (ds.map fun d => (.ofString d.1, d.2), rest) := by
  induction h generalizing fuel with
  | nil => contradiction
  | @cons m d ms ds first others ih =>
    obtain ⟨name, value⟩ := first
    obtain ⟨fuel, rfl⟩ := Nat.exists_eq_add_one_of_ne_zero (n := fuel) (by omega)
    have length : m.2.toList.length + 3 ≤ (memberText m).length := by
      simp [memberText, quoted]
    cases others with
    | nil =>
      rw [membersText_singleton] at le ⊢
      refine readMembers?_memberText value (by simp [Stops]) (by omega) (.inl ⟨rfl, ?_⟩)
      rw [name]
      rfl
    | @cons n e ms ds second others =>
      have total := congrArg List.length (membersText_cons_cons m n ms [])
      simp only [List.append_nil, List.length_append, List.length_cons] at total
      rw [membersText_cons_cons]
      have room : 2 * (membersText (n :: ms)).length + 1 ≤ fuel := by omega
      have tail := ih (List.cons_ne_nil _ _) room
      refine readMembers?_memberText value (by simp [Stops]) (by omega)
        (.inr ⟨_, _, skip_cons rfl, tail, ?_⟩)
      rw [name]
      rfl

/-- The members of an object read as their texts do. -/
theorem read?_objectText {ms : List (String × String)} {ds : List (String × Document)}
    (h : ms.Forall₂ (fun m d => m.1 = d.1 ∧ read? m.2 = some d.2) ds) :
    read? (objectText ms) = some (.ofMembers ds) := by
  rw [read?, objectText, String.toList_ofList, readChars?_eq_some_iff]
  refine ⟨[], ?_, rfl⟩
  cases h with
  | nil => rfl
  | @cons m d ms ds first others =>
    have room : 2 * (membersText (m :: ms)).length + 1 ≤
        2 * ('\x7b' :: membersText (m :: ms) ++ ['\x7d']).length + 1 := by
      rw [List.length_append, List.length_cons]
      omega
    have parts := readMembers?_membersText (.cons first others) (List.cons_ne_nil _ _) room []
    obtain ⟨tail, start⟩ : ∃ tail, membersText (m :: ms) ++ ['\x7d'] = '\x22' :: tail := by
      cases ms with
      | nil => exact ⟨_, membersText_singleton m ▸ memberText_append m _⟩
      | cons n ms =>
        rw [membersText_cons_cons, memberText_append]
        exact ⟨_, rfl⟩
    have quote : skip (membersText (m :: ms) ++ ['\x7d']) = '\x22' :: tail :=
      start ▸ skip_cons rfl
    rw [List.cons_append, readValue?_object (skip_cons rfl) quote (by decide), ← start]
    exact Option.map_eq_some_iff.2 ⟨_, parts, rfl⟩

theorem read?_ofMembers {ms : List (String × Document)}
    (h : ∀ m ∈ ms, read? (text m.2) = some m.2) :
    read? (text (.ofMembers ms)) = some (.ofMembers ms) := by
  rw [text_ofMembers]
  refine read?_objectText (List.forall₂_map_left_iff.2 (List.forall₂_same.2 fun m hm => ?_))
  exact ⟨rfl, h m hm⟩

end Telemetry.Json
