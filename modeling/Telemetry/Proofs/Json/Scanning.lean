import Mathlib.Data.List.TakeDrop
import Telemetry.Json

/-!
# Parts are read on their own

A part of a text is read in the same way whatever comes after it. Only a number that ends the part
has to be told from what follows: a digit, a point or the letter of an exponent would belong to it.

## Main definitions

* `Json.Stops`: a text that cannot continue a number.
-/

namespace Telemetry

theorem spanDigits_eq (cs : List Char) :
    spanDigits cs = (cs.takeWhile Char.isDigit, cs.dropWhile Char.isDigit) :=
  List.span_eq_takeWhile_dropWhile _ cs

namespace Json

variable {cs rest more : List Char}

/-- A text that cannot continue a number in front of it. -/
def Stops (cs : List Char) : Prop :=
  ∀ c ∈ cs.head?, c.isDigit = false ∧ c ≠ '.' ∧ c ≠ 'e' ∧ c ≠ 'E'

theorem spanDigits_append (stop : Stops more) (cs : List Char) :
    spanDigits (cs ++ more) = ((spanDigits cs).1, (spanDigits cs).2 ++ more) := by
  rw [spanDigits_eq, spanDigits_eq]
  induction cs with
  | nil =>
    cases more with
    | nil => rfl
    | cons c more => simp [(stop c rfl).1]
  | cons c cs ih =>
    cases digit : c.isDigit
    · simp [digit]
    · simpa [digit] using ih

theorem skip_append_of_cons {c : Char} (h : skip cs = c :: rest) :
    skip (cs ++ more) = c :: (rest ++ more) := by
  unfold skip at h ⊢
  induction cs with
  | nil => cases h
  | cons d cs ih => grind [List.dropWhile_cons]

theorem skip_append_of_nil (h : skip cs = []) : skip (cs ++ more) = skip more := by
  unfold skip at h ⊢
  induction cs with
  | nil => rfl
  | cons d cs ih => grind [List.dropWhile_cons]

/-! ## Texts -/

theorem isPlain_iff {c : Char} :
    Quotation.isPlain c = true ↔ 0x20 ≤ c.toNat ∧ c ≠ '\x22' ∧ c ≠ '\\' := by
  have quote : c = '\x22' ↔ c.toNat = 0x22 := Char.toNat_inj.symm
  have slash : c = '\\' ↔ c.toNat = 0x5c := Char.toNat_inj.symm
  simp [Quotation.isPlain, quote, slash, and_assoc]

theorem readUnits?_letter {c : Char} (hc : c ≠ 'u') (rest : List Char) :
    readUnits? ('\\' :: c :: rest) = (do
      let unit ← unescape? c
      let (units, _, rest) ← readUnits? rest
      return (unit :: units, false, rest)) := by
  rw [readUnits?]
  rintro _ _ _ _ _ rfl
  contradiction

theorem readUnits?_plain {c : Char} (hc : Quotation.isPlain c = true) (rest : List Char) :
    readUnits? (c :: rest) = (do
      let (units, plain, rest) ← readUnits? rest
      return (c.toNat :: units, plain, rest)) := by
  obtain ⟨visible, quote, slash⟩ := isPlain_iff.1 hc
  rw [readUnits?, if_neg (by simp [slash, visible])]
  · exact quote
  · exact fun _ _ _ _ _ same _ => slash same
  · exact fun _ _ same _ => slash same

theorem readUnits?_append {units : List Nat} {plain : Bool}
    (h : readUnits? cs = some (units, plain, rest)) :
    readUnits? (cs ++ more) = some (units, plain, rest ++ more) := by
  fun_induction readUnits? cs generalizing units plain rest with
  | case1 => cases h
  | case2 =>
    cases h
    rfl
  | case3 a b c d rest ih =>
    simp only [Option.bind_eq_bind, Option.bind_eq_some_iff, Prod.exists] at h
    obtain ⟨a', ha, b', hb, c', hc, d', hd, units, plain, rest, tail, result⟩ := h
    simpa [readUnits?, ha, hb, hc, hd, ih tail] using result
  | case4 c rest short ih =>
    -- An escape by number that is cut short has no letter that stands for anything.
    have hc : c ≠ 'u' := by
      rintro rfl
      simp [unescape?] at h
    simp only [Option.bind_eq_bind, Option.bind_eq_some_iff, Prod.exists] at h
    obtain ⟨unit, hunit, units, plain, rest, tail, result⟩ := h
    simpa [readUnits?_letter hc, hunit, ih tail] using result
  | case5 => cases h
  | case6 c rest quote _ _ good ih =>
    have hc : Quotation.isPlain c = true := by
      rw [isPlain_iff]
      grind
    simp only [Option.bind_eq_bind, Option.bind_eq_some_iff, Prod.exists] at h
    obtain ⟨units, plain, rest, tail, result⟩ := h
    simpa [readUnits?_plain hc, ih tail] using result

theorem readQuotation?_append {q : Quotation} (h : readQuotation? cs = some (q, rest)) :
    readQuotation? (cs ++ more) = some (q, rest ++ more) := by
  simp only [readQuotation?, Option.map_eq_some_iff, Prod.exists, Prod.mk.injEq] at h ⊢
  obtain ⟨units, plain, rest, read, rfl, rfl⟩ := h
  exact ⟨units, plain, _, readUnits?_append read, rfl, rfl⟩

/-! ## Numbers -/

theorem readFraction?_none (h : ∀ c ∈ cs.head?, c ≠ '.') :
    readFraction? cs = some (none, cs) := by
  rw [readFraction?]
  rintro digits rfl
  exact h '.' rfl rfl

theorem readFraction?_append {f : Option (List Char)} (stop : Stops more)
    (h : readFraction? cs = some (f, rest)) :
    readFraction? (cs ++ more) = some (f, rest ++ more) := by
  cases cs with
  | nil =>
    cases h
    exact readFraction?_none fun c hc => (stop c hc).2.1
  | cons c cs =>
    by_cases point : c = '.'
    · subst point
      simp_all [readFraction?, spanDigits_append stop]
    · rw [readFraction?_none (by simpa using point)] at h
      cases h
      exact readFraction?_none (by simpa using point)

theorem readSign_append (some_left : cs ≠ []) (more : List Char) :
    readSign (cs ++ more) = ((readSign cs).1, (readSign cs).2 ++ more) := by
  obtain ⟨c, cs, rfl⟩ := List.exists_cons_of_ne_nil some_left
  simp only [readSign, List.cons_append]
  grind

theorem readScale?_none (h : ∀ c ∈ cs.head?, c ≠ 'e' ∧ c ≠ 'E') :
    readScale? cs = some (none, cs) := by
  cases cs with
  | nil => rfl
  | cons c cs => simp [readScale?, h c rfl]

theorem readScale?_append {s : Option (Bool × List Char)} (stop : Stops more)
    (h : readScale? cs = some (s, rest)) :
    readScale? (cs ++ more) = some (s, rest ++ more) := by
  cases cs with
  | nil =>
    cases h
    exact readScale?_none fun c hc => (stop c hc).2.2
  | cons c cs =>
    by_cases letter : c = 'e' ∨ c = 'E'
    · have some_left : cs ≠ [] := by
        rintro rfl
        simp [readScale?, letter, readSign, spanDigits_eq] at h
      simp_all [readScale?, spanDigits_append stop, readSign_append]
    · rw [not_or] at letter
      rw [readScale?_none (by simpa using letter)] at h
      cases h
      exact readScale?_none (by simpa using letter)

/-- A number whose sign was read. -/
def readUnsigned? (negative : Bool) (cs : List Char) : Option (Document × List Char) := do
  let (whole, rest) := spanDigits cs
  if whole.isEmpty || (whole.head? == some '0' && 1 < whole.length) then none
  let (fraction, rest) ← readFraction? rest
  let (scale, rest) ← readScale? rest
  return (number negative whole fraction scale, rest)

theorem readNumber?_minus (cs : List Char) : readNumber? ('-' :: cs) = readUnsigned? true cs :=
  rfl

theorem readNumber?_unsigned (h : ∀ c ∈ cs.head?, c ≠ '-') :
    readNumber? cs = readUnsigned? false cs := by
  unfold readNumber?
  split
  next negative cs' sign =>
    split at sign
    · next rest => exact absurd rfl (h '-' rfl)
    · cases sign
      rfl

theorem readUnsigned?_append {negative : Bool} {d : Document} (stop : Stops more)
    (h : readUnsigned? negative cs = some (d, rest)) :
    readUnsigned? negative (cs ++ more) = some (d, rest ++ more) := by
  unfold readUnsigned? at h ⊢
  rw [spanDigits_append stop]
  dsimp only at h ⊢
  split at h
  · cases h
  · next fits =>
    rw [if_neg fits]
    simp only [Option.bind_eq_bind, Option.bind_eq_some_iff, Prod.exists] at h
    obtain ⟨fraction, _, hfraction, scale, _, hscale, result⟩ := h
    simpa [readFraction?_append stop hfraction, readScale?_append stop hscale] using result

theorem readNumber?_append {d : Document} (stop : Stops more)
    (h : readNumber? cs = some (d, rest)) :
    readNumber? (cs ++ more) = some (d, rest ++ more) := by
  cases cs with
  | nil => simp [readNumber?, spanDigits_eq] at h
  | cons c cs =>
    by_cases minus : c = '-'
    · subst minus
      exact readUnsigned?_append stop h
    · rw [readNumber?_unsigned (by simpa using minus)] at h ⊢
      exact readUnsigned?_append stop h

/-! ## Values -/

theorem readNumber?_head {d : Document} (h : readNumber? cs = some (d, rest)) :
    ∃ c tail, cs = c :: tail ∧ (c = '-' ∨ c.isDigit = true) := by
  cases cs with
  | nil => simp [readNumber?, spanDigits_eq] at h
  | cons c cs =>
    refine ⟨c, cs, rfl, or_iff_not_imp_left.2 fun unsigned => ?_⟩
    rw [readNumber?_unsigned (by simpa using unsigned)] at h
    cases digit : c.isDigit
    · simp [readUnsigned?, spanDigits_eq, digit] at h
    · rfl

theorem readValue?_number {fuel : Nat} {c : Char} (h : skip cs = c :: rest)
    (head : c = '-' ∨ c.isDigit = true) : readValue? (fuel + 1) cs = readNumber? (c :: rest) := by
  have other (l : Char) (letter : l ≠ '-' ∧ l.isDigit = false) : c ≠ l := by grind
  rw [readValue?, h]
  have := other 'n' (by decide)
  have := other 't' (by decide)
  have := other 'f' (by decide)
  have := other '\x22' (by decide)
  have := other '[' (by decide)
  have := other '\x7b' (by decide)
  grind

theorem readValue?_text {fuel : Nat} (h : skip cs = '\x22' :: rest) :
    readValue? (fuel + 1) cs = (readQuotation? rest).map fun r => (.text r.1, r.2) := by
  rw [readValue?, h]
  rfl

theorem readValue?_bracket {fuel : Nat} (h : skip cs = '[' :: rest) :
    readValue? (fuel + 1) cs = match skip rest with
      | ']' :: rest => some (.array [], rest)
      | rest => (readItems? fuel rest).map fun r => (.array r.1, r.2) := by
  rw [readValue?, h]
  rfl

theorem readValue?_array {fuel : Nat} {c : Char} {tail : List Char} (h : skip cs = '[' :: rest)
    (first : skip rest = c :: tail) (opened : c ≠ ']') :
    readValue? (fuel + 1) cs = (readItems? fuel (c :: tail)).map fun r => (.array r.1, r.2) := by
  rw [readValue?_bracket h, first]
  split
  · next same => exact absurd (List.cons.inj same).1 opened
  · rfl

theorem readValue?_brace {fuel : Nat} (h : skip cs = '\x7b' :: rest) :
    readValue? (fuel + 1) cs = match skip rest with
      | '\x7d' :: rest => some (.object [], rest)
      | rest => (readMembers? fuel rest).map fun r => (.object r.1, r.2) := by
  rw [readValue?, h]
  rfl

theorem readValue?_object {fuel : Nat} {c : Char} {tail : List Char} (h : skip cs = '\x7b' :: rest)
    (first : skip rest = c :: tail) (opened : c ≠ '\x7d') :
    readValue? (fuel + 1) cs = (readMembers? fuel (c :: tail)).map fun r => (.object r.1, r.2) := by
  rw [readValue?_brace h, first]
  split
  · next same => exact absurd (List.cons.inj same).1 opened
  · rfl

/-- What can be read of a text can be read of it with more fuel and in front of more text. -/
structure Local (fuel : Nat) : Prop where
  value : ∀ {cs rest more d fuel'}, fuel ≤ fuel' → Stops more →
    readValue? fuel cs = some (d, rest) → readValue? fuel' (cs ++ more) = some (d, rest ++ more)
  items : ∀ {cs rest more ds fuel'}, fuel ≤ fuel' → Stops more →
    readItems? fuel cs = some (ds, rest) → readItems? fuel' (cs ++ more) = some (ds, rest ++ more)
  members : ∀ {cs rest more ms fuel'}, fuel ≤ fuel' → Stops more →
    readMembers? fuel cs = some (ms, rest) →
      readMembers? fuel' (cs ++ more) = some (ms, rest ++ more)

theorem exists_cons_of_readItems? {fuel : Nat} {ds : List Document}
    (h : readItems? fuel cs = some (ds, rest)) : ∃ c tail, cs = c :: tail := by
  cases cs with
  | nil => rcases fuel with _ | _ | fuel <;> cases h
  | cons c tail => exact ⟨c, tail, rfl⟩

theorem exists_cons_of_readMembers? {fuel : Nat} {ms : List (Quotation × Document)}
    (h : readMembers? fuel cs = some (ms, rest)) : ∃ c tail, cs = c :: tail := by
  cases cs with
  | nil => cases fuel <;> cases h
  | cons c tail => exact ⟨c, tail, rfl⟩

theorem Local.value_succ {fuel fuel' : Nat} {d : Document} (ih : Local fuel) (le : fuel ≤ fuel')
    (stop : Stops more) (h : readValue? (fuel + 1) cs = some (d, rest)) :
    readValue? (fuel' + 1) (cs ++ more) = some (d, rest ++ more) := by
  rw [readValue?] at h
  split at h
  case h_1 word =>
    cases h
    rw [readValue?, skip_append_of_cons word]
    rfl
  case h_2 word =>
    cases h
    rw [readValue?, skip_append_of_cons word]
    rfl
  case h_3 word =>
    cases h
    rw [readValue?, skip_append_of_cons word]
    rfl
  case h_4 quote =>
    obtain ⟨⟨q, tail⟩, quotation, result⟩ := Option.map_eq_some_iff.1 h
    cases result
    rw [readValue?_text (skip_append_of_cons quote), readQuotation?_append quotation]
    rfl
  case h_5 bracket =>
    split at h
    · next closed =>
      cases h
      rw [readValue?_bracket (skip_append_of_cons bracket), skip_append_of_cons closed]
      rfl
    · next opened =>
      obtain ⟨⟨ds, tail⟩, items, result⟩ := Option.map_eq_some_iff.1 h
      cases result
      obtain ⟨c, after, first⟩ := exists_cons_of_readItems? items
      have further := ih.items le stop (first ▸ items)
      have differ : c ≠ ']' := by
        rintro rfl
        exact opened _ first
      rw [readValue?_array (skip_append_of_cons bracket) (skip_append_of_cons first) differ]
      rw [← List.cons_append, further]
      rfl
  case h_6 brace =>
    split at h
    · next closed =>
      cases h
      rw [readValue?_brace (skip_append_of_cons brace), skip_append_of_cons closed]
      rfl
    · next opened =>
      obtain ⟨⟨ms, tail⟩, members, result⟩ := Option.map_eq_some_iff.1 h
      cases result
      obtain ⟨c, after, first⟩ := exists_cons_of_readMembers? members
      have further := ih.members le stop (first ▸ members)
      have differ : c ≠ '\x7d' := by
        rintro rfl
        exact opened _ first
      rw [readValue?_object (skip_append_of_cons brace) (skip_append_of_cons first) differ]
      rw [← List.cons_append, further]
      rfl
  case h_7 =>
    obtain ⟨c, tail, start, head⟩ := readNumber?_head h
    rw [readValue?_number (skip_append_of_cons start) head, ← List.cons_append, ← start]
    exact readNumber?_append stop h

/-- Items are read one by one, each with a comma or the closing bracket after it. -/
theorem readItems?_eq_some_iff {fuel : Nat} {ds : List Document} :
    readItems? (fuel + 1) cs = some (ds, rest) ↔
      ∃ d tail, readValue? fuel cs = some (d, tail) ∧
        (skip tail = ']' :: rest ∧ ds = [d] ∨
          ∃ after others, skip tail = ',' :: after ∧
            readItems? fuel after = some (others, rest) ∧ ds = d :: others) := by
  rw [readItems?, Option.bind_eq_bind, Option.bind_eq_some_iff, Prod.exists]
  refine exists_congr fun d => exists_congr fun tail => and_congr_right fun _ => ?_
  dsimp only
  split
  · next closed => simp [closed, and_comm, eq_comm]
  · next comma =>
    simp only [comma, Option.bind_eq_bind, Option.bind_eq_some_iff]
    grind
  · grind

/-- Members are read one by one, each with a comma or the closing brace after it. -/
theorem readMembers?_eq_some_iff {fuel : Nat} {ms : List (Quotation × Document)} :
    readMembers? (fuel + 1) cs = some (ms, rest) ↔
      ∃ start name tail value d ending,
        skip cs = '\x22' :: start ∧ readQuotation? start = some (name, tail) ∧
        skip tail = ':' :: value ∧ readValue? fuel value = some (d, ending) ∧
        (skip ending = '\x7d' :: rest ∧ ms = [(name, d)] ∨
          ∃ after others, skip ending = ',' :: after ∧
            readMembers? fuel after = some (others, rest) ∧ ms = (name, d) :: others) := by
  rw [readMembers?]
  constructor
  · intro h
    split at h
    case h_2 => cases h
    case h_1 start quote =>
    obtain ⟨⟨name, tail⟩, quotation, h⟩ := Option.bind_eq_some_iff.1 h
    dsimp only at h
    split at h
    case h_2 => cases h
    case h_1 value colon =>
    obtain ⟨⟨d, ending⟩, first, h⟩ := Option.bind_eq_some_iff.1 h
    refine ⟨start, name, tail, value, d, ending, quote, quotation, colon, first, ?_⟩
    dsimp only at h
    split at h
    · next closed =>
      cases h
      exact .inl ⟨closed, rfl⟩
    · next after comma =>
      obtain ⟨⟨others, _⟩, members, result⟩ := Option.bind_eq_some_iff.1 h
      cases result
      exact .inr ⟨after, others, comma, members, rfl⟩
    · cases h
  · rintro ⟨start, name, tail, value, d, ending, quote, quotation, colon, first, next⟩
    rw [quote]
    dsimp only
    simp only [quotation, Option.bind_eq_bind, Option.bind_some]
    rw [colon]
    simp only [first, Option.bind_some]
    obtain ⟨closed, rfl⟩ | ⟨after, others, comma, members, rfl⟩ := next
    · rw [closed]
      rfl
    · rw [comma]
      simp [members]

theorem Local.items_succ {fuel fuel' : Nat} {ds : List Document} (ih : Local fuel)
    (le : fuel ≤ fuel') (stop : Stops more) (h : readItems? (fuel + 1) cs = some (ds, rest)) :
    readItems? (fuel' + 1) (cs ++ more) = some (ds, rest ++ more) := by
  rw [readItems?_eq_some_iff] at h ⊢
  obtain ⟨d, tail, first, ⟨closed, rfl⟩ | ⟨after, others, comma, items, rfl⟩⟩ := h
  · exact ⟨d, _, ih.value le stop first, .inl ⟨skip_append_of_cons closed, rfl⟩⟩
  · exact ⟨d, _, ih.value le stop first,
      .inr ⟨_, others, skip_append_of_cons comma, ih.items le stop items, rfl⟩⟩

theorem Local.members_succ {fuel fuel' : Nat} {ms : List (Quotation × Document)} (ih : Local fuel)
    (le : fuel ≤ fuel') (stop : Stops more) (h : readMembers? (fuel + 1) cs = some (ms, rest)) :
    readMembers? (fuel' + 1) (cs ++ more) = some (ms, rest ++ more) := by
  rw [readMembers?_eq_some_iff] at h ⊢
  obtain ⟨start, name, tail, value, d, ending, quote, quotation, colon, first, next⟩ := h
  refine ⟨_, name, _, _, d, _, skip_append_of_cons quote, readQuotation?_append quotation,
    skip_append_of_cons colon, ih.value le stop first, ?_⟩
  obtain ⟨closed, rfl⟩ | ⟨after, others, comma, members, rfl⟩ := next
  · exact .inl ⟨skip_append_of_cons closed, rfl⟩
  · exact .inr ⟨_, others, skip_append_of_cons comma, ih.members le stop members, rfl⟩

theorem readLocally (fuel : Nat) : Local fuel := by
  induction fuel with
  | zero =>
    constructor
    · intro _ _ _ _ _ _ _ h
      cases h
    · intro _ _ _ _ _ _ _ h
      cases h
    · intro _ _ _ _ _ _ _ h
      cases h
  | succ fuel ih =>
    constructor
    · rintro cs rest more d (_ | fuel') le stop h
      · omega
      · exact ih.value_succ (by omega) stop h
    · rintro cs rest more d (_ | fuel') le stop h
      · omega
      · exact ih.items_succ (by omega) stop h
    · rintro cs rest more d (_ | fuel') le stop h
      · omega
      · exact ih.members_succ (by omega) stop h

end Json

end Telemetry
