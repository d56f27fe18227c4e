import ScalaFacade.Proofs.Json.Direct
import ScalaFacade.Proofs.Json.Printing

/-! # The grammar of JSON texts

`Spells part n s` says that the characters `s` form a part of a JSON text in which arrays and
objects are nested `n` deep. It is written after the standard and not after the reader: a string is
a sequence of characters and escapes, a number is made of a whole part, a fraction and an exponent,
and white space may stand around values, commas and colons.

The grammar is about **form alone**. A number may be out of range and an escape may name half of a
character, and the text is still well formed; what such a text means is another matter, and may be
nothing.

What is read from a part does not depend on what surrounds it: reading stops at its end, and finds
the same value or fails in the same way wherever the part stands. For scalars this is shown here
(`ScalarText.means`), part by part along the grammar; for values it follows in the module about
contexts.

## Delimiters

A number does not show its end: `12` in front of `3` is another number. So everything about numbers
is said in front of a delimiter, which is nothing, white space, a comma or a closing bracket
(`Delimited`). In a well-formed text a value is never followed by anything else. Strings, arrays and
objects do show their end and need no such hypothesis.
-/

set_option autoImplicit false

namespace ScalaFacade.Json

/-! ## The grammar

Each relation is one production. Numbers and strings have relations of their own, because a string
also occurs as a key and the parts of a number are read by functions of their own. -/

/-- White space, or nothing. -/
def IsGap (s : List Char) : Prop := s.all isSpace = true

/-- At least one digit. -/
def IsDigits (s : List Char) : Prop := s ≠ [] ∧ s.all Char.isDigit = true

/-- The whole part of a number: a zero that stands alone, or digits that do not start with one. -/
inductive WholePart : List Char → Prop where
  | zero : WholePart ['0']
  | digits {c : Char} {s : List Char} (digit : c.isDigit = true) (leading : c ≠ '0')
      (others : s.all Char.isDigit = true) : WholePart (c :: s)

/-- A decimal point and digits, or nothing. -/
inductive FractionPart : List Char → Prop where
  | none : FractionPart []
  | digits {s : List Char} (digits : IsDigits s) : FractionPart ('.' :: s)

/-- The mark of an exponent, a sign if there is one, and digits; or nothing. -/
inductive ExponentPart : List Char → Prop where
  | none : ExponentPart []
  | digits {mark : Char} {sign s : List Char} (marked : isExponentMark mark = true)
      (signed : sign ∈ [[], ['+'], ['-']]) (digits : IsDigits s) :
      ExponentPart (mark :: (sign ++ s))

/-- What may stand between the quotes of a string. An escape by number may be half of a character
here, with or without the other half. -/
inductive StringInside : List Char → Prop where
  | done : StringInside []
  | plain {c : Char} {s : List Char} (quote : c ≠ '"') (backslash : c ≠ '\\')
      (control : ¬c.toNat < 0x20) (others : StringInside s) : StringInside (c :: s)
  | escape {c escaped : Char} {s : List Char} (letter : simpleEscape? c = some escaped)
      (others : StringInside s) : StringInside ('\\' :: c :: s)
  | unicode {h₁ h₂ h₃ h₄ : Char} {n : Nat} {s : List Char} (quad : hexQuad? h₁ h₂ h₃ h₄ = some n)
      (others : StringInside s) : StringInside ('\\' :: 'u' :: h₁ :: h₂ :: h₃ :: h₄ :: s)

/-- The texts of scalars. -/
inductive ScalarText : List Char → Prop where
  | word {s : List Char}
      (listed : s ∈ [['n', 'u', 'l', 'l'], ['t', 'r', 'u', 'e'], ['f', 'a', 'l', 's', 'e']]) :
      ScalarText s
  | string {s : List Char} (inside : StringInside s) : ScalarText ('"' :: (s ++ ['"']))
  | number {sign whole fraction exponent : List Char} (signed : sign ∈ [[], ['-']])
      (first : WholePart whole) (second : FractionPart fraction) (third : ExponentPart exponent) :
      ScalarText (sign ++ (whole ++ (fraction ++ exponent)))

/-- What a value is by its first character. -/
inductive Kind where
  | scalar
  | array
  | object
  deriving DecidableEq

/-- The parts of a text. A value stands alone, an element with the white space around it. The kind
is part of the name, so that the first character of a value is known without looking into it. -/
inductive Part where
  | value (kind : Kind)
  | element (kind : Kind)
  | elements
  | member
  | members

/-- The well-formed parts of JSON texts, with the depth to which arrays and objects are nested. -/
inductive Spells : Part → Nat → List Char → Prop where
  | scalar {s : List Char} (text : ScalarText s) : Spells (.value .scalar) 0 s
  | emptyArray {gap : List Char} (blank : IsGap gap) :
      Spells (.value .array) 1 ('[' :: (gap ++ [']']))
  | array {n : Nat} {s : List Char} (inside : Spells .elements n s) :
      Spells (.value .array) (n + 1) ('[' :: (s ++ [']']))
  | emptyObject {gap : List Char} (blank : IsGap gap) :
      Spells (.value .object) 1 ('{' :: (gap ++ ['}']))
  | object {n : Nat} {s : List Char} (inside : Spells .members n s) :
      Spells (.value .object) (n + 1) ('{' :: (s ++ ['}']))
  | element {kind : Kind} {n : Nat} {before s after : List Char} (gap : IsGap before)
      (value : Spells (.value kind) n s) (gap' : IsGap after) :
      Spells (.element kind) n (before ++ (s ++ after))
  | lastElement {kind : Kind} {n : Nat} {s : List Char} (element : Spells (.element kind) n s) :
      Spells .elements n s
  | moreElements {kind : Kind} {n m : Nat} {s others : List Char}
      (element : Spells (.element kind) n s) (more : Spells .elements m others) :
      Spells .elements (max n m) (s ++ ',' :: others)
  | member {kind : Kind} {n : Nat} {before key after s : List Char} (gap : IsGap before)
      (inside : StringInside key) (gap' : IsGap after) (element : Spells (.element kind) n s) :
      Spells .member n (before ++ '"' :: (key ++ '"' :: (after ++ ':' :: s)))
  | lastMember {n : Nat} {s : List Char} (member : Spells .member n s) : Spells .members n s
  | moreMembers {n m : Nat} {s others : List Char} (member : Spells .member n s)
      (more : Spells .members m others) : Spells .members (max n m) (s ++ ',' :: others)

/-! ## White space and delimiters

What follows a value ends it. -/

theorem skipSpace_gap {gap : List Char} (blank : IsGap gap) (s : List Char) :
    skipSpace (gap ++ s) = skipSpace s :=
  List.dropWhile_append_of_pos (List.all_eq_true.1 blank)

/-- What may follow a value: nothing, white space or a mark of the container around it. -/
def Delimited : List Char → Prop
  | [] => True
  | c :: _ => isSpace c = true ∨ c = ',' ∨ c = ']' ∨ c = '}'

theorem Delimited.gap {gap tail : List Char} (blank : IsGap gap) (h : Delimited tail) :
    Delimited (gap ++ tail) := by
  cases gap with
  | nil => exact h
  | cons c gap => exact .inl (List.all_eq_true.1 blank c List.mem_cons_self)

/-- No number goes on with a delimiter. -/
theorem Delimited.stops {c : Char} {tail : List Char} (h : Delimited (c :: tail)) :
    c.isDigit = false ∧ c ≠ '.' ∧ isExponentMark c = false := by
  simp only [Delimited, isSpace, Bool.or_eq_true, beq_iff_eq] at h
  obtain (((rfl | rfl) | rfl) | rfl) | rfl | rfl | rfl := h <;> decide

theorem Delimited.takeDigits {tail : List Char} (h : Delimited tail) :
    tail.takeWhile Char.isDigit = [] := by
  cases tail with
  | nil => rfl
  | cons c tail => rw [List.takeWhile_cons_of_neg (by simp [h.stops])]

/-- Digits in front of anything that does not start with one are taken whole. The code splits them
off with `takeWhile` and `dropWhile`, and this is what it finds. -/
theorem takeDigits_append {s rest : List Char} (digits : s.all Char.isDigit = true)
    (stop : rest.takeWhile Char.isDigit = []) :
    (s ++ rest).takeWhile Char.isDigit = s ∧ (s ++ rest).dropWhile Char.isDigit = rest := by
  have all := List.all_eq_true.1 digits
  have whole := rest.takeWhile_append_dropWhile (p := Char.isDigit)
  rw [stop, List.nil_append] at whole
  rw [List.takeWhile_append_of_pos all, List.dropWhile_append_of_pos all, stop, whole,
    List.append_nil]
  exact ⟨rfl, rfl⟩

/-! ## Numbers

Each function that reads a part of a number takes exactly that part. The meaning is existentially
quantified: which number it is does not matter, only that it is the same in front of any delimiter.
That also covers a number out of range, whose meaning is `none` everywhere. -/

/-- `read` takes exactly `s` from a text, whatever follows, and makes `meaning` of it. -/
def Takes {α : Type} (read : List Char → Outcome α) (s : List Char) (meaning : Option α) : Prop :=
  ∀ tail, Delimited tail → (read (s ++ tail)).toOption = leaving tail meaning

theorem takes_floatNumber (negative : Bool) (significand : Nat) (exponent : Int) :
    ∃ meaning, Takes (floatNumber negative significand exponent) [] meaning := by
  refine ⟨(scale significand exponent).map fun x => .float (if negative then -x else x), ?_⟩
  intro tail _
  rw [List.nil_append, floatNumber]
  cases scale significand exponent <;> rfl

/-- The digits of an exponent. Beyond the limit the reader decides at once and drops the remaining
digits, so the cases are: still counting, too large, and too small to matter. -/
theorem takes_readExponentDigits (negative down : Bool) (significand : Nat) (start : Int)
    {s : List Char} (digits : s.all Char.isDigit = true) (reached : Nat) :
    ∃ meaning, Takes (readExponentDigits negative down significand start reached) s meaning := by
  induction s generalizing reached with
  | nil =>
    obtain ⟨meaning, float⟩ := takes_floatNumber negative significand
      (if down then start - reached else start + reached)
    refine ⟨meaning, fun tail delimited => (congrArg _ ?_).trans (float tail delimited)⟩
    cases tail with
    | nil => rfl
    | cons c tail => simp [readExponentDigits, delimited.stops]
  | cons c s ih =>
    obtain ⟨digit, digits⟩ : c.isDigit = true ∧ s.all Char.isDigit = true := by simpa using digits
    by_cases room : reached * 10 + digitValue c ≤ exponentLimit
    · obtain ⟨meaning, others⟩ := ih digits (reached * 10 + digitValue c)
      refine ⟨meaning, fun tail delimited => ?_⟩
      rw [← others tail delimited, List.cons_append, readExponentDigits, if_pos digit, if_pos room]
    · by_cases large : significand ≠ 0 ∧ !down
      · refine ⟨none, fun tail _ => ?_⟩
        rw [List.cons_append, readExponentDigits, if_pos digit, if_neg room, if_pos large]
        rfl
      · refine ⟨some (.float (if negative then -0.0 else 0.0)), fun tail delimited => ?_⟩
        rw [List.cons_append, readExponentDigits, if_pos digit, if_neg room, if_neg large,
          (takeDigits_append digits delimited.takeDigits).2]
        rfl

/-- A sign, if there is one, is taken first. Which it is decides about the direction, and the digits
behind it are read in the same way. -/
theorem takes_readExponent (negative : Bool) (significand : Nat) (start : Int) {sign s : List Char}
    (signed : sign ∈ [[], ['+'], ['-']]) (digits : IsDigits s) :
    ∃ meaning, Takes (readExponent negative significand start) (sign ++ s) meaning := by
  obtain ⟨some, all⟩ := digits
  obtain ⟨c, s, rfl⟩ := List.exists_cons_of_ne_nil some
  obtain ⟨digit, -⟩ : c.isDigit = true ∧ s.all Char.isDigit = true := by simpa using all
  obtain ⟨meaning, takes⟩ :=
    takes_readExponentDigits negative (sign == ['-']) significand start all 0
  refine ⟨meaning, fun tail delimited => (congrArg _ ?_).trans (takes tail delimited)⟩
  have unsigned : c ≠ '+' ∧ c ≠ '-' := by
    constructor <;> (rintro rfl; cases digit)
  simp only [List.mem_cons, List.not_mem_nil, or_false] at signed
  obtain rfl | rfl | rfl := signed <;> simp [readExponent, digit, unsigned]

/-- An exponent, or its absence, ends the digits in front of it. -/
theorem ExponentPart.takeDigits {exponent tail : List Char} (h : ExponentPart exponent)
    (delimited : Delimited tail) : (exponent ++ tail).takeWhile Char.isDigit = [] := by
  cases h with
  | none => exact delimited.takeDigits
  | digits marked =>
    refine List.takeWhile_cons_of_neg ?_
    simp only [isExponentMark, Bool.or_eq_true, beq_iff_eq] at marked
    obtain rfl | rfl := marked <;> decide

/-- The digits of a fraction end at an exponent or at a delimiter, so that the reader, which takes
as many digits as it can, takes those of the grammar. -/
theorem takes_readFraction (negative : Bool) (significand leftOut : Nat) {s exponent : List Char}
    (digits : IsDigits s) (third : ExponentPart exponent) :
    ∃ meaning, Takes (readFraction negative significand leftOut) (s ++ exponent) meaning := by
  let kept := appendDigits significand s
  let scaled : Int := Int.ofNat leftOut - Int.ofNat (s.length - kept.2)
  have cut {tail : List Char} (delimited : Delimited tail) :=
    takeDigits_append digits.2 (third.takeDigits delimited)
  have filled : s.isEmpty = false := List.isEmpty_eq_false_iff.2 digits.1
  cases third with
  | none =>
    obtain ⟨meaning, takes⟩ := takes_floatNumber negative kept.1 scaled
    refine ⟨meaning, fun tail delimited => (congrArg _ ?_).trans (takes tail delimited)⟩
    obtain ⟨taken, left⟩ := cut delimited
    rw [List.append_assoc, readFraction, taken, left, filled]
    cases tail with
    | nil => rfl
    | cons c tail => simp [delimited.stops, kept, scaled]
  | digits marked signed digits =>
    obtain ⟨meaning, takes⟩ := takes_readExponent negative kept.1 scaled signed digits
    refine ⟨meaning, fun tail delimited => (congrArg _ ?_).trans (takes tail delimited)⟩
    obtain ⟨taken, left⟩ := cut delimited
    rw [List.append_assoc, readFraction, taken, left, filled]
    simp [marked, kept, scaled]

/-- What follows the whole part. Without a fraction and an exponent nothing is taken, and the
delimiter is what tells the reader so. -/
theorem takes_readAfterInteger (negative : Bool) (significand leftOut : Nat)
    {fraction exponent : List Char} (second : FractionPart fraction)
    (third : ExponentPart exponent) :
    ∃ meaning,
      Takes (readAfterInteger negative significand leftOut) (fraction ++ exponent) meaning := by
  cases second with
  | digits digits => exact takes_readFraction negative significand leftOut digits third
  | none =>
    cases third with
    | @digits mark _ _ marked signed digits =>
      obtain ⟨meaning, takes⟩ := takes_readExponent negative significand leftOut signed digits
      refine ⟨meaning, fun tail delimited => (congrArg _ ?_).trans (takes tail delimited)⟩
      have point : mark ≠ '.' := by
        rintro rfl
        cases marked
      simp [readAfterInteger, point, marked]
    | none =>
      by_cases kept : leftOut = 0
      · refine ⟨some (integerNumber negative significand), fun tail delimited => ?_⟩
        cases tail with
        | nil => simp [readAfterInteger, kept, Except.toOption]
        | cons c tail => simp [readAfterInteger, kept, delimited.stops, Except.toOption]
      · obtain ⟨meaning, takes⟩ := takes_floatNumber negative significand leftOut
        refine ⟨meaning, fun tail delimited => (congrArg _ ?_).trans (takes tail delimited)⟩
        cases tail with
        | nil => simp [readAfterInteger, kept]
        | cons c tail => simp [readAfterInteger, kept, delimited.stops]

/-- What follows the whole part of a number ends its digits. -/
theorem FractionPart.takeDigits {fraction exponent tail : List Char}
    (second : FractionPart fraction) (third : ExponentPart exponent) (delimited : Delimited tail) :
    (fraction ++ exponent ++ tail).takeWhile Char.isDigit = [] := by
  cases second with
  | none => exact third.takeDigits delimited
  | digits => rfl

/-- **A number is taken as a whole.** After a zero there must not be another digit, which the
grammar grants; otherwise all digits of the whole part are taken. -/
theorem takes_readNumber (negative : Bool) {whole fraction exponent : List Char}
    (first : WholePart whole) (second : FractionPart fraction) (third : ExponentPart exponent) :
    ∃ meaning, Takes (readNumber negative) (whole ++ (fraction ++ exponent)) meaning := by
  cases first with
  | zero =>
    obtain ⟨meaning, takes⟩ := takes_readAfterInteger negative 0 0 second third
    refine ⟨meaning, fun tail delimited => (congrArg _ ?_).trans (takes tail delimited)⟩
    have stop := second.takeDigits third delimited
    show readNumber negative ('0' :: (fraction ++ exponent ++ tail)) = _
    generalize fraction ++ exponent ++ tail = rest at stop
    cases rest with
    | nil => rfl
    | cons d rest =>
      have digit : ¬d.isDigit = true := by
        intro digit
        rw [List.takeWhile_cons_of_pos digit] at stop
        cases stop
      simp [readNumber, digit]
  | @digits c s digit leading others =>
    have all : (c :: s).all Char.isDigit = true := by simp [digit, others]
    obtain ⟨meaning, takes⟩ := takes_readAfterInteger negative (appendDigits 0 (c :: s)).1
      (appendDigits 0 (c :: s)).2 second third
    refine ⟨meaning, fun tail delimited => (congrArg _ ?_).trans (takes tail delimited)⟩
    obtain ⟨taken, left⟩ := takeDigits_append all (second.takeDigits third delimited)
    rw [List.append_assoc]
    rw [List.cons_append] at taken left ⊢
    simp only [readNumber, leading, digit, ↓reduceIte, taken, left]

/-! ## Strings

The inside of a string is read with an accumulator. The lemmas with `quad` are the cases of
an escape by number: a character of its own, a second half that stands alone, a first half without
its second, and both halves together. -/

theorem readString_plain {c : Char} (quote : c ≠ '"') (backslash : c ≠ '\\')
    (control : ¬c.toNat < 0x20) (taken s : List Char) :
    readString taken (c :: s) = readString (c :: taken) s := by
  rw [readString.eq_def]
  simp [quote, backslash, control]

section

variable {h₁ h₂ h₃ h₄ : Char} {n : Nat} (quad : hexQuad? h₁ h₂ h₃ h₄ = some n)
include quad

theorem readString_unicode (single : isTrailing n = false ∧ isLeading n = false)
    (taken s : List Char) :
    readString taken ('\\' :: 'u' :: h₁ :: h₂ :: h₃ :: h₄ :: s) =
      readString (Char.ofNat n :: taken) s := by
  rw [readString.eq_def]
  simp [quad, single]

theorem readString_trailing (trailing : isTrailing n = true) (taken s : List Char) :
    (readString taken ('\\' :: 'u' :: h₁ :: h₂ :: h₃ :: h₄ :: s)).toOption = none := by
  rw [readString.eq_def]
  simp [quad, trailing, Except.toOption]

variable (half : isTrailing n = false ∧ isLeading n = true)
include half

/-- The second half of a character has to follow the first. -/
theorem readString_unfinished {s : List Char} (other : ∀ t, s ≠ '\\' :: 'u' :: t)
    (taken : List Char) :
    (readString taken ('\\' :: 'u' :: h₁ :: h₂ :: h₃ :: h₄ :: s)).toOption = none := by
  rw [readString.eq_def]
  simp only [quad, half, ↓reduceIte]
  obtain _ | ⟨b, s⟩ := s
  · rfl
  · by_cases backslash : b = '\\'
    · obtain _ | ⟨u, s⟩ := s <;> simp_all [Except.toOption]
    · simp [backslash, Except.toOption]

variable {l₁ l₂ l₃ l₄ : Char} {m : Nat} (second : hexQuad? l₁ l₂ l₃ l₄ = some m)
include second

theorem readString_leading (trailing : isTrailing m = false) (taken s : List Char) :
    (readString taken ('\\' :: 'u' :: h₁ :: h₂ :: h₃ :: h₄ ::
      '\\' :: 'u' :: l₁ :: l₂ :: l₃ :: l₄ :: s)).toOption = none := by
  rw [readString.eq_def]
  simp [quad, second, half, trailing, Except.toOption]

theorem readString_halves (trailing : isTrailing m = true) (taken s : List Char) :
    readString taken ('\\' :: 'u' :: h₁ :: h₂ :: h₃ :: h₄ ::
        '\\' :: 'u' :: l₁ :: l₂ :: l₃ :: l₄ :: s) =
      readString (Char.ofNat ((n - 0xD800) * 0x400 + (m - 0xDC00) + 0x10000) :: taken) s := by
  rw [readString.eq_def]
  simp [quad, second, half, trailing]

end

/-- What is read from the inside of a string does not depend on what follows the string, nor on what
has been taken before it. -/
def InsideMeans (s : List Char) (meaning : Option (List Char)) : Prop :=
  ∀ taken tail, (readString taken (s ++ '"' :: tail)).toOption =
    leaving tail (meaning.map fun read => .ofList (taken.reverse ++ read))

theorem InsideMeans.onward {c : Char} {s t : List Char} {meaning : Option (List Char)}
    (h : InsideMeans t meaning) (same : ∀ taken tail, readString taken (s ++ '"' :: tail) =
      readString (c :: taken) (t ++ '"' :: tail)) : InsideMeans s (meaning.map (c :: ·)) := by
  intro taken tail
  rw [same, h]
  cases meaning <;> simp

theorem letter_of_simpleEscape? {c escaped : Char} (h : simpleEscape? c = some escaped) :
    c ≠ 'u' := by
  rintro rfl
  cases h

/-- **The inside of a string is read in the same way wherever it stands.** An escape that is half of
a character is a fault unless the other half follows at once, which can be seen from the inside
alone. -/
theorem StringInside.means {s : List Char} (h : StringInside s) :
    ∃ meaning, InsideMeans s meaning := by
  -- The two halves of a character are read in one step, so this is an induction on the length.
  induction size : s.length using Nat.strongRecOn generalizing s with
  | ind size ih =>
    subst size
    have shorter {t : List Char} (h : StringInside t) (lt : t.length < s.length) :
        ∃ meaning, InsideMeans t meaning := ih t.length lt h rfl
    cases h with
    | done =>
      refine ⟨some [], fun taken tail => ?_⟩
      rw [List.nil_append, readString.eq_def]
      simp [Except.toOption]
    | plain quote backslash control others =>
      obtain ⟨_, means⟩ := shorter others (Nat.lt_succ_self _)
      exact ⟨_, means.onward fun _ _ => readString_plain quote backslash control _ _⟩
    | escape letter others =>
      obtain ⟨_, means⟩ := shorter others (by simp only [List.length_cons]; omega)
      have other := letter_of_simpleEscape? letter
      exact ⟨_, means.onward fun _ _ => readString_short letter other _ _⟩
    | @unicode _ _ _ _ n t quad others =>
      cases trailing : isTrailing n with
      | true => exact ⟨none, fun _ _ => readString_trailing quad trailing _ _⟩
      | false =>
        cases leading : isLeading n with
        | false =>
          obtain ⟨_, means⟩ := shorter others (by simp only [List.length_cons]; omega)
          exact ⟨_, means.onward fun _ _ => readString_unicode quad ⟨trailing, leading⟩ _ _⟩
        | true =>
          have half := And.intro trailing leading
          -- A first half. Only another escape by number can be its second half, and only if it is
          -- one.
          cases others with
          | done => exact ⟨none, fun _ _ => readString_unfinished quad half (by simp) _⟩
          | plain quote backslash =>
            exact ⟨none, fun _ _ => readString_unfinished quad half (by simp [backslash]) _⟩
          | escape letter =>
            have other := letter_of_simpleEscape? letter
            exact ⟨none, fun _ _ => readString_unfinished quad half (by simp [other]) _⟩
          | @unicode _ _ _ _ m t second others =>
            cases trailing : isTrailing m with
            | true =>
              obtain ⟨_, means⟩ := shorter others (by simp only [List.length_cons]; omega)
              exact ⟨_, means.onward fun _ _ => readString_halves quad half second trailing _ _⟩
            | false => exact ⟨none, fun _ _ => readString_leading quad half second trailing _ _⟩

/-- Characters that stand for themselves in a string. Keys of documents are made of such characters,
so their spelling need not be guessed. -/
def plainLetters (s : List Char) : Bool :=
  s.all fun c => c ≠ '"' && c ≠ '\\' && 0x20 ≤ c.toNat

theorem stringInside_of_plainLetters {s : List Char} (h : plainLetters s = true) :
    StringInside s ∧ InsideMeans s (some s) := by
  induction s with
  | nil =>
    refine ⟨.done, fun taken tail => ?_⟩
    rw [List.nil_append, readString.eq_def]
    simp [Except.toOption]
  | cons c s ih =>
    obtain ⟨⟨⟨quote, backslash⟩, control⟩, others⟩ :
        ((c ≠ '"' ∧ c ≠ '\\') ∧ 0x20 ≤ c.toNat) ∧ plainLetters s = true := by
      simpa [plainLetters] using h
    obtain ⟨inside, means⟩ := ih others
    have letter := Nat.not_lt.2 control
    exact ⟨.plain quote backslash letter inside,
      means.onward fun _ _ => readString_plain quote backslash letter _ _⟩

/-! ## Scalars

A scalar is recognised by its first character, which the grammar knows. -/

/-- How a value of each kind starts. -/
def Kind.Opens : Kind → Char → Prop
  | .scalar, c => c ∈ ['n', 't', 'f', '"', '-'] ∨ c.isDigit = true
  | .array, c => c = '['
  | .object, c => c = '{'

theorem WholePart.digit {s : List Char} (h : WholePart s) :
    ∃ c t, s = c :: t ∧ c.isDigit = true := by
  cases h with
  | zero => exact ⟨_, _, rfl, rfl⟩
  | digits digit => exact ⟨_, _, rfl, digit⟩

/-- The first character of a value says of which kind it is. Elements and members may start with
white space, so this is about values only. -/
theorem Spells.opens {kind : Kind} {n : Nat} {s : List Char} (h : Spells (.value kind) n s) :
    ∃ c t, s = c :: t ∧ kind.Opens c := by
  cases h with
  | scalar text =>
    cases text with
    | word listed =>
      simp only [List.mem_cons, List.not_mem_nil, or_false] at listed
      obtain rfl | rfl | rfl := listed <;> exact ⟨_, _, rfl, .inl (by decide)⟩
    | string => exact ⟨_, _, rfl, .inl (by decide)⟩
    | number signed first =>
      obtain ⟨c, t, rfl, digit⟩ := first.digit
      simp only [List.mem_cons, List.not_mem_nil, or_false] at signed
      obtain rfl | rfl := signed
      · exact ⟨_, _, rfl, .inr digit⟩
      · exact ⟨_, _, rfl, .inl (by decide)⟩
  | emptyArray | array | emptyObject | object => exact ⟨_, _, rfl, rfl⟩

/-- A value starts neither with white space nor with a closing bracket. -/
theorem Kind.Opens.plain {kind : Kind} {c : Char} (h : kind.Opens c) :
    isSpace c = false ∧ c ≠ ']' := by
  cases kind with
  | scalar =>
    obtain listed | digit := h
    · simp only [List.mem_cons, List.not_mem_nil, or_false] at listed
      obtain rfl | rfl | rfl | rfl | rfl := listed <;> decide
    · refine ⟨?_, by rintro rfl; cases digit⟩
      simp only [isSpace, Bool.or_eq_false_iff, beq_eq_false_iff_ne]
      refine ⟨⟨⟨?_, ?_⟩, ?_⟩, ?_⟩ <;> (rintro rfl; cases digit)
  | array =>
    subst h
    decide
  | object =>
    subst h
    decide

theorem readScalar?_digit {c : Char} (digit : c.isDigit = true) (s : List Char) :
    readScalar? (c :: s) = some ((readNumber false (c :: s)).map fun (n, s) => (.number n, s)) := by
  have letter (other : Char) (h : other.isDigit = false) : c ≠ other := by
    rintro rfl
    rw [h] at digit
    cases digit
  simp only [readScalar?, letter 'n' rfl, letter 't' rfl, letter 'f' rfl, letter '"' rfl,
    letter '-' rfl, digit, ↓reduceIte]

/-- **A scalar is read as the same value wherever it stands**, as long as a delimiter follows. The
outcome is given too, and not only its meaning: that a scalar is tried at all is a decision of the
reader. -/
theorem ScalarText.means {s : List Char} (h : ScalarText s) :
    ∃ meaning, ∀ tail, Delimited tail → ∃ outcome : Outcome Value,
      readScalar? (s ++ tail) = some outcome ∧ outcome.toOption = leaving tail meaning := by
  cases h with
  | word listed =>
    simp only [List.mem_cons, List.not_mem_nil, or_false] at listed
    obtain rfl | rfl | rfl := listed
    · exact ⟨some .null, fun _ _ => ⟨_, rfl, rfl⟩⟩
    · exact ⟨some (.boolean true), fun _ _ => ⟨_, rfl, rfl⟩⟩
    · exact ⟨some (.boolean false), fun _ _ => ⟨_, rfl, rfl⟩⟩
  | string inside =>
    obtain ⟨meaning, means⟩ := inside.means
    refine ⟨meaning.map fun read => .string (.ofList read), fun tail _ => ⟨_, rfl, ?_⟩⟩
    have read := means [] tail
    rw [← List.singleton_append, ← List.append_assoc] at read
    rw [toOption_map]
    refine (congrArg _ read).trans ?_
    cases meaning <;> rfl
  | number signed first second third =>
    simp only [List.mem_cons, List.not_mem_nil, or_false] at signed
    obtain rfl | rfl := signed
    · obtain ⟨meaning, takes⟩ := takes_readNumber false first second third
      refine ⟨meaning.map .number, fun tail delimited => ?_⟩
      have read := takes tail delimited
      obtain ⟨c, t, rfl, digit⟩ := first.digit
      refine ⟨_, readScalar?_digit digit _, ?_⟩
      rw [toOption_map, leaving_map]
      exact congrArg _ read
    · obtain ⟨meaning, takes⟩ := takes_readNumber true first second third
      refine ⟨meaning.map .number, fun tail delimited => ⟨_, rfl, ?_⟩⟩
      rw [toOption_map, leaving_map, ← takes tail delimited]
      rfl

end ScalaFacade.Json
