import ScalaFacade.Json.Skip

/-! # How a value is read

A text is read by loops that carry a bound on their rounds, a list of what has been read so far and
a flag for the first round. None of these says anything about the text, and a proof about two
readings of one text would have to carry all of them twice. This module takes them away:

* `Elements` and `Entries` are relations for what stands between the brackets of an array or object.
  They have one constructor for the closing bracket and one for an element in front of it, and no
  bound. Everything that is read from the same text can be compared by induction along them.
* `reads_of_readValue`: a value that has been read is a scalar, an array of elements or an object of
  entries. This is the only place where a finished reading is taken apart; whoever knows that a
  value was read takes the three cases from there.
* `length_of_readValue`: less text is left than there was. It is what makes the bounds harmless,
  since a loop whose bound is the length of the text is never stopped by it.

Scalars come first, because the two ways to deal with them have to be brought together before
anything can be said of containers. A scalar that can be *read* can be *passed over*, and both leave
the same text (`skipScalar?_of_readScalar?`). The converse does not hold and is not wanted: a number
that is too large, or half of a character beyond the basic plane, is passed over but cannot be read.
So what is said about lengths is said of passing over, which does not depend on what the text stands
for, and holds of reading through that lemma.

Nothing here is about faults. All statements are about texts that are read without one; which fault
a text has is not a matter of how its values are spelled.
-/

set_option autoImplicit false

namespace ScalaFacade.Json

/-- A mapped result is a value only if the result is. With `bind_eq_ok` this is how every composed
reader is taken apart: what it read in its first part is named, and the rest goes on from there. -/
theorem map_eq_ok {α β ε : Type} {f : α → β} {result : Except ε α} {b : β} :
    result.map f = .ok b ↔ ∃ a, result = .ok a ∧ f a = b := by
  cases result <;> simp [Except.map]

theorem bind_eq_ok {α β ε : Type} {f : α → Except ε β} {result : Except ε α} {b : β} :
    result.bind f = .ok b ↔ ∃ a, result = .ok a ∧ f a = .ok b := by
  cases result <;> simp [Except.bind]

/-! ## Scalars

Strings and numbers are read and passed over by two families of functions with the same branches.
Each lemma below puts one pair side by side, in the order in which a number is written: exponent,
fraction, what follows the integer, the whole. The pair leaves the same text, and the value that the
reader builds is of no account. -/

/-- White space is skipped before a value is looked for and again by whoever reads it, so most texts
that are met in proofs are skipped twice. -/
theorem skipSpace_skipSpace (s : List Char) : skipSpace (skipSpace s) = skipSpace s := by
  unfold skipSpace
  induction s with
  | nil => rfl
  | cons c s ih =>
    rw [List.dropWhile_cons]
    split
    · exact ih
    · next blank => rw [List.dropWhile_cons_of_neg blank]

theorem length_skipSpace_le (s : List Char) : (skipSpace s).length ≤ s.length :=
  (List.dropWhile_suffix isSpace).length_le

/-- The four ways in which a string goes on: its end, an escape by number, an escape by letter, and
any other character. They are the equations of `skipString` in the cases that `readString` goes
through without a fault, so that its recursion is followed by rewriting with them. -/
theorem skipString_quote (s : List Char) : skipString ('"' :: s) = .ok s := by
  rw [skipString.eq_def]
  simp

theorem skipString_unicode {a b c d : Char} {n : Nat} (h : hexQuad? a b c d = some n)
    (s : List Char) : skipString ('\\' :: 'u' :: a :: b :: c :: d :: s) = skipString s := by
  rw [skipString.eq_def]
  simp [h]

theorem skipString_escape {e x : Char} (letter : e ≠ 'u') (h : simpleEscape? e = some x)
    (s : List Char) : skipString ('\\' :: e :: s) = skipString s := by
  rw [skipString.eq_def]
  simp [letter, h]

theorem skipString_plain {c : Char} (quote : c ≠ '"') (backslash : c ≠ '\\')
    (control : ¬c.toNat < 0x20) (s : List Char) : skipString (c :: s) = skipString s := by
  rw [skipString.eq_def]
  simp [quote, backslash, control]

/-- A string that is read is passed over. The recursion is that of the reader, which has more cases
than passing over: an escape may be the first half of a character, and then both halves are taken at
once. -/
theorem skipString_of_readString {taken s : List Char} {t : String} {rest : List Char}
    (h : readString taken s = .ok (t, rest)) : skipString s = .ok rest := by
  fun_induction readString taken s <;>
    simp_all [skipString_quote, skipString_unicode, skipString_escape, skipString_plain]

theorem rest_of_floatNumber {negative : Bool} {significand : Nat} {exponent : Int} {s : List Char}
    {n : Number} {rest : List Char} (h : floatNumber negative significand exponent s = .ok (n, rest)) :
    rest = s := by
  unfold floatNumber at h
  split at h <;> cases h
  rfl

/-- All digits of an exponent are taken, although the reader stops counting beyond its limit: the
number is zero then, or the text has a fault, and the digits that follow still belong to it. -/
theorem rest_of_readExponentDigits {negative down : Bool} {significand : Nat} {start : Int}
    {reached : Nat} {s : List Char} {n : Number} {rest : List Char}
    (h : readExponentDigits negative down significand start reached s = .ok (n, rest)) :
    rest = s.dropWhile Char.isDigit := by
  fun_induction readExponentDigits negative down significand start reached s with
  | case1 => exact rest_of_floatNumber h
  | case2 => simp_all
  -- An exponent that is out of range upwards is a fault, unless the number is zero.
  | case3 => cases h
  | case4 => simp_all
  | case5 _ c s digit => 
    rw [rest_of_floatNumber h]
    simp [digit]

/-- The digits of an exponent without their sign. -/
def unsigned (s : List Char) : List Char :=
  match s with
  | '+' :: s => s
  | '-' :: s => s
  | s => s

/-- The sign of an exponent only decides whether it counts downwards. Behind it both signs, and no
sign at all, are read in the same way, so that the three branches are looked at once, here, and not
in every statement about exponents. -/
theorem readExponent_unsigned (negative : Bool) (significand : Nat) (start : Int) (s : List Char) :
    ∃ down, readExponent negative significand start s =
      match unsigned s with
      | [] => .error (.before .eofValue [])
      | c :: t =>
        if c.isDigit then readExponentDigits negative down significand start 0 (c :: t)
        else .error (.past .invalidNumber (c :: t)) := by
  fun_cases unsigned s with
  | case1 t => exact ⟨false, by cases t <;> rfl⟩
  | case2 t => exact ⟨true, by cases t <;> rfl⟩
  | case3 plus minus =>
    refine ⟨false, ?_⟩
    cases s with
    | nil => rfl
    | cons c t => simp_all [readExponent]

theorem skipExponent_of_readExponent {negative : Bool} {significand : Nat} {start : Int}
    {s : List Char} {n : Number} {rest : List Char}
    (h : readExponent negative significand start s = .ok (n, rest)) : skipExponent s = .ok rest := by
  obtain ⟨down, same⟩ := readExponent_unsigned negative significand start s
  rw [same] at h
  -- `skipExponent` has the same match on the sign inside, and unfolds to one on `unsigned s`.
  show (match unsigned s with
    | [] => .error (.past .invalidNumber [])
    | c :: rest =>
      if c.isDigit then .ok (rest.dropWhile Char.isDigit)
      else .error (.past .invalidNumber (unsigned s)) : Except Fault _) = _
  generalize unsigned s = digits at h
  cases digits with
  | nil => cases h
  | cons c digits =>
    simp only at h ⊢
    split at h
    · next digit =>
      rw [if_pos digit, rest_of_readExponentDigits h, List.dropWhile_cons_of_pos digit]
    · cases h

theorem skipFraction_of_readFraction {negative : Bool} {significand leftOut : Nat}
    {s : List Char} {n : Number} {rest : List Char}
    (h : readFraction negative significand leftOut s = .ok (n, rest)) : skipFraction s = .ok rest := by
  simp only [readFraction] at h
  unfold skipFraction
  split at h
  · cases h
  · next some =>
    rw [if_neg some]
    generalize s.dropWhile Char.isDigit = after at h ⊢
    cases after with
    | nil => rw [rest_of_floatNumber h]
    | cons c after =>
      simp only at h ⊢
      split at h
      · next mark =>
        rw [if_pos mark]
        exact skipExponent_of_readExponent h
      · next mark => rw [if_neg mark, rest_of_floatNumber h]

theorem skipAfterInteger_of_readAfterInteger {negative : Bool} {significand leftOut : Nat}
    {s : List Char} {n : Number} {rest : List Char}
    (h : readAfterInteger negative significand leftOut s = .ok (n, rest)) :
    skipAfterInteger s = .ok rest := by
  -- Without a fraction or an exponent the number ends here. It is still a float if digits had to be
  -- left out, and neither case takes more text.
  have whole (s : List Char)
      (h : (if leftOut = 0 then .ok (integerNumber negative significand, s)
        else floatNumber negative significand leftOut s) = .ok (n, rest)) : rest = s := by
    split at h
    · cases h
      rfl
    · exact rest_of_floatNumber h
  cases s with
  | nil => rw [whole [] h, skipAfterInteger]
  | cons c s =>
    simp only [readAfterInteger, skipAfterInteger] at h ⊢
    split at h
    · next point =>
      rw [if_pos point]
      exact skipFraction_of_readFraction h
    · next point =>
      rw [if_neg point]
      split at h
      · next mark =>
        rw [if_pos mark]
        exact skipExponent_of_readExponent h
      · next mark => rw [if_neg mark, whole (c :: s) h]

theorem skipNumber_of_readNumber {negative : Bool} {s : List Char} {n : Number} {rest : List Char}
    (h : readNumber negative s = .ok (n, rest)) : skipNumber s = .ok rest := by
  cases s with
  | nil => cases h
  | cons c s =>
    simp only [readNumber, skipNumber] at h ⊢
    split at h
    · next zero =>
      rw [if_pos zero]
      cases s with
      | nil => exact skipAfterInteger_of_readAfterInteger h
      | cons d s =>
        simp only at h ⊢
        split at h
        · cases h
        · next digit =>
          rw [if_neg digit]
          exact skipAfterInteger_of_readAfterInteger h
    · next zero =>
      rw [if_neg zero]
      split at h
      · next digit =>
        rw [if_pos digit]
        exact skipAfterInteger_of_readAfterInteger h
      · cases h

theorem rest_of_constant {v w : Value} {result : Except Fault (List Char)} {rest : List Char}
    (h : constant v result = .ok (w, rest)) : w = v ∧ result = .ok rest := by
  obtain ⟨s, read, same⟩ := map_eq_ok.1 h
  cases same
  exact ⟨rfl, read⟩

/-- Whether a value is neither an array nor an object. -/
def Value.isScalar : Value → Bool
  | .array _ | .object _ => false
  | _ => true

/-- **A scalar that is read can be passed over, and it is a scalar.** Both functions choose by the
first character, in the same order, so the cases of the reader are the cases of passing over; within
a case the lemmas above apply. That the value is a scalar comes along because it can be seen nowhere
else as easily: the branches are open here. -/
theorem skipScalar?_of_readScalar? {s : List Char} {v : Value} {rest : List Char}
    (h : readScalar? s = some (.ok (v, rest))) :
    skipScalar? s = some (.ok rest) ∧ v.isScalar = true := by
  have word {w : Value} (scalar : w.isScalar = true) {letters t : List Char}
      (h : constant w (readWord letters t) = .ok (v, rest)) :
      readWord letters t = .ok rest ∧ v.isScalar = true := by
    obtain ⟨rfl, read⟩ := rest_of_constant h
    exact ⟨read, scalar⟩
  cases s with
  | nil => cases h
  | cons c s =>
    simp only [readScalar?, skipScalar?] at h ⊢
    repeat' split at h
    all_goals simp_all only [↓reduceIte, Option.some.injEq, reduceCtorEq]
    -- The three words, a string, and the two ways in which a number starts.
    · exact word rfl h
    · exact word rfl h
    · exact word rfl h
    · obtain ⟨_, read, same⟩ := map_eq_ok.1 h
      cases same
      exact ⟨skipString_of_readString read, rfl⟩
    all_goals
      obtain ⟨_, read, same⟩ := map_eq_ok.1 h
      cases same
      exact ⟨skipNumber_of_readNumber read, rfl⟩

/-! ## Progress

How much text is left. A scalar takes at least one character, which is what the loops over
containers live on; its parts may take none, so they only have `≤`. -/

theorem length_of_readWord {word s rest : List Char} (h : readWord word s = .ok rest) :
    rest.length ≤ s.length := by
  fun_induction readWord word s <;> simp_all
  omega

/-- The opening quote has been taken by the caller, so the closing one makes the text shorter. -/
theorem length_of_skipString {s rest : List Char} (h : skipString s = .ok rest) :
    rest.length < s.length := by
  fun_induction skipString s <;> simp_all <;> omega

theorem length_unsigned_le (s : List Char) : (unsigned s).length ≤ s.length := by
  fun_cases unsigned s <;> simp

theorem length_dropDigits_le (s : List Char) : (s.dropWhile Char.isDigit).length ≤ s.length :=
  (List.dropWhile_suffix Char.isDigit).length_le

theorem length_of_skipExponent {s rest : List Char} (h : skipExponent s = .ok rest) :
    rest.length ≤ s.length := by
  have shorter := length_unsigned_le s
  change (match unsigned s with
    | [] => .error (.past .invalidNumber [])
    | c :: rest =>
      if c.isDigit then .ok (rest.dropWhile Char.isDigit)
      else .error (.past .invalidNumber (unsigned s)) : Except Fault _) = _ at h
  generalize unsigned s = digits at h shorter
  cases digits with
  | nil => cases h
  | cons c digits =>
    simp only at h
    split at h
    · cases h
      have := length_dropDigits_le digits
      simp only [List.length_cons] at shorter
      omega
    · cases h

theorem length_of_skipFraction {s rest : List Char} (h : skipFraction s = .ok rest) :
    rest.length ≤ s.length := by
  have shorter := length_dropDigits_le s
  unfold skipFraction at h
  split at h
  · cases h
  · generalize s.dropWhile Char.isDigit = after at h shorter
    cases after with
    | nil =>
      cases h
      exact shorter
    | cons c after =>
      simp only [List.length_cons] at h shorter
      split at h
      · have := length_of_skipExponent h
        omega
      · cases h
        exact shorter

theorem length_of_skipAfterInteger {s rest : List Char} (h : skipAfterInteger s = .ok rest) :
    rest.length ≤ s.length := by
  cases s with
  | nil =>
    cases h
    exact Nat.le_refl _
  | cons c s =>
    simp only [skipAfterInteger] at h
    split at h
    · exact Nat.le_succ_of_le (length_of_skipFraction h)
    · split at h
      · exact Nat.le_succ_of_le (length_of_skipExponent h)
      · cases h
        exact Nat.le_refl _

/-- A number has a first digit. Behind a zero it goes on with the text after that, behind any other
digit with all digits dropped, and the first digit is among those. -/
theorem length_of_skipNumber {s rest : List Char} (h : skipNumber s = .ok rest) :
    rest.length < s.length := by
  cases s with
  | nil => cases h
  | cons c s =>
    simp only [skipNumber] at h
    split at h
    · cases s with
      | nil =>
        cases h
        exact Nat.zero_lt_one
      | cons d s =>
        simp only at h
        split at h
        · cases h
        · exact Nat.lt_succ_of_le (length_of_skipAfterInteger h)
    · split at h
      · next digit =>
        have := length_of_skipAfterInteger h
        rw [List.dropWhile_cons_of_pos digit] at this
        exact Nat.lt_succ_of_le (Nat.le_trans this (length_dropDigits_le s))
      · cases h

theorem length_of_skipScalar? {s rest : List Char} (h : skipScalar? s = some (.ok rest)) :
    rest.length < s.length := by
  cases s with
  | nil => cases h
  | cons c s =>
    simp only [skipScalar?] at h
    repeat' split at h
    all_goals simp_all only [Option.some.injEq, reduceCtorEq]
    · exact Nat.lt_succ_of_le (length_of_readWord h)
    · exact Nat.lt_succ_of_le (length_of_readWord h)
    · exact Nat.lt_succ_of_le (length_of_readWord h)
    · exact Nat.lt_succ_of_lt (length_of_skipString h)
    · exact Nat.lt_succ_of_lt (length_of_skipNumber h)
    · exact length_of_skipNumber h

/-! ## Marks

The loops look for brackets, commas, quotes and colons behind white space. The lemmas of this
section say what stood in the text if a mark was found, so that later proofs see characters where
the code has branches with faults. -/

/-- A mark takes its character. Every bound on the text behind a comma, a colon or a bracket comes
from this. -/
theorem length_of_skipSpace_cons {c : Char} {s t : List Char} (h : skipSpace s = c :: t) :
    t.length < s.length := by
  have := length_skipSpace_le s
  rw [h, List.length_cons] at this
  omega

theorem nextElement_none {first : Bool} {s : List Char} (h : nextElement first s = .ok none) :
    ∃ t, skipSpace s = ']' :: t := by
  unfold nextElement at h
  split at h
  · cases h
  · next c t opening =>
    split at h
    · next closing => exact ⟨t, closing ▸ opening⟩
    · repeat' split at h
      all_goals cases h

/-- **Where the next element starts.** In the first round it is the first character that is no white
space, which is not the closing bracket; in later rounds it stands behind a comma. In both cases
white space in front of it has been skipped already. -/
theorem nextElement_some {first : Bool} {s before : List Char}
    (h : nextElement first s = .ok (some before)) :
    first = true ∧ before = skipSpace s ∧ (∃ c t, skipSpace s = c :: t ∧ c ≠ ']') ∨
      first = false ∧ ∃ t, skipSpace s = ',' :: t ∧ before = skipSpace t := by
  unfold nextElement at h
  split at h
  · cases h
  · next c t opening =>
    split at h
    · cases h
    · next closing =>
      split at h
      · next start =>
        cases h
        exact .inl ⟨start, opening.symm, c, t, opening, closing⟩
      · next start =>
        split at h
        · next comma =>
          refine .inr ⟨Bool.eq_false_iff.2 start, t, comma ▸ opening, ?_⟩
          split at h
          · cases h
          · next d u following =>
            split at h <;> cases h
            exact following.symm
        · cases h

theorem nextKey_none {first : Bool} {s : List Char} (h : nextKey first s = .ok none) :
    ∃ t, skipSpace s = '}' :: t := by
  unfold nextKey at h
  split at h
  · cases h
  · next c t opening =>
    split at h
    · next closing => exact ⟨t, closing ▸ opening⟩
    · -- A key that is read is something.
      have key (u : List Char) : (readString [] u).map some ≠ .ok none := by
        cases readString [] u <;> simp [Except.map]
      repeat' split at h
      all_goals first | cases h | exact absurd h (key _)

/-- **Where the next key starts.** As for elements, with the key read up to its closing quote. The
text that remains starts in front of the colon, which is not looked at here. -/
theorem nextKey_some {first : Bool} {s colon : List Char} {key : String}
    (h : nextKey first s = .ok (some (key, colon))) :
    (first = true ∧ ∃ t, skipSpace s = '"' :: t ∧ readString [] t = .ok (key, colon)) ∨
      first = false ∧ ∃ t u, skipSpace s = ',' :: t ∧ skipSpace t = '"' :: u ∧
        readString [] u = .ok (key, colon) := by
  have named {u : List Char} (h : (readString [] u).map some = .ok (some (key, colon))) :
      readString [] u = .ok (key, colon) := by
    obtain ⟨_, read, same⟩ := map_eq_ok.1 h
    cases same
    exact read
  unfold nextKey at h
  split at h
  · cases h
  · next c t opening =>
    split at h
    · cases h
    · split at h
      · next start =>
        split at h
        · next quote => exact .inl ⟨start, t, quote ▸ opening, named h⟩
        · cases h
      · next start =>
        split at h
        · next comma =>
          split at h
          · cases h
          · next d u following =>
            split at h
            · next quote =>
              exact .inr ⟨Bool.eq_false_iff.2 start, t, u, comma ▸ opening, quote ▸ following, named h⟩
            · split at h <;> cases h
        · cases h

theorem skipSpace_of_readColon {s rest : List Char} (h : readColon s = .ok rest) :
    skipSpace s = ':' :: rest := by
  unfold readColon at h
  split at h
  · cases h
  · next c t marked =>
    split at h <;> cases h
    next colon => exact colon ▸ marked

theorem skipSpace_of_endArray {s rest : List Char} (h : endArray s = .ok rest) :
    skipSpace s = ']' :: rest := by
  unfold endArray at h
  split at h
  · cases h
  · next c t marked =>
    split at h
    · next closing =>
      cases h
      exact closing ▸ marked
    · repeat' split at h
      all_goals cases h

theorem skipSpace_of_endObject {s rest : List Char} (h : endObject s = .ok rest) :
    skipSpace s = '}' :: rest := by
  unfold endObject at h
  split at h
  · cases h
  · next c t marked =>
    split at h
    · next closing =>
      cases h
      exact closing ▸ marked
    · split at h <;> cases h

/-! ## Between the brackets

The relations follow the loops round by round but forget their bound and their accumulator. `read`
is a parameter, because the elements are read by whatever reads values one level deeper, and
statements about `Elements` are made before anything is known of that reader. -/

section

variable (read : List Char → Outcome Value)

/-- The elements that are read up to the closing bracket of an array. -/
inductive Elements : Bool → List Char → List Value → List Char → Prop where
  | done {first : Bool} {s : List Char} (closing : nextElement first s = .ok none) :
      Elements first s [] (skipSpace s)
  | more {first : Bool} {s before after rest : List Char} {v : Value} {vs : List Value}
      (next : nextElement first s = .ok (some before)) (here : read before = .ok (v, after))
      (others : Elements false after vs rest) : Elements first s (v :: vs) rest

/-- The entries that are read up to the closing bracket of an object. -/
inductive Entries : Bool → List Char → List (String × Value) → List Char → Prop where
  | done {first : Bool} {s : List Char} (closing : nextKey first s = .ok none) :
      Entries first s [] (skipSpace s)
  | more {first : Bool} {s colon before after rest : List Char} {key : String} {v : Value}
      {entries : List (String × Value)} (next : nextKey first s = .ok (some (key, colon)))
      (marked : readColon colon = .ok before) (here : read before = .ok (v, after))
      (others : Entries false after entries rest) : Entries first s ((key, v) :: entries) rest

end

/-- What the loop over an array has collected stands in `Elements`. The loop collects in reverse and
may have started with something in hand; the statement carries both, since otherwise the induction
over the rounds would not go through. -/
theorem elements_of_readElements {read : List Char → Outcome Value} {bound : Nat} {first : Bool}
    {taken all : List Value} {s rest : List Char}
    (h : readElements (fun taken s => (read s).map fun (v, s) => (v :: taken, s)) bound first taken s
      = .ok (all, rest)) :
    ∃ vs, all = vs.reverse ++ taken ∧ Elements read first s vs rest := by
  induction bound generalizing first taken s with
  | zero => cases h
  | succ bound ih =>
    rw [readElements] at h
    split at h
    · cases h
    · next closing =>
      cases h
      exact ⟨[], rfl, .done closing⟩
    · next before next =>
      split at h
      · cases h
      · next state after stepped =>
        obtain ⟨⟨v, after⟩, here, same⟩ := map_eq_ok.1 stepped
        cases same
        obtain ⟨vs, rfl, others⟩ := ih h
        exact ⟨v :: vs, by simp, .more next here others⟩

/-- The same for objects. The step reads the colon and the value, which are two premises of
`Entries.more`, since a key without its colon is a fault of its own. -/
theorem entries_of_readEntries {read : List Char → Outcome Value} {bound : Nat} {first : Bool}
    {taken all : List (String × Value)} {s rest : List Char}
    (h : readEntries (fun taken key s => (readColon s).bind fun s =>
      (read s).map fun (v, s) => ((key, v) :: taken, s)) bound first taken s = .ok (all, rest)) :
    ∃ entries, all = entries.reverse ++ taken ∧ Entries read first s entries rest := by
  induction bound generalizing first taken s with
  | zero => cases h
  | succ bound ih =>
    rw [readEntries] at h
    split at h
    · cases h
    · next closing =>
      cases h
      exact ⟨[], rfl, .done closing⟩
    · next key colon next =>
      split at h
      · cases h
      · next state after stepped =>
        obtain ⟨before, marked, stepped⟩ := bind_eq_ok.1 stepped
        obtain ⟨⟨v, after⟩, here, same⟩ := map_eq_ok.1 stepped
        cases same
        obtain ⟨entries, rfl, others⟩ := ih h
        exact ⟨(key, v) :: entries, by simp, .more next marked here others⟩

/-- How a value can have been read. The depth is an index because an array is only read if there is
a level left for it, and the induction over values is one over that depth. -/
inductive Reads (bound : Nat) : Nat → List Char → Value → List Char → Prop where
  | scalar {depth : Nat} {s rest : List Char} {v : Value}
      (read : readScalar? (skipSpace s) = some (.ok (v, rest))) : Reads bound depth s v rest
  | array {depth : Nat} {s inside closing rest : List Char} {vs : List Value}
      (opening : skipSpace s = '[' :: inside)
      (inner : Elements (readValue bound depth) true inside vs closing)
      (closed : endArray closing = .ok rest) : Reads bound (depth + 1) s (.array vs) rest
  | object {depth : Nat} {s inside closing rest : List Char} {entries : List (String × Value)}
      (opening : skipSpace s = '{' :: inside)
      (inner : Entries (readValue bound depth) true inside entries closing)
      (closed : endObject closing = .ok rest) : Reads bound (depth + 1) s (.object entries) rest

theorem closingArray_eq_ok {α : Type} {outcome : Outcome α} {a : α} {rest : List Char} :
    closingArray outcome = .ok (a, rest) ↔ ∃ s, outcome = .ok (a, s) ∧ endArray s = .ok rest := by
  obtain _ | ⟨b, s⟩ := outcome
  · simp [closingArray]
  · simp only [closingArray, map_eq_ok, Prod.mk.injEq, Except.ok.injEq]
    constructor
    · rintro ⟨t, closed, rfl, rfl⟩
      exact ⟨s, ⟨rfl, rfl⟩, closed⟩
    · rintro ⟨_, ⟨rfl, rfl⟩, closed⟩
      exact ⟨rest, closed, rfl, rfl⟩

theorem closingObject_eq_ok {α : Type} {outcome : Outcome α} {a : α} {rest : List Char} :
    closingObject outcome = .ok (a, rest) ↔ ∃ s, outcome = .ok (a, s) ∧ endObject s = .ok rest := by
  obtain _ | ⟨b, s⟩ := outcome
  · simp [closingObject]
  · simp only [closingObject, map_eq_ok, Prod.mk.injEq, Except.ok.injEq]
    constructor
    · rintro ⟨t, closed, rfl, rfl⟩
      exact ⟨s, ⟨rfl, rfl⟩, closed⟩
    · rintro ⟨_, ⟨rfl, rfl⟩, closed⟩
      exact ⟨rest, closed, rfl, rfl⟩

/-- **The three ways to read a value.** The branches of `readValue` without a fault are these and no
others: what starts like a scalar is read as one, and an opening bracket is only passed with a level
of depth to spare. -/
theorem reads_of_readValue {bound depth : Nat} {s rest : List Char} {v : Value}
    (h : readValue bound depth s = .ok (v, rest)) : Reads bound depth s v rest := by
  rw [readValue] at h
  simp only at h
  split at h
  · next outcome read =>
    subst h
    exact .scalar read
  · split at h
    · cases h
    · next c inside opening =>
      split at h
      · next array =>
        subst array
        split at h
        · cases h
        · next depth =>
          obtain ⟨closing, whole, closed⟩ := closingArray_eq_ok.1 h
          obtain ⟨⟨all, _⟩, run, same⟩ := map_eq_ok.1 whole
          cases same
          obtain ⟨vs, rfl, inner⟩ := elements_of_readElements run
          -- The loop collects in reverse and its result is turned round at the end.
          simp only [List.append_nil, List.reverse_reverse]
          exact .array opening inner closed
      · split at h
        · next object =>
          subst object
          split at h
          · cases h
          · next depth =>
            obtain ⟨closing, whole, closed⟩ := closingObject_eq_ok.1 h
            obtain ⟨⟨all, _⟩, run, same⟩ := map_eq_ok.1 whole
            cases same
            obtain ⟨entries, rfl, inner⟩ := entries_of_readEntries run
            simp only [List.append_nil, List.reverse_reverse]
            exact .object opening inner closed
        · cases h

/-! ## Progress in containers

The loops of containers only move forward if their elements do, so progress of the reader is a
hypothesis of this section; `length_of_readValue` discharges it by induction on the depth. -/

theorem length_of_nextElement {first : Bool} {s before : List Char}
    (h : nextElement first s = .ok (some before)) : before.length ≤ s.length := by
  obtain ⟨-, rfl, -⟩ | ⟨-, t, comma, rfl⟩ := nextElement_some h
  · exact length_skipSpace_le s
  · have := length_of_skipSpace_cons comma
    have := length_skipSpace_le t
    omega

theorem length_of_nextKey {first : Bool} {s colon : List Char} {key : String}
    (h : nextKey first s = .ok (some (key, colon))) : colon.length < s.length := by
  obtain ⟨-, t, quote, read⟩ | ⟨-, t, u, comma, quote, read⟩ := nextKey_some h
  · have := length_of_skipSpace_cons quote
    have := length_of_skipString (skipString_of_readString read)
    omega
  · have := length_of_skipSpace_cons comma
    have := length_of_skipSpace_cons quote
    have := length_of_skipString (skipString_of_readString read)
    omega

section

variable {read : List Char → Outcome Value}
  (progress : ∀ s v rest, read s = .ok (v, rest) → rest.length < s.length)

include progress in
/-- The elements of an array leave no more than was there. It need not be less: an empty array has
nothing between its brackets. -/
theorem Elements.length_le {first : Bool} {s rest : List Char} {vs : List Value}
    (h : Elements read first s vs rest) : rest.length ≤ s.length := by
  induction h with
  | done => exact length_skipSpace_le _
  | more next here _ ih =>
    have := length_of_nextElement next
    have := progress _ _ _ here
    omega

include progress in
theorem Entries.length_le {first : Bool} {s rest : List Char} {entries : List (String × Value)}
    (h : Entries read first s entries rest) : rest.length ≤ s.length := by
  induction h with
  | done => exact length_skipSpace_le _
  | more next marked here _ ih =>
    have := length_of_nextKey next
    have := length_of_skipSpace_cons (skipSpace_of_readColon marked)
    have := progress _ _ _ here
    omega

end

/-- **Reading makes progress**: a value takes at least one character. A scalar has one, and an array
or object has its opening bracket, whatever is inside. -/
theorem length_of_readValue {bound depth : Nat} {s rest : List Char} {v : Value}
    (h : readValue bound depth s = .ok (v, rest)) : rest.length < s.length := by
  induction depth generalizing s v rest with
  | zero =>
    cases reads_of_readValue h with
    | scalar read =>
      have := length_of_skipScalar? (skipScalar?_of_readScalar? read).1
      have := length_skipSpace_le s
      omega
  -- Elements and entries are read with one level of depth less, so they make progress by the
  -- induction hypothesis.
  | succ depth ih =>
    cases reads_of_readValue h with
    | scalar read =>
      have := length_of_skipScalar? (skipScalar?_of_readScalar? read).1
      have := length_skipSpace_le s
      omega
    | array opening inner closed =>
      have := length_of_skipSpace_cons opening
      have := inner.length_le fun _ _ _ => ih
      have := length_of_skipSpace_cons (skipSpace_of_endArray closed)
      omega
    | object opening inner closed =>
      have := length_of_skipSpace_cons opening
      have := inner.length_le fun _ _ _ => ih
      have := length_of_skipSpace_cons (skipSpace_of_endObject closed)
      omega

end ScalaFacade.Json
