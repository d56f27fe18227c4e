import ScalaFacade.Scala.Name

/-! # Names read back

A name is written plainly or between backticks, and from both it can be read back. On its own, the
written name determines the name (`Name.unquote_escape`), whatever the name is. In front of more
text it has to be found first (`Scala.nameAt`), and there two things can go wrong, which are the two
conditions of `Scala.nameAt_escape`:

* a backtick inside the name would end it early. Names of the source may have one, so that there is
  none is a hypothesis about the document;
* what follows might be taken for a part of the name. That it is not (`EndsName`) is shown of the
  texts that are put behind names.

The head of a line is its first word together with the name behind it: it says what sort of thing
the line declares, and under which name.

A plain name ends at the first character that an identifier cannot have, and a quoted one at the
next backtick. Both are the same fact about `takeWhile` (`takeWhile_append_eq`), and so is the end
of the first word of a line.
-/

set_option autoImplicit false

namespace ScalaFacade

namespace Name

/-- Whether a character may stand in a plain identifier. -/
def isNameChar (c : Char) : Bool := c == '_' || c == '$' || Text.isIdentifierContinue c

theorem isNameChar_of_mem {name : String} {c : Char} (h : isIdentifier name = true)
    (hc : c ∈ name.toList) : isNameChar c = true := by
  unfold isIdentifier at h
  split at h
  · cases h
  · rename_i first others chars
    simp only [Bool.and_eq_true, Bool.or_eq_true, beq_iff_eq, List.all_eq_true] at h
    simp only [isNameChar, Bool.or_eq_true, beq_iff_eq]
    rw [chars] at hc
    rcases List.mem_cons.1 hc with rfl | hc
    · exact h.1.imp_right Text.isIdentifierContinue_of_start
    · exact (h.2 c hc).elim (fun dollar => Or.inl (Or.inr dollar)) Or.inr

/-! ## A name on its own

Quotes of any of the three sorts are taken off. No identifier starts with one, so a plain name is
left alone. -/

theorem unquote_quote (name : String) : unquote (quote name) = name := by
  have chars : (quote name).toList = '`' :: (name.toList ++ ['`']) := by
    simp [quote, String.toList_append]
  simp [unquote, chars, quotes]

theorem unquote_of_head {name : String} (h : ∀ c ∈ name.toList.head?, c ∉ quotes) :
    unquote name = name := by
  unfold unquote
  split
  · rfl
  · rename_i first others chars
    rw [if_neg fun quoted => h first (by simp [chars]) quoted.1]

theorem unquote_of_isIdentifier {name : String} (h : isIdentifier name = true) :
    unquote name = name := by
  have none : quotes.all (!isNameChar ·) = true := by decide +kernel
  refine unquote_of_head fun c first quoted => ?_
  have excluded := List.all_eq_true.1 none c quoted
  simp [isNameChar_of_mem h (List.mem_of_mem_head? first)] at excluded

/-- Without its quotes, a written name is the name. A name in quotes loses those that writing has
added, and no more; a plain one is an identifier, so it starts with no quote. -/
theorem unquote_escape (name : String) : unquote (escape name) = name := by
  unfold escape
  split
  · exact unquote_quote name
  · rename_i plain
    simp only [Bool.or_eq_true, Bool.not_eq_true', not_or, Bool.not_eq_false] at plain
    exact unquote_of_isIdentifier plain.2

/-- Different names are written differently. -/
theorem escape_inj {name other : String} : escape name = escape other ↔ name = other := by
  constructor
  · intro same
    rw [← unquote_escape name, same, unquote_escape]
  · exact congrArg escape

end Name

namespace Scala

/-! ## A name in front of more text

The first character tells which of the two ways of writing it is. -/

/-- The name at the front of a text: what stands up to the next backtick if it starts with one, and
else as many characters as a plain identifier can have. -/
def nameAt (text : String) : String :=
  match text.toList with
  | [] => ""
  | c :: cs =>
    if c = '`' then String.ofList (cs.takeWhile (· != '`'))
    else String.ofList ((c :: cs).takeWhile Name.isNameChar)

/-- A text that no plain identifier in front of it goes on into. -/
def EndsName (text : String) : Prop := text.toList.head?.all (!Name.isNameChar ·) = true

instance (text : String) : Decidable (EndsName text) :=
  inferInstanceAs (Decidable (text.toList.head?.all (!Name.isNameChar ·) = true))

/-- If the text is empty, what follows it has to end the name in its place. -/
theorem EndsName.append {text other : String} (h : EndsName text)
    (h' : text.toList = [] → EndsName other) : EndsName (text ++ other) := by
  rw [EndsName, String.toList_append]
  cases chars : text.toList with
  | nil => exact h' chars
  | cons c cs =>
    rw [EndsName, chars] at h
    exact h

/-- A word ends where the first character stands that it cannot have. -/
theorem takeWhile_append_eq {p : Char → Bool} {word rest : List Char}
    (inside : ∀ c ∈ word, p c = true) (stop : rest.head?.all (!p ·) = true) :
    (word ++ rest).takeWhile p = word := by
  have nothing : rest.takeWhile p = [] := by
    cases rest with
    | nil => rfl
    | cons c cs => exact List.takeWhile_cons_of_neg (by simpa using stop)
  rw [List.takeWhile_append_of_pos inside, nothing, List.append_nil]

theorem forall_mem_bne {c : Char} {cs : List Char} (h : c ∉ cs) : ∀ d ∈ cs, (d != c) = true := by
  intro d hd
  rw [bne_iff_ne]
  rintro rfl
  exact h hd

theorem nameAt_quote {name : String} (free : '`' ∉ name.toList) (rest : String) :
    nameAt (Name.quote name ++ rest) = name := by
  have chars : (Name.quote name ++ rest).toList = '`' :: (name.toList ++ '`' :: rest.toList) := by
    simp [Name.quote, String.toList_append]
  rw [nameAt, chars]
  dsimp only
  rw [if_pos rfl, takeWhile_append_eq (forall_mem_bne free) (by simp), String.ofList_toList]

theorem nameAt_of_isIdentifier {name rest : String} (h : Name.isIdentifier name = true)
    (ends : EndsName rest) : nameAt (name ++ rest) = name := by
  have letters : ∀ c ∈ name.toList, Name.isNameChar c = true := fun c => Name.isNameChar_of_mem h
  -- The first character decides how the text is read, and no identifier starts with a backtick.
  cases chars : name.toList with
  | nil => simp [Name.isIdentifier, chars] at h
  | cons c cs =>
    have tick : Name.isNameChar '`' = false := by decide +kernel
    have plain : c ≠ '`' := by
      rintro rfl
      have letter := letters '`' (by simp [chars])
      rw [tick] at letter
      cases letter
    have whole : (name ++ rest).toList = c :: (cs ++ rest.toList) := by
      rw [String.toList_append, chars, List.cons_append]
    rw [nameAt, whole]
    dsimp only
    rw [if_neg plain, ← List.cons_append, ← chars, takeWhile_append_eq letters ends,
      String.ofList_toList]

/-- A name without a backtick comes back from the front of a text. What follows matters for a plain
name only: a quoted one brings its end with it. -/
theorem nameAt_escape {name rest : String} (free : '`' ∉ name.toList) (ends : EndsName rest) :
    nameAt (Name.escape name ++ rest) = name := by
  unfold Name.escape
  split
  · exact nameAt_quote free rest
  · rename_i plain
    simp only [Bool.or_eq_true, Bool.not_eq_true', not_or, Bool.not_eq_false] at plain
    exact nameAt_of_isIdentifier plain.2 ends

/-! ## The head of a line

A word without blanks, one blank and a name. -/

/-- The first word of a line. -/
def wordOf (line : String) : String := String.ofList (line.toList.takeWhile (· != ' '))

/-- The first word of a line and the name behind it. -/
def headOf (line : String) : String × String :=
  (wordOf line, nameAt (String.ofList (line.toList.drop ((wordOf line).length + 1))))

theorem wordOf_append {word : String} (solid : ' ' ∉ word.toList) (rest : String) :
    wordOf (word ++ " " ++ rest) = word := by
  have chars : (word ++ " " ++ rest).toList = word.toList ++ ' ' :: rest.toList := by
    simp [String.toList_append]
  rw [wordOf, chars, takeWhile_append_eq (forall_mem_bne solid) (by simp), String.ofList_toList]

/-- The head of a line that is put together in this way comes back from it. -/
theorem headOf_append {word name rest : String} (solid : ' ' ∉ word.toList)
    (free : '`' ∉ name.toList) (ends : EndsName rest) :
    headOf (word ++ " " ++ (Name.escape name ++ rest)) = (word, name) := by
  have chars : (word ++ " " ++ (Name.escape name ++ rest)).toList.drop (word.length + 1) =
      (Name.escape name ++ rest).toList := by
    rw [String.toList_append, ← String.length_toList, String.toList_append]
    exact List.drop_left' (by simp)
  rw [headOf, wordOf_append solid, chars, String.ofList_toList, nameAt_escape free ends]

end Scala

end ScalaFacade
