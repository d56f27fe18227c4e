import ScalaFacade.Proofs.Scala.Grammar
import ScalaFacade.Proofs.Scala.Heads

/-! # Reading a type

How a text of types is taken apart again: first at every ` | `, then at every ` with `, since the
latter binds tighter. Separators inside brackets or between backticks do not count, so the text is
gone through from left to right with a state that says where it is (`Scan`).

The grammar has one reading: from the text of a union its alternatives come back
(`alternativesOf_union`), and from the text of an alternative its components
(`componentsOf_compound`). So it makes sense to speak of the alternatives of a type's text, and
joining two texts by ` with ` glues theirs together (`IsType.alternativesOf_and`).

The central notion is `Passes`: a stretch of text is gone over without finding a separator, and
leads from one state to another, whatever follows. It composes (`Passes.append`), so it is shown of
the smallest stretches first and then of phrases, by induction over the grammar (`Derives.passes`).

One case does not fit this scheme. Outside of brackets, ` with ` and ` | ` both start with a blank,
so that ` with ` is passed when ` | ` is looked for depends on what comes behind the blank. Hence
`StartsPlain`, and a separate argument for alternatives (`Derives.passes_bar`).

Names that contain a backtick are not in the grammar, and nothing is said about how they read.
-/

set_option autoImplicit false

namespace ScalaFacade.Scala

/-! ## Going through a text

Parentheses count as brackets, for the lists of parameters of definitions. -/

/-- Where in a text one is: between backticks or not, and inside how many brackets. -/
structure Scan where
  quoted : Bool
  depth : Nat
deriving DecidableEq

namespace Scan

/-- Outside of all brackets. -/
def start : Scan := ⟨false, 0⟩

/-- Neither between backticks nor inside brackets. -/
def outside (state : Scan) : Bool := !state.quoted && state.depth == 0

/-- One character further. Between backticks only another backtick changes anything. -/
def step (state : Scan) (c : Char) : Scan :=
  if c = '`' then { state with quoted := !state.quoted }
  else if state.quoted then state
  else if c = '[' ∨ c = '(' then { state with depth := state.depth + 1 }
  else if c = ']' ∨ c = ')' then { state with depth := state.depth - 1 }
  else state

end Scan

/-- The pieces of a text between the separators that stand outside. What has been read of the
current piece is kept in reverse, and the characters of a separator that was found are skipped. -/
def cut (separator : List Char) : Nat → Scan → List Char → List Char → List (List Char)
  | _, _, current, [] => [current.reverse]
  | skip + 1, state, current, _ :: cs => cut separator skip state current cs
  | 0, state, current, c :: cs =>
    if state.outside && separator.isPrefixOf (c :: cs) then
      current.reverse :: cut separator (separator.length - 1) state [] cs
    else cut separator 0 (state.step c) (c :: current) cs

/-- The pieces of a text. -/
def cutAt (separator text : String) : List String :=
  (cut separator.toList 0 .start [] text.toList).map String.ofList

/-- The alternatives that a text of types reads as. -/
def alternativesOf (text : String) : List String := cutAt " | " text

/-- The components that an alternative reads as. -/
def componentsOf (text : String) : List String := cutAt " with " text

/-- A text of types as it is read: its alternatives, and the components of each. -/
def reading (text : String) : List (List String) := (alternativesOf text).map componentsOf

/-! ## Passing over a text

`Passes separator a cs b`: from state `a` the characters `cs` lead to state `b`, whatever comes
next, and no separator is found among them. -/

def Passes (separator : List Char) (a : Scan) (cs : List Char) (b : Scan) : Prop :=
  ∀ current rest,
    cut separator 0 a current (cs ++ rest) = cut separator 0 b (cs.reverse ++ current) rest

/-- An empty stretch stays where it is. -/
theorem passes_nil {separator : List Char} (a : Scan) : Passes separator a [] a :=
  fun _ _ => rfl

/-- Two stretches in a row. `Passes` is about every rest of a text, so the second stretch may be the
beginning of the rest of the first. -/
theorem Passes.append {separator cs ds : List Char} {a b c : Scan} (h : Passes separator a cs b)
    (h' : Passes separator b ds c) : Passes separator a (cs ++ ds) c := by
  intro current rest
  rw [List.append_assoc, h, h', List.reverse_append, List.append_assoc]

/-- Texts that lead back to where they start may be joined by such a text. -/
theorem passes_intercalate {separator : List Char} {a : Scan} {joint : String}
    {texts : List String} (h : Passes separator a joint.toList a) (some : texts ≠ [])
    (each : ∀ text ∈ texts, Passes separator a text.toList a) :
    Passes separator a (joint.intercalate texts).toList a := by
  refine closed_intercalate (p := fun text => Passes separator a text.toList a) ?_ some each
  intro left right hl hr
  rw [String.toList_append, String.toList_append]
  exact (hl.append h).append hr

/-- The characters that a separator may start with. -/
def separators : List Char := [' ', ',', '(', ')']

section Separator

variable {first : Char} {tail : List Char}

theorem notMem_of_separator {cs : List Char} (separating : first ∈ separators)
    (h : cs.all (!separators.contains ·) = true) : first ∉ cs := by
  intro present
  have excluded := List.all_eq_true.1 h first present
  simp [separating] at excluded

/-- Every character is passed that the separator does not start with, and so is every character
inside brackets or between backticks. -/
theorem passes_char {a : Scan} {c : Char} (h : c ≠ first ∨ a.outside = false) :
    Passes (first :: tail) a [c] (a.step c) := by
  intro current rest
  have unmatched : (a.outside && (first :: tail).isPrefixOf (c :: rest)) = false := by
    rcases h with h | h
    · simp [List.isPrefixOf, Ne.symm h]
    · simp [h]
  rw [List.singleton_append, cut, if_neg (by simp [unmatched])]
  rfl

/-- A mark that is no separator is passed. -/
theorem passes_mark {a : Scan} {c : Char} (separating : first ∈ separators)
    (h : c ∉ separators) : Passes (first :: tail) a [c] (a.step c) :=
  passes_char (Or.inl fun same => h (same ▸ separating))

/-- The characters that change the state. -/
def marks : List Char := ['`', '[', ']', '(', ')']

theorem Scan.step_of_notMem {c : Char} (a : Scan) (h : c ∉ marks) : a.step c = a := by
  simp only [marks, List.mem_cons, List.not_mem_nil, or_false, not_or] at h
  simp [Scan.step, h]

/-- Characters that are no marks are passed if the separator does not start with one of them, or
inside brackets. -/
theorem passes_inert {depth : Nat} {cs : List Char} (inert : cs.all (!marks.contains ·) = true)
    (h : first ∉ cs ∨ 0 < depth) : Passes (first :: tail) ⟨false, depth⟩ cs ⟨false, depth⟩ := by
  induction cs with
  | nil => exact passes_nil _
  | cons c cs ih =>
    rw [List.all_cons, Bool.and_eq_true] at inert
    have allowed : c ≠ first ∨ Scan.outside ⟨false, depth⟩ = false := by
      rcases h with h | h
      · exact Or.inl fun e => h (by simp [e])
      · right
        simp only [Scan.outside, Bool.not_false, Bool.true_and, beq_eq_false_iff_ne]
        omega
    have here : Passes (first :: tail) ⟨false, depth⟩ [c] ⟨false, depth⟩ := by
      have passed : Passes (first :: tail) ⟨false, depth⟩ [c] _ := passes_char allowed
      rwa [Scan.step_of_notMem _ (by simpa using inert.1)] at passed
    have rest := ih inert.2
      (h.imp_left fun h hd => h (List.mem_cons_of_mem _ hd))
    exact here.append rest

/-- Between backticks everything is passed up to the next one. -/
theorem passes_quoted {depth : Nat} {cs : List Char} (free : '`' ∉ cs) :
    Passes (first :: tail) ⟨true, depth⟩ cs ⟨true, depth⟩ := by
  induction cs with
  | nil => exact passes_nil _
  | cons c cs ih =>
    have plain : c ≠ '`' := fun e => free (by simp [e])
    have here : Passes (first :: tail) ⟨true, depth⟩ [c] ⟨true, depth⟩ := by
      have passed : Passes (first :: tail) ⟨true, depth⟩ [c] _ := passes_char (Or.inr rfl)
      rwa [show Scan.step ⟨true, depth⟩ c = ⟨true, depth⟩ by simp [Scan.step, plain]] at passed
    exact here.append (ih fun h => free (List.mem_cons_of_mem _ h))

/-- A name between backticks is passed, whatever stands in it but a backtick. -/
theorem passes_quote {depth : Nat} {name : String} (separating : first ∈ separators)
    (free : '`' ∉ name.toList) :
    Passes (first :: tail) ⟨false, depth⟩ (Name.quote name).toList ⟨false, depth⟩ := by
  have opening : Passes (first :: tail) ⟨false, depth⟩ ['`'] ⟨true, depth⟩ :=
    passes_mark separating (by decide)
  have closing : Passes (first :: tail) ⟨true, depth⟩ ['`'] ⟨false, depth⟩ :=
    passes_char (Or.inr rfl)
  have parts : (Name.quote name).toList = ['`'] ++ name.toList ++ ['`'] := by
    rw [Name.quote, String.toList_append, String.toList_append]
    rfl
  rw [parts]
  exact (opening.append (passes_quoted free)).append closing

/-- What is passed inside brackets is passed with its brackets anywhere. -/
theorem passes_bracketed {depth : Nat} {cs : List Char} (separating : first ∈ separators)
    (h : Passes (first :: tail) ⟨false, depth + 1⟩ cs ⟨false, depth + 1⟩) :
    Passes (first :: tail) ⟨false, depth⟩ ('[' :: cs ++ [']']) ⟨false, depth⟩ := by
  have opening : Passes (first :: tail) ⟨false, depth⟩ ['['] ⟨false, depth + 1⟩ :=
    passes_mark separating (by decide)
  have closing : Passes (first :: tail) ⟨false, depth + 1⟩ [']'] ⟨false, depth⟩ :=
    passes_mark separating (by decide)
  exact (opening.append h).append closing

end Separator

/-! ## Phrases of the grammar are passed

By induction over the grammar, for all depths of nesting at once: inside brackets the depth goes
up. -/

/-- The characters that no plain identifier has. -/
def punctuation : List Char := marks ++ [' ', ',', '.', '|']

/-- Plain identifiers have no characters that mean something to the reader. -/
theorem notMem_punctuation {name : String} {c : Char} (h : Name.isIdentifier name = true)
    (hc : c ∈ name.toList) : c ∉ punctuation := by
  have none : punctuation.all (!Name.isNameChar ·) = true := by decide +kernel
  intro mark
  have excluded := List.all_eq_true.1 none c mark
  simp [Name.isNameChar_of_mem h hc] at excluded

section Phrase

variable {first : Char} {tail : List Char} (separating : first ∈ separators)

include separating

/-- An identifier is passed anywhere, plain or quoted. -/
theorem Identifier.passes {text : String} (h : Identifier text) (depth : Nat) :
    Passes (first :: tail) ⟨false, depth⟩ text.toList ⟨false, depth⟩ := by
  cases h with
  | quoted free => exact passes_quote separating free
  | plain identifier _ =>
    have none := fun c (hc : c ∈ text.toList) => notMem_punctuation identifier hc
    have inert : text.toList.all (!marks.contains ·) = true := by
      rw [List.all_eq_true]
      intro c hc
      have unmarked : c ∉ marks := fun mark => none c hc (List.mem_append_left _ mark)
      simpa using unmarked
    have listed : separators.all (punctuation.contains ·) = true := by decide
    have punctuated : first ∈ punctuation := by
      simpa using List.all_eq_true.1 listed first separating
    exact passes_inert inert (Or.inl fun found => none first found punctuated)

theorem QualifiedName.passes {text : String} (h : QualifiedName text)
    (depth : Nat) : Passes (first :: tail) ⟨false, depth⟩ text.toList ⟨false, depth⟩ := by
  cases h with
  | dotted some each =>
    have dot : Passes (first :: tail) ⟨false, depth⟩ ".".toList ⟨false, depth⟩ :=
      passes_inert (by decide) (Or.inl (notMem_of_separator separating (by decide)))
    exact passes_intercalate dot some fun segment hs => (each segment hs).passes separating depth

/-- What stands between the parts of a phrase has blanks but no marks, so it is passed inside
brackets, and everywhere if the separator does not start with a blank. -/
theorem passes_joint {joint : String} {depth : Nat} (inert : joint.toList.all
      (fun c => !marks.contains c && (c == ' ' || !separators.contains c)) = true)
    (h : 0 < depth ∨ first ≠ ' ') :
    Passes (first :: tail) ⟨false, depth⟩ joint.toList ⟨false, depth⟩ := by
  simp only [List.all_eq_true, Bool.and_eq_true, Bool.or_eq_true, beq_iff_eq] at inert
  have unmarked : joint.toList.all (!marks.contains ·) = true :=
    List.all_eq_true.2 fun c hc => (inert c hc).1
  refine passes_inert unmarked ?_
  rcases h with deep | solid
  · exact Or.inr deep
  · refine Or.inl fun present => ?_
    rcases (inert first present).2 with blank | other
    · exact solid blank
    · simp [separating] at other

/-- A simple phrase is passed anywhere; every phrase is passed inside brackets, where neither blanks
nor separators count, or if the separator does not start with a blank. -/
theorem Derives.passes {phrase : Phrase} {text : String} (h : Derives phrase text) :
    ∀ depth, phrase = .simple ∨ 0 < depth ∨ first ≠ ' ' →
      Passes (first :: tail) ⟨false, depth⟩ text.toList ⟨false, depth⟩ := by
  induction h with
  | union some _ ih =>
    intro depth deep
    have deep : 0 < depth ∨ first ≠ ' ' := by simpa using deep
    exact passes_intercalate (passes_joint separating (by decide) deep) some
      fun text ht => ih text ht depth (Or.inr deep)
  | compound some _ ih =>
    intro depth deep
    have deep : 0 < depth ∨ first ≠ ' ' := by simpa using deep
    exact passes_intercalate (passes_joint separating (by decide) deep) some
      fun text ht => ih text ht depth (Or.inr deep)
  | this =>
    intro depth _
    exact passes_inert (by decide) (Or.inl (notMem_of_separator separating (by decide)))
  | named qualified =>
    intro depth _
    exact qualified.passes separating depth
  | applied qualified some _ ih =>
    intro depth _
    have deep : 0 < depth + 1 := Nat.succ_pos depth
    have comma : Passes (first :: tail) ⟨false, depth + 1⟩ ", ".toList ⟨false, depth + 1⟩ :=
      passes_inert (by decide) (Or.inr deep)
    have arguments := passes_intercalate comma some
      fun text ht => ih text ht _ (Or.inr (Or.inl deep))
    have whole := (qualified.passes separating depth).append (passes_bracketed separating arguments)
    simpa [String.toList_append] using whole
  | exact _ ih => exact fun depth deep => ih depth (Or.inr (by simpa using deep))
  | bounded _ ih =>
    intro depth deep
    have deep : 0 < depth ∨ first ≠ ' ' := by simpa using deep
    rw [String.toList_append]
    exact (passes_joint separating (by decide) deep).append (ih depth (Or.inr deep))

end Phrase

/-! ## Taking a joined text apart

At a separator outside a piece ends; what is passed belongs to a piece. -/

theorem cut_skip {separator skipped rest current : List Char} {a : Scan} :
    cut separator skipped.length a current (skipped ++ rest) = cut separator 0 a current rest := by
  induction skipped with
  | nil => rfl
  | cons c skipped ih => rw [List.length_cons, List.cons_append, cut, ih]

/-- A separator that stands outside ends a piece. -/
theorem cut_separator {first : Char} {tail current rest : List Char} :
    cut (first :: tail) 0 .start current (first :: tail ++ rest)
      = current.reverse :: cut (first :: tail) 0 .start [] rest := by
  have found :
      (Scan.start.outside && (first :: tail).isPrefixOf (first :: (tail ++ rest))) = true := by
    simp [Scan.start, Scan.outside]
  rw [List.cons_append, cut, if_pos found, List.length_cons, Nat.add_sub_cancel, cut_skip]

/-- Pieces in which no separator is found come back from the joined text. The induction is on the
pieces: each is gone over, and the separator behind it ends it. -/
theorem cutAt_intercalate {separator : String} {first : Char} {tail : List Char}
    {texts : List String} (chars : separator.toList = first :: tail) (some : texts ≠ [])
    (each : ∀ text ∈ texts, Passes (first :: tail) .start text.toList .start) :
    cutAt separator (separator.intercalate texts) = texts := by
  rw [cutAt, chars]
  induction texts with
  | nil => exact absurd rfl some
  | cons text texts ih =>
    have here := each text (by simp) []
    have others : ∀ other ∈ texts, Passes (first :: tail) .start other.toList .start :=
      fun other h => each other (List.mem_cons_of_mem _ h)
    by_cases last : texts = []
    · have alone := here []
      rw [List.append_nil, List.append_nil, cut, List.reverse_reverse] at alone
      rw [last, String.intercalate_singleton, alone]
      simp
    · have rest := ih last others
      rw [String.intercalate_cons_of_ne_nil last, String.toList_append, String.toList_append, chars,
        List.append_assoc, here, List.append_nil, cut_separator, List.reverse_reverse,
        List.map_cons, rest, String.ofList_toList]

/-- The components of an alternative come back from its text. -/
theorem componentsOf_compound {components : List String} (some : components ≠ [])
    (each : ∀ text ∈ components, Derives .simple text) :
    componentsOf (" with ".intercalate components) = components := by
  have blank : " with ".toList = ' ' :: "with ".toList := by decide
  exact cutAt_intercalate blank some fun text h => (each text h).passes (by decide) 0 (Or.inl rfl)

/-! The blanks of ` with ` stand outside, so that no ` | ` starts at one of them depends on what
follows: no component starts with a bar. -/

/-- The text starts with something else than a bar. -/
def StartsPlain (text : String) : Prop := ∃ c cs, text.toList = c :: cs ∧ c ≠ '|'

/-- What follows does not change how a text starts. -/
theorem StartsPlain.append {text : String} (h : StartsPlain text) (other : String) :
    StartsPlain (text ++ other) := by
  obtain ⟨c, cs, chars, plain⟩ := h
  exact ⟨c, cs ++ other.toList, by rw [String.toList_append, chars, List.cons_append], plain⟩

theorem Identifier.startsPlain {text : String} (h : Identifier text) : StartsPlain text := by
  cases h with
  | @quoted name _ =>
    exact ⟨'`', name.toList ++ ['`'], by simp [Name.quote, String.toList_append], by decide⟩
  | plain identifier _ =>
    cases chars : text.toList with
    | nil => simp [Name.isIdentifier, chars] at identifier
    | cons c cs =>
      have none := notMem_punctuation identifier (c := c) (by simp [chars])
      exact ⟨c, cs, chars, fun bar => none (by simp [bar, punctuation])⟩

theorem QualifiedName.startsPlain {text : String} (h : QualifiedName text) : StartsPlain text := by
  cases h with
  | dotted some each =>
    refine closed_intercalate (p := StartsPlain) ?_ some fun text ht => (each text ht).startsPlain
    intro left right hl _
    rw [String.append_assoc]
    exact hl.append _

theorem Derives.startsPlain {text : String} (h : Derives .simple text) : StartsPlain text := by
  cases h with
  | this => exact ⟨'t', "his.type".toList, by decide, by decide⟩
  | named qualified => exact qualified.startsPlain
  | applied qualified _ _ =>
    rw [String.append_assoc, String.append_assoc]
    exact qualified.startsPlain.append _

/-- A blank with no bar behind it is passed when looking for ` | `. -/
theorem cut_blank {current rest : List Char} {c : Char} (plain : c ≠ '|') :
    cut " | ".toList 0 .start current (' ' :: c :: rest)
      = cut " | ".toList 0 .start (' ' :: current) (c :: rest) := by
  have separator : " | ".toList = [' ', '|', ' '] := by decide
  have unmatched :
      (Scan.start.outside && [' ', '|', ' '].isPrefixOf (' ' :: c :: rest)) = false := by
    simp [List.isPrefixOf, Ne.symm plain]
  rw [separator, cut, if_neg (Bool.eq_false_iff.1 unmatched),
    show Scan.start.step ' ' = Scan.start by decide]

theorem passes_with {text : String} (plain : StartsPlain text)
    (h : Passes " | ".toList .start text.toList .start) :
    Passes " | ".toList .start (" with " ++ text).toList .start := by
  obtain ⟨c, cs, chars, plain⟩ := plain
  have word : Passes " | ".toList .start "with".toList .start :=
    passes_inert (by decide) (Or.inl (by decide))
  have spelled : (" with " ++ text).toList = ' ' :: "with".toList ++ ' ' :: text.toList := by
    rw [String.toList_append]
    rfl
  intro current rest
  rw [spelled, List.append_assoc, List.cons_append]
  calc cut " | ".toList 0 .start current (' ' :: ("with".toList ++ (' ' :: text.toList ++ rest)))
    _ = cut " | ".toList 0 .start (' ' :: current)
          ("with".toList ++ (' ' :: text.toList ++ rest)) := cut_blank (by decide)
    _ = cut " | ".toList 0 .start ("with".toList.reverse ++ ' ' :: current)
          (' ' :: text.toList ++ rest) := word _ _
    _ = cut " | ".toList 0 .start (' ' :: ("with".toList.reverse ++ ' ' :: current))
          (text.toList ++ rest) := by
        rw [chars]
        exact cut_blank plain
    _ = cut " | ".toList 0 .start (text.toList.reverse
          ++ ' ' :: ("with".toList.reverse ++ ' ' :: current)) rest := h _ _
    _ = _ := by simp

/-- When looking for ` | `, a whole alternative is passed, its ` with ` included. -/
theorem Derives.passes_bar {text : String} (h : Derives .alternative text) :
    Passes " | ".toList .start text.toList .start := by
  cases h with
  | compound some each =>
    -- Both halves are needed at once: what a component starts with is asked at the blank before it.
    refine (closed_intercalate (p := fun text =>
      StartsPlain text ∧ Passes " | ".toList .start text.toList .start) ?_ some ?_).2
    · rintro left right ⟨plainL, hl⟩ ⟨plainR, hr⟩
      rw [String.append_assoc, String.toList_append]
      exact ⟨plainL.append _, hl.append (passes_with plainR hr)⟩
    · intro text ht
      have simple := each text ht
      exact ⟨simple.startsPlain, simple.passes (by decide) 0 (Or.inl rfl)⟩

/-- The alternatives of a union come back from its text. -/
theorem alternativesOf_union {alternatives : List String} (some : alternatives ≠ [])
    (each : ∀ text ∈ alternatives, Derives .alternative text) :
    alternativesOf (" | ".intercalate alternatives) = alternatives := by
  have blank : " | ".toList = ' ' :: "| ".toList := by decide
  exact cutAt_intercalate blank some fun text h => (each text h).passes_bar

/-! ## The alternatives of a type

With the two readings, types can be spoken of by what they read as. -/

/-- A type is the union of the alternatives that it reads as. So a text that is known to be a type
can be taken apart without knowing how it was made. -/
theorem IsType.spec {text : String} (h : IsType text) :
    alternativesOf text ≠ [] ∧ (∀ a ∈ alternativesOf text, Derives .alternative a)
      ∧ " | ".intercalate (alternativesOf text) = text := by
  cases h with
  | union some each =>
    rw [alternativesOf_union some each]
    exact ⟨some, each, rfl⟩

/-- A text of one alternative is that alternative. -/
theorem IsType.alternativesOf_eq_singleton {text : String} (h : IsType text)
    (one : (alternativesOf text).length = 1) : alternativesOf text = [text] := by
  obtain ⟨alternative, single⟩ := List.length_eq_one_iff.1 one
  have joined := h.spec.2.2
  rw [single, String.intercalate_singleton] at joined
  rw [single, joined]

/-- A simple type reads as itself alone. -/
theorem Derives.alternativesOf_eq_singleton {text : String} (h : Derives .simple text) :
    alternativesOf text = [text] := by
  have single : " | ".intercalate [text] = text := by simp
  have read := alternativesOf_union (List.cons_ne_nil text []) (by simpa using h.alternative)
  rwa [single] at read

/-- Joining by ` | ` puts the alternatives of both types in a row. -/
theorem IsType.alternativesOf_or {a b : String} (ha : IsType a) (hb : IsType b) :
    alternativesOf (a ++ " | " ++ b) = alternativesOf a ++ alternativesOf b := by
  obtain ⟨someA, eachA, joinA⟩ := ha.spec
  obtain ⟨someB, eachB, joinB⟩ := hb.spec
  have joined := String.intercalate_append_of_ne_nil (s := " | ") someA someB
  rw [joinA, joinB] at joined
  rw [← joined]
  exact alternativesOf_union (by simp [someA]) (List.forall_mem_append.2 ⟨eachA, eachB⟩)

/-- **Joining by ` with ` glues**: the alternatives of both types stay, except that the last of the
one and the first of the other are now one. -/
theorem IsType.alternativesOf_and {a b : String} (ha : IsType a) (hb : IsType b) :
    alternativesOf (a ++ " with " ++ b) = glue conjoin (alternativesOf a) (alternativesOf b) := by
  obtain ⟨someA, eachA, joinA⟩ := ha.spec
  obtain ⟨someB, eachB, joinB⟩ := hb.spec
  have joined := intercalate_glue someA someB
  rw [joinA, joinB] at joined
  rw [← joined]
  exact alternativesOf_union (glue_ne_nil someA) (forall_mem_glue derives_conjoin eachA eachB)

/-- The components of two alternatives that are made one are those of both. -/
theorem Derives.componentsOf_conjoin {a b : String} (ha : Derives .alternative a)
    (hb : Derives .alternative b) :
    componentsOf (conjoin a b) = componentsOf a ++ componentsOf b := by
  cases ha with
  | compound someA eachA =>
    cases hb with
    | compound someB eachB =>
      rw [conjoin, ← String.intercalate_append_of_ne_nil someA someB,
        componentsOf_compound someA eachA, componentsOf_compound someB eachB]
      exact componentsOf_compound (by simp [someA]) (List.forall_mem_append.2 ⟨eachA, eachB⟩)

theorem IsType.reading_ne_nil {text : String} (h : IsType text) : reading text ≠ [] := by
  rw [reading, Ne, List.map_eq_nil_iff]
  exact h.spec.1

/-- Readings are glued in the same way, by components. -/
theorem IsType.reading_and {a b : String} (ha : IsType a) (hb : IsType b) :
    reading (a ++ " with " ++ b) = glue (· ++ ·) (reading a) (reading b) := by
  rw [reading, ha.alternativesOf_and hb]
  exact map_glue fun x hx y hy => (ha.spec.2.1 x hx).componentsOf_conjoin (hb.spec.2.1 y hy)

/-- What reading gives for two joined types carries over to any number of them. It is stated for any
way of reading and any separator that types are closed under, and used for readings and for
alternatives. -/
theorem read_intercalate {α : Type} {read : String → α} {readAll : List α → α}
    {separator : String} (closed : ∀ {a b : String}, IsType a → IsType b →
      IsType (a ++ separator ++ b)) {join : α → α → α}
    (joined : ∀ {a b : String}, IsType a → IsType b →
      read (a ++ separator ++ b) = join (read a) (read b))
    (single : ∀ a, readAll [a] = a)
    (several : ∀ a b others, readAll (a :: b :: others) = join a (readAll (b :: others)))
    {texts : List String} (some : texts ≠ []) (each : ∀ text ∈ texts, IsType text) :
    read (separator.intercalate texts) = readAll (texts.map read) := by
  induction texts with
  | nil => exact absurd rfl some
  | cons text texts ih =>
    have others : ∀ other ∈ texts, IsType other :=
      fun other h => each other (List.mem_cons_of_mem _ h)
    cases texts with
    | nil => simp [single]
    | cons next texts =>
      have rest := ih (List.cons_ne_nil _ _) others
      have whole : IsType (separator.intercalate (next :: texts)) :=
        closed_intercalate closed (List.cons_ne_nil _ _) others
      rw [String.intercalate_cons_of_ne_nil (List.cons_ne_nil _ _),
        joined (each text (by simp)) whole, rest]
      exact (several _ _ _).symm

section Several

variable {texts : List String} (some : texts ≠ []) (each : ∀ text ∈ texts, IsType text)

include some each

/-- Any number of types joined by ` with ` read as their readings, glued where they meet. -/
theorem reading_intercalate :
    reading (" with ".intercalate texts) = glueAll (· ++ ·) (texts.map reading) :=
  read_intercalate IsType.and IsType.reading_and (fun _ => rfl) (fun _ _ _ => rfl) some each

theorem alternativesOf_intercalate_with :
    alternativesOf (" with ".intercalate texts) = glueAll conjoin (texts.map alternativesOf) :=
  read_intercalate IsType.and IsType.alternativesOf_and (fun _ => rfl) (fun _ _ _ => rfl) some each

theorem alternativesOf_intercalate_bar :
    alternativesOf (" | ".intercalate texts) = texts.flatMap alternativesOf := by
  rw [List.flatMap_def]
  exact read_intercalate IsType.or IsType.alternativesOf_or (fun _ => by simp) (fun _ _ _ => by simp)
    some each

end Several

end ScalaFacade.Scala
