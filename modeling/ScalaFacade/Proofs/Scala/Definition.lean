import Mathlib.Data.List.Nodup
import ScalaFacade.Proofs.Scala.Reading

/-! # Definitions with parameters

The line of a definition, taken apart: a name, type parameters, parameters and a result. What the
parameters are called can be seen in two ways. As the line is put together, every parameter has a
name, which is written as names are (`Definition.identifiers`). As the line is read, the names stand
between the first parenthesis and the one that closes it, in front of a colon each (`parametersOf`).
For the definitions of the grammar both come to the same (`Definition.Readable.parametersOf_text`).

A line is read by three cuts: at the first parenthesis, at the one that closes it and at the commas
between. Parentheses and commas can also stand inside brackets or backticks, where they do not
count. So each part of a definition is shown to be *passed* by every separator in question, and the
cuts then find exactly what was joined.

The first fact, that different names stay different when written, needs none of this and no
condition on names (`Definition.nodup_identifiers`).
-/

set_option autoImplicit false

namespace ScalaFacade.Scala

/-- A definition with parameters. A parameter is its name and what follows the colon. -/
structure Definition where
  name : String
  typeParameters : String := ""
  parameters : List (String × String)
  result : String

namespace Definition

/-- The names of the parameters. -/
def names (definition : Definition) : List String := definition.parameters.map Prod.fst

/-- The names of the parameters as they are written. -/
def identifiers (definition : Definition) : List String := definition.names.map Name.escape

/-- The parameters as they are written. -/
def parameterTexts (definition : Definition) : List String :=
  definition.parameters.map fun parameter => Name.escape parameter.1 ++ ": " ++ parameter.2

/-- The line of a definition. -/
def text (definition : Definition) : String :=
  "def " ++ definition.name ++ definition.typeParameters ++ "("
    ++ ", ".intercalate definition.parameterTexts ++ "): " ++ definition.result

/-- Writing keeps different names apart, whatever the names are. -/
theorem nodup_identifiers (definition : Definition) :
    definition.identifiers.Nodup ↔ definition.names.Nodup :=
  List.nodup_map_iff fun _ _ => Name.escape_inj.1

/-- Every definition starts with the same word, by which it is told from other lines. -/
theorem wordOf_text (definition : Definition) : wordOf definition.text = "def" := by
  have start : definition.text = "def" ++ " " ++ (definition.name ++ definition.typeParameters
      ++ "(" ++ ", ".intercalate definition.parameterTexts ++ "): " ++ definition.result) := by
    simp only [text, String.append_assoc]
    rfl
  rw [start]
  exact wordOf_append (by decide) _

end Definition

/-! ## Reading the parameters

How a reader finds the names, without knowing how the line was put together. -/

/-- What stands between the first parenthesis of a line and the one that closes it. -/
def parameterList (line : String) : String :=
  (cutAt ")" ((cutAt "(" line).getD 1 "")).headD ""

/-- The names of the parameters that a line declares. -/
def parametersOf (line : String) : List String :=
  if parameterList line = "" then [] else (cutAt ", " (parameterList line)).map nameAt

/-- What may follow a type at the end of a parameter or of a line. -/
def typeEndings : List String := ["", "*", " = ???", " = js.native"]

/-- A type with something behind it. -/
inductive IsAscription : String → Prop where
  | ending {type rest : String} (h : IsType type) (listed : rest ∈ typeEndings) :
      IsAscription (type ++ rest)

/-- A definition of the grammar. -/
structure Definition.Readable (definition : Definition) : Prop where
  name : Identifier definition.name
  typeParameters : IsTypeParameterList definition.typeParameters
  names : ∀ name ∈ definition.names, '`' ∉ name.toList
  annotations : ∀ parameter ∈ definition.parameters, IsAscription parameter.2
  result : IsAscription definition.result

/-! The parts of a definition are passed by every separator that does not start with a blank. -/

section Passing

variable {first : Char} {tail : List Char} (separating : first ∈ separators)

include separating

/-- The commas and blanks of type parameters stand inside brackets. -/
theorem IsTypeParameterList.passes {text : String} (h : IsTypeParameterList text) :
    Passes (first :: tail) .start text.toList .start := by
  cases h with
  | absent => exact passes_nil _
  | @present parameters some each =>
    have inside : ∀ text ∈ parameters,
        Passes (first :: tail) ⟨false, 1⟩ text.toList ⟨false, 1⟩ := by
      intro text ht
      cases each text ht with
      | free name => exact name.passes separating 1
      | bounded name bound =>
        rw [String.toList_append, String.toList_append]
        exact ((name.passes separating 1).append
          (passes_joint separating (by decide) (Or.inl Nat.one_pos))).append
            (bound.passes separating 1 (Or.inr (Or.inl Nat.one_pos)))
    have comma : Passes (first :: tail) ⟨false, 1⟩ ", ".toList ⟨false, 1⟩ :=
      passes_inert (by decide) (Or.inr Nat.one_pos)
    have whole : Passes (first :: tail) .start _ .start :=
      passes_bracketed separating (passes_intercalate comma some inside)
    simpa [String.toList_append] using whole

/-- A type and what ends it. There are blanks outside of brackets here, so a separator must not
start with one. -/
theorem IsAscription.passes (solid : first ≠ ' ') {text : String} (h : IsAscription text) :
    Passes (first :: tail) .start text.toList .start := by
  cases h with
  | ending isType listed =>
    have inert : ∀ rest ∈ typeEndings, rest.toList.all
        (fun c => !marks.contains c && (c == ' ' || !separators.contains c)) = true := by decide
    rw [String.toList_append]
    exact (isType.passes separating 0 (Or.inr (Or.inr solid))).append
      (passes_joint separating (inert _ listed) (Or.inr solid))

theorem Definition.Readable.passes_parameter (solid : first ≠ ' ') {definition : Definition}
    (h : definition.Readable) :
    ∀ text ∈ definition.parameterTexts, Passes (first :: tail) .start text.toList .start := by
  intro text ht
  obtain ⟨parameter, present, rfl⟩ := List.mem_map.1 ht
  have name := identifier_escape (h.names parameter.1 (List.mem_map_of_mem present))
  rw [String.toList_append, String.toList_append]
  exact ((name.passes separating 0).append
    (passes_joint separating (by decide) (Or.inr solid))).append
      ((h.annotations parameter present).passes separating solid)

end Passing

/-- A separator that is found in neither of two texts cuts their join in two. It is one character,
since that is all that a line of a definition is cut at outside of its parameters. -/
theorem cutAt_pair {separator a b : String} {first : Char} (chars : separator.toList = [first])
    (ha : Passes [first] .start a.toList .start) (hb : Passes [first] .start b.toList .start) :
    cutAt separator (a ++ separator ++ b) = [a, b] := by
  have pair := cutAt_intercalate chars (List.cons_ne_nil a [b]) (by simpa using ⟨ha, hb⟩)
  rwa [String.intercalate_cons_cons, String.intercalate_singleton] at pair

namespace Definition.Readable

variable {definition : Definition} (h : definition.Readable)

include h

/-- The parameters as a whole are passed by a separator of one character that is neither a blank nor
a comma: blanks and commas are what stands between them. -/
theorem passes_parameterTexts {first : Char} (separating : first ∈ separators)
    (solid : first ≠ ' ') (free : first ≠ ',') :
    Passes [first] .start (", ".intercalate definition.parameterTexts).toList .start := by
  cases texts : definition.parameterTexts with
  | nil => exact passes_nil _
  | cons text others =>
    have comma : Passes [first] ⟨false, 0⟩ ", ".toList ⟨false, 0⟩ :=
      passes_inert (by decide) (Or.inl (by simp [solid, free]))
    rw [← texts]
    exact passes_intercalate comma (by simp [texts]) (h.passes_parameter separating solid)

/-- The parameters stand between the parentheses. Both cuts give two parts: outside of brackets and
backticks, no other parenthesis opens in the line, and behind the first one no other closes. -/
theorem parameterList_text :
    parameterList definition.text = ", ".intercalate definition.parameterTexts := by
  have opening : '(' ∈ separators := by decide
  have closing : ')' ∈ separators := by decide
  have before : Passes ['('] .start
      ("def " ++ definition.name ++ definition.typeParameters).toList .start := by
    have word : Passes ['('] .start "def ".toList .start :=
      passes_joint opening (by decide) (Or.inr (by decide))
    rw [String.toList_append, String.toList_append]
    exact (word.append (h.name.passes opening 0)).append (h.typeParameters.passes opening)
  have result : ∀ first ∈ separators, first ≠ ' ' →
      Passes [first] .start (": " ++ definition.result).toList .start := by
    intro first separating solid
    rw [String.toList_append]
    exact (passes_joint separating (by decide) (Or.inr solid)).append
      (h.result.passes separating solid)
  have inside : Passes ['('] .start
      (", ".intercalate definition.parameterTexts ++ ")" ++ (": " ++ definition.result)).toList
      .start := by
    have close : Passes ['('] .start ")".toList .start := passes_char (Or.inl (by decide))
    rw [String.toList_append, String.toList_append]
    exact ((h.passes_parameterTexts opening (by decide) (by decide)).append close).append
      (result '(' opening (by decide))
  have whole : definition.text = "def " ++ definition.name ++ definition.typeParameters ++ "("
      ++ (", ".intercalate definition.parameterTexts ++ ")" ++ (": " ++ definition.result)) := by
    simp only [text, String.append_assoc]
    rfl
  -- Other parentheses are inside brackets or backticks, so both cuts leave exactly two parts.
  rw [parameterList, whole, cutAt_pair rfl before inside, List.getD_cons_succ, List.getD_cons_zero,
    cutAt_pair rfl (h.passes_parameterTexts closing (by decide) (by decide))
      (result ')' closing (by decide)), List.headD_cons]

/-- The names that are read are the names of the parameters. Without parameters there is nothing to
cut, and the list between the parentheses is empty; with one or more it is not, so the two cases are
told apart by the text. -/
theorem parametersOf_text : parametersOf definition.text = definition.names := by
  have names : definition.parameterTexts.map nameAt = definition.names := by
    rw [parameterTexts, Definition.names, List.map_map]
    refine List.map_congr_left fun parameter present => ?_
    have colon : EndsName ": " := by decide +kernel
    rw [Function.comp_apply, String.append_assoc]
    exact nameAt_escape (h.names parameter.1 (List.mem_map_of_mem present)) (colon.append nofun)
  rw [parametersOf, h.parameterList_text]
  by_cases none : definition.parameterTexts = []
  · rw [if_pos (by rw [none, String.intercalate_nil]), ← names, none, List.map_nil]
  · have some : ", ".intercalate definition.parameterTexts ≠ "" := by
      refine intercalate_ne_empty none fun text ht => ?_
      obtain ⟨parameter, -, rfl⟩ := List.mem_map.1 ht
      simp [String.append_eq_empty_iff]
    rw [if_neg some, cutAt_intercalate rfl none (h.passes_parameter (by decide) (by decide)), names]

end Definition.Readable

end ScalaFacade.Scala
