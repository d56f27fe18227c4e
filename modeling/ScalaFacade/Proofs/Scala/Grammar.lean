import ScalaFacade.Scala.Builtin
import ScalaFacade.Scala.Name
import ScalaFacade.Text.Segment

/-! # The language of types and definitions

The fragment of Scala that a facade is written in, as a grammar over texts:

    type        = alternative (" | " alternative)*
    alternative = simple (" with " simple)*
    simple      = "this.type" | name ["[" argument (", " argument)* "]"]
    argument    = type | "_ <: " type
    name        = identifier ("." identifier)*

An identifier is a plain one that is not reserved, or anything without a backtick between backticks.
There are no parentheses around types: whatever is joined is joined by the two operators alone. So
the language is closed under both (`IsType.or`, `IsType.and`), although joining by ` with ` takes
the last alternative of one type and the first of the other out of their unions (`glue`).

The grammar does not look at how texts are made. That the types and lines of a facade are written in
it is the subject of `Proofs/Facade/Language.lean`, and that it has one reading that of
`Proofs/Scala/Reading.lean`. It is a fragment: what the rest of Scala would make of these texts is
not modelled.
-/

set_option autoImplicit false

namespace ScalaFacade.Scala

/-! ## Names

A dotted name is a list of identifiers, each of which may be quoted on its own. -/

/-- An identifier as it is written. -/
inductive Identifier : String → Prop where
  | plain {name : String} (identifier : Name.isIdentifier name = true)
      (free : Name.isReserved name = false) : Identifier name
  | quoted {name : String} (free : '`' ∉ name.toList) : Identifier (Name.quote name)

/-- A dotted name. -/
inductive QualifiedName : String → Prop where
  | dotted {segments : List String} (some : segments ≠ [])
      (each : ∀ segment ∈ segments, Identifier segment) :
      QualifiedName (".".intercalate segments)

/-- A name is written as an identifier, whatever its characters are, unless it has a backtick. -/
theorem identifier_escape {name : String} (free : '`' ∉ name.toList) :
    Identifier (Name.escape name) := by
  unfold Name.escape
  split
  · exact .quoted free
  · rename_i h
    simp only [Bool.or_eq_true, Bool.not_eq_true', not_or, Bool.not_eq_true,
      Bool.not_eq_false] at h
    exact .plain h.2 h.1

/-- A name whose segments are all plain and not reserved. For a name that is fixed both can be
computed, so this is how the builtin names come into the grammar. -/
theorem qualifiedName_of_plain {name : String}
    (plain : ∀ segment ∈ Text.split '.' name,
      Name.isIdentifier segment = true ∧ Name.isReserved segment = false) :
    QualifiedName name := by
  have joined : ".".intercalate (Text.split '.' name) = name := Text.intercalate_split '.' name
  rw [← joined]
  refine .dotted (Text.split_ne_nil _ _) fun segment h => ?_
  obtain ⟨identifier, free⟩ := plain segment h
  exact .plain identifier free

/-- A dotted name is written segment by segment. -/
theorem qualifiedName_escape {name : String} (free : '`' ∉ name.toList) :
    QualifiedName (".".intercalate ((Text.split '.' name).map Name.escape)) := by
  refine .dotted (by simp [Text.split_ne_nil]) fun text h => ?_
  obtain ⟨segment, hsegment, rfl⟩ := List.mem_map.1 h
  exact identifier_escape fun hc => free (Text.mem_of_mem_split hsegment hc)

/-! ## Types

One relation for all sorts of phrases, so that an induction goes through all of them at once. -/

/-- The sorts of phrases that types are made of. -/
inductive Phrase where
  | type
  | alternative
  | simple
  | argument
deriving DecidableEq

/-- The texts of a sort. -/
inductive Derives : Phrase → String → Prop where
  | union {alternatives : List String} (some : alternatives ≠ [])
      (each : ∀ text ∈ alternatives, Derives .alternative text) :
      Derives .type (" | ".intercalate alternatives)
  | compound {components : List String} (some : components ≠ [])
      (each : ∀ text ∈ components, Derives .simple text) :
      Derives .alternative (" with ".intercalate components)
  | this : Derives .simple "this.type"
  | named {name : String} (qualified : QualifiedName name) : Derives .simple name
  | applied {name : String} {arguments : List String} (qualified : QualifiedName name)
      (some : arguments ≠ []) (each : ∀ text ∈ arguments, Derives .argument text) :
      Derives .simple (name ++ "[" ++ ", ".intercalate arguments ++ "]")
  | exact {type : String} (h : Derives .type type) : Derives .argument type
  | bounded {type : String} (h : Derives .type type) : Derives .argument ("_ <: " ++ type)

/-- The texts of types. -/
abbrev IsType (text : String) : Prop := Derives .type text

/-- A simple type is an alternative of one component. -/
theorem Derives.alternative {text : String} (h : Derives .simple text) :
    Derives .alternative text := by
  have single : " with ".intercalate [text] = text := by simp
  exact single ▸ .compound (by simp) (by simpa using h)

/-- An alternative is a union of one. -/
theorem Derives.type {text : String} (h : Derives .alternative text) : IsType text := by
  have single : " | ".intercalate [text] = text := by simp
  exact single ▸ .union (by simp) (by simpa using h)

/-! ## Joining types

By ` | ` lists of alternatives are put in a row. By ` with ` they are glued: what stands next to the
seam becomes one alternative. -/

/-- Two alternatives as one. -/
def conjoin (a b : String) : String := a ++ " with " ++ b

theorem derives_conjoin {a b : String} (ha : Derives .alternative a)
    (hb : Derives .alternative b) : Derives .alternative (conjoin a b) := by
  cases ha with
  | compound someA eachA =>
    cases hb with
    | compound someB eachB =>
      rw [conjoin, ← String.intercalate_append_of_ne_nil someA someB]
      exact .compound (by simp [someA]) (List.forall_mem_append.2 ⟨eachA, eachB⟩)

/-- Types are closed under union: the alternatives of both are put in a row. -/
theorem IsType.or {a b : String} (ha : IsType a) (hb : IsType b) : IsType (a ++ " | " ++ b) := by
  cases ha with
  | union someA eachA =>
    cases hb with
    | union someB eachB =>
      rw [← String.intercalate_append_of_ne_nil someA someB]
      exact .union (by simp [someA]) (List.forall_mem_append.2 ⟨eachA, eachB⟩)

/-- Two lists in a row, with the last of the one and the first of the other made one. This is what
becomes of the alternatives of two types that are joined by ` with `. -/
def glue {α : Type} (join : α → α → α) : List α → List α → List α
  | [], bs => bs
  | [a], [] => [a]
  | [a], b :: bs => join a b :: bs
  | a :: a' :: as, bs => a :: glue join (a' :: as) bs

section Glue

variable {α : Type} {join : α → α → α} {as bs : List α}

theorem glue_ne_nil (h : as ≠ []) : glue join as bs ≠ [] := by
  fun_cases glue join as bs with
  | case1 => exact absurd rfl h
  | case2 | case3 | case4 => exact List.cons_ne_nil _ _

/-- One seam makes two elements one. -/
theorem length_glue (ha : as ≠ []) (hb : bs ≠ []) :
    (glue join as bs).length + 1 = as.length + bs.length := by
  fun_induction glue join as bs with
  | case1 => exact absurd rfl ha
  | case2 => exact absurd rfl hb
  | case3 a b bs =>
    simp only [List.length_cons, List.length_nil]
    omega
  | case4 a a' as bs ih =>
    have rest := ih (List.cons_ne_nil _ _) hb
    simp only [List.length_cons] at rest ⊢
    omega

/-- Gluing commutes with a map that takes one way of joining to the other. -/
theorem map_glue {β : Type} {f : α → β} {join' : β → β → β}
    (h : ∀ a ∈ as, ∀ b ∈ bs, f (join a b) = join' (f a) (f b)) :
    (glue join as bs).map f = glue join' (as.map f) (bs.map f) := by
  fun_induction glue join as bs with
  | case1 | case2 => rfl
  | case3 a b bs =>
    rw [List.map_cons, h a (by simp) b (by simp)]
    rfl
  | case4 a a' as bs ih =>
    rw [List.map_cons, ih fun x hx => h x (List.mem_cons_of_mem _ hx)]
    rfl

/-- A property of all elements that `join` keeps is kept. -/
theorem forall_mem_glue {p : α → Prop} (kept : ∀ {a b : α}, p a → p b → p (join a b))
    (ha : ∀ a ∈ as, p a) (hb : ∀ b ∈ bs, p b) : ∀ c ∈ glue join as bs, p c := by
  fun_induction glue join as bs with
  | case1 => exact hb
  | case2 => exact ha
  | case3 a b bs =>
    intro c hc
    rcases List.mem_cons.1 hc with rfl | hc
    · exact kept (ha a (by simp)) (hb b (by simp))
    · exact hb c (by simp [hc])
  | case4 a a' as bs ih =>
    intro c hc
    rcases List.mem_cons.1 hc with rfl | hc
    · exact ha c (by simp)
    · exact ih (fun x hx => ha x (List.mem_cons_of_mem _ hx)) hb c hc

/-- Any number of lists in a row, glued where they meet. -/
def glueAll (join : α → α → α) : List (List α) → List α
  | [] => []
  | [as] => as
  | as :: bs :: lists => glue join as (glueAll join (bs :: lists))

theorem glueAll_ne_nil {lists : List (List α)} (some : lists ≠ [])
    (each : ∀ as ∈ lists, as ≠ []) : glueAll join lists ≠ [] := by
  fun_cases glueAll join lists with
  | case1 => exact absurd rfl some
  | case2 as => exact each as (by simp)
  | case3 as bs lists => exact glue_ne_nil (each as (by simp))

/-- Every seam makes two elements one, and there is one seam less than there are lists. -/
theorem length_glueAll {lists : List (List α)} (some : lists ≠ [])
    (each : ∀ as ∈ lists, as ≠ []) :
    (glueAll join lists).length + lists.length = lists.flatten.length + 1 := by
  fun_induction glueAll join lists with
  | case1 => exact absurd rfl some
  | case2 as => simp
  | case3 as bs lists ih =>
    have others : ∀ cs ∈ bs :: lists, cs ≠ [] := fun cs h => each cs (List.mem_cons_of_mem _ h)
    have rest := ih (List.cons_ne_nil _ _) others
    have seam : (glue join as (glueAll join (bs :: lists))).length + 1 = _ :=
      length_glue (each as (by simp)) (glueAll_ne_nil (List.cons_ne_nil _ _) others)
    rw [List.flatten_cons, List.length_append, List.length_cons]
    omega

/-- Only lists of one element each are glued to a list of one element: from a longer one something
is left on one side of a seam. -/
theorem length_glueAll_eq_one {lists : List (List α)} (some : lists ≠ [])
    (each : ∀ as ∈ lists, as ≠ []) :
    (glueAll join lists).length = 1 ↔ ∀ as ∈ lists, as.length = 1 := by
  fun_induction glueAll join lists with
  | case1 => exact absurd rfl some
  | case2 as => simp
  | case3 as bs lists ih =>
    have others : ∀ cs ∈ bs :: lists, cs ≠ [] := fun cs h => each cs (List.mem_cons_of_mem _ h)
    have first : as ≠ [] := each as (by simp)
    have rest : glueAll join (bs :: lists) ≠ [] := glueAll_ne_nil (List.cons_ne_nil _ _) others
    have seam : (glue join as (glueAll join (bs :: lists))).length + 1 = _ := length_glue first rest
    have positive := List.length_pos_iff.2 first
    have positive' := List.length_pos_iff.2 rest
    rw [List.forall_mem_cons, ← ih (List.cons_ne_nil _ _) others]
    omega

end Glue

/-- Joining two joined texts by ` with ` is joining the glued list. The induction is on the first
list; only at its end does the seam come up. -/
theorem intercalate_glue {as bs : List String} (ha : as ≠ []) (hb : bs ≠ []) :
    " | ".intercalate (glue conjoin as bs)
      = " | ".intercalate as ++ " with " ++ " | ".intercalate bs := by
  fun_induction glue conjoin as bs with
  | case1 => exact absurd rfl ha
  | case2 => exact absurd rfl hb
  | case3 a b bs => cases bs <;> simp [conjoin, String.append_assoc]
  | case4 a a' as bs ih =>
    have rest := ih (List.cons_ne_nil _ _) hb
    rw [String.intercalate_cons_of_ne_nil (glue_ne_nil (List.cons_ne_nil _ _)), rest,
      String.intercalate_cons_cons]
    simp only [String.append_assoc]

/-- Types are closed under ` with `. It does not join the two types as wholes, since it binds
tighter than ` | `: both unions are torn at the seam, and what is glued there is an alternative
again. -/
theorem IsType.and {a b : String} (ha : IsType a) (hb : IsType b) :
    IsType (a ++ " with " ++ b) := by
  cases ha with
  | union someA eachA =>
    cases hb with
    | union someB eachB =>
      rw [← intercalate_glue someA someB]
      exact .union (glue_ne_nil someA) (forall_mem_glue derives_conjoin eachA eachB)

/-- What is closed under joining two texts is closed under joining any number of them. -/
theorem closed_intercalate {p : String → Prop} {separator : String}
    (closed : ∀ {a b : String}, p a → p b → p (a ++ separator ++ b)) {texts : List String}
    (some : texts ≠ []) (each : ∀ text ∈ texts, p text) : p (separator.intercalate texts) := by
  induction texts with
  | nil => exact absurd rfl some
  | cons text texts ih =>
    have first : p text := each text (by simp)
    have rest : ∀ other ∈ texts, p other := fun other h => each other (List.mem_cons_of_mem _ h)
    by_cases last : texts = []
    · simpa [last] using first
    · rw [String.intercalate_cons_of_ne_nil last]
      exact closed first (ih last rest)

/-- Texts that are not empty do not become empty by joining them. -/
theorem intercalate_ne_empty {separator : String} {texts : List String} (some : texts ≠ [])
    (each : ∀ text ∈ texts, text ≠ "") : separator.intercalate texts ≠ "" := by
  refine closed_intercalate (p := fun text => text ≠ "") ?_ some each
  intro left right nonempty _
  simp [String.append_eq_empty_iff, nonempty]

/-! ## Definitions

One line of a facade's body: an annotation, or a definition that may be marked as native. -/

/-- A type parameter, with or without a bound. -/
inductive IsTypeParameter : String → Prop where
  | free {name : String} (h : Identifier name) : IsTypeParameter name
  | bounded {name bound : String} (h : Identifier name) (type : IsType bound) :
      IsTypeParameter (name ++ " <: " ++ bound)

/-- Type parameters in brackets, or nothing. -/
inductive IsTypeParameterList : String → Prop where
  | absent : IsTypeParameterList ""
  | present {parameters : List String} (some : parameters ≠ [])
      (each : ∀ text ∈ parameters, IsTypeParameter text) :
      IsTypeParameterList ("[" ++ ", ".intercalate parameters ++ "]")

/-- A parameter: a required one, one that takes the rest of the arguments, or one with a default. -/
inductive IsParameter : String → Prop where
  | required {name type : String} (h : Identifier name) (isType : IsType type) :
      IsParameter (name ++ ": " ++ type)
  | rest {name type : String} (h : Identifier name) (isType : IsType type) :
      IsParameter (name ++ ": " ++ type ++ "*")
  | optional {name type : String} (h : Identifier name) (isType : IsType type) :
      IsParameter (name ++ ": " ++ type ++ " = ???")

inductive IsDefinition : String → Prop where
  | var {name type : String} (h : Identifier name) (isType : IsType type) :
      IsDefinition ("var " ++ name ++ ": " ++ type)
  | val {name type : String} (h : Identifier name) (isType : IsType type) :
      IsDefinition ("val " ++ name ++ ": " ++ type)
  | type {name typeParameters type : String} (h : Identifier name)
      (parametric : IsTypeParameterList typeParameters) (isType : IsType type) :
      IsDefinition ("type " ++ name ++ typeParameters ++ " = " ++ type)
  | function {name typeParameters result : String} {parameters : List String} (h : Identifier name)
      (parametric : IsTypeParameterList typeParameters)
      (each : ∀ text ∈ parameters, IsParameter text) (isType : IsType result) :
      IsDefinition ("def " ++ name ++ typeParameters ++ "(" ++ ", ".intercalate parameters ++ "): "
        ++ result)

/-- A line in the body of a class, trait or object. -/
inductive IsLine : String → Prop where
  | bracketAccess : IsLine "@JSBracketAccess"
  | declared {text : String} (h : IsDefinition text) : IsLine text
  | native {text : String} (h : IsDefinition text) : IsLine (text ++ " = js.native")

end ScalaFacade.Scala
