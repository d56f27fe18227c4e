import Mathlib.Data.List.Basic
import Mathlib.Data.List.Pairwise
import ScalaFacade.Proofs.Facade.Components
import ScalaFacade.Proofs.Facade.Precedence

/-! # Which types read as clean unions

A text of types is clean if no alternative is read twice and null and undefined are not both read.
The rule for unions aims at that, but it looks at the texts of the members. A member that is a union
itself is one text to the rule and several alternatives to a reader, so what it shares with the
other members stays: `(null | A) | A | undefined` reads as `Null | A | A | Unit`.

`clean_criterion` says for all types what is read and when it is clean: always if no member of the
outermost union or intersection is read as several alternatives, and for unions in general exactly
if the components are clean and no alternative of one clashes with one of another.

Cleanness has two halves, and both are about pairs of alternatives that must not stand together
(`Clash`). Stated in that way it goes through a concatenation, where within and across are two
conditions (`clean_union_iff`).

Intersections are only described by what they read as. Their members are glued where they meet, so
an alternative of the whole need not be one of any member, and no criterion on members follows.
-/

set_option autoImplicit false

namespace ScalaFacade

open Scala

namespace Scala

/-- A text reads as different alternatives, and null and undefined are not both among them. -/
structure Clean (text : String) : Prop where
  distinct : (alternativesOf text).Nodup
  either : ¬(null ∈ alternativesOf text ∧ unit ∈ alternativesOf text)

/-- Two alternatives that should not stand side by side. -/
def Clash (a b : String) : Prop := a = b ∨ a = null ∧ b = unit ∨ a = unit ∧ b = null

/-- No alternative of one text clashes with one of the other. -/
def Apart (first second : String) : Prop :=
  ∀ a ∈ alternativesOf first, ∀ b ∈ alternativesOf second, ¬Clash a b

instance (a b : String) : Decidable (Clash a b) :=
  inferInstanceAs (Decidable (a = b ∨ a = null ∧ b = unit ∨ a = unit ∧ b = null))

instance (first second : String) : Decidable (Apart first second) :=
  inferInstanceAs (Decidable (∀ a ∈ alternativesOf first, ∀ b ∈ alternativesOf second, ¬Clash a b))

theorem Clash.symm {a b : String} (h : Clash a b) : Clash b a := by
  rcases h with rfl | ⟨rfl, rfl⟩ | ⟨rfl, rfl⟩
  · exact .inl rfl
  · exact .inr (.inr ⟨rfl, rfl⟩)
  · exact .inr (.inl ⟨rfl, rfl⟩)

/-- Both halves of cleanness are about pairs of alternatives. -/
theorem clean_iff_pairwise {text : String} :
    Clean text ↔ (alternativesOf text).Pairwise fun a b => ¬Clash a b := by
  constructor
  · rintro ⟨distinct, either⟩
    refine distinct.imp_of_mem fun ha hb ne => ?_
    rintro (same | ⟨rfl, rfl⟩ | ⟨rfl, rfl⟩)
    · exact ne same
    · exact either ⟨ha, hb⟩
    · exact either ⟨hb, ha⟩
  · intro apart
    refine ⟨apart.imp fun free same => free (.inl same), fun ⟨hnull, hunit⟩ => ?_⟩
    have symmetric : Std.Symm fun a b => ¬Clash a b := ⟨fun a b free clash => free clash.symm⟩
    exact apart.forall hnull hunit (by decide) (.inr (.inl ⟨rfl, rfl⟩))

theorem clean_of_length_eq_one {text : String} (one : (alternativesOf text).length = 1) :
    Clean text := by
  obtain ⟨alternative, single⟩ := List.length_eq_one_iff.1 one
  rw [clean_iff_pairwise, single]
  exact List.pairwise_singleton _ _

end Scala

/-! ## What is read

The texts that are joined are types, so reading the joined text is reading each of them. This needs
names without backticks, as all reading does. -/

section

variable {members : List TypeNode}

theorem isType_unionComponents (free : BacktickFree (TypeNode.union members).names) :
    unionComponents members ≠ [] ∧ ∀ text ∈ unionComponents members, IsType text := by
  by_cases none : members = []
  · subst none
    exact ⟨List.cons_ne_nil _ _, by simpa [unionComponents] using isType_any⟩
  · rw [← entries_alternatives none]
    refine alternatives_entries ?_ (isType_scalaTypes members free)
    rw [scalaTypes_eq_map]
    simpa using none

theorem isType_intersectionComponents (free : BacktickFree (TypeNode.intersection members).names) :
    intersectionComponents members ≠ [] ∧
      ∀ text ∈ intersectionComponents members, IsType text := by
  by_cases none : members = []
  · subst none
    exact ⟨List.cons_ne_nil _ _, by simpa [intersectionComponents] using isType_any⟩
  · have same : intersectionComponents members = joinedTexts members := by
      rw [intersectionComponents, if_neg (by simpa using none), joinedTexts,
        OrderedSet.entries_ofList_eq, memberTypes]
    rw [same]
    exact ⟨joinedTexts_ne_nil none, isType_joinedTexts free⟩

/-- A union reads as what its components read as, in a row. -/
theorem alternativesOf_scala_union (free : BacktickFree (TypeNode.union members).names) :
    alternativesOf (TypeNode.union members).scala =
      (unionComponents members).flatMap alternativesOf := by
  obtain ⟨some, each⟩ := isType_unionComponents free
  rw [scala_union_eq]
  exact alternativesOf_intercalate_bar some each

/-- An intersection reads as what its components read as, glued at the seams. -/
theorem alternativesOf_scala_intersection
    (free : BacktickFree (TypeNode.intersection members).names) :
    alternativesOf (TypeNode.intersection members).scala =
      glueAll conjoin ((intersectionComponents members).map alternativesOf) := by
  obtain ⟨some, each⟩ := isType_intersectionComponents free
  rw [scala_intersection_eq]
  exact alternativesOf_intercalate_with some each

/-- A union is clean exactly if its components are and nothing clashes between them. -/
theorem clean_union_iff (free : BacktickFree (TypeNode.union members).names) :
    Clean (TypeNode.union members).scala ↔ (∀ text ∈ unionComponents members, Clean text) ∧
      (unionComponents members).Pairwise Apart := by
  simp only [clean_iff_pairwise, alternativesOf_scala_union free, List.pairwise_flatMap]
  rfl

/-! ## Unions of single alternatives

Here what the rule keeps apart is what is read apart. -/

/-- A component is the text of a member, or one of the two texts that the rule brings in. -/
theorem mem_unionComponents {text : String} (h : text ∈ unionComponents members) :
    text = any ∨ text = string ∨ ∃ member ∈ members, member.scala = text := by
  have of_types : text ∈ memberTypes members → ∃ member ∈ members, member.scala = text := by
    rw [memberTypes, List.mem_eraseDups, List.mem_map]
    exact id
  unfold unionComponents at h
  dsimp only at h
  split at h
  · exact .inl (List.mem_singleton.1 h)
  split at h
  · split at h
    · exact .inr (.inr (of_types (List.mem_filter.1 h).1))
    · rcases List.mem_append.1 h with h | h
      · exact .inr (.inr (of_types (List.mem_filter.1 h).1))
      · exact .inl (List.mem_singleton.1 h)
  split at h
  · rcases List.mem_cons.1 h with rfl | h
    · exact .inr (.inl rfl)
    · exact .inr (.inr (of_types (List.mem_filter.1 h).1))
  · exact .inr (.inr (of_types h))

/-- The rule keeps null and undefined apart among the components. -/
theorem not_null_and_unit_mem (members : List TypeNode) :
    ¬(null ∈ unionComponents members ∧ unit ∈ unionComponents members) := by
  unfold unionComponents
  dsimp only
  split
  · decide
  split
  · split
    · simp
    · simp [any, null]
  -- The components are among the texts of the members, apart from that of strings.
  next apart =>
  split
  · intro both
    simp only [List.mem_cons, List.mem_filter] at both
    refine apart ⟨?_, ?_⟩
    · exact (both.1.resolve_left (by decide)).1
    · exact (both.2.resolve_left (by decide)).1
  · exact apart

/-- If each member reads as one alternative, the components are what the union reads as. -/
theorem clean_union_of_single (free : BacktickFree (TypeNode.union members).names)
    (single : ∀ member ∈ members, (alternativesOf member.scala).length = 1) :
    Clean (TypeNode.union members).scala := by
  have one : ∀ text ∈ unionComponents members, alternativesOf text = [text] := by
    intro text h
    refine ((isType_unionComponents free).2 text h).alternativesOf_eq_singleton ?_
    rcases mem_unionComponents h with rfl | rfl | ⟨member, among, rfl⟩
    · decide
    · decide
    · exact single member among
  have read : alternativesOf (TypeNode.union members).scala = unionComponents members := by
    rw [alternativesOf_scala_union free, List.flatMap_congr one, List.flatMap_singleton']
  refine ⟨?_, ?_⟩
  · rw [read]
    exact nodup_unionComponents members
  · rw [read]
    exact not_null_and_unit_mem members

/-- An intersection of single alternatives is a single alternative, and that is clean. -/
theorem clean_intersection_of_single (free : BacktickFree (TypeNode.intersection members).names)
    (single : ∀ member ∈ members, (alternativesOf member.scala).length = 1) :
    Clean (TypeNode.intersection members).scala := by
  refine clean_of_length_eq_one ?_
  have counted (text : String) : (reading text).length = (alternativesOf text).length :=
    List.length_map _
  rw [← counted, length_reading_intersection free]
  intro member among
  rw [counted]
  exact single member among

end

/-! ## All types

Any type is a union, an intersection or simple once its parentheses are off, and a simple one reads
as one alternative. -/

namespace TypeNode

/-- Parentheses are not written, so a type may be taken without them. -/
theorem scala_unparenthesized (type : TypeNode) : type.unparenthesized.scala = type.scala := by
  fun_induction unparenthesized type with
  | case1 inner ih => rw [ih, TypeNode.scala]
  | case2 => rfl

/-- The members of the outermost union or intersection, parentheses aside. -/
def joined (type : TypeNode) : List TypeNode :=
  match type.unparenthesized with
  | .union members => members
  | .intersection members => members
  | _ => []

/-- A type joins the members of a union or of an intersection, or it is a simple one. -/
theorem scala_cases {type : TypeNode} (free : BacktickFree type.names) :
    (∃ members, type.unparenthesized = .union members) ∨
      (∃ members, type.unparenthesized = .intersection members) ∨ Derives .simple type.scala := by
  rw [← names_unparenthesized] at free
  rw [← scala_unparenthesized]
  have bare : ∀ inner, type.unparenthesized ≠ .parenthesized inner := by
    fun_induction unparenthesized type with
    | case1 inner ih => exact ih free
    | case2 type bare => exact fun inner same => bare inner same
  cases shape : type.unparenthesized with
  | union members => exact .inl ⟨members, rfl⟩
  | intersection members => exact .inr (.inl ⟨members, rfl⟩)
  | parenthesized inner => exact absurd shape (bare inner)
  | keyword word => exact .inr (.inr word.simple_scala)
  | literal found => exact .inr (.inr found.simple_scala)
  | operator word operand => exact .inr (.inr word.simple_scala)
  | object members => exact .inr (.inr (simple_builtin (by simp [builtinNames, TypeNode.scala])))
  | other => exact .inr (.inr (simple_builtin (by simp [builtinNames, TypeNode.scala])))
  | array element =>
    rw [shape, names] at free
    exact .inr (.inr (simple_applied qualifiedName_array (by simp)
      (by simpa using element.isType_scala free)))
  | reference name arguments =>
    rw [shape, names, backtickFree_cons] at free
    exact .inr (.inr (simple_referenceText free.1 (isType_scalaTypes arguments free.2)))
  | function typeParameters parameters result =>
    rw [shape, names, backtickFree_append] at free
    exact .inr (.inr (simple_functionText (isType_parameterTypes parameters free.1)
      (isType_scalaTypeOr isType_unit result free.2)))

end TypeNode

/-- **Which types read as clean unions.** A type does if no member of its outermost union or
intersection, parentheses aside, reads as several alternatives. In general a union reads as its
components do, in a row, and is clean exactly if all of them are clean and no alternative of one
clashes with one of another; an intersection reads as its components do, glued where they meet. -/
theorem clean_criterion {type : TypeNode} (free : BacktickFree type.names) :
    ((∀ member ∈ type.joined, (alternativesOf member.scala).length = 1) → Clean type.scala) ∧
    (∀ members, type.unparenthesized = .union members →
      alternativesOf type.scala = (unionComponents members).flatMap alternativesOf ∧
      (Clean type.scala ↔ (∀ text ∈ unionComponents members, Clean text) ∧
        (unionComponents members).Pairwise Apart)) ∧
    ∀ members, type.unparenthesized = .intersection members →
      alternativesOf type.scala =
        glueAll conjoin ((intersectionComponents members).map alternativesOf) := by
  have outermost {shape : TypeNode} (is : type.unparenthesized = shape) :
      BacktickFree shape.names ∧ type.scala = shape.scala := by
    rw [← is, type.names_unparenthesized, type.scala_unparenthesized]
    exact ⟨free, rfl⟩
  refine ⟨fun single => ?_, fun members shape => ?_, fun members shape => ?_⟩
  · rcases type.scala_cases free with ⟨members, shape⟩ | ⟨members, shape⟩ | simple
    · rw [TypeNode.joined, shape] at single
      rw [(outermost shape).2]
      exact clean_union_of_single (outermost shape).1 single
    · rw [TypeNode.joined, shape] at single
      rw [(outermost shape).2]
      exact clean_intersection_of_single (outermost shape).1 single
    · refine clean_of_length_eq_one ?_
      rw [simple.alternativesOf_eq_singleton, List.length_singleton]
  · rw [(outermost shape).2]
    exact ⟨alternativesOf_scala_union (outermost shape).1, clean_union_iff (outermost shape).1⟩
  · rw [(outermost shape).2]
    exact alternativesOf_scala_intersection (outermost shape).1

/-- The members of `(null | A) | A | undefined`. -/
def nestedMembers : List TypeNode :=
  [.parenthesized (.union [.keyword .null, .reference "A" []]), .reference "A" [],
    .keyword .undefined]

/-- The members of `A | (A & B) | null`. -/
def flatMembers : List TypeNode :=
  [.reference "A" [], .parenthesized (.intersection [.reference "A" [], .reference "B" []]),
    .keyword .null]

theorem clean_criterion_nested :
    BacktickFree (TypeNode.union nestedMembers).names ∧
    ¬Clean (TypeNode.union nestedMembers).scala ∧
    BacktickFree (TypeNode.union flatMembers).names ∧
    (TypeNode.union flatMembers).scala = "A | A with B | Null" ∧
    Clean (TypeNode.union flatMembers).scala := by
  have nested : BacktickFree (TypeNode.union nestedMembers).names := by decide
  have flat : BacktickFree (TypeNode.union flatMembers).names := by decide
  have single : ∀ member ∈ flatMembers, (alternativesOf member.scala).length = 1 := by
    decide +kernel
  have clash : ¬(unionComponents nestedMembers).Pairwise Apart := by decide +kernel
  obtain ⟨-, union, -⟩ := clean_criterion nested
  refine ⟨nested, fun clean => ?_, flat, by decide, (clean_criterion flat).1 single⟩
  exact clash ((union nestedMembers rfl).2.1 clean).2

/-- **Not every union reads as a clean one**: what a member that is a union itself shares with the
other members is read twice, and its null is read beside their undefined. -/
theorem nested_union_unclean :
    BacktickFree (TypeNode.union nestedMembers).names ∧
    (TypeNode.union nestedMembers).scala = "Null | A | A | Unit" ∧
    ¬(alternativesOf (TypeNode.union nestedMembers).scala).Nodup ∧
    null ∈ alternativesOf (TypeNode.union nestedMembers).scala ∧
    unit ∈ alternativesOf (TypeNode.union nestedMembers).scala := by
  decide +kernel

end ScalaFacade
