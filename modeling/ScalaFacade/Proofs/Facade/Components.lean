import ScalaFacade.Proofs.Facade.Language
import ScalaFacade.Proofs.OrderedSet

/-! # What unions and intersections are joined from

The text of a union is found along several ways: early answers for unions of literals of one sort,
and behind them three ways of collecting the texts of the members. All of them follow one rule
(`unionComponents`): the texts of the members, each once, are adjusted for null and undefined or for
string literals, and joined. That the text is the one of the rule is `scala_union_eq`; nothing below
it looks at the different ways again.

The rule looks at which texts there are and whether some member is a string literal. So a further
copy of a member changes nothing, and another order of the members gives the components in another
order. Both are read off the rule, and could not be read off the ways: an early answer, for one,
does not collect anything.

String literals are the one thing that the rule asks of a member besides its text. A member of type
`string` has the same text and does not bring it to the front. The literal is looked for behind
parentheses (`TypeNode.StringLiteral`), as everywhere.

The rule is about texts. A member that is a union itself has a text with several alternatives in it,
which the rule does not take apart; what is read from such a union is the subject of
`Proofs/Facade/Clean.lean`.
-/

set_option autoImplicit false

namespace ScalaFacade

open Scala

/-! ## Literals

What a literal of each sort is written as, whatever number of parentheses is around it. -/

namespace TypeNode

/-- A string literal behind any number of parentheses. -/
inductive StringLiteral : TypeNode → Prop where
  | bare (text : String) : StringLiteral (.literal ⟨.string, text⟩)
  | inParentheses {inner : TypeNode} (h : StringLiteral inner) :
      StringLiteral (.parenthesized inner)

/-- The test agrees with the relation, which is why the rule can be run. -/
theorem stringLiteral_iff {type : TypeNode} : type.isStringLiteral = true ↔ type.StringLiteral := by
  constructor
  · intro h
    -- The literal is looked for behind the parentheses, one pair after the other.
    fun_induction unparenthesized type with
    | case1 inner ih => exact .inParentheses (ih h)
    | case2 type bare =>
      cases type with
      | literal found =>
        obtain ⟨kind, text⟩ := found
        cases kind with
        | string => exact .bare text
        | number | boolean | other => cases h
      | parenthesized inner => exact absurd rfl (bare inner)
      | _ => cases h
  · intro h
    induction h with
    | bare text => rfl
    | inParentheses _ ih => exact ih

instance (type : TypeNode) : Decidable type.StringLiteral :=
  decidable_of_iff _ stringLiteral_iff

/-- Parentheses around a literal leave no trace. -/
theorem scala_of_literal? {type : TypeNode} {found : Literal} (h : type.literal? = some found) :
    type.scala = found.scala := by
  fun_induction unparenthesized type with
  | case1 inner ih => exact ih h
  | case2 type bare =>
    cases type with
    | literal literal =>
      cases h
      rfl
    | parenthesized inner => exact absurd rfl (bare inner)
    | _ => cases h

theorem scala_of_isStringLiteral {type : TypeNode} (h : type.isStringLiteral = true) :
    type.scala = string := by
  unfold isStringLiteral at h
  split at h
  · next found literal =>
    rw [scala_of_literal? literal, Literal.scala, eq_of_beq h]
  · cases h

theorem scala_of_isIntegralLiteral {type : TypeNode} (h : type.isIntegralLiteral = true) :
    type.scala = "Int" := by
  unfold isIntegralLiteral at h
  split at h
  · next found literal =>
    rw [Bool.and_eq_true, Bool.not_eq_true'] at h
    rw [scala_of_literal? literal, Literal.scala, eq_of_beq h.1, h.2]
    rfl
  · cases h

theorem scala_of_isFractionalLiteral {type : TypeNode} (h : type.isFractionalLiteral = true) :
    type.scala = "Double" := by
  unfold isFractionalLiteral at h
  split at h
  · next found literal =>
    rw [Bool.and_eq_true] at h
    rw [scala_of_literal? literal, Literal.scala, eq_of_beq h.1, h.2]
    rfl
  · cases h

end TypeNode

/-! ## Unions

First the collected texts, which follow the rule in every union that has members. -/

/-- The texts of the members of a union or an intersection, each once. -/
def memberTypes (members : List TypeNode) : List String := (members.map TypeNode.scala).eraseDups

/-- The texts that a union joins. Null and undefined together are given up for the type of
everything, and otherwise a string literal brings the type of strings to the front. -/
def unionComponents (members : List TypeNode) : List String :=
  let types := memberTypes members
  if members.isEmpty then [any]
  else if null ∈ types ∧ unit ∈ types then
    let others := types.filter fun text => text != null && text != unit
    if any ∈ others then others else others ++ [any]
  else if ∃ member ∈ members, member.StringLiteral then string :: types.filter (· != string)
  else types

/-- A member that is a string literal has no text but that of strings. -/
theorem filter_otherTypes (members : List TypeNode) :
    ((members.filter fun member => !member.isStringLiteral).map TypeNode.scala).filter
        (· != string) =
      (members.map TypeNode.scala).filter (· != string) := by
  rw [List.filter_map, List.filter_map, List.filter_filter]
  refine congrArg (List.map TypeNode.scala) (List.filter_congr fun member _ => ?_)
  cases literal : member.isStringLiteral with
  | true => simp [TypeNode.scala_of_isStringLiteral literal]
  | false => simp

/-- What the members of a union are collected to is given by the rule, also where it is not asked
for because there is an early answer. -/
theorem entries_alternatives {members : List TypeNode} (some : members ≠ []) :
    (alternatives members (scalaTypes members)).entries = unionComponents members := by
  have nonempty : members.isEmpty = false := by simpa using some
  have all : (OrderedSet.ofList (members.map TypeNode.scala)).entries = memberTypes members :=
    OrderedSet.entries_ofList_eq _
  have literal : members.any TypeNode.isStringLiteral = true ↔
      ∃ member ∈ members, member.StringLiteral := by
    simp only [List.any_eq_true, TypeNode.stringLiteral_iff]
  rw [alternatives, unionComponents, nonempty]
  dsimp only
  rw [otherTypes_eq, scalaTypes_eq_map]
  simp only [Bool.and_eq_true, OrderedSet.contains_ofList, all, literal, Bool.false_eq_true,
    if_false]
  -- Null and undefined at once, string literals among the members, or neither of the two.
  split
  · rw [OrderedSet.entries_insert (OrderedSet.coherent_filter _ _), OrderedSet.entries_filter]
    rfl
  split
  · have front : (OrderedSet.ofList [string]).entries = [string] := rfl
    have without (texts : List String) : texts.removeAll [string] = texts.filter (· != string) := by
      refine List.filter_congr fun text _ => ?_
      by_cases here : text = string <;> simp [here]
    rw [OrderedSet.entries_extend_eq (OrderedSet.coherent_ofList _), front, without,
      filter_otherTypes, ← filter_eraseDups]
    rfl
  · exact all

/-- No component is there twice: nothing is added that is there already. -/
theorem nodup_unionComponents (members : List TypeNode) : (unionComponents members).Nodup := by
  have distinct : (memberTypes members).Nodup := OrderedSet.nodup_eraseDups _
  unfold unionComponents
  dsimp only
  split
  · simp
  split
  · have others := distinct.filter fun text => text != null && text != unit
    split
    · exact others
    · rename_i absent
      refine List.nodup_append.2 ⟨others, by simp, fun text member last is => ?_⟩
      rintro rfl
      exact absent (List.mem_singleton.1 is ▸ member)
  split
  · exact List.nodup_cons.2 ⟨by simp, distinct.filter _⟩
  · exact distinct

/-! ## Early answers

Each early answer is the one component that the rule would give. -/

/-- Members that all have the same text are one component: a text alone cannot be both null and
undefined, and a string literal has the text of strings. -/
theorem unionComponents_of_all {members : List TypeNode} {sort : TypeNode → Bool} {text : String}
    (some : members ≠ []) (all : members.all sort = true)
    (typed : ∀ {type : TypeNode}, sort type = true → type.scala = text) :
    unionComponents members = [text] := by
  have same : ∀ member ∈ members, member.scala = text :=
    fun member among => typed (List.all_eq_true.1 all member among)
  have nonempty : members.isEmpty = false := by simpa using some
  have types : memberTypes members = [text] := by
    refine eraseDups_eq_singleton (by simpa using some) ?_
    simpa using same
  have either : ¬(null ∈ [text] ∧ unit ∈ [text]) := by
    simp only [List.mem_singleton]
    rintro ⟨rfl, h⟩
    exact absurd h (by decide)
  simp only [unionComponents, types, nonempty, Bool.false_eq_true, if_false, if_neg either]
  split
  · next literal =>
    obtain ⟨member, among, literal⟩ := literal
    have text_eq := TypeNode.scala_of_isStringLiteral (TypeNode.stringLiteral_iff.2 literal)
    rw [same member among] at text_eq
    simp [text_eq]
  · rfl

/-- The text of a union is that of the rule, whichever way it is found. -/
theorem scala_union_eq (members : List TypeNode) :
    (TypeNode.union members).scala = " | ".intercalate (unionComponents members) := by
  rw [TypeNode.scala, unionText]
  split
  · next empty =>
    rw [List.isEmpty_iff.1 empty]
    rfl
  next nonempty =>
  have some : members ≠ [] := by simpa using nonempty
  split
  · next all =>
    rw [unionComponents_of_all some all TypeNode.scala_of_isStringLiteral]
    rfl
  split
  · next all =>
    rw [unionComponents_of_all some all TypeNode.scala_of_isIntegralLiteral]
    rfl
  split
  · next all =>
    rw [unionComponents_of_all some all TypeNode.scala_of_isFractionalLiteral]
    rfl
  · rw [OrderedSet.join, entries_alternatives some]

/-- **One rule for all unions.** The text of a union joins the components that the rule gives, and
no component is there twice. The collected texts are those components on every union, so the early
answers only save the work: where all members are string literals, or all are number literals with
or all without a point, the rule has the one component that they give. -/
theorem union_rule {members : List TypeNode} (some : members ≠ []) :
    (TypeNode.union members).scala = " | ".intercalate (unionComponents members) ∧
    (unionComponents members).Nodup ∧
    (alternatives members (scalaTypes members)).entries = unionComponents members ∧
    (members.all TypeNode.isStringLiteral = true → unionComponents members = [string]) ∧
    (members.all TypeNode.isIntegralLiteral = true → unionComponents members = ["Int"]) ∧
    (members.all TypeNode.isFractionalLiteral = true → unionComponents members = ["Double"]) := by
  refine ⟨scala_union_eq members, nodup_unionComponents members, entries_alternatives some, ?_⟩
  refine ⟨fun all => ?_, fun all => ?_, fun all => ?_⟩
  · exact unionComponents_of_all some all TypeNode.scala_of_isStringLiteral
  · exact unionComponents_of_all some all TypeNode.scala_of_isIntegralLiteral
  · exact unionComponents_of_all some all TypeNode.scala_of_isFractionalLiteral

/-- The members of `number | (("a")) | null | number`. -/
def mixedMembers : List TypeNode :=
  [.keyword .number, .parenthesized (.parenthesized (.stringLiteral "a")), .keyword .null,
    .keyword .number]

theorem union_rule_mixed :
    mixedMembers ≠ [] ∧ unionComponents mixedMembers = ["String", "Double", "Null"] ∧
    (TypeNode.union mixedMembers).scala = "String | Double | Null" := by
  have some : mixedMembers ≠ [] := List.cons_ne_nil _ _
  have components : unionComponents mixedMembers = ["String", "Double", "Null"] := by
    decide +kernel
  obtain ⟨text, -⟩ := union_rule some
  rw [components] at text
  exact ⟨some, components, text⟩

example : unionComponents [.keyword .any, .keyword .null, .keyword .void] = ["js.Any"] := by
  decide +kernel

/-! ## Intersections

The same without adjustments. -/

/-- The texts that an intersection joins. -/
def intersectionComponents (members : List TypeNode) : List String :=
  if members.isEmpty then [any] else memberTypes members

theorem scala_intersection_eq (members : List TypeNode) :
    (TypeNode.intersection members).scala =
      " with ".intercalate (intersectionComponents members) := by
  rw [TypeNode.scala, scalaTypes_eq_map, intersectionText, intersectionComponents, List.isEmpty_map]
  split
  · rfl
  · rw [OrderedSet.join, OrderedSet.entries_ofList_eq, memberTypes]

/-! ## Copies and order

Of the list of members, the rule sees which are there and, for the order of the components, which
text comes first. -/

section

variable {before : List TypeNode} {member : TypeNode} (h : member ∈ before) (after : List TypeNode)

include h

/-- A copy behind the first adds no text. In front of it, it would move the text. -/
theorem memberTypes_copy :
    memberTypes (before ++ member :: after) = memberTypes (before ++ after) := by
  rw [memberTypes, memberTypes, List.map_append, List.map_append, List.map_cons]
  exact eraseDups_append_cons (List.mem_map_of_mem h) _

theorem isEmpty_copy : (before ++ member :: after).isEmpty = (before ++ after).isEmpty := by
  cases before with
  | nil => cases h
  | cons first others => rfl

theorem mem_copy {type : TypeNode} : type ∈ before ++ member :: after ↔ type ∈ before ++ after := by
  simp only [List.mem_append, List.mem_cons]
  constructor
  · rintro (there | rfl | there)
    · exact .inl there
    · exact .inl h
    · exact .inr there
  · rintro (there | there)
    · exact .inl there
    · exact .inr (.inr there)

theorem unionComponents_copy :
    unionComponents (before ++ member :: after) = unionComponents (before ++ after) := by
  simp only [unionComponents, memberTypes_copy h, isEmpty_copy h, mem_copy h]

theorem intersectionComponents_copy :
    intersectionComponents (before ++ member :: after) =
      intersectionComponents (before ++ after) := by
  simp only [intersectionComponents, memberTypes_copy h, isEmpty_copy h]

end

section

variable {members members' : List TypeNode} (h : members.Perm members')

include h

theorem perm_memberTypes : (memberTypes members).Perm (memberTypes members') :=
  perm_eraseDups (h.map TypeNode.scala)

theorem perm_unionComponents : (unionComponents members).Perm (unionComponents members') := by
  have types := perm_memberTypes h
  have others := types.filter fun text => text != null && text != unit
  have literal : (∃ member ∈ members, member.StringLiteral) ↔
      ∃ member ∈ members', member.StringLiteral := by
    simp only [h.mem_iff]
  simp only [unionComponents, h.isEmpty_eq, types.mem_iff, others.mem_iff, literal]
  split
  · exact .refl _
  split
  · split
    · exact others
    · exact others.append_right [any]
  split
  · exact (types.filter _).cons string
  · exact types

theorem perm_intersectionComponents :
    (intersectionComponents members).Perm (intersectionComponents members') := by
  rw [intersectionComponents, intersectionComponents, h.isEmpty_eq]
  split
  · exact .refl _
  · exact perm_memberTypes h

end

/-- **Copies and order.** Unions and intersections join their components. A further copy of a
member, anywhere behind the first, leaves the text as it is; and the members in another order give a
text that joins the same components in some order. -/
theorem copies_and_order :
    (∀ members : List TypeNode,
      (TypeNode.union members).scala = " | ".intercalate (unionComponents members) ∧
      (TypeNode.intersection members).scala =
        " with ".intercalate (intersectionComponents members)) ∧
    (∀ (before after : List TypeNode) (member : TypeNode), member ∈ before →
      (TypeNode.union (before ++ member :: after)).scala =
        (TypeNode.union (before ++ after)).scala ∧
      (TypeNode.intersection (before ++ member :: after)).scala =
        (TypeNode.intersection (before ++ after)).scala) ∧
    ∀ members members' : List TypeNode, members.Perm members' →
      (∃ components, components.Perm (unionComponents members) ∧
        (TypeNode.union members').scala = " | ".intercalate components) ∧
      ∃ components, components.Perm (intersectionComponents members) ∧
        (TypeNode.intersection members').scala = " with ".intercalate components := by
  refine ⟨fun members => ⟨scala_union_eq members, scala_intersection_eq members⟩, ?_, ?_⟩
  · intro before after member h
    rw [scala_union_eq, scala_union_eq, scala_intersection_eq, scala_intersection_eq,
      unionComponents_copy h, intersectionComponents_copy h]
    exact ⟨rfl, rfl⟩
  · intro members members' h
    refine ⟨⟨_, (perm_unionComponents h).symm, scala_union_eq members'⟩, ?_⟩
    exact ⟨_, (perm_intersectionComponents h).symm, scala_intersection_eq members'⟩

theorem copies_and_order_mixed :
    (TypeNode.union (mixedMembers ++ .keyword .null :: [.keyword .undefined])).scala =
      (TypeNode.union (mixedMembers ++ [.keyword .undefined])).scala ∧
    ∃ components, components.Perm ["String", "Double", "Null"] ∧
      (TypeNode.union mixedMembers.reverse).scala = " | ".intercalate components := by
  obtain ⟨-, copies, order⟩ := copies_and_order
  have null : .keyword .null ∈ mixedMembers := by simp [mixedMembers]
  have components : unionComponents mixedMembers = ["String", "Double", "Null"] := by
    decide +kernel
  refine ⟨(copies mixedMembers [.keyword .undefined] (.keyword .null) null).1, ?_⟩
  have reversed := (order mixedMembers mixedMembers.reverse (List.reverse_perm _).symm).1
  rwa [components] at reversed

end ScalaFacade
