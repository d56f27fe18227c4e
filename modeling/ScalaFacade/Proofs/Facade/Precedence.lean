import ScalaFacade.Proofs.Facade.Language
import ScalaFacade.Proofs.Scala.Reading

/-! # What an intersection reads as

The text of an intersection joins the texts of its members by ` with `, and no member gets
parentheses, not even one that had them in the source. Since ` with ` binds tighter than ` | `, a
member that is itself a union is torn: its first alternative goes to the member before it and its
last to the member behind it, and the alternatives in between stand for themselves.

`intersection_reading` says for all intersections what is read and when nothing is torn. The
smallest intersection that is torn follows it: `A & (B | C)` reads as `(A & B) | C`.

The reading is that of the grammar of types, and a text is read by taking apart alternatives first
and what they are composed of second. That joined texts read as glued readings is shown there, for
any texts of types; here it is applied to the members, which are types if no name has a backtick.

Members with equal texts are joined once, so the count of alternatives is stated for members with
different texts. Whether anything is torn does not depend on that, and the first half of the theorem
has no such condition.
-/

set_option autoImplicit false

namespace ScalaFacade

open Scala

/-- The texts that an intersection joins: those of its members, each once. -/
def joinedTexts (members : List TypeNode) : List String :=
  (OrderedSet.ofList (members.map TypeNode.scala)).entries

theorem mem_joinedTexts {members : List TypeNode} {text : String} :
    text ∈ joinedTexts members ↔ ∃ member ∈ members, member.scala = text := by
  rw [joinedTexts, OrderedSet.mem_ofList, List.mem_map]

theorem joinedTexts_ne_nil {members : List TypeNode} (some : members ≠ []) :
    joinedTexts members ≠ [] := by
  obtain ⟨member, h⟩ := List.exists_mem_of_ne_nil members some
  exact List.ne_nil_of_mem (mem_joinedTexts.2 ⟨member, h, rfl⟩)

/-- What is joined are types. -/
theorem isType_joinedTexts {members : List TypeNode}
    (free : BacktickFree (TypeNode.intersection members).names) :
    ∀ text ∈ joinedTexts members, IsType text := by
  intro text h
  obtain ⟨member, hmember, rfl⟩ := mem_joinedTexts.1 h
  rw [TypeNode.names, namesOfTypes_eq_flatMap] at free
  exact member.isType_scala (free.of_flatMap hmember)

theorem TypeNode.scala_intersection {members : List TypeNode} (some : members ≠ []) :
    (TypeNode.intersection members).scala = " with ".intercalate (joinedTexts members) := by
  have texts : (members.map TypeNode.scala).isEmpty = false := by simpa using some
  rw [TypeNode.scala, scalaTypes_eq_map, intersectionText, texts]
  rfl

/-- The readings of the joined texts, glued where they meet. -/
theorem reading_joinedTexts {members : List TypeNode}
    (free : BacktickFree (TypeNode.intersection members).names) (some : members ≠ []) :
    reading (TypeNode.intersection members).scala
      = glueAll (· ++ ·) ((joinedTexts members).map reading) := by
  rw [TypeNode.scala_intersection some]
  exact reading_intercalate (joinedTexts_ne_nil some) (isType_joinedTexts free)

/-- A type has at least one alternative, so there is always something to glue. -/
theorem readings_ne_nil {members : List TypeNode}
    (free : BacktickFree (TypeNode.intersection members).names) :
    ∀ read ∈ (joinedTexts members).map reading, read ≠ [] := by
  intro read h
  obtain ⟨text, htext, rfl⟩ := List.mem_map.1 h
  exact (isType_joinedTexts free text htext).reading_ne_nil

/-- Nothing is torn exactly if no member has several alternatives. Without members the text is that
of the type of everything, which is one alternative. -/
theorem length_reading_intersection {members : List TypeNode}
    (free : BacktickFree (TypeNode.intersection members).names) :
    (reading (TypeNode.intersection members).scala).length = 1
      ↔ ∀ member ∈ members, (reading member.scala).length = 1 := by
  by_cases some : members = []
  · subst some
    simp only [List.not_mem_nil, false_implies, implies_true, iff_true]
    decide
  have joined : (joinedTexts members).map reading ≠ [] := by simpa using joinedTexts_ne_nil some
  rw [reading_joinedTexts free some, length_glueAll_eq_one joined (readings_ne_nil free)]
  constructor
  · intro each member h
    exact each _ (List.mem_map_of_mem (mem_joinedTexts.2 ⟨member, h, rfl⟩))
  · intro each read h
    obtain ⟨text, htext, rfl⟩ := List.mem_map.1 h
    obtain ⟨member, hmember, rfl⟩ := mem_joinedTexts.1 htext
    exact each member hmember

/-- **What an intersection reads as.** Its text reads as a single alternative exactly if the text of
each member does. In general, when the members have different texts, the readings of the members
follow each other and at each seam two alternatives become one, so that the number of alternatives
is that of all members together less the number of seams. -/
theorem intersection_reading {members : List TypeNode}
    (free : BacktickFree (TypeNode.intersection members).names) :
    ((reading (TypeNode.intersection members).scala).length = 1
      ↔ ∀ member ∈ members, (reading member.scala).length = 1)
    ∧ (members ≠ [] → (members.map TypeNode.scala).Nodup →
        reading (TypeNode.intersection members).scala
          = glueAll (· ++ ·) (members.map fun member => reading member.scala)
        ∧ (reading (TypeNode.intersection members).scala).length + members.length
          = (members.flatMap fun member => reading member.scala).length + 1) := by
  refine ⟨length_reading_intersection free, fun some distinct => ?_⟩
  have all : (joinedTexts members).map reading
      = members.map fun member => reading member.scala := by
    rw [joinedTexts, OrderedSet.entries_ofList distinct, List.map_map]
    rfl
  have glued := reading_joinedTexts free some
  have nonempty := readings_ne_nil free
  rw [all] at glued nonempty
  refine ⟨glued, ?_⟩
  have count : (glueAll (· ++ ·) (members.map fun member => reading member.scala)).length + _ = _ :=
    length_glueAll (by simpa using some) nonempty
  rw [← glued, List.length_map, ← List.flatMap_def] at count
  exact count

/-- The members of `A & (B | C)`. -/
def tornMembers : List TypeNode :=
  [.reference "A" [], .parenthesized (.union [.reference "B" [], .reference "C" []])]

theorem intersection_reading_torn :
    BacktickFree (TypeNode.intersection tornMembers).names
    ∧ (reading (TypeNode.intersection tornMembers).scala).length ≠ 1
    ∧ (reading (TypeNode.intersection tornMembers).scala).length + 2 = 3 + 1 := by
  have free : BacktickFree (TypeNode.intersection tornMembers).names := by decide
  obtain ⟨single, glued⟩ := intersection_reading free
  refine ⟨free, fun one => ?_, (glued (List.cons_ne_nil _ _) (by decide)).2⟩
  exact absurd (single.1 one) (by decide)

/-- **Not every intersection reads as one alternative**, even if its members have different texts:
of `A & (B | C)` the last alternative is read without `A`. -/
theorem intersection_reads_as_union :
    2 ≤ tornMembers.length ∧ (tornMembers.map TypeNode.scala).Nodup
    ∧ BacktickFree (TypeNode.intersection tornMembers).names
    ∧ (TypeNode.intersection tornMembers).scala = "A with B | C"
    ∧ reading (TypeNode.intersection tornMembers).scala = [["A", "B"], ["C"]] := by
  decide

end ScalaFacade
