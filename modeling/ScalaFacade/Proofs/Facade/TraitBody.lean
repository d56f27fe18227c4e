import ScalaFacade.Facade.Block

/-! # The body of a trait

The members of a trait are gone through with a list of the method lines written so far. What comes
out is described here by places instead: of all the texts of the members, a text is left out exactly
if it is a method and the same method text stands at an earlier place (`traitLines_eq`). Properties
and accessors are never left out, and nothing is ever moved.

A description by places is what a statement about several declarations of one interface needs: the
members of a later declaration stand behind those of the earlier ones, and whether one of their
methods repeats another can be asked of the concatenation, without running the loop over both.

Two methods are the same if their *lines* are. Overloads whose types come out as the same Scala
types have one line between them and are written once, so the module is about texts and not about
members.
-/

set_option autoImplicit false

namespace ScalaFacade

/-- Whether a text is that of a method. Only those are compared with what is above them. -/
def MemberText.isMethod : MemberText → Bool
  | .method _ => true
  | .property _ | .accessors _ => false

/-- The texts of members of an owner, in the order of the members. -/
def memberTexts (members : List Member) (owner : Owner) : List MemberText :=
  members.filterMap (·.text? owner)

/-- Whether the text at a place is left out of a trait: an earlier method has the same text. -/
def isRepeated (texts : List MemberText) (place : Nat) (text : MemberText) : Bool :=
  text.isMethod && decide (text ∈ texts.take place)

/-- Texts without the methods that an earlier method repeats. -/
def withoutRepeated (texts : List MemberText) : List MemberText :=
  (texts.zipIdx.filter fun entry => !isRepeated texts entry.2 entry.1).map Prod.fst

/-! ## The loop

The loop knows the methods above the rest that it is given, so the statement is about the texts of
the rest behind those of `above`: places are counted from the start of `above`. -/

/-- What is left of texts that stand behind others. -/
def keptBehind (above texts : List MemberText) : List MemberText :=
  ((texts.zipIdx above.length).filter fun entry =>
    !isRepeated (above ++ texts) entry.2 entry.1).map Prod.fst

/-- One step of the description: the first text is kept or not by what is above it, and is above all
that follow, whether it is kept or not. -/
theorem keptBehind_cons (above : List MemberText) (text : MemberText) (texts : List MemberText) :
    keptBehind above (text :: texts) =
      (if text.isMethod ∧ text ∈ above then [] else [text])
        ++ keptBehind (above ++ [text]) texts := by
  have shift : above ++ text :: texts = (above ++ [text]) ++ texts := by simp
  have here : isRepeated (above ++ text :: texts) above.length text =
      decide (text.isMethod ∧ text ∈ above) := by simp [isRepeated]
  unfold keptBehind
  rw [List.zipIdx_cons, List.filter_cons, here, shift, List.length_append, List.length_singleton]
  by_cases h : text.isMethod ∧ text ∈ above
  · simp [h]
  · simp [h]

/-- The loop writes what is kept, from any state that knows exactly the methods above. -/
theorem traitLines_go_eq {above : List MemberText} {written : List String} {members : List Member}
    (h : ∀ line, line ∈ written ↔ MemberText.method line ∈ above) :
    traitLines.go written members =
      (keptBehind above (memberTexts members .interface)).flatMap MemberText.lines := by
  -- `h` is the invariant of the loop: it has written the methods above, and nothing else counts.
  induction members generalizing above written with
  | nil => rfl
  | cons member members ih =>
    rw [traitLines.go]
    cases htext : member.text? .interface with
    | none =>
      have rest : memberTexts (member :: members) .interface = memberTexts members .interface := by
        simp [memberTexts, htext]
      rw [rest]
      exact ih h
    | some text =>
      have rest : memberTexts (member :: members) .interface =
          text :: memberTexts members .interface := by
        simp [memberTexts, htext]
      rw [rest, keptBehind_cons, List.flatMap_append]
      cases text with
      | method line =>
        by_cases hline : line ∈ written
        -- A repeated method is left out; the list of lines stays, the place moves on.
        · have again : ∀ l, l ∈ written ↔ MemberText.method l ∈ above ++ [.method line] := by
            intro l
            rw [List.mem_append, List.mem_singleton, ← h l]
            constructor
            · exact Or.inl
            · rintro (hl | hl)
              · exact hl
              · cases hl
                exact hline
          simp [hline, (h line).1 hline, MemberText.isMethod, ih again]
        · have next : ∀ l, l ∈ line :: written ↔ MemberText.method l ∈ above ++ [.method line] := by
            intro l
            rw [List.mem_append, List.mem_singleton, ← h l, List.mem_cons, MemberText.method.injEq,
              or_comm]
          simp [hline, mt (h line).2 hline, MemberText.lines, ih next]
      | property line =>
        have same : ∀ l, l ∈ written ↔ MemberText.method l ∈ above ++ [.property line] := by
          intro l
          simp [h l]
        simp [MemberText.isMethod, ih same]
      | accessors lines =>
        have same : ∀ l, l ∈ written ↔ MemberText.method l ∈ above ++ [.accessors lines] := by
          intro l
          simp [h l]
        simp [MemberText.isMethod, ih same]

/-- **The body of a trait by places.** A text is left out exactly if it is that of a method and the
same method text stands above it. The loop starts with nothing written and nothing above, so that
its invariant holds at the start. -/
theorem traitLines_eq (members : List Member) :
    traitLines members =
      (withoutRepeated (memberTexts members .interface)).flatMap MemberText.lines := by
  have start : ∀ line, line ∈ ([] : List String) ↔ MemberText.method line ∈ [] := by simp
  rw [traitLines, traitLines_go_eq start]
  simp [keptBehind, withoutRepeated]

/-- What is left is left in its order. -/
theorem withoutRepeated_sublist (texts : List MemberText) :
    (withoutRepeated texts).Sublist texts := by
  have h := (List.filter_sublist (p := fun entry => !isRepeated texts entry.2 entry.1)
    (l := texts.zipIdx)).map Prod.fst
  rwa [List.zipIdx_map_fst] at h

/-- Only methods are ever left out: the properties and accessors that are left are all of them, in
their order and with their repetitions. -/
theorem withoutRepeated_others (texts : List MemberText) :
    (withoutRepeated texts).filter (fun text => !text.isMethod) =
      texts.filter fun text => !text.isMethod := by
  have kept : (fun entry : MemberText × Nat =>
      !entry.1.isMethod && !isRepeated texts entry.2 entry.1) =
      fun entry => !entry.1.isMethod := by
    funext entry
    cases h : entry.1.isMethod <;> simp [isRepeated, h]
  have places : texts.filter (fun text => !text.isMethod) =
      (texts.zipIdx.filter fun entry => !entry.1.isMethod).map Prod.fst := by
    conv => lhs; rw [← List.zipIdx_map_fst 0 texts]
    exact List.filter_map
  rw [withoutRepeated, List.filter_map, List.filter_filter, places]
  exact congrArg _ (congrArg (fun p => texts.zipIdx.filter p) kept)

end ScalaFacade
