import ScalaFacade.Text.Segment

/-! # Cutting and joining

Cutting a text at a separator undoes joining by it, as long as the segments have none: two texts
with a separator between them are cut into the segments of the one and those of the other
(`segments_append_cons`), and a text without a separator is one segment.

The other direction, that joining undoes cutting, holds without any condition and stands beside the
definition. Paths, module names and the lines of a text are all cut in this way, by a slash, a dot
or a line feed.
-/

set_option autoImplicit false

namespace ScalaFacade.Text

theorem segments_of_notMem {separator : Char} {cs : List Char} (h : separator ∉ cs) :
    segments separator cs = [cs] := by
  induction cs with
  | nil => rfl
  | cons c cs ih =>
    have other : c ≠ separator := fun same => h (by simp [same])
    rw [segments, if_neg other, ih fun present => h (List.mem_cons_of_mem _ present)]

theorem split_of_notMem {separator : Char} {text : String} (h : separator ∉ text.toList) :
    split separator text = [text] := by
  rw [split, segments_of_notMem h, List.map_singleton, String.ofList_toList]

/-- No segment has a separator, said of characters. -/
theorem notMem_of_mem_segments {separator : Char} {cs segment : List Char}
    (h : segment ∈ segments separator cs) : separator ∉ segment := by
  fun_induction segments separator cs generalizing segment with
  | case1 => simp_all
  | case2 cs ih =>
    rcases List.mem_cons.1 h with rfl | h
    · exact List.not_mem_nil
    · exact ih h
  | case3 c cs _ none => exact absurd none (segments_ne_nil _ _)
  | case4 c cs other first others found ih =>
    rw [found] at ih
    rcases List.mem_cons.1 h with rfl | h
    · intro present
      rcases List.mem_cons.1 present with same | present
      · exact other same.symm
      · exact ih List.mem_cons_self present
    · exact ih (List.mem_cons_of_mem _ h)

/-- No segment has a separator. -/
theorem notMem_of_mem_split {separator : Char} {text segment : String}
    (h : segment ∈ split separator text) : separator ∉ segment.toList := by
  obtain ⟨chars, hchars, rfl⟩ := List.mem_map.1 h
  rw [String.toList_ofList]
  exact notMem_of_mem_segments hchars

/-- The segment that the first text ends with is not joined to the first of the other. There are no
conditions: both texts may have separators of their own. -/
theorem segments_append_cons (separator : Char) (before after : List Char) :
    segments separator (before ++ separator :: after) =
      segments separator before ++ segments separator after := by
  induction before with
  | nil => simp [segments]
  | cons c before ih =>
    rw [List.cons_append, segments, segments]
    by_cases here : c = separator
    · rw [if_pos here, if_pos here, ih, List.cons_append]
    · rw [if_neg here, if_neg here, ih]
      cases found : segments separator before with
      | nil => exact absurd found (segments_ne_nil _ _)
      | cons first others => rfl

/-- A separator between two texts keeps their segments apart. -/
theorem split_append_append (separator : Char) (before after : String) :
    split separator (before ++ String.singleton separator ++ after) =
      split separator before ++ split separator after := by
  have chars : (before ++ String.singleton separator ++ after).toList =
      before.toList ++ separator :: after.toList := by
    simp [String.toList_append]
  rw [split, chars, segments_append_cons, List.map_append, split, split]

/-- Cutting undoes joining, if there is a part and no part has a separator. -/
theorem split_intercalate {separator : Char} {parts : List String} (some : parts ≠ [])
    (each : ∀ part ∈ parts, separator ∉ part.toList) :
    split separator ((String.singleton separator).intercalate parts) = parts := by
  induction parts with
  | nil => exact absurd rfl some
  | cons part parts ih =>
    obtain ⟨first, others⟩ := List.forall_mem_cons.1 each
    cases parts with
    | nil => simpa using split_of_notMem first
    | cons next parts =>
      rw [String.intercalate_cons_cons, split_append_append, split_of_notMem first,
        ih (List.cons_ne_nil _ _) others]
      rfl

end ScalaFacade.Text
