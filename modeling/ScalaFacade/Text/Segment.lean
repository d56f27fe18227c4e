/-! # Segments

A text is cut into segments at every occurrence of a separator: there is always one segment more
than there are separators, and segments may be empty.
-/

set_option autoImplicit false

namespace ScalaFacade.Text

/-- The segments of a list of characters. -/
def segments (separator : Char) : List Char → List (List Char)
  | [] => [[]]
  | c :: cs =>
    if c = separator then [] :: segments separator cs
    else
      match segments separator cs with
      | [] => [[c]]
      | segment :: others => (c :: segment) :: others

/-- The segments of a text. -/
def split (separator : Char) (text : String) : List String :=
  (segments separator text.toList).map String.ofList

/-- What follows the last separator, the whole text if there is none. -/
def lastSegment (separator : Char) (text : String) : String :=
  (split separator text).getLastD text

/-! ## What the segments are made of -/

theorem segments_ne_nil (separator : Char) (cs : List Char) : segments separator cs ≠ [] := by
  fun_cases segments separator cs <;> exact List.cons_ne_nil _ _

theorem intercalate_segments (separator : Char) (cs : List Char) :
    [separator].intercalate (segments separator cs) = cs := by
  fun_induction segments separator cs with
  | case1 => rfl
  | case2 cs ih => rw [List.intercalate_cons_of_ne_nil (segments_ne_nil _ _), ih]; rfl
  | case3 c cs _ none => exact absurd none (segments_ne_nil _ _)
  | case4 c cs _ segment others found ih =>
    rw [found] at ih
    cases others with
    | nil => simpa using ih
    | cons next others => simpa using ih

/-- Joining the segments again gives the text back. -/
theorem intercalate_split (separator : Char) (text : String) :
    (String.singleton separator).intercalate (split separator text) = text := by
  rw [← String.toList_inj, String.toList_intercalate, split, List.map_map]
  simp [Function.comp_def, intercalate_segments]

theorem split_ne_nil (separator : Char) (text : String) : split separator text ≠ [] := by
  simp [split, segments_ne_nil]

theorem mem_of_mem_segments {separator : Char} {cs segment : List Char} {c : Char}
    (h : segment ∈ segments separator cs) (hc : c ∈ segment) : c ∈ cs := by
  fun_induction segments separator cs generalizing segment with
  | case1 => simp_all
  | case2 cs ih =>
    rcases List.mem_cons.1 h with rfl | h
    · simp at hc
    · exact List.mem_cons_of_mem _ (ih h hc)
  | case3 d cs _ none => exact absurd none (segments_ne_nil _ _)
  | case4 d cs _ first others found ih =>
    rw [found] at ih
    rcases List.mem_cons.1 h with rfl | h
    · rcases List.mem_cons.1 hc with rfl | hc
      · simp
      · exact List.mem_cons_of_mem _ (ih List.mem_cons_self hc)
    · exact List.mem_cons_of_mem _ (ih (List.mem_cons_of_mem _ h) hc)

/-- A character of a segment is one of the text. -/
theorem mem_of_mem_split {separator : Char} {text segment : String} {c : Char}
    (h : segment ∈ split separator text) (hc : c ∈ segment.toList) : c ∈ text.toList := by
  obtain ⟨chars, hchars, rfl⟩ := List.mem_map.1 h
  exact mem_of_mem_segments hchars (by simpa using hc)

end ScalaFacade.Text
