import Mathlib.Data.List.Chain
import Mathlib.Data.List.DropRight
import ScalaFacade.Proofs.Layout.Steps
import ScalaFacade.Proofs.Text.Segments

/-! # The finished text

The text of a writer is its lines with a line feed after each (`Writer.text_eq_endedLines`), so
cutting it at the line feeds gives the lines back, provided that none was written inside a line. The
empty lines at the end are gone. Other empty lines stand where directives put them, and as long as
only blank lines are asked for there is never one at the top, nor two in a row (`Spaced`): every
other line is ended with a text on it, and a blank line is written below a text only.

Both invariants are kept by every step of a writer and so by every run:

* `Writer.Unbroken`, if all texts are free of line feeds;
* `Spaced`, if no directive asks for the end of an empty line.

They do not depend on each other, and the theorem has the second condition for its last part only.
`Spaced` is about the lines that have been ended; the pending line comes in at the end, if there is
a text on it (`Writer.spaced_kept`).
-/

set_option autoImplicit false

namespace ScalaFacade.Layout

/-! ## Lines that are ended

Each line with its line feed. That is how texts are put together here, and joining is brought to
it. -/

/-- The text of lines, with a line feed after each. -/
def endedLines (lines : List String) : String :=
  String.ofList (lines.flatMap fun line => line.toList ++ ['\n'])

theorem endedLines_concat (lines : List String) (line : String) :
    endedLines (lines ++ [line]) = endedLines lines ++ line ++ "\n" := by
  simp [endedLines, ← String.toList_inj]

/-- A text of ended lines is empty or ends with a line feed. -/
theorem endedLines_cases (lines : List String) :
    endedLines lines = "" ∨ ∃ above, endedLines lines = above ++ "\n" := by
  obtain rfl | ⟨front, last, rfl⟩ := List.eq_nil_or_concat lines
  · exact .inl rfl
  · rw [List.concat_eq_append, endedLines_concat]
    exact .inr ⟨_, rfl⟩

/-- Ended lines are found again by cutting at the line feeds. Behind the last line feed there is one
more segment, which is empty. -/
theorem split_endedLines {lines : List String} (h : ∀ line ∈ lines, '\n' ∉ line.toList) :
    Text.split '\n' (endedLines lines) = lines ++ [""] := by
  rw [Text.split, endedLines, String.toList_ofList]
  induction lines with
  | nil => rfl
  | cons line lines ih =>
    obtain ⟨first, others⟩ := List.forall_mem_cons.1 h
    rw [List.flatMap_cons, List.append_assoc, List.singleton_append, Text.segments_append_cons,
      Text.segments_of_notMem first, List.map_append, ih others]
    simp

/-- Joining lines and ending the last one is ending each. Without lines the two differ by a line
feed. -/
theorem intercalate_endedLines {lines : List String} (h : lines ≠ []) :
    "\n".intercalate lines ++ "\n" = endedLines lines := by
  rw [← String.toList_inj, String.toList_append, String.toList_intercalate, endedLines,
    String.toList_ofList]
  induction lines with
  | nil => exact absurd rfl h
  | cons line lines ih =>
    by_cases last : lines = []
    · simp [last]
    · rw [List.map_cons, List.intercalate_cons_of_ne_nil (by simpa using last), List.append_assoc,
        ih last]
      simp

/-! ## The lines of a writer

A pending line counts if there is anything on it. -/

/-- The lines of a writer, with the pending one if there is anything on it. -/
def Writer.written (w : Writer) : List String :=
  w.lines.toList ++ if w.current = "" then [] else [w.current]

/-- The lines that a finished text has: empty ones at the end are dropped. -/
def Writer.kept (w : Writer) : List String := w.written.rdropWhile String.isEmpty

theorem Writer.toList_lines_finishLine (w : Writer) : w.finishLine.lines.toList = w.written := by
  by_cases pending : w.current = "" <;> simp [finishLine, written, newline, pending]

/-- **A text is its lines, each ended.** The empty lines at the end are dropped first, so that
without any other line the text is empty and not a single line feed. A style may end lines with
another text, which is not covered. -/
theorem Writer.text_eq_endedLines {w : Writer} (lf : w.style.newLine = "\n") :
    w.text = endedLines w.kept := by
  have dropped : (w.finishLine.lines.toList.reverse.dropWhile String.isEmpty).reverse = w.kept := by
    rw [toList_lines_finishLine, kept, List.rdropWhile]
  unfold text
  simp only [dropped, lf]
  split
  · next none => rw [List.isEmpty_iff.1 none, endedLines, List.flatMap_nil, String.ofList_nil]
  · next some => exact intercalate_endedLines (mt List.isEmpty_iff.2 some)

/-- The last line that is kept is not empty. -/
theorem Writer.kept_cases (w : Writer) :
    w.kept = [] ∨ ∃ front last, w.kept = front ++ [last] ∧ last ≠ "" := by
  by_cases none : w.kept = []
  · exact .inl none
  · have full := List.rdropWhile_last_not String.isEmpty w.written none
    exact .inr ⟨_, _, (List.dropLast_append_getLast none).symm, by simpa [kept] using full⟩

/-! ## No line feed inside a line

An invariant of steps whose texts have none. -/

/-- No line has a line feed in it. -/
def Writer.Unbroken (w : Writer) : Prop :=
  (∀ line ∈ w.lines.toList, '\n' ∉ line.toList) ∧ '\n' ∉ w.current.toList

/-- Indentation is made of blanks, so it brings no line feed in. -/
theorem Writer.Unbroken.write {w : Writer} (h : w.Unbroken) {text : String}
    (fine : '\n' ∉ text.toList) : (w.write text).Unbroken := by
  refine ⟨by rw [w.lines_write]; exact h.1, ?_⟩
  have blanks : '\n' ∉ w.indentation.toList := by simp [indentation]
  unfold Writer.write
  split
  · exact h.2
  · split <;> simp [h.2, fine, blanks]

theorem Writer.Unbroken.newline {w : Writer} (h : w.Unbroken) : w.newline.Unbroken := by
  refine ⟨?_, by simp [Writer.newline]⟩
  simp only [Writer.newline, Array.toList_push, List.forall_mem_append, List.forall_mem_singleton]
  exact h

theorem Writer.Unbroken.written {w : Writer} (h : w.Unbroken) :
    ∀ line ∈ w.written, '\n' ∉ line.toList := by
  unfold Writer.written
  split
  · simpa using h.1
  · rw [List.forall_mem_append, List.forall_mem_singleton]
    exact h

theorem Writer.Unbroken.kept {w : Writer} (h : w.Unbroken) : ∀ line ∈ w.kept, '\n' ∉ line.toList :=
  fun line present => h.written line ((List.rdropWhile_prefix _ _).mem present)

section

variable {loose : Prop} {w w' : Writer}

theorem Writer.Steps.style_eq {allowed : String → Prop} (h : w.Steps allowed loose w') :
    w'.style = w.style := by
  induction h with
  | refl => rfl
  | tail _ step ih =>
    cases step with
    | write => rw [style_write, ih]
    | _ => exact ih

theorem Writer.Steps.unbroken (h : w.Steps (fun text => '\n' ∉ text.toList) loose w')
    (start : w.Unbroken) : w'.Unbroken := by
  induction h with
  | refl => exact start
  | tail _ step ih =>
    cases step with
    | write fine => exact ih.write fine
    | finish => exact ih.newline
    | blank => exact ih.newline
    | newline => exact ih.newline
    | indent => exact ih

end

/-! ## Blank lines

An invariant of steps that end an empty line only below a text. -/

/-- There is no empty line at the top and there are no two in a row. -/
def Spaced (lines : List String) : Prop :=
  lines.head? ≠ some "" ∧ lines.IsChain fun above below => above ≠ "" ∨ below ≠ ""

theorem Spaced.of_prefix {lines front : List String} (h : Spaced lines) (begun : front <+: lines) :
    Spaced front := by
  obtain ⟨rest, rfl⟩ := begun
  refine ⟨fun top => h.1 ?_, h.2.left_of_append⟩
  rw [List.head?_append, top]
  rfl

/-- A line with a text may come anywhere. -/
theorem Spaced.concat {lines : List String} (h : Spaced lines) {line : String} (full : line ≠ "") :
    Spaced (lines ++ [line]) := by
  refine ⟨?_, List.isChain_append.2 ⟨h.2, List.isChain_singleton _, ?_⟩⟩
  · cases lines with
    | nil => simpa using full
    | cons => exact h.1
  · intro above _ below hb
    cases hb
    exact .inr full

/-- An empty line may come below a text. -/
theorem Spaced.concat_empty {lines : List String} (h : Spaced lines) {last : String}
    (above : lines.getLast? = some last) (full : last ≠ "") : Spaced (lines ++ [""]) := by
  refine ⟨?_, List.isChain_append.2 ⟨h.2, List.isChain_singleton _, ?_⟩⟩
  · cases lines with
    | nil => cases above
    | cons => exact h.1
  · intro line hl below _
    rw [above] at hl
    cases hl
    exact .inl full

/-- Lines stay spaced as long as no line is ended that may be empty: what is ended has a text on it,
or is a blank line below a text. Ending a line on demand is the one step that could break it. -/
theorem Writer.Steps.spaced {allowed : String → Prop} {w w' : Writer} (h : w.Steps allowed False w')
    (start : Spaced w.lines.toList) : Spaced w'.lines.toList := by
  induction h with
  | refl => exact start
  | tail _ step ih =>
    cases step with
    | write fine => rwa [lines_write]
    | finish pending =>
      rw [Writer.newline, Array.toList_push]
      exact ih.concat pending
    | blank ready =>
      obtain ⟨last, above, full⟩ := ready.above
      rw [← Array.getLast?_toList] at above
      rw [Writer.newline, Array.toList_push, ready.clear]
      exact ih.concat_empty above full
    | newline asked => exact asked.elim
    | indent => exact ih

theorem Writer.spaced_kept {w : Writer} (h : Spaced w.lines.toList) : Spaced w.kept := by
  refine Spaced.of_prefix ?_ (List.rdropWhile_prefix String.isEmpty w.written)
  unfold written
  split
  · simpa using h
  · next pending => exact h.concat pending

/-! ## The lines of a finished text -/

/-- **The finished text.** A text of directives without line feeds in their own texts is empty or
ends with one line feed behind a text; cut at its line feeds it gives the lines of the writer, a
pending one included, without the empty ones at the end. If no empty line is asked for but blank
lines, there is none at the top and there are no two in a row. -/
theorem render_lines (width : Nat) (ds : List Directive)
    (unbroken : ∀ text ∈ textsOfAll ds, '\n' ∉ text.toList) :
    (render ⟨width, "\n"⟩ ds = "" ∨ ∃ front last, render ⟨width, "\n"⟩ ds = front ++ last ++ "\n" ∧
      last ≠ "" ∧ '\n' ∉ last.toList ∧ (front = "" ∨ ∃ above, front = above ++ "\n")) ∧
    Text.split '\n' (render ⟨width, "\n"⟩ ds) =
      (runAll ds { style := ⟨width, "\n"⟩ }).written.rdropWhile String.isEmpty ++ [""] ∧
    (tightAll ds = true →
      Spaced ((runAll ds { style := ⟨width, "\n"⟩ }).written.rdropWhile String.isEmpty)) := by
  let start : Writer := { style := ⟨width, "\n"⟩ }
  have braces : Braces fun text => '\n' ∉ text.toList := ⟨by decide, by decide⟩
  have steps : start.Steps (fun text => '\n' ∉ text.toList) True (runAll ds start) :=
    steps_runAll braces ds unbroken (.inl trivial) start
  have lf : (runAll ds start).style.newLine = "\n" := by rw [steps.style_eq]
  have clean : (runAll ds start).Unbroken := steps.unbroken ⟨by simp [start], by simp [start]⟩
  have whole : render ⟨width, "\n"⟩ ds = endedLines (runAll ds start).kept :=
    Writer.text_eq_endedLines lf
  refine ⟨?_, ?_, fun tight => ?_⟩
  · obtain none | ⟨front, last, kept, full⟩ := (runAll ds start).kept_cases
    · exact .inl (by rw [whole, none]; rfl)
    · have present : last ∈ (runAll ds start).kept := by simp [kept]
      rw [kept, endedLines_concat] at whole
      exact .inr ⟨_, last, whole, full, clean.kept last present, endedLines_cases front⟩
  · rw [whole]
    exact split_endedLines clean.kept
  · have steps : start.Steps (fun text => '\n' ∉ text.toList) False (runAll ds start) :=
      steps_runAll braces ds unbroken (.inr tight) start
    exact Writer.spaced_kept (steps.spaced ⟨by simp [start], by simp [start]⟩)

/-- Blank lines at every turn: at the top, in a row, inside a section, at the end. -/
def blanksAround : List Directive :=
  [.blank, .line "a", .blank, .blank, .block "b" [.blank, .atRoot [.blank, .write "c"], .blank],
    .blank, .write "d", .blank]

theorem render_lines_blanksAround :
    (∀ text ∈ textsOfAll blanksAround, '\n' ∉ text.toList) ∧
      Text.split '\n' (render ⟨2, "\n"⟩ blanksAround) =
        ["a", "", "b \x7b", "", "c", "", "\x7d", "", "d", ""] ∧
      Spaced ["a", "", "b \x7b", "", "c", "", "\x7d", "", "d"] := by
  have unbroken : ∀ text ∈ textsOfAll blanksAround, '\n' ∉ text.toList := by
    simp [blanksAround, textsOfAll, Directive.texts]
  have kept : (runAll blanksAround { style := ⟨2, "\n"⟩ }).written.rdropWhile String.isEmpty =
      ["a", "", "b \x7b", "", "c", "", "\x7d", "", "d"] := by decide +kernel
  obtain ⟨-, split, spaced⟩ := render_lines 2 blanksAround unbroken
  rw [kept] at split spaced
  exact ⟨unbroken, split, spaced rfl⟩

end ScalaFacade.Layout
