import Mathlib.Data.List.Forall2
import ScalaFacade.Proofs.Layout.Steps

/-! # How a writer came to its lines

Indentation is written together with the first text of a line, so a line shows at which level it was
begun, but no state of a writer says so. A `History` does: it keeps, for every line, the pieces of
text on it, each with the level that was in force when it was written. It follows the same
directives as a writer, and the writer is what is left when the pieces are put together
(`Directive.writer_record`). What is said of lines and levels is said between the two.

The levels themselves are watched from two sides: `levelsBefore` beside the levels after each
directive, and a run that refuses to go below the margin (`Directive.checked`). In the writer a
level that would go below zero stays at zero, so that it never comes to that cannot be seen from its
result; the checked run would give up.

A history is not a second layout. It has no indentation and no style, and nothing in the program
uses it. It says at which level a text was written, and `Indented` says what the line must then look
like.

Statements are about every state that a run comes through (`Reached`), also in the middle of a line
or inside a block, and not only about the end.
-/

set_option autoImplicit false

namespace ScalaFacade.Layout

/-! ## Pieces of text

A piece has a text on it, by its type. So a line is empty exactly if it has no pieces. -/

/-- Text on a line, with the level in force when it was written. -/
structure Piece where
  level : Nat
  text : String
  full : text ≠ ""

/-- What has been written so far, line by line. -/
structure History where
  lines : List (List Piece) := []
  current : List Piece := []
  level : Nat := 0

namespace History

def write (h : History) (text : String) : History :=
  if full : text ≠ "" then { h with current := h.current ++ [⟨h.level, text, full⟩] } else h

def newline (h : History) : History := { h with lines := h.lines ++ [h.current], current := [] }

def writeLine (h : History) (text : String) : History := (h.write text).newline

def finishLine (h : History) : History := if h.current.isEmpty then h else h.newline

def blankLine (h : History) : History :=
  let h := h.finishLine
  match h.lines.getLast? with
  | some last => if last.isEmpty then h else { h with lines := h.lines ++ [[]] }
  | none => h

def openBlock (h : History) (header : String) : History :=
  let h := (h.write header).writeLine " \x7b"
  { h with level := h.level + 1 }

def closeBlock (h : History) : History :=
  let h := h.finishLine
  writeLine { h with level := h.level - 1 } "\x7d"

end History

mutual

/-- The history after a directive. -/
def Directive.record : Directive → History → History
  | .write text, h => h.write text
  | .line text, h => h.writeLine text
  | .newline, h => h.newline
  | .blank, h => h.blankLine
  | .block header body, h => (recordAll body (h.openBlock header)).closeBlock
  | .atRoot body, h =>
    { (recordAll body { h with level := 0 }).finishLine with level := h.level }

/-- The history after several directives. -/
def recordAll : List Directive → History → History
  | [], h => h
  | d :: ds, h => recordAll ds (d.record h)

end

/-! ## The writer with a history

Each operation is followed on both sides. The writer asks whether texts are empty, the history
whether lists are, and these agree. -/

/-- The text of a line, indented at the level of its first piece. -/
def lineText (style : Style) : List Piece → String
  | [] => ""
  | first :: others =>
    others.foldl (fun line piece => line ++ piece.text) (indent style first.level ++ first.text)

/-- The writer that has this history. -/
def History.writer (style : Style) (h : History) : Writer where
  style := style
  lines := (h.lines.map (lineText style)).toArray
  current := lineText style h.current
  level := h.level

section

variable (style : Style)

theorem foldl_text (others : List Piece) (start text : String) :
    others.foldl (fun line piece => line ++ piece.text) (start ++ text) =
      start ++ others.foldl (fun line piece => line ++ piece.text) text := by
  induction others generalizing text with
  | nil => rfl
  | cons piece others ih => rw [List.foldl_cons, List.foldl_cons, String.append_assoc, ih]

theorem foldl_text_ne (others : List Piece) {text : String} (h : text ≠ "") :
    others.foldl (fun line piece => line ++ piece.text) text ≠ "" := by
  induction others generalizing text with
  | nil => exact h
  | cons piece others ih => exact ih (by simp [h])

@[simp] theorem lineText_nil : lineText style [] = "" := rfl

theorem lineText_eq_empty {pieces : List Piece} : lineText style pieces = "" ↔ pieces = [] := by
  cases pieces with
  | nil => simp
  | cons first others => simpa [lineText] using foldl_text_ne others (by simp [first.full])

/-- The first piece on a line brings the indentation, later ones only their text. -/
theorem lineText_concat (pieces : List Piece) (piece : Piece) :
    lineText style (pieces ++ [piece]) =
      if pieces = [] then indent style piece.level ++ piece.text
      else lineText style pieces ++ piece.text := by
  cases pieces with
  | nil => rfl
  | cons first others => simp [lineText]

namespace History

variable (h : History)

/-- Text is put on the line in the same way. If it is the first, its level is the current one on
both sides. -/
theorem writer_write (text : String) :
    (h.write text).writer style = (h.writer style).write text := by
  by_cases full : text = ""
  · simp [History.write, Writer.write, full]
  · by_cases pending : h.current = []
    · simp [History.write, Writer.write, full, writer, lineText, pending, Writer.indentation,
        indent]
    · simp [History.write, Writer.write, full, writer, lineText_concat, lineText_eq_empty, pending]

theorem writer_newline : h.newline.writer style = (h.writer style).newline := by
  simp [History.newline, Writer.newline, writer]

theorem writer_writeLine (text : String) :
    (h.writeLine text).writer style = (h.writer style).writeLine text := by
  rw [History.writeLine, Writer.writeLine, writer_newline, writer_write]

theorem writer_finishLine : h.finishLine.writer style = (h.writer style).finishLine := by
  by_cases pending : h.current = []
  · simp [History.finishLine, Writer.finishLine, writer, pending]
  · have full : (h.writer style).current ≠ "" := by simpa [writer, lineText_eq_empty] using pending
    simp [History.finishLine, Writer.finishLine, pending, full, writer_newline]

/-- The line above is empty in the one exactly if it is in the other. -/
theorem writer_blankLine : h.blankLine.writer style = (h.writer style).blankLine := by
  unfold History.blankLine Writer.blankLine
  rw [← writer_finishLine]
  generalize h.finishLine = finished
  have above : (finished.writer style).lines.back? =
      finished.lines.getLast?.map (lineText style) := by simp [writer]
  simp only [above]
  cases finished.lines.getLast? with
  | none => rfl
  | some last =>
    by_cases empty : last = []
    · simp [empty]
    · have full : lineText style last ≠ "" := mt (lineText_eq_empty style).1 empty
      simp [empty, full, writer]

theorem writer_openBlock (header : String) :
    (h.openBlock header).writer style = (h.writer style).openBlock header := by
  unfold openBlock Writer.openBlock
  rw [← writer_write, ← writer_writeLine]
  rfl

theorem writer_closeBlock : h.closeBlock.writer style = (h.writer style).closeBlock := by
  unfold closeBlock Writer.closeBlock
  rw [writer_writeLine, ← writer_finishLine]
  rfl

end History

mutual

/-- **A writer is what its history comes to.** Both follow the same directive, one keeping texts and
the other pieces; the two runs have the same shape, so the proof goes along the directive. -/
theorem Directive.writer_record (d : Directive) (h : History) :
    (d.record h).writer style = d.run (h.writer style) := by
  match d with
  | .write text => exact h.writer_write style text
  | .line text => exact h.writer_writeLine style text
  | .newline => exact h.writer_newline style
  | .blank => exact h.writer_blankLine style
  | .block header body =>
    rw [Directive.record, Directive.run, History.writer_closeBlock, writer_recordAll body,
      History.writer_openBlock]
  | .atRoot body =>
    have inside := (recordAll body { h with level := 0 }).writer_finishLine style
    rw [writer_recordAll body] at inside
    exact congrArg (fun w : Writer => { w with level := h.level }) inside

theorem writer_recordAll (ds : List Directive) (h : History) :
    (recordAll ds h).writer style = runAll ds (h.writer style) := by
  match ds with
  | [] => rfl
  | d :: ds => rw [recordAll, runAll, writer_recordAll ds, d.writer_record]

end

end

/-- A writer and its history, wherever in a tree of directives it is: at the start, after a
directive, behind the header of a block and at the start of a section without indentation. -/
inductive Reached (style : Style) : History → Writer → Prop where
  | start : Reached style {} { style }
  | run {h : History} {w : Writer} (before : Reached style h w) (d : Directive) :
      Reached style (d.record h) (d.run w)
  | inBlock {h : History} {w : Writer} (before : Reached style h w) (header : String) :
      Reached style (h.openBlock header) (w.openBlock header)
  | atRoot {h : History} {w : Writer} (before : Reached style h w) :
      Reached style { h with level := 0 } { w with level := 0 }

/-- Wherever a run has come to, the writer is the one of its history. The states inside a block or a
section are reached, too, so each way to reach one has its case. -/
theorem Reached.eq_writer {style : Style} {h : History} {w : Writer} (reached : Reached style h w) :
    w = h.writer style := by
  induction reached with
  | start => rfl
  | run _ d ih => rw [ih, d.writer_record]
  | inBlock _ header ih => rw [ih, History.writer_openBlock]
  | atRoot _ ih =>
    rw [ih]
    rfl

/-- A line is empty if nothing was written on it, and otherwise it is some text behind the
indentation of the level at which its first text was written. -/
def Indented (style : Style) (pieces : List Piece) (line : String) : Prop :=
  (pieces = [] ∧ line = "") ∨ ∃ first others text, pieces = first :: others ∧ text ≠ "" ∧
    line = String.ofList (List.replicate (style.indentWidth * first.level) ' ') ++ text

theorem indented_lineText (style : Style) (pieces : List Piece) :
    Indented style pieces (lineText style pieces) := by
  cases pieces with
  | nil => exact .inl ⟨rfl, rfl⟩
  | cons first others =>
    refine .inr ⟨first, others, _, rfl, foldl_text_ne others first.full, ?_⟩
    rw [Nat.mul_comm]
    exact foldl_text others (indent style first.level) first.text

/-- Every completed line of a reached writer is indented by the level of its first piece, line by
line. -/
theorem Reached.indented {style : Style} {h : History} {w : Writer} (reached : Reached style h w) :
    List.Forall₂ (Indented style) h.lines w.lines.toList := by
  rw [reached.eq_writer, History.writer, List.toList_toArray, List.forall₂_map_right_iff,
    List.forall₂_same]
  exact fun pieces _ => indented_lineText style pieces

theorem Reached.follow {style : Style} {h : History} {w : Writer} (reached : Reached style h w)
    (ds : List Directive) : Reached style (recordAll ds h) (runAll ds w) := by
  induction ds generalizing h w with
  | nil => exact reached
  | cons d ds ih => exact ih (reached.run d)

/-! ## Levels along a run

The levels after all directives of a tree, inner ones included, against those before. -/

mutual

/-- The levels before the directives whose levels afterwards are listed by `Directive.levels`, in
the same order. -/
def Directive.levelsBefore : Directive → Writer → List Nat
  | .block header body, w => levelsBeforeAll body (w.openBlock header) ++ [w.level]
  | .atRoot body, w => levelsBeforeAll body { w with level := 0 } ++ [w.level]
  | .write _, w | .line _, w | .newline, w | .blank, w => [w.level]

/-- The levels before each of several directives and those they hold. -/
def levelsBeforeAll : List Directive → Writer → List Nat
  | [], _ => []
  | d :: ds, w => d.levelsBefore w ++ levelsBeforeAll ds (d.run w)

end

mutual

theorem Directive.levels_eq (d : Directive) (w : Writer) : d.levels w = d.levelsBefore w := by
  match d with
  | .block header body =>
    rw [Directive.levels, Directive.levelsBefore, levelsOfAll_eq body, Directive.level_run]
  | .atRoot body =>
    rw [Directive.levels, Directive.levelsBefore, levelsOfAll_eq body, Directive.level_run]
  | .write text | .line text | .newline | .blank =>
    rw [Directive.levels, Directive.levelsBefore, Directive.level_run]

/-- Every directive of a tree leaves the level as it found it. -/
theorem levelsOfAll_eq (ds : List Directive) (w : Writer) :
    levelsOfAll ds w = levelsBeforeAll ds w := by
  match ds with
  | [] => rfl
  | d :: ds => rw [levelsOfAll, levelsBeforeAll, d.levels_eq, levelsOfAll_eq ds]

end

/-- Closes a block, unless there is no level to go back to. -/
def Writer.closeBlock? (w : Writer) : Option Writer :=
  let w := w.finishLine
  if w.level = 0 then none else some (writeLine { w with level := w.level - 1 } "\x7d")

mutual

/-- Follows a directive, and gives up where a level would go below zero. -/
def Directive.checked : Directive → Writer → Option Writer
  | .block header body, w => (checkedAll body (w.openBlock header)).bind Writer.closeBlock?
  | .atRoot body, w =>
    (checkedAll body { w with level := 0 }).map fun inside =>
      { inside.finishLine with level := w.level }
  | .write text, w => some (w.write text)
  | .line text, w => some (w.writeLine text)
  | .newline, w => some w.newline
  | .blank, w => some w.blankLine

/-- Follows directives one after the other, and gives up where a level would go below zero. -/
def checkedAll : List Directive → Writer → Option Writer
  | [], w => some w
  | d :: ds, w => (d.checked w).bind (checkedAll ds)

end

mutual

theorem Directive.checked_eq (d : Directive) (w : Writer) : d.checked w = some (d.run w) := by
  match d with
  | .block header body =>
    -- The body comes back to the level of its start, which is one further in than the block.
    have deeper : (runAll body (w.openBlock header)).finishLine.level ≠ 0 := by
      simp [level_runAll]
    rw [Directive.checked, checkedAll_eq body, Option.bind_some, Writer.closeBlock?, if_neg deeper]
    rfl
  | .atRoot body =>
    rw [Directive.checked, checkedAll_eq body]
    rfl
  | .write text | .line text | .newline | .blank => rfl

/-- No directive of a tree takes a level below zero. -/
theorem checkedAll_eq (ds : List Directive) (w : Writer) :
    checkedAll ds w = some (runAll ds w) := by
  match ds with
  | [] => rfl
  | d :: ds => rw [checkedAll, d.checked_eq, Option.bind_some, checkedAll_eq ds, runAll]

end

/-! ## The structure of a run

The parts come from growth, levels and the history. -/

theorem Writer.Grows.lines_prefix {w w' : Writer} (h : w.Grows w') :
    w.lines.toList <+: w'.lines.toList := by
  cases h with
  | pending lines => exact lines ▸ List.prefix_rfl
  | ended line others lines => exact ⟨_, lines.symm⟩

/-- The pending line goes on as the first new line or, if there is none, as the new pending one. -/
theorem Writer.Grows.current_prefix {w w' : Writer} (h : w.Grows w') :
    w.current.toList <+: ((w'.lines.toList.drop w.lines.size).headD w'.current).toList := by
  rw [← Array.length_toList]
  cases h with
  | pending lines begun => simpa [lines] using begun
  | ended line others lines begun => simpa [lines] using begun

/-- **The structure of a run.** Wherever a writer has come to, a tree of directives leaves every
level as it found it and takes none below zero; it changes no completed line and goes on with the
pending one; and every completed line is empty or indented by the level at which its first text was
written. -/
theorem Reached.structure_runAll {style : Style} {h : History} {w : Writer}
    (reached : Reached style h w) (ds : List Directive) :
    (runAll ds w).level = w.level ∧ levelsOfAll ds w = levelsBeforeAll ds w ∧
    checkedAll ds w = some (runAll ds w) ∧
    w.lines.toList <+: (runAll ds w).lines.toList ∧
    w.current.toList <+:
      (((runAll ds w).lines.toList.drop w.lines.size).headD (runAll ds w).current).toList ∧
    List.Forall₂ (Indented style) (recordAll ds h).lines (runAll ds w).lines.toList := by
  have grown := grows_runAll ds w
  exact ⟨level_runAll ds w, levelsOfAll_eq ds w, checkedAll_eq ds w, grown.lines_prefix,
    grown.current_prefix, (reached.follow ds).indented⟩

/-- A block that starts in the middle of a line, with a section at the margin inside. -/
def blockInLine : List Directive :=
  [.write ": T", .block " =" [.line "y", .atRoot [.write "z"], .blank], .blank]

/-- A writer in the middle of a line of a block. -/
def writerInLine : Writer :=
  (Directive.write "val x").run (Writer.openBlock { style := ⟨4, "\n"⟩ } "package a")

theorem Reached.structure_runAll_blockInLine :
    ∃ h, Reached ⟨4, "\n"⟩ h writerInLine ∧
      writerInLine.level = 1 ∧ writerInLine.current = "    val x" ∧
      (runAll blockInLine writerInLine).lines.toList =
        ["package a \x7b", "    val x: T = \x7b", "        y", "z", "", "    \x7d", ""] ∧
      levelsOfAll blockInLine writerInLine = [1, 2, 0, 2, 2, 1, 1] ∧
      checkedAll blockInLine writerInLine = some (runAll blockInLine writerInLine) ∧
      List.Forall₂ (Indented ⟨4, "\n"⟩) (recordAll blockInLine h).lines
        (runAll blockInLine writerInLine).lines.toList := by
  have reached : Reached ⟨4, "\n"⟩ _ writerInLine :=
    (Reached.start.inBlock "package a").run (.write "val x")
  obtain ⟨-, levels, checked, -, -, indented⟩ := reached.structure_runAll blockInLine
  have before : levelsBeforeAll blockInLine writerInLine = [1, 2, 0, 2, 2, 1, 1] := by
    decide +kernel
  exact ⟨_, reached, by decide +kernel, by decide +kernel, by decide +kernel, levels.trans before,
    checked, indented⟩

end ScalaFacade.Layout
