import ScalaFacade.Layout.Writer

/-! # The lines that directives add

The writer keeps a pending line, indents it late and lets blank lines collapse, so what a directive
does depends on the state it meets. Between two lines none of this shows. This file says so once:

> from a writer with an empty pending line, directives **append** a list of lines that depends on
> nothing but the style and the level.

There are two forms of the statement. `Lays` asks for the empty pending line only. `LaysBelow` also
asks for a text on the line above (`Writer.Ready`), which is what a blank line needs in order to be
written at all. The blocks of a facade start with a blank line and end with a brace, so the second
form hands itself on from block to block; the first is the form of what stands inside.

To put two `LaysBelow` together, the lines of the first have to end in one with a text, if there are
any (`Settled`). Lines that end in an empty one would let the blank line of the next block collapse.

Only what leaves nothing pending can be described in this way. Text that is written without ending
its line does not lay lines; the modules about steps and histories deal with that.
-/

set_option autoImplicit false

namespace ScalaFacade.Layout

variable {style : Style} {level : Nat} {ds es : List Directive} {ls ms : List String}

/-! ## Lines behind a writer's

Appending completed lines to a writer, as an operation of its own. -/

def indent (style : Style) (level : Nat) : String :=
  String.ofList (List.replicate (level * style.indentWidth) ' ')

/-- A line as it is stored: only a line with a text is indented. -/
def indented (style : Style) (level : Nat) (text : String) : String :=
  if text.isEmpty then "" else indent style level ++ text

@[simp] theorem indent_zero : indent style 0 = "" := by simp [indent]

@[simp] theorem indented_zero (text : String) : indented style 0 text = text := by
  unfold indented
  split
  · rename_i h
    exact (String.isEmpty_iff.1 h).symm
  · simp

theorem indented_of_ne {text : String} (h : text ≠ "") :
    indented style level text = indent style level ++ text := by
  simp [indented, h]

/-- The writer with further lines completed. -/
def Writer.append (w : Writer) (lines : List String) : Writer :=
  { w with lines := w.lines ++ lines.toArray }

@[simp] theorem Writer.append_style (w : Writer) : (w.append ls).style = w.style := rfl
@[simp] theorem Writer.append_level (w : Writer) : (w.append ls).level = w.level := rfl
@[simp] theorem Writer.append_current (w : Writer) : (w.append ls).current = w.current := rfl
@[simp] theorem Writer.append_nil (w : Writer) : w.append [] = w := by simp [Writer.append]

@[simp] theorem Writer.append_append (w : Writer) :
    (w.append ls).append ms = w.append (ls ++ ms) := by
  simp [Writer.append]

/-! ## The state between two blocks

What a blank line needs, and what keeps it so. -/

/-- Nothing is pending, and there is a text on the line above. -/
structure Writer.Ready (w : Writer) : Prop where
  clear : w.current = ""
  above : ∃ line, w.lines.back? = some line ∧ line ≠ ""

/-- A list of lines after which the line above is not empty if it was not before. -/
def Settled (lines : List String) : Prop := ∀ line ∈ lines.getLast?, line ≠ ""

theorem settled_nil : Settled [] := by simp [Settled]

theorem settled_concat {line : String} (h : line ≠ "") : Settled (ls ++ [line]) := by
  simpa [Settled] using h

theorem Settled.append (h₁ : Settled ls) (h₂ : Settled ms) : Settled (ls ++ ms) := by
  intro line h
  rw [List.getLast?_append, Option.mem_def, Option.or_eq_some_iff] at h
  rcases h with h | ⟨_, h⟩
  · exact h₂ line h
  · exact h₁ line h

theorem Writer.ready_append {w : Writer} (clear : w.current = "") (settled : Settled ls)
    (h : ls ≠ []) : (w.append ls).Ready := by
  have last : ls.getLast? = some (ls.getLast h) := List.getLast?_eq_some_getLast h
  exact ⟨clear, ls.getLast h, by simp [Writer.append, last], settled _ last⟩

/-- Lines that end with a text leave the writer ready, and no lines leave it as it was. -/
theorem Writer.Ready.append {w : Writer} (ready : w.Ready) (settled : Settled ls) :
    (w.append ls).Ready := by
  by_cases h : ls = []
  · subst h
    simpa using ready
  · exact w.ready_append ready.clear settled h

/-! ## What one directive does to a clear writer

With nothing pending, ending a line and opening or closing a block are appending lines. -/

/-- A line goes behind the others, indented if there is any text on it. -/
theorem Writer.writeLine_of_clear {w : Writer} (clear : w.current = "") (text : String) :
    w.writeLine text = w.append [indented w.style w.level text] := by
  by_cases h : text.isEmpty
  · simp [writeLine, write, newline, append, indented, h, clear]
  · simp [writeLine, write, newline, append, indented, h, clear, Writer.indentation, indent]

theorem Writer.finishLine_of_clear {w : Writer} (clear : w.current = "") : w.finishLine = w := by
  simp [finishLine, clear]

/-- A blank line is written below a text. -/
theorem Writer.Ready.blankLine {w : Writer} (ready : w.Ready) : w.blankLine = w.append [""] := by
  obtain ⟨line, above, full⟩ := ready.above
  simp [Writer.blankLine, finishLine_of_clear ready.clear, above, full, Writer.append]

/-- Two texts in a row are one text. -/
theorem Writer.write_write (w : Writer) (a b : String) :
    (w.write a).write b = w.write (a ++ b) := by
  -- The indentation goes before the first text that is not empty, whichever of the two that is.
  by_cases ha : a = ""
  · subst ha
    simp [write]
  · by_cases hb : b = ""
    · subst hb
      simp [write]
    · have hab : a ++ b ≠ "" := by simp [ha]
      by_cases hc : w.current = "" <;> simp [write, ha, hb, hc, hab, String.append_assoc]

/-- Opening a block writes its header, whatever stands above. -/
theorem Writer.openBlock_of_clear {w : Writer} (clear : w.current = "") (header : String) :
    w.openBlock header =
      { w.append [indent w.style w.level ++ (header ++ " \x7b")] with level := w.level + 1 } := by
  -- The header is written and then ended, which is writing one line if nothing is pending.
  have text : header ++ " \x7b" ≠ "" := by simp
  have written : (w.write header).writeLine " \x7b" = w.writeLine (header ++ " \x7b") := by
    rw [writeLine, write_write, writeLine]
  unfold openBlock
  rw [written, writeLine_of_clear clear, indented_of_ne text]
  rfl

/-- Closing a block writes a brace one level further out. -/
theorem Writer.closeBlock_of_clear {w : Writer} (clear : w.current = "") :
    w.closeBlock =
      { w.append [indent w.style (w.level - 1) ++ "\x7d"] with level := w.level - 1 } := by
  unfold closeBlock
  rw [finishLine_of_clear clear, writeLine_of_clear (by exact clear), indented_of_ne (by decide)]
  rfl

/-! ## Runs that append

A relation between directives and lines, and how it is put together. Later modules use these lemmas
and do not run a writer themselves. -/

/-- From a clear writer, the directives append the lines. -/
def Lays (style : Style) (level : Nat) (ds : List Directive) (lines : List String) : Prop :=
  ∀ w : Writer, w.style = style → w.level = level → w.current = "" → runAll ds w = w.append lines

/-- From a ready writer, the directives append the lines. -/
def LaysBelow (style : Style) (level : Nat) (ds : List Directive) (lines : List String) : Prop :=
  ∀ w : Writer, w.style = style → w.level = level → w.Ready → runAll ds w = w.append lines

theorem runAll_append (w : Writer) : runAll (ds ++ es) w = runAll es (runAll ds w) := by
  induction ds generalizing w with
  | nil => rfl
  | cons d ds ih =>
    rw [List.cons_append, runAll, runAll]
    exact ih (d.run w)

/-- What asks for less may be used where more is known. -/
theorem Lays.below (h : Lays style level ds ls) : LaysBelow style level ds ls :=
  fun w hs hl ready => h w hs hl ready.clear

theorem lays_nil : Lays style level [] [] := fun w _ _ _ => by simp [runAll]

theorem Lays.append (h₁ : Lays style level ds ls) (h₂ : Lays style level es ms) :
    Lays style level (ds ++ es) (ls ++ ms) := by
  intro w hs hl clear
  rw [runAll_append, h₁ w hs hl clear, h₂ (w.append ls) hs hl clear, Writer.append_append]

/-- The second part needs a text above it, so the first has to be settled. -/
theorem LaysBelow.append (h₁ : LaysBelow style level ds ls) (settled : Settled ls)
    (h₂ : LaysBelow style level es ms) : LaysBelow style level (ds ++ es) (ls ++ ms) := by
  intro w hs hl ready
  rw [runAll_append, h₁ w hs hl ready, h₂ (w.append ls) hs hl (ready.append settled),
    Writer.append_append]

/-- What needs a text above it may follow anything that ends in one. -/
theorem Lays.append_below (h₁ : Lays style level ds ls) (settled : Settled ls) (h : ls ≠ [])
    (h₂ : LaysBelow style level es ms) : Lays style level (ds ++ es) (ls ++ ms) := by
  intro w hs hl clear
  rw [runAll_append, h₁ w hs hl clear, h₂ (w.append ls) hs hl (w.ready_append clear settled h),
    Writer.append_append]

theorem lays_line (text : String) : Lays style level [.line text] [indented style level text] := by
  intro w hs hl clear
  rw [runAll, runAll, Directive.run, Writer.writeLine_of_clear clear, hs, hl]

theorem lays_lines (texts : List String) :
    Lays style level (texts.map .line) (texts.map (indented style level)) := by
  induction texts with
  | nil => exact lays_nil
  | cons text texts ih => exact (lays_line text).append ih

/-- A blank line is written where a text is above; elsewhere it might collapse. -/
theorem laysBelow_blank : LaysBelow style level [.blank] [""] := by
  intro w _ _ ready
  rw [runAll, runAll, Directive.run, ready.blankLine]

/-- An empty line goes above directives that need no text above them. The empty line is then what
they have above. -/
theorem Lays.below_blank (h : Lays style level ds ls) :
    LaysBelow style level (.blank :: ds) ("" :: ls) := by
  intro w hs hl ready
  rw [runAll, Directive.run, ready.blankLine, h (w.append [""]) hs hl ready.clear,
    Writer.append_append]
  rfl

/-- What stands at the margin is the same at every level. -/
theorem Lays.atRoot (h : Lays style 0 ds ls) : Lays style level [.atRoot ds] ls := by
  intro w hs _ clear
  rw [runAll, runAll, Directive.run, h { w with level := 0 } hs rfl clear,
    Writer.finishLine_of_clear (by exact clear)]
  rfl

/-- What stands at the margin may be set off from what is above by an empty line, at every level. -/
theorem Lays.separate (h : Lays style 0 ds ls) :
    LaysBelow style level [.blank, .atRoot ds] ("" :: ls) :=
  h.atRoot.below_blank

/-- A block. Its body comes below the header, so it may start with a blank line. -/
theorem LaysBelow.block (header : String) (h : LaysBelow style (level + 1) ds ls) :
    Lays style level [.block header ds]
      ((indent style level ++ (header ++ " \x7b")) :: (ls ++ [indent style level ++ "\x7d"])) := by
  intro w hs hl clear
  subst hs hl
  let opened : Writer :=
    { w.append [indent w.style w.level ++ (header ++ " \x7b")] with level := w.level + 1 }
  -- The header is a text above the body, whatever stood above the header.
  have ready : opened.Ready :=
    ⟨clear, indent w.style w.level ++ (header ++ " \x7b"), by simp [opened, Writer.append], by simp⟩
  have body : runAll ds opened = opened.append ls := h opened rfl rfl ready
  rw [runAll, runAll, Directive.run, Writer.openBlock_of_clear clear, body,
    Writer.closeBlock_of_clear (by exact clear)]
  simp [opened, Writer.append]

/-! ## The finished text -/

/-- Nothing is dropped at the end of a text whose last line is not empty, and nothing is pending
that would have to be ended. -/
theorem Writer.Ready.text {w : Writer} (ready : w.Ready) :
    w.text = w.style.newLine.intercalate w.lines.toList ++ w.style.newLine := by
  obtain ⟨line, above, full⟩ := ready.above
  rw [← Array.getLast?_toList] at above
  obtain ⟨front, lines⟩ := List.getLast?_eq_some_iff.1 above
  simp [Writer.text, finishLine_of_clear ready.clear, lines, full]

end ScalaFacade.Layout
