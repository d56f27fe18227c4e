import Mathlib.Logic.Relation
import ScalaFacade.Proofs.Layout.Lines

/-! # What a writer does, step by step

A tree of directives can do anything to a writer that its nesting allows, but it does it in few
ways: text is put on the current line, the current line is ended, the level changes. This file says
so once (`Directive.steps`):

> whatever a directive does to a writer is a chain of steps, and a step that ends a line ends one
> with a text on it, or an empty one below a text, or one that a directive asked for.

What holds along every chain is then a case analysis of one step. The first such fact is that
nothing that has been written is ever taken back (`Writer.Grows`). Levels are the one thing that
steps do not tell: they come back to what they were only because blocks and sections are nested, so
they are followed along the tree.

Steps have two parameters, so that one chain serves several facts. `allowed` is what is known of all
texts that are written, such as that there is no line feed in them. `loose` says whether a line may
be ended with nothing on it; for trees that never ask for that (`Directive.tight`) it can be
`False`, and one of the five kinds of step then does not occur.
-/

set_option autoImplicit false

namespace ScalaFacade.Layout

/-! ## What a tree asks for

The texts in a tree, and whether it asks for the end of an empty line, both without running it. -/

mutual

/-- The texts of a directive and of those it holds. -/
def Directive.texts : Directive → List String
  | .write text | .line text => [text]
  | .newline | .blank => []
  | .block header body => header :: textsOfAll body
  | .atRoot body => textsOfAll body

/-- The texts of several directives. -/
def textsOfAll : List Directive → List String
  | [] => []
  | d :: ds => d.texts ++ textsOfAll ds

end

mutual

/-- Whether neither a directive nor one that it holds asks for the end of a line on which nothing
may have been written. -/
def Directive.tight : Directive → Bool
  | .line text => !text.isEmpty
  | .newline => false
  | .write _ | .blank => true
  | .block _ body | .atRoot body => tightAll body

/-- Whether several directives are tight. -/
def tightAll : List Directive → Bool
  | [] => true
  | d :: ds => d.tight && tightAll ds

end

/-! ## Steps

Each operation of the writer prolongs a chain. -/

/-- One thing that a writer does: it writes a text that is `allowed`, ends a line or changes the
level. A line on which nothing may have been written is ended only if that is `loose`. -/
inductive Writer.Step (allowed : String → Prop) (loose : Prop) : Writer → Writer → Prop where
  | write (w : Writer) {text : String} (h : allowed text) : Step allowed loose w (w.write text)
  | finish {w : Writer} (pending : w.current ≠ "") : Step allowed loose w w.newline
  | blank {w : Writer} (ready : w.Ready) : Step allowed loose w w.newline
  | newline (w : Writer) (h : loose) : Step allowed loose w w.newline
  | indent (w : Writer) (level : Nat) : Step allowed loose w { w with level }

/-- A chain of steps. -/
def Writer.Steps (allowed : String → Prop) (loose : Prop) : Writer → Writer → Prop :=
  Relation.ReflTransGen (Writer.Step allowed loose)

theorem Writer.current_write_ne (w : Writer) {text : String} (h : text ≠ "") :
    (w.write text).current ≠ "" := by
  by_cases pending : w.current = "" <;> simp [write, h, pending]

section

variable {allowed : String → Prop} {loose : Prop} {w w' : Writer}

theorem Writer.Steps.step (h : w.Steps allowed loose w') {w'' : Writer}
    (step : w'.Step allowed loose w'') : w.Steps allowed loose w'' :=
  Relation.ReflTransGen.tail h step

theorem Writer.Steps.trans (h : w.Steps allowed loose w') {w'' : Writer}
    (h' : w'.Steps allowed loose w'') : w.Steps allowed loose w'' :=
  Relation.ReflTransGen.trans h h'

theorem Writer.Steps.finishLine (h : w.Steps allowed loose w') :
    w.Steps allowed loose w'.finishLine := by
  by_cases pending : w'.current = ""
  · rwa [finishLine_of_clear pending]
  · rw [Writer.finishLine, if_neg (by simpa using pending)]
    exact h.step (.finish pending)

theorem Writer.current_finishLine (w : Writer) : w.finishLine.current = "" := by
  by_cases pending : w.current = "" <;> simp [finishLine, newline, pending]

/-- An empty line is written below a text, and otherwise nothing is. -/
theorem Writer.blankLine_cases (w : Writer) :
    w.blankLine = w.finishLine ∨ w.finishLine.Ready ∧ w.blankLine = w.finishLine.newline := by
  have clear := w.current_finishLine
  cases above : w.finishLine.lines.back? with
  | none => exact .inl (by simp [blankLine, above])
  | some line =>
    by_cases full : line = ""
    · exact .inl (by simp [blankLine, above, full])
    · refine .inr ⟨⟨clear, line, above, full⟩, ?_⟩
      simp [blankLine, above, full, newline, clear]

theorem Writer.Steps.blankLine (h : w.Steps allowed loose w') :
    w.Steps allowed loose w'.blankLine := by
  obtain same | ⟨ready, same⟩ := w'.blankLine_cases
  · exact same ▸ h.finishLine
  · exact same ▸ h.finishLine.step (.blank ready)

/-- A line that is written and ended at once. With a text on it, it is ended as any pending line is;
without one, ending it has to be allowed. -/
theorem Writer.Steps.writeLine (h : w.Steps allowed loose w') {text : String} (fine : allowed text)
    (ends : loose ∨ text ≠ "") : w.Steps allowed loose (w'.writeLine text) := by
  have written := h.step (.write w' fine)
  obtain asked | full := ends
  · exact written.step (.newline _ asked)
  · exact written.step (.finish (w'.current_write_ne full))

/-- The braces of a block are texts, too. -/
structure Braces (allowed : String → Prop) : Prop where
  opening : allowed " \x7b"
  closing : allowed "\x7d"

mutual

/-- **Whatever a directive does is a chain of steps.** The texts of a directive have to be allowed,
and so do the braces, which it writes of itself. If no line may be ended that is empty, the
directive must not ask for that. The chain of a block has the chain of its body in it, so the
induction goes along the tree. -/
theorem Directive.steps (braces : Braces allowed) (d : Directive)
    (fine : ∀ text ∈ d.texts, allowed text) (ends : loose ∨ d.tight = true) (w : Writer) :
    w.Steps allowed loose (d.run w) := by
  have none : w.Steps allowed loose w := .refl
  match d with
  | .write text => exact none.step (.write w (fine text List.mem_cons_self))
  | .line text =>
    refine none.writeLine (fine text List.mem_cons_self) (ends.imp_right fun tight => ?_)
    simpa [Directive.tight] using tight
  | .newline =>
    obtain asked | tight := ends
    · exact none.step (.newline w asked)
    · cases tight
  | .blank => exact none.blankLine
  | .block header body =>
    obtain ⟨first, others⟩ := List.forall_mem_cons.1 fine
    have opened := (none.step (.write w first)).writeLine braces.opening (.inr (by decide))
    have inside := steps_runAll braces body others ends (w.openBlock header)
    have finished := ((opened.step (.indent _ _)).trans inside).finishLine
    exact (finished.step (.indent _ _)).writeLine braces.closing (.inr (by decide))
  | .atRoot body =>
    have inside := steps_runAll braces body fine ends { w with level := 0 }
    exact ((none.step (.indent w 0)).trans inside).finishLine.step (.indent _ _)

theorem steps_runAll (braces : Braces allowed) (ds : List Directive)
    (fine : ∀ text ∈ textsOfAll ds, allowed text) (ends : loose ∨ tightAll ds = true) (w : Writer) :
    w.Steps allowed loose (runAll ds w) := by
  match ds with
  | [] => exact .refl
  | d :: ds =>
    obtain ⟨first, others⟩ := List.forall_mem_append.1 fine
    have tight : loose ∨ d.tight = true ∧ tightAll ds = true :=
      ends.imp_right fun h => by simpa [tightAll] using h
    exact (d.steps braces first (tight.imp_right And.left) w).trans
      (steps_runAll braces ds others (tight.imp_right And.right) (d.run w))

end

end

/-! ## Nothing is taken back

One step keeps it, and so does a chain. -/

theorem Writer.lines_write (w : Writer) (text : String) : (w.write text).lines = w.lines := by
  unfold write
  split
  · rfl
  · split <;> rfl

theorem Writer.style_write (w : Writer) (text : String) : (w.write text).style = w.style := by
  unfold write
  split
  · rfl
  · split <;> rfl

theorem Writer.current_prefix_write (w : Writer) (text : String) :
    w.current.toList <+: (w.write text).current.toList := by
  by_cases h : text = ""
  · simp [write, h]
  · by_cases pending : w.current = "" <;> simp [write, h, pending]

/-- What `w` has written is there in `w'`, in the same place: either no line has been ended and the
pending line has gone on, or new lines are below those of `w`, the first of which has gone on from
its pending line. -/
inductive Writer.Grows (w w' : Writer) : Prop where
  | pending (lines : w'.lines.toList = w.lines.toList)
      (begun : w.current.toList <+: w'.current.toList)
  | ended (line : String) (others : List String)
      (lines : w'.lines.toList = w.lines.toList ++ line :: others)
      (begun : w.current.toList <+: line.toList)

theorem Writer.Grows.newline {w w' : Writer} (h : w.Grows w') : w.Grows w'.newline := by
  cases h with
  | pending lines begun => exact .ended w'.current [] (by simp [Writer.newline, lines]) begun
  | ended line others lines begun =>
    exact .ended line (others ++ [w'.current]) (by simp [Writer.newline, lines]) begun

/-- A step puts text behind the pending line, ends it or changes the level. All of these go on from
what is there. -/
theorem Writer.Grows.step {allowed : String → Prop} {loose : Prop} {w w' w'' : Writer}
    (h : w.Grows w') (step : w'.Step allowed loose w'') : w.Grows w'' := by
  cases step with
  | write fine =>
    rename_i text
    have same := congrArg Array.toList (w'.lines_write text)
    cases h with
    | pending lines begun =>
      exact .pending (same.trans lines) (begun.trans (w'.current_prefix_write text))
    | ended line others lines begun => exact .ended line others (same.trans lines) begun
  | finish => exact h.newline
  | blank => exact h.newline
  | newline => exact h.newline
  | indent level =>
    cases h with
    | pending lines begun => exact .pending lines begun
    | ended line others lines begun => exact .ended line others lines begun

/-- Growing starts with nothing new and goes through every chain, since each step goes on from what
is there. -/
theorem Writer.Steps.grows {allowed : String → Prop} {loose : Prop} {w w' : Writer}
    (h : w.Steps allowed loose w') : w.Grows w' := by
  induction h with
  | refl => exact .pending rfl List.prefix_rfl
  | tail _ step ih => exact ih.step step

/-- **Nothing that has been written is taken back**, whatever is written next. Nothing is asked of
the directives: for this, every text is allowed and every line may be ended. -/
theorem grows_runAll (ds : List Directive) (w : Writer) : w.Grows (runAll ds w) := by
  have steps : w.Steps (fun _ => True) True (runAll ds w) :=
    steps_runAll ⟨trivial, trivial⟩ ds (fun _ _ => trivial) (.inl trivial) w
  exact steps.grows

/-! ## Levels

Blocks go in and out again, and sections at the margin come back to where they were. -/

section Levels

variable (w : Writer)

@[simp] theorem Writer.level_write (text : String) : (w.write text).level = w.level := by
  unfold write
  split
  · rfl
  · split <;> rfl

@[simp] theorem Writer.level_newline : w.newline.level = w.level := rfl

@[simp] theorem Writer.level_writeLine (text : String) : (w.writeLine text).level = w.level := by
  simp [writeLine]

@[simp] theorem Writer.level_finishLine : w.finishLine.level = w.level := by
  unfold finishLine
  split <;> rfl

@[simp] theorem Writer.level_blankLine : w.blankLine.level = w.level := by
  obtain same | ⟨-, same⟩ := w.blankLine_cases <;> simp [same]

@[simp] theorem Writer.level_openBlock (header : String) :
    (w.openBlock header).level = w.level + 1 := by
  simp [openBlock]

@[simp] theorem Writer.level_closeBlock : w.closeBlock.level = w.level - 1 := by
  simp [closeBlock]

end Levels

mutual

/-- A directive leaves the level as it was. -/
theorem Directive.level_run (d : Directive) (w : Writer) : (d.run w).level = w.level := by
  match d with
  | .write text => exact w.level_write text
  | .line text => exact w.level_writeLine text
  | .newline => rfl
  | .blank => exact w.level_blankLine
  | .block header body =>
    rw [Directive.run, Writer.level_closeBlock, level_runAll body, Writer.level_openBlock]
    rfl
  -- The level is restored by the directive itself, whatever the body does.
  | .atRoot body => rfl

theorem level_runAll (ds : List Directive) (w : Writer) : (runAll ds w).level = w.level := by
  match ds with
  | [] => rfl
  | d :: ds => rw [runAll, level_runAll ds, d.level_run]

end

end ScalaFacade.Layout
