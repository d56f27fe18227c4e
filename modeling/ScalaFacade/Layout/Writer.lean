/-! # Writing lines and blocks

Text is laid out by a writer that knows the lines completed so far, the line it is on and the level
of indentation. Indentation is written together with the first text of a line, so an empty line
never carries blanks. What is to be written is given as directives, which may hold further
directives: a block is a header, a body one level deeper and a closing brace.
-/

set_option autoImplicit false

namespace ScalaFacade.Layout

/-- The blanks of one level of indentation and the text that ends a line. -/
structure Style where
  /-- The blanks of one level are made into a text before anything is written, and no text in memory
  has `2 ^ 63` bytes or more: with a width from there on a run breaks off, also where no line would
  be indented. Such widths are outside the model, which has a layout for every number. -/
  indentWidth : Nat := 2
  newLine : String := "\n"
deriving DecidableEq, Repr

/-- A text in the making. -/
structure Writer where
  style : Style := {}
  lines : Array String := #[]
  current : String := ""
  level : Nat := 0

/-- Something to write. -/
inductive Directive where
  /-- Text on the current line. -/
  | write (text : String)
  /-- Text that ends its line. -/
  | line (text : String)
  /-- The end of the current line, which may be empty. -/
  | newline
  /-- An empty line, unless there is one or nothing is above. -/
  | blank
  /-- A header, an indented body in braces. -/
  | block (header : String) (body : List Directive)
  /-- A body without indentation. -/
  | atRoot (body : List Directive)

namespace Writer

/-- The indentation of a line at the current level. -/
def indentation (w : Writer) : String :=
  String.ofList (List.replicate (w.level * w.style.indentWidth) ' ')

/-- Appends text to the current line. -/
def write (w : Writer) (text : String) : Writer :=
  if text.isEmpty then w
  else if w.current.isEmpty then { w with current := w.indentation ++ text }
  else { w with current := w.current ++ text }

/-- Ends the current line. -/
def newline (w : Writer) : Writer :=
  { w with lines := w.lines.push w.current, current := "" }

/-- Appends text and ends the line. -/
def writeLine (w : Writer) (text : String) : Writer := (w.write text).newline

/-- Ends the current line if anything is on it. -/
def finishLine (w : Writer) : Writer := if w.current.isEmpty then w else w.newline

/-- Makes sure that the line above is empty, if there is one. -/
def blankLine (w : Writer) : Writer :=
  let w := w.finishLine
  match w.lines.back? with
  | some last => if last.isEmpty then w else { w with lines := w.lines.push "" }
  | none => w

/-- Opens a block. -/
def openBlock (w : Writer) (header : String) : Writer :=
  let w := (w.write header).writeLine " \x7b"
  { w with level := w.level + 1 }

/-- Closes a block. -/
def closeBlock (w : Writer) : Writer :=
  let w := w.finishLine
  writeLine { w with level := w.level - 1 } "\x7d"

/-- The finished text: all lines, each ended, without the empty ones at the end. -/
def text (w : Writer) : String :=
  let lines := (w.finishLine.lines.toList.reverse.dropWhile String.isEmpty).reverse
  if lines.isEmpty then ""
  else w.style.newLine.intercalate lines ++ w.style.newLine

end Writer

mutual

/-- Follows a directive. -/
def Directive.run : Directive → Writer → Writer
  | .write text, w => w.write text
  | .line text, w => w.writeLine text
  | .newline, w => w.newline
  | .blank, w => w.blankLine
  | .block header body, w => (runAll body (w.openBlock header)).closeBlock
  | .atRoot body, w => { (runAll body { w with level := 0 }).finishLine with level := w.level }

/-- Follows directives one after the other. -/
def runAll : List Directive → Writer → Writer
  | [], w => w
  | d :: ds, w => runAll ds (d.run w)

end

mutual

/-- The levels of indentation after a directive and, before that, after each one it holds. -/
def Directive.levels : Directive → Writer → List Nat
  | .block header body, w =>
    levelsOfAll body (w.openBlock header) ++ [((Directive.block header body).run w).level]
  | .atRoot body, w =>
    levelsOfAll body { w with level := 0 } ++ [((Directive.atRoot body).run w).level]
  | .write text, w => [((Directive.write text).run w).level]
  | .line text, w => [((Directive.line text).run w).level]
  | .newline, w => [(Directive.newline.run w).level]
  | .blank, w => [(Directive.blank.run w).level]

/-- The levels of indentation after each of several directives and those they hold. -/
def levelsOfAll : List Directive → Writer → List Nat
  | [], _ => []
  | d :: ds, w => d.levels w ++ levelsOfAll ds (d.run w)

end

/-- The text that directives amount to. -/
def render (style : Style) (directives : List Directive) : String :=
  (runAll directives { style }).text

end ScalaFacade.Layout
