/-! # Places in a text

A text is addressed in two ways: by the number of bytes before a place (its offset, in UTF-8) and by
the line and column that a message shows. Lines end after each line feed and are counted from one.
A message counts the bytes of the current line up to the place, so the column of the very start of
a line is zero; `offsetOf` reads a column as one-based and clamps whatever lies beyond the text.
-/

set_option autoImplicit false

namespace ScalaFacade.Text

/-- The number of bytes that the characters take in UTF-8. -/
def byteLength (text : List Char) : Nat := text.foldr (fun c bytes => c.utf8Size + bytes) 0

@[simp] theorem byteLength_nil : byteLength [] = 0 := rfl

@[simp] theorem byteLength_cons (c : Char) (text : List Char) :
    byteLength (c :: text) = c.utf8Size + byteLength text := rfl

@[simp] theorem byteLength_append (text rest : List Char) :
    byteLength (text ++ rest) = byteLength text + byteLength rest := by
  induction text with
  | nil => simp
  | cons c text ih => rw [List.cons_append, byteLength_cons, byteLength_cons, ih, Nat.add_assoc]

/-- A place in a text, as messages show it. -/
structure Position where
  line : Nat
  column : Nat
deriving DecidableEq, Repr

/-- The place `offset` bytes after `here`, at which `text` begins. The offset may fall inside a
character, which counts like any other place of its line. -/
def Position.advance (here : Position) : List Char → Nat → Position
  | [], _ => here
  | c :: text, offset =>
    if c = '\n' then
      match offset with
      | 0 => here
      | offset + 1 => advance ⟨here.line + 1, 0⟩ text offset
    else if offset < c.utf8Size then ⟨here.line, here.column + offset⟩
    else advance ⟨here.line, here.column + c.utf8Size⟩ text (offset - c.utf8Size)

/-- The line and column of the place that has `offset` bytes before it. -/
def positionAt (text : List Char) (offset : Nat) : Position :=
  Position.advance ⟨1, 0⟩ text offset

/-- The byte lengths of the lines of a text, each with its line feed. What follows the last line
feed is a line of its own unless it is empty. -/
def lineLengths (text : List Char) : List Nat :=
  go 0 text
where
  /-- The line lengths of `text` when the current line already has `current` bytes. -/
  go (current : Nat) : List Char → List Nat
    | [] => if current = 0 then [] else [current]
    | c :: text =>
      if c = '\n' then (current + c.utf8Size) :: go 0 text
      else go (current + c.utf8Size) text

/-- The offset of a place given by line and column, both counted from one; zero stands for one, and
a place beyond the end of the text for that end. -/
def offsetOf (text : List Char) (line column : Nat) : Nat :=
  min (((lineLengths text).take (line - 1)).foldl Nat.add (column - 1)) (byteLength text)

end ScalaFacade.Text
