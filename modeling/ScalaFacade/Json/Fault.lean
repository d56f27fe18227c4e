import ScalaFacade.Json.Cause
import ScalaFacade.Text.Position

/-! # Where reading stops

While a text is read, a place in it is given by what is left of the text. A fault that belongs to a
character knows its place at once. A fault about a value that has been read already (a field is
missing, a buffered value has the wrong shape) has none of its own: it only knows where reading
stopped, and the innermost array or object that is being read gives it a place.
-/

set_option autoImplicit false

namespace ScalaFacade.Json

/-- A cause together with what is known about its place. -/
inductive Fault where
  /-- The place that has `left` bytes after it. -/
  | placed (cause : Cause) (left : Nat)
  /-- No place yet; reading stopped in front of `rest`. -/
  | stopped (cause : Cause) (rest : List Char)

/-- A fault right in front of `rest`. -/
def Fault.before (cause : Cause) (rest : List Char) : Fault :=
  .placed cause (Text.byteLength rest)

/-- A fault at the first byte of `rest`, placed after that byte, or at the end of the text. -/
def Fault.past (cause : Cause) (rest : List Char) : Fault :=
  .placed cause (Text.byteLength rest - 1)

/-- Gives a fault without a place the one in front of what `leave` leaves of the text. -/
def Fault.settle (leave : List Char → List Char) : Fault → Fault
  | .placed cause left => .placed cause left
  | .stopped cause rest => .before cause (leave rest)

/-- The outcome of reading: a result and the rest of the text, or a fault. -/
abbrev Outcome (α : Type) := Except Fault (α × List Char)

/-- A refused text: why, and where if there is a place to show. -/
structure Error where
  cause : Cause
  position : Option Text.Position

/-- The error that a fault in `text` amounts to. -/
def Fault.toError (text : List Char) : Fault → Error
  | .placed cause left => ⟨cause, some (Text.positionAt text (Text.byteLength text - left))⟩
  | .stopped cause _ => ⟨cause, none⟩

/-- The message of an error, with its place. -/
def Error.message (e : Error) : String :=
  match e.position with
  | none => e.cause.message
  | some p => e.cause.message ++ " at line " ++ Decimal.digitText p.line
      ++ " column " ++ Decimal.digitText p.column

end ScalaFacade.Json
