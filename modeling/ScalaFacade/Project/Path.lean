import ScalaFacade.Text.Segment

/-! # Paths

A path is a text whose parts are divided by slashes. Empty parts and single dots mean nothing,
except that a dot at the very start of a relative path is a component of its own; all other parts
are components. Taking the parent of a path or joining two paths keeps the rest of the text as it
is written.
-/

set_option autoImplicit false

namespace ScalaFacade

/-- A path, as it is written. -/
structure Path where
  text : String
deriving DecidableEq, Repr

namespace Path

/-- The path of the current directory. -/
def here : Path := ⟨"."⟩

/-- The parts of a path, those that mean nothing included. -/
def parts (path : Path) : List String := Text.split '/' path.text

/-- Whether a path starts at the root. -/
def isAbsolute (path : Path) : Bool :=
  match path.text.toList with
  | c :: _ => c == '/'
  | [] => false

/-- Whether a path is the empty text. -/
def isEmpty (path : Path) : Bool := path.text.isEmpty

/-- The most bytes that a path may have to be looked up. -/
def maxBytes : Nat := 4095

/-- The most bytes that a name in a directory may have. -/
def maxNameBytes : Nat := 255

/-- Whether a path can be looked up at all: it is not too long, and no null character is in it. -/
def isAdmissible (path : Path) : Bool :=
  decide (path.text.utf8ByteSize ≤ maxBytes) && !path.text.toList.contains '\x00'

/-- The text of the given parts. -/
def ofParts (parts : List String) : Path := ⟨"/".intercalate parts⟩

/-- The parts up to each component in turn, shortest first; `taken` are the parts before, last one
first, and `first` says that a dot is still a component. -/
def stops (first : Bool) (taken : List String) : List String → List (List String)
  | [] => []
  | part :: parts =>
    if part = "" ∨ (part = "." ∧ !first) then stops false (part :: taken) parts
    else (part :: taken).reverse :: stops false (part :: taken) parts

/-- The paths that lead from the start of a path to each of its components, the last of which names
what the path names. -/
def ancestors (path : Path) : List Path :=
  (stops (!path.isAbsolute) [] path.parts).map ofParts

/-- The path without its last component; there is none for the root and for the empty path. -/
def parent? (path : Path) : Option Path :=
  match path.ancestors.reverse with
  | [] => none
  | [_] => if path.isAbsolute then some ⟨"/"⟩ else some ⟨""⟩
  | _ :: outer :: _ => some outer

/-- The last component of a path, unless that is a dot or two dots. -/
def fileName? (path : Path) : Option String :=
  match path.ancestors.getLast? with
  | none => none
  | some last =>
    match last.parts.getLast? with
    | none => none
    | some name => if name = "." ∨ name = ".." then none else some name

/-- The path `next` seen from `path`. -/
def join (path next : Path) : Path :=
  if next.isAbsolute then next
  else if path.isEmpty ∨ path.text.toList.getLast? = some '/' then ⟨path.text ++ next.text⟩
  else ⟨path.text ++ "/" ++ next.text⟩

end Path

end ScalaFacade
