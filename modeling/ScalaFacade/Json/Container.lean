import ScalaFacade.Json.Scalar

/-! # Arrays and objects

What stands between the brackets of an array or object is read by two loops that leave the meaning
of an element or entry to their caller. Both carry a bound on the number of rounds; every round
takes at least one character, so the length of the text is a bound that is never reached.

A caller that fails without a place of its own is given one by the container it failed in: the
container is left as far as its text allows, and the fault is placed there.
-/

set_option autoImplicit false

namespace ScalaFacade.Json

/-- The deepest nesting of arrays and objects that is read. -/
def nestingLimit : Nat := 127

/-! ## Between the brackets -/

/-- Looks for the next element of an array: the text in front of it, or nothing at the closing
bracket. -/
def nextElement (first : Bool) (s : List Char) : Except Fault (Option (List Char)) :=
  match skipSpace s with
  | [] => .error (.past .eofList [])
  | c :: s =>
    if c = ']' then .ok none
    else if first then .ok (some (c :: s))
    else if c = ',' then
      match skipSpace s with
      | [] => .error (.past .eofValue [])
      | d :: s => if d = ']' then .error (.past .trailingComma (d :: s)) else .ok (some (d :: s))
    else .error (.past .expectedListCommaOrEnd (c :: s))

/-- Looks for the next key of an object: the key and the text after it, or nothing at the closing
bracket. -/
def nextKey (first : Bool) (s : List Char) : Except Fault (Option (String × List Char)) :=
  match skipSpace s with
  | [] => .error (.past .eofObject [])
  | c :: s =>
    if c = '}' then .ok none
    else if first then
      if c = '"' then (readString [] s).map some else .error (.past .keyNotString (c :: s))
    else if c = ',' then
      match skipSpace s with
      | [] => .error (.past .eofValue [])
      | d :: s =>
        if d = '"' then (readString [] s).map some
        else if d = '}' then .error (.past .trailingComma (d :: s))
        else .error (.past .keyNotString (d :: s))
    else .error (.past .expectedObjectCommaOrEnd (c :: s))

/-- Reads the colon after a key. -/
def readColon (s : List Char) : Except Fault (List Char) :=
  match skipSpace s with
  | [] => .error (.past .eofObject [])
  | c :: s => if c = ':' then .ok s else .error (.past .expectedColon (c :: s))

/-- Reads the elements of an array up to its closing bracket, each with `step`. -/
def readElements {σ : Type} (step : σ → List Char → Outcome σ) :
    (bound : Nat) → (first : Bool) → σ → List Char → Outcome σ
  | 0, _, _, s => .error (.past .eofList s)
  | bound + 1, first, state, s =>
    match nextElement first s with
    | .error fault => .error fault
    | .ok none => .ok (state, skipSpace s)
    | .ok (some s) =>
      match step state s with
      | .error fault => .error fault
      | .ok (state, s) => readElements step bound false state s

/-- Reads the entries of an object up to its closing bracket; `step` gets the key and the text
after it, colon included. -/
def readEntries {σ : Type} (step : σ → String → List Char → Outcome σ) :
    (bound : Nat) → (first : Bool) → σ → List Char → Outcome σ
  | 0, _, _, s => .error (.past .eofObject s)
  | bound + 1, first, state, s =>
    match nextKey first s with
    | .error fault => .error fault
    | .ok none => .ok (state, skipSpace s)
    | .ok (some (key, s)) =>
      match step state key s with
      | .error fault => .error fault
      | .ok (state, s) => readEntries step bound false state s

/-! ## Closing -/

/-- Reads the end of an array of which all wanted elements have been read. -/
def endArray (s : List Char) : Except Fault (List Char) :=
  match skipSpace s with
  | [] => .error (.past .eofList [])
  | c :: s =>
    if c = ']' then .ok s
    else if c = ',' then
      match skipSpace s with
      | [] => .error (.past .trailingCharacters [])
      | d :: s =>
        .error (.past (if d = ']' then .trailingComma else .trailingCharacters) (d :: s))
    else .error (.past .trailingCharacters (c :: s))

/-- Reads the end of an object of which all entries have been read. -/
def endObject (s : List Char) : Except Fault (List Char) :=
  match skipSpace s with
  | [] => .error (.past .eofObject [])
  | c :: s =>
    if c = '}' then .ok s
    else if c = ',' then .error (.past .trailingComma (c :: s))
    else .error (.past .trailingCharacters (c :: s))

/-- How far an array is left when its reading has failed: past its closing bracket, or else past
one comma. -/
def leaveArray (s : List Char) : List Char :=
  match skipSpace s with
  | [] => []
  | c :: s => if c = ']' then s else if c = ',' then skipSpace s else c :: s

/-- How far an object is left when its reading has failed: past its closing bracket. -/
def leaveObject (s : List Char) : List Char :=
  match skipSpace s with
  | [] => []
  | c :: s => if c = '}' then s else c :: s

/-- Closes the array whose inside was read with this outcome. -/
def closingArray {α : Type} : Outcome α → Outcome α
  | .ok (a, s) => (endArray s).map fun s => (a, s)
  | .error fault => .error (fault.settle leaveArray)

/-- Closes the object whose inside was read with this outcome. -/
def closingObject {α : Type} : Outcome α → Outcome α
  | .ok (a, s) => (endObject s).map fun s => (a, s)
  | .error fault => .error (fault.settle leaveObject)

/-! ## Whole values -/

/-- Reads a value that may hold `depth` more levels of arrays and objects. -/
def readValue (bound : Nat) : (depth : Nat) → List Char → Outcome Value
  | depth, s =>
    let s := skipSpace s
    match readScalar? s with
    | some outcome => outcome
    | none =>
      match s with
      | [] => .error (.past .eofValue [])
      | c :: rest =>
        if c = '[' then
          match depth with
          | 0 => .error (.past .nestedTooDeep s)
          | depth + 1 =>
            closingArray <| (readElements
              (fun read s => (readValue bound depth s).map fun (v, s) => (v :: read, s))
              bound true [] rest).map fun (read, s) => (.array read.reverse, s)
        else if c = '{' then
          match depth with
          | 0 => .error (.past .nestedTooDeep s)
          | depth + 1 =>
            closingObject <| (readEntries
              (fun read key s => (readColon s).bind fun s =>
                (readValue bound depth s).map fun (v, s) => ((key, v) :: read, s))
              bound true [] rest).map fun (read, s) => (.object read.reverse, s)
        else .error (.past .expectedValue s)

end ScalaFacade.Json
