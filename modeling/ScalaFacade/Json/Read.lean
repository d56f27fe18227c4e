import ScalaFacade.Json.Decode
import ScalaFacade.Json.Skip

/-! # Reading a text

A text is read directly against a format: a wrong value is reported where it stands, before
anything after it is looked at, and the values of unknown keys are passed over. Only a node is read
whole before it is decoded, since its kind may come last.
-/

set_option autoImplicit false

namespace ScalaFacade.Json

/-- Reads a scalar in front of which white space has been skipped, and decodes it. -/
def readPlain {α : Type} (decode : Value → Except Cause α) (expected : Expectation) (s : List Char) :
    Outcome α :=
  match s with
  | [] => .error (.past .eofValue [])
  | _ :: _ =>
    match readScalar? s with
    | some (.ok (v, rest)) =>
      match decode v with
      | .ok a => .ok (a, rest)
      | .error cause => .error (.before cause rest)
    | some (.error fault) => .error fault
    | none => .error (mismatch expected s)

/-- Opens an array or object in front of `s` and reads it with what is left of the depth. -/
def nested {α : Type} (depth : Nat) (s : List Char) (inner : Nat → Outcome α) : Outcome α :=
  match depth with
  | 0 => .error (.past .nestedTooDeep s)
  | depth + 1 => inner depth

/-- Gives a fault without a place to a cause found after reading up to `rest`. -/
def orStopped {α : Type} (result : Except Cause α) (rest : List Char) : Outcome α :=
  match result with
  | .ok a => .ok (a, rest)
  | .error cause => .error (.stopped cause rest)

/-- Reads the kind of a node, which has to be a string. -/
def readTag (s : List Char) : Outcome String :=
  readPlain (fun
    | .string kind => .ok kind
    | v => .error (.invalidType v.found .tag)) .tag (skipSpace s)

/-- The kind and the other entries of a node's object, as far as they have been read. -/
structure Gathered where
  tag : Option String := none
  entries : List (String × Value) := []

/-- Reads one entry of a node's object. -/
def Gathered.readEntry (bound depth : Nat) (read : Gathered) (key : String) (s : List Char) :
    Outcome Gathered :=
  if key = tagName then
    if read.tag.isSome then .error (.stopped (.duplicateField tagName) s)
    else (readColon s).bind fun s =>
      (readTag s).map fun (kind, s) => ({ read with tag := some kind }, s)
  else (readColon s).bind fun s =>
    (readValue bound depth s).map fun (v, s) => ({ read with entries := (key, v) :: read.entries }, s)

/-- Reads the inside of a node's object: its kind and its content. -/
def readNodeObject (bound depth : Nat) (s : List Char) : Outcome (String × Value) :=
  match readEntries (Gathered.readEntry bound depth) bound true {} s with
  | .error fault => .error fault
  | .ok (read, s) =>
    match read.tag with
    | none => .error (.stopped (.missingField tagName) s)
    | some kind => .ok ((kind, .object read.entries.reverse), s)

/-- Reads the inside of a node's array: its kind and its content. -/
def readNodeArray (bound depth : Nat) (s : List Char) : Outcome (String × Value) :=
  match nextElement true s with
  | .error fault => .error fault
  | .ok none => .error (.stopped (.missingField tagName) (skipSpace s))
  | .ok (some s) =>
    match readTag s with
    | .error fault => .error fault
    | .ok (kind, s) =>
      (readElements (fun read s => (readValue bound depth s).map fun (v, s) => (v :: read, s))
        bound false [] s).map fun (read, s) => ((kind, .array read.reverse), s)

/-- Reads a word of an enumeration directly: a string, or an object with one entry whose value is
null. -/
def readWordOf {α : Type} (ofWord : String → α) (depth : Nat) (s : List Char) : Outcome α :=
  match s with
  | [] => .error (.past .eofValue [])
  | c :: rest =>
    if c = '"' then (readString [] rest).map fun (word, s) => (ofWord word, s)
    else if c = '{' then
      nested depth s fun _ =>
        match nextKey true rest with
        | .error fault => .error fault
        | .ok none => .error (.past .expectedValue (skipSpace rest))
        | .ok (some (word, s)) =>
          match readColon s with
          | .error fault => .error fault
          | .ok s =>
            match readPlain (fun
                | .null => .ok ()
                | v => .error (.invalidType v.found .unit)) .unit (skipSpace s) with
            | .error fault => .error fault
            | .ok ((), s) =>
              match skipSpace s with
              | [] => .error (.before .eofObject [])
              | c :: s =>
                if c = '}' then .ok (ofWord word, s) else .error (.before .expectedValue (c :: s))
    else .error (.past .expectedValue s)

mutual

/-- Reads a value that may hold `depth` more levels of arrays and objects. -/
def Format.read {α : Type} (bound : Nat) : Format α → (depth : Nat) → List Char → Outcome α
  | .string, _, s => readPlain Format.string.decode .string (skipSpace s)
  | .boolean, _, s => readPlain Format.boolean.decode .boolean (skipSpace s)
  | .natural, _, s => readPlain Format.natural.decode .natural (skipSpace s)
  | .word ofWord, depth, s => readWordOf ofWord depth (skipSpace s)
  | .convert f inner, depth, s => (inner.read bound depth s).map fun (a, s) => (f a, s)
  | .option inner, depth, s =>
    match skipSpace s with
    | 'n' :: s => (readWord ['u', 'l', 'l'] s).map fun s => (none, s)
    | s => (inner.read bound depth s).map fun (a, s) => (some a, s)
  | .list inner, depth, s =>
    match skipSpace s with
    | [] => .error (.past .eofValue [])
    | c :: rest =>
      if c = '[' then
        nested depth (c :: rest) fun depth =>
          closingArray <| (readElements
            (fun read s => (inner.read bound depth s).map fun (a, s) => (a :: read, s))
            bound true [] rest).map fun (read, s) => (read.reverse, s)
      else .error (mismatch .sequence (c :: rest))
  | .bare a, depth, s =>
    match readValue bound depth s with
    | .error fault => .error fault
    | .ok (v, s) => orStopped (decodeBare a v) s
  | .record name fields make, depth, s =>
    match skipSpace s with
    | [] => .error (.past .eofValue [])
    | c :: rest =>
      if c = '[' then
        nested depth (c :: rest) fun depth =>
          closingArray <| (fields.readInOrder bound depth (.recordOf name fields.count) 0 true
            rest).map fun (all, s) => (make all, s)
      else if c = '{' then
        nested depth (c :: rest) fun depth =>
          closingObject <|
            match readEntries (fun slots key s => fields.readEntry bound depth key s slots) bound
                true fields.blank rest with
            | .error fault => .error fault
            | .ok (slots, s) => orStopped ((fields.complete slots).map make) s
      else .error (mismatch (.record name) (c :: rest))
  | .node name variants other, depth, s =>
    match skipSpace s with
    | [] => .error (.past .eofValue [])
    | c :: rest =>
      let content : Outcome (String × Value) :=
        if c = '[' then
          nested depth (c :: rest) fun depth => closingArray (readNodeArray bound depth rest)
        else if c = '{' then
          nested depth (c :: rest) fun depth => closingObject (readNodeObject bound depth rest)
        else .error (mismatch (.node name) (c :: rest))
      match content with
      | .error fault => .error fault
      | .ok ((kind, v), s) => orStopped (variants.decode other (.name kind) v) s
termination_by structural format => format

/-- Reads the entry `key` of an object into its slot, or passes over its value. -/
def Fields.readEntry {π σ : Type} (bound : Nat) :
    Fields π σ → (depth : Nat) → (key : String) → List Char → π → Outcome π
  | .done, _, _, s, () =>
    ((readColon s).bind (skipValue bound)).map fun s => ((), s)
  | .field name format _ others, depth, key, s, (slot, slots) =>
    if key = name then
      if slot.isSome then .error (.stopped (.duplicateField name) s)
      else (readColon s).bind fun s =>
        (format.read bound depth s).map fun (a, s) => ((some a, slots), s)
    else (others.readEntry bound depth key s slots).map fun (slots, s) => ((slot, slots), s)
termination_by structural fields => fields

/-- Reads the fields from the elements of an array, as far as it has any. The field at `index` is
the next one; `expected` is what an array that is too short should have been. -/
def Fields.readInOrder {π σ : Type} (bound : Nat) :
    Fields π σ → (depth : Nat) → Expectation → (index : Nat) → (first : Bool) → List Char → Outcome σ
  | .done, _, _, _, _, s => .ok ((), s)
  | .field _ format presence others, depth, expected, index, first, s =>
    match nextElement first s with
    | .error fault => .error fault
    | .ok (some s) =>
      match format.read bound depth s with
      | .error fault => .error fault
      | .ok (a, s) =>
        (others.readInOrder bound depth expected (index + 1) false s).map fun (rest, s) =>
          ((a, rest), s)
    | .ok none =>
      match presence with
      | .optional a =>
        (others.readInOrder bound depth expected (index + 1) first (skipSpace s)).map
          fun (rest, s) => ((a, rest), s)
      | _ => .error (.stopped (.invalidLength index expected) (skipSpace s))
termination_by structural fields => fields

end

/-- Reads a whole text, after which only white space may follow. -/
def Format.readAll {α : Type} (format : Format α) (text : List Char) : Except Error α :=
  match format.read (text.length + 1) nestingLimit text with
  | .error fault => .error (fault.toError text)
  | .ok (a, rest) =>
    match skipSpace rest with
    | [] => .ok a
    | rest => .error ((Fault.past .trailingCharacters rest).toError text)

/-- Reads a text as the value of a format. -/
def Format.parse {α : Type} (format : Format α) (text : String) : Except Error α :=
  format.readAll text.toList

end ScalaFacade.Json
