import ScalaFacade.Json.Cause

/-! # Formats

A format says which JSON stands for a value of a type. It is data, not a function, because it is
read in two ways: against a value that is already there (`Format.decode`) and directly against a
text (`Format.read`), where the place of a fault depends on how far the text has been read.

A record may be written as an object, its fields in any order, or as an array of its fields in the
order of declaration. A node is a record or a bare mark chosen by the entry `kind`. Recursive types
have no infinite format: their formats are built in layers, one for each level of nesting.
-/

set_option autoImplicit false

namespace ScalaFacade.Json

/-- What it means for a field to be left out. -/
inductive Presence (α : Type) where
  /-- The field may not be left out. -/
  | required
  /-- The field may be left out of an object, but not of an array. -/
  | optionalKey (absent : α)
  /-- The field may be left out. -/
  | optional (absent : α)

/-- The entry that says which kind of node an object is. -/
def tagName : String := "kind"

mutual

/-- The JSON that stands for a value of type `α`. -/
inductive Format : Type → Type 1 where
  | string : Format String
  | boolean : Format Bool
  | natural : Format Nat
  /-- One of a fixed set of words, written as a string or as the key of an object whose only value
  is null. The function also says what an unknown word stands for. -/
  | word {α : Type} (ofWord : String → α) : Format α
  /-- What the inner format gives, converted. -/
  | convert {α β : Type} (f : α → β) (inner : Format α) : Format β
  | option {α : Type} (inner : Format α) : Format (Option α)
  | list {α : Type} (inner : Format α) : Format (List α)
  /-- A node that holds nothing but its kind. -/
  | bare {α : Type} (a : α) : Format α
  /-- A record. Its fields are read into slots and then made into a value. -/
  | record {α π σ : Type} (name : String) (fields : Fields π σ) (make : σ → α) : Format α
  /-- A node of one of several kinds; `other` is what the format of an unknown kind gives. -/
  | node {α : Type} (name : String) (variants : Variants α) (other : α) : Format α

/-- The fields of a record: `σ` is the type of all their values, `π` that of the values read so
far. -/
inductive Fields : Type → Type → Type 1 where
  | done : Fields Unit Unit
  | field {α π σ : Type} (name : String) (format : Format α) (presence : Presence α)
      (others : Fields π σ) : Fields (Option α × π) (α × σ)

/-- The kinds of a node, each with the names it goes by. -/
inductive Variants : Type → Type 1 where
  | done {α : Type} : Variants α
  | variant {α : Type} (kinds : List String) (format : Format α) (others : Variants α) : Variants α

end

/-- The number of fields. -/
def Fields.count {π σ : Type} : Fields π σ → Nat
  | .done => 0
  | .field _ _ _ others => others.count + 1

/-- The slots before anything is read. -/
def Fields.blank {π σ : Type} : Fields π σ → π
  | .done => ()
  | .field _ _ _ others => (none, others.blank)

/-- The values of all fields once an object has been read. The first required field without a
value is reported. -/
def Fields.complete {π σ : Type} : Fields π σ → π → Except Cause σ
  | .done, () => .ok ()
  | .field name _ presence others, (slot, slots) =>
    match slot, presence with
    | some a, _ => (others.complete slots).map fun rest => (a, rest)
    | none, .required => .error (.missingField name)
    | none, .optionalKey a => (others.complete slots).map fun rest => (a, rest)
    | none, .optional a => (others.complete slots).map fun rest => (a, rest)

/-- A field that has to be there. -/
def Fields.required {α π σ : Type} (name : String) (format : Format α) (others : Fields π σ) :
    Fields (Option α × π) (α × σ) :=
  .field name format .required others

/-- A field that may be left out, which then has the value `absent`. -/
def Fields.optional {α π σ : Type} (name : String) (format : Format α) (absent : α)
    (others : Fields π σ) : Fields (Option α × π) (α × σ) :=
  .field name format (.optional absent) others

end ScalaFacade.Json
