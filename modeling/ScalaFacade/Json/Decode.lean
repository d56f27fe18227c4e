import ScalaFacade.Json.Format

/-! # Decoding a value

A value that has been read is checked against a format. The entries of an object are taken in the
order in which they are written, so the first entry at fault is the one reported; fields that are
missing are reported last, in the order of declaration.
-/

set_option autoImplicit false

namespace ScalaFacade.Json

/-- How the kind of a node is given. -/
inductive Tag where
  | name (kind : String)
  /-- The position of the kind in the list of variants. -/
  | index (n : Nat)

/-- The kind given by a value. -/
def Tag.ofValue : Value → Except Cause Tag
  | .string kind => .ok (.name kind)
  | .number (.integer (.ofNat n)) => .ok (.index n)
  | v => .error (.invalidType v.found .tag)

/-- The kind that the entries of an object give, and the other entries. -/
def takeTag : (entries : List (String × Value)) → Except Cause (Tag × List (String × Value))
  | entries =>
    let step (state : Option Tag × List (String × Value)) (entry : String × Value) :
        Except Cause (Option Tag × List (String × Value)) :=
      if entry.1 = tagName then
        match state.1 with
        | some _ => .error (.duplicateField tagName)
        | none => (Tag.ofValue entry.2).map fun tag => (some tag, state.2)
      else .ok (state.1, entry :: state.2)
    match entries.foldlM step (none, []) with
    | .error cause => .error cause
    | .ok (none, _) => .error (.missingField tagName)
    | .ok (some tag, others) => .ok (tag, others.reverse)

/-- The words of an enumeration, as a string or as the only key of an object. -/
def decodeWord {α : Type} (ofWord : String → α) : Value → Except Cause α
  | .string word => .ok (ofWord word)
  | .object [(word, .null)] => .ok (ofWord word)
  | .object [(word, .object [])] => .ok (ofWord word)
  | .object [(_, v)] => .error (.invalidType v.found .unit)
  | .object _ => .error (.invalidValue .map .singleKey)
  | v => .error (.invalidType v.found .stringOrMap)

/-- The content of a node that holds nothing but its kind: the entries of an object do not matter,
an array has to be empty. -/
def decodeBare {α : Type} (a : α) : Value → Except Cause α
  | .array (_ :: vs) => .error (.invalidLength (vs.length + 1) (.elements 0))
  | _ => .ok a

mutual

/-- The value that `v` stands for. -/
def Format.decode {α : Type} : Format α → Value → Except Cause α
  | .string, v =>
    match v with
    | .string s => .ok s
    | v => .error (.invalidType v.found .string)
  | .boolean, v =>
    match v with
    | .boolean b => .ok b
    | v => .error (.invalidType v.found .boolean)
  | .natural, v =>
    match v with
    | .number (.integer (.ofNat n)) => .ok n
    | .number (.integer i) => .error (.invalidValue (.integer i) .natural)
    | v => .error (.invalidType v.found .natural)
  | .word ofWord, v => decodeWord ofWord v
  | .convert f inner, v => (inner.decode v).map f
  | .option inner, v =>
    match v with
    | .null => .ok none
    | v => (inner.decode v).map some
  | .list inner, v =>
    match v with
    | .array vs => vs.mapM fun v => inner.decode v
    | v => .error (.invalidType v.found .sequence)
  | .bare a, v => decodeBare a v
  | .record name fields make, v =>
    match v with
    | .object entries =>
      match entries.foldlM (fun slots entry => fields.decodeEntry entry.1 entry.2 slots)
          fields.blank with
      | .error cause => .error cause
      | .ok slots => (fields.complete slots).map make
    | .array vs =>
      match fields.decodeInOrder (.recordOf name fields.count) 0 vs with
      | .error cause => .error cause
      | .ok (_, _ :: _) => .error (.invalidLength vs.length (.elements fields.count))
      | .ok (all, []) => .ok (make all)
    | v => .error (.invalidType v.found (.record name))
  | .node name variants other, v =>
    match v with
    | .object entries =>
      match takeTag entries with
      | .error cause => .error cause
      | .ok (tag, others) => variants.decode other tag (.object others)
    | .array [] => .error (.missingField tagName)
    | .array (v :: vs) =>
      match Tag.ofValue v with
      | .error cause => .error cause
      | .ok tag => variants.decode other tag (.array vs)
    | v => .error (.invalidType v.found (.node name))
termination_by structural format => format

/-- The slots after one entry of an object. Unknown keys change nothing. -/
def Fields.decodeEntry {π σ : Type} : Fields π σ → String → Value → π → Except Cause π
  | .done, _, _, () => .ok ()
  | .field name format _ others, key, v, (slot, slots) =>
    if key = name then
      if slot.isSome then .error (.duplicateField name)
      else (format.decode v).map fun a => (some a, slots)
    else (others.decodeEntry key v slots).map fun slots => (slot, slots)
termination_by structural fields => fields

/-- The values of all fields from the elements of an array, and the elements left over. The field
at `index` is the next one; `expected` is what an array that is too short should have been. -/
def Fields.decodeInOrder {π σ : Type} :
    Fields π σ → Expectation → (index : Nat) → List Value → Except Cause (σ × List Value)
  | .done, _, _, vs => .ok ((), vs)
  | .field _ format presence others, expected, index, vs =>
    match vs with
    | v :: vs =>
      match format.decode v with
      | .error cause => .error cause
      | .ok a =>
        (others.decodeInOrder expected (index + 1) vs).map fun (rest, vs) => ((a, rest), vs)
    | [] =>
      match presence with
      | .optional a =>
        (others.decodeInOrder expected (index + 1) []).map fun (rest, vs) => ((a, rest), vs)
      | _ => .error (.invalidLength index expected)
termination_by structural fields => fields

/-- Decodes the content of a node of the kind `tag`. -/
def Variants.decode {α : Type} : Variants α → (other : α) → Tag → Value → Except Cause α
  | .done, other, _, v => decodeBare other v
  | .variant kinds format others, other, tag, v =>
    match tag with
    | .name kind =>
      if kind ∈ kinds then format.decode v else others.decode other tag v
    | .index 0 => format.decode v
    | .index (n + 1) => others.decode other (.index n) v
termination_by structural variants => variants

end

end ScalaFacade.Json
