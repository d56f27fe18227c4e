import ScalaFacade.Json.Decode

/-! # What a value means

Decoding goes through the entries of an object one after the other and stops at the first one that
is at fault. That order decides which message is given, and nothing else. What a value *stands for*
can be said without it, and this module says it:

* `format.accept? direct v` is the value that `v` stands for. A field has the value of the one entry
  under its name, and a node is of the kind that its one entry `kind` gives. Entries are looked up
  by `valuesOf` and `without`, which see an object as a collection, not as a sequence.
* `Format.toOption_decode`: decoding agrees with it, up to its messages. Whatever is true of
  decoding up to messages (that entries may be exchanged, that unknown keys do not matter, that a
  field may be left out) is then a fact about `accept?` and can be read off its definition.

The work is in records and kinds, where a fold over the entries with a slot for each name has to be
seen as a look-up by name. It is done once, for a single slot (`fillSlot?`), and both use it:
`Fields.takeEntries?_field` for records, `foldlM_takeKind?` for kinds.

## What `direct` is for

A text that is read directly is held to a little more than a value that is there already: the kind
of a node has to be a string, and the key of a word has to have the value null. A value may also
have the kind as a number and the word with an empty object. That is what `direct` says. Below a
node nothing is read directly, since a node is read whole before it is decoded, so
`Variants.accept?` goes on with `false` whatever it was given; above, `direct` is passed on
unchanged.
-/

set_option autoImplicit false

namespace ScalaFacade.Json

/-- The values of the entries under a key. -/
def valuesOf (key : String) (entries : List (String × Value)) : List Value :=
  (entries.filter fun entry => entry.1 = key).map Prod.snd

/-- The entries under other keys. -/
def without (key : String) (entries : List (String × Value)) : List (String × Value) :=
  entries.filter fun entry => entry.1 ≠ key

section Entries

variable {key : String} {entry : String × Value} {entries : List (String × Value)}

theorem valuesOf_cons_of_eq (h : entry.1 = key) :
    valuesOf key (entry :: entries) = entry.2 :: valuesOf key entries := by
  simp [valuesOf, h]

theorem valuesOf_cons_of_ne (h : entry.1 ≠ key) :
    valuesOf key (entry :: entries) = valuesOf key entries := by
  simp [valuesOf, h]

theorem without_cons_of_eq (h : entry.1 = key) :
    without key (entry :: entries) = without key entries := by
  simp [without, h]

theorem without_cons_of_ne (h : entry.1 ≠ key) :
    without key (entry :: entries) = entry :: without key entries := by
  simp [without, h]

end Entries

/-- The kind of a node that a value gives. A number stands for the position of the kind, but only in
a value that is there already. -/
def kindOf? (direct : Bool) : Value → Option Tag
  | .string kind => some (.name kind)
  | .number (.integer (.ofNat n)) => if direct then none else some (.index n)
  | _ => none

/-- The kind that the entries of a node's object give, and the other entries. -/
def tagged? (direct : Bool) (entries : List (String × Value)) :
    Option (Tag × List (String × Value)) :=
  match valuesOf tagName entries with
  | [v] => (kindOf? direct v).map fun tag => (tag, without tagName entries)
  | _ => none

/-- The word that a value stands for. -/
def wordOf? {α : Type} (direct : Bool) (ofWord : String → α) : Value → Option α
  | .string word => some (ofWord word)
  | .object [(word, .null)] => some (ofWord word)
  | .object [(word, .object [])] => if direct then none else some (ofWord word)
  | _ => none

/-- An object with more than one entry is no word. Stated by itself because the patterns of
`wordOf?` only show it after the entries have been split up. -/
theorem wordOf?_several {α : Type} (ofWord : String → α) (entry : String × Value)
    {entries : List (String × Value)} (h : entries ≠ []) (direct : Bool) :
    wordOf? direct ofWord (.object (entry :: entries)) = none := by
  obtain ⟨word, v⟩ := entry
  cases entries with
  | nil => exact absurd rfl h
  | cons entry entries => simp [wordOf?]

/-- The content of a node that holds nothing but its kind. -/
def bareOf? {α : Type} (a : α) : Value → Option α
  | .array (_ :: _) => none
  | _ => some a

/-- What a field is that an object leaves out. -/
def Presence.absent? {α : Type} : Presence α → Option α
  | .required => none
  | .optionalKey a | .optional a => some a

mutual

/-- The value that `v` stands for. -/
def Format.accept? {α : Type} : Format α → (direct : Bool) → Value → Option α
  | .string, _, v =>
    match v with
    | .string s => some s
    | _ => none
  | .boolean, _, v =>
    match v with
    | .boolean b => some b
    | _ => none
  | .natural, _, v =>
    match v with
    | .number (.integer (.ofNat n)) => some n
    | _ => none
  | .word ofWord, direct, v => wordOf? direct ofWord v
  | .convert f inner, direct, v => (inner.accept? direct v).map f
  | .option inner, direct, v =>
    match v with
    | .null => some none
    | v => (inner.accept? direct v).map some
  | .list inner, direct, v =>
    match v with
    | .array vs => vs.mapM fun v => inner.accept? direct v
    | _ => none
  | .bare a, _, v => bareOf? a v
  | .record _ fields make, direct, v =>
    match v with
    | .object entries => (fields.gather? direct entries).map make
    | .array vs =>
      match fields.inOrder? direct vs with
      | some (all, []) => some (make all)
      | _ => none
    | _ => none
  | .node _ variants other, direct, v =>
    match v with
    | .object entries =>
      (tagged? direct entries).bind fun (tag, others) => variants.accept? other tag (.object others)
    | .array (v :: vs) =>
      (kindOf? direct v).bind fun tag => variants.accept? other tag (.array vs)
    | _ => none
termination_by structural format => format

/-- The values of all fields from the entries of an object, whatever their order. -/
def Fields.gather? {π σ : Type} : Fields π σ → (direct : Bool) → List (String × Value) → Option σ
  | .done, _, _ => some ()
  | .field name format presence others, direct, entries =>
    let here :=
      match valuesOf name entries with
      | [] => presence.absent?
      | [v] => format.accept? direct v
      | _ => none
    here.bind fun a =>
      (others.gather? direct (without name entries)).map fun rest => (a, rest)
termination_by structural fields => fields

/-- The values of all fields from the elements of an array, and the elements left over. -/
def Fields.inOrder? {π σ : Type} :
    Fields π σ → (direct : Bool) → List Value → Option (σ × List Value)
  | .done, _, vs => some ((), vs)
  | .field _ format presence others, direct, vs =>
    match vs with
    | v :: vs =>
      (format.accept? direct v).bind fun a =>
        (others.inOrder? direct vs).map fun (rest, vs) => ((a, rest), vs)
    | [] =>
      match presence with
      | .optional a => (others.inOrder? direct []).map fun (rest, vs) => ((a, rest), vs)
      | _ => none
termination_by structural fields => fields

/-- The content of a node of the kind `tag`. -/
def Variants.accept? {α : Type} : Variants α → (other : α) → Tag → Value → Option α
  | .done, other, _, v => bareOf? other v
  | .variant kinds format others, other, tag, v =>
    match tag with
    | .name kind => if kind ∈ kinds then format.accept? false v else others.accept? other tag v
    | .index 0 => format.accept? false v
    | .index (n + 1) => others.accept? other (.index n) v
termination_by structural variants => variants

end

/-- Anything but null is what the inner format makes of it. The inner format may accept null as
well; then null is still nothing, since the option is asked first. -/
theorem Format.accept?_option {α : Type} (inner : Format α) (direct : Bool) {v : Value}
    (filled : v ≠ .null) :
    (Format.option inner).accept? direct v = (inner.accept? direct v).map some := by
  cases v with
  | null => exact absurd rfl filled
  | _ => rfl

/-- A record takes as many elements of an array as it has fields, and fewer only if the array ends
before: the remaining fields then have to be optional and take nothing. -/
theorem Fields.length_of_inOrder? {π σ : Type} (fields : Fields π σ) {direct : Bool}
    {vs left : List Value} {all : σ} (h : fields.inOrder? direct vs = some (all, left)) :
    left.length = vs.length - fields.count := by
  match fields with
  | .done =>
    cases h
    rfl
  | .field name format presence others =>
    cases vs with
    | nil =>
      cases presence with
      | optional a =>
        obtain ⟨found, below, same⟩ := Option.map_eq_some_iff.1 h
        cases same
        simpa using others.length_of_inOrder? below
      | _ => cases h
    | cons v vs =>
      obtain ⟨a, -, h⟩ := Option.bind_eq_some_iff.1 h
      obtain ⟨found, below, same⟩ := Option.map_eq_some_iff.1 h
      cases same
      rw [others.length_of_inOrder? below, List.length_cons, Fields.count, Nat.add_sub_add_right]

/-- An array is a record if it has no more elements than that has fields. The definition asks for
nothing to be left over, which is the same; with the length in front, the elements that are too many
can be rejected before the fields are looked at, as reading does. -/
theorem Format.accept?_record_array {α π σ : Type} (name : String) (fields : Fields π σ)
    (make : σ → α) (direct : Bool) (vs : List Value) :
    (Format.record name fields make).accept? direct (.array vs) =
      if vs.length ≤ fields.count then (fields.inOrder? direct vs).map fun found => make found.1
      else none := by
  rw [Format.accept?]
  cases found : fields.inOrder? direct vs with
  | none => simp
  | some result =>
    obtain ⟨all, left⟩ := result
    have length := fields.length_of_inOrder? found
    cases left with
    | nil =>
      rw [List.length_nil] at length
      rw [if_pos (by omega)]
      rfl
    | cons v left =>
      rw [List.length_cons] at length
      rw [if_neg (by omega)]

/-! ## Slots

An object is gone through entry by entry, with a slot for each name that is looked for. A slot takes
one value; a second one under the same name is refused whatever it is. Seen from one slot, only the
entries under its name happen, so the fold over all entries falls apart into one fold for each
slot. -/

/-- A slot after the values under its name. A slot that is filled refuses the next value without
looking at it, as decoding does: the duplicate is reported, not what is wrong with it. -/
def fillSlot? {α : Type} (accept : Value → Option α) : Option α → List Value → Option (Option α)
  | slot, [] => some slot
  | some _, _ :: _ => none
  | none, v :: vs => (accept v).bind fun a => fillSlot? accept (some a) vs

/-- An empty slot takes no value or one. This is where the order of the entries is gone: of the
values under a name only their number and the one value matter. -/
theorem fillSlot?_none {α : Type} (accept : Value → Option α) (vs : List Value) :
    fillSlot? accept none vs =
      match vs with
      | [] => some none
      | [v] => (accept v).map some
      | _ => none := by
  match vs with
  | [] => rfl
  | [v] => cases h : accept v <;> simp [fillSlot?, h]
  | v :: _ :: _ => cases h : accept v <;> simp [fillSlot?, h]

/-- The slots of a record after one more entry. -/
def Fields.takeEntry? {π σ : Type} (direct : Bool) : Fields π σ → String → Value → π → Option π
  | .done, _, _, () => some ()
  | .field name format _ others, key, v, (slot, slots) =>
    if key = name then
      if slot.isSome then none else (format.accept? direct v).map fun a => (some a, slots)
    else (others.takeEntry? direct key v slots).map fun slots => (slot, slots)

/-- The slots of a record after all entries of an object. -/
def Fields.takeEntries? {π σ : Type} (fields : Fields π σ) (direct : Bool) (slots : π)
    (entries : List (String × Value)) : Option π :=
  entries.foldlM (fun slots entry => fields.takeEntry? direct entry.1 entry.2 slots) slots

section Records

variable {α π σ : Type} {name : String} {format : Format α} {presence : Presence α}
  {others : Fields π σ}

/-- **The first field gets the entries under its name and the other fields get the rest.** The
induction is over the entries; each goes to one of the two sides, and neither side sees the other's.
The order of the two results is that of the fields, so a failure on both sides is a failure, which
is all that an option can say. -/
theorem Fields.takeEntries?_field (direct : Bool) (slot : Option α) (slots : π)
    (entries : List (String × Value)) :
    (Fields.field name format presence others).takeEntries? direct (slot, slots) entries =
      (fillSlot? (format.accept? direct) slot (valuesOf name entries)).bind fun slot =>
        (others.takeEntries? direct slots (without name entries)).map fun slots => (slot, slots) := by
  induction entries generalizing slot slots with
  | nil => rfl
  | cons entry entries ih =>
    unfold takeEntries? at ih ⊢
    rw [List.foldlM_cons, takeEntry?]
    by_cases key : entry.1 = name
    · rw [if_pos key, valuesOf_cons_of_eq key, without_cons_of_eq key]
      cases slot with
      | some a => rfl
      | none =>
        cases accepted : format.accept? direct entry.2 with
        | none => simp [fillSlot?, accepted]
        | some a =>
          simp only [fillSlot?, accepted, Option.bind_some]
          exact ih (some a) slots
    · rw [if_neg key, valuesOf_cons_of_ne key, without_cons_of_ne key, List.foldlM_cons]
      cases others.takeEntry? direct entry.1 entry.2 slots with
      | none => simp
      | some slots => exact ih slot slots

/-- Completing a record fills the slots that are still empty from what the fields say about being
left out. It does so field by field, in the order of declaration, which only matters for
messages. -/
theorem Fields.toOption_complete (slot : Option α) (slots : π) :
    ((Fields.field name format presence others).complete (slot, slots)).toOption =
      (slot <|> presence.absent?).bind fun a =>
        (others.complete slots).toOption.map fun rest => (a, rest) := by
  cases slot with
  | some a =>
    rw [Fields.complete]
    cases others.complete slots <;> rfl
  | none =>
    cases presence with
    | required => rfl
    | _ =>
      rw [Fields.complete]
      cases others.complete slots <;> rfl

/-- **The values of a record do not depend on the order of the entries**: going through them and
completing the slots gives what `gather?` looks up. The induction is over the fields, not over the
entries; below the first field, the entries under its name are gone. -/
theorem Fields.complete_takeEntries? {π σ : Type} (fields : Fields π σ) (direct : Bool)
    (entries : List (String × Value)) :
    ((fields.takeEntries? direct fields.blank entries).bind fun slots =>
      (fields.complete slots).toOption) = fields.gather? direct entries := by
  match fields with
  | .done =>
    have none : ∀ entries, Fields.done.takeEntries? direct () entries = some () := by
      intro entries
      induction entries with
      | nil => rfl
      | cons entry entries ih => exact ih
    rw [Fields.blank, none]
    rfl
  | .field name format presence others =>
    have below := others.complete_takeEntries? direct (without name entries)
    rw [Fields.blank, takeEntries?_field, fillSlot?_none, Fields.gather?, ← below]
    cases others.takeEntries? direct others.blank (without name entries) with
    | none => simp
    | some slots =>
      simp only [Option.map_some, Option.bind_some]
      -- No entry under the name, one, or several: what is left out, what is there, and a duplicate.
      match valuesOf name entries with
      | [] => simp [toOption_complete]
      | [v] => cases accepted : format.accept? direct v <;> simp [toOption_complete, accepted]
      | _ :: _ :: _ => rfl

end Records

/-! ## Results without their messages

A computation with messages and one without are compared by dropping the messages of the first.
Folds and maps in the two monads then correspond step by step. -/

theorem toOption_eq_some_iff {α ε : Type} {result : Except ε α} {a : α} :
    result.toOption = some a ↔ result = .ok a := by
  cases result <;> simp [Except.toOption]

/-- If every step agrees, so do the folds. The messages differ in content and the first one wins on
both sides, so no more than the steps is asked for. -/
theorem toOption_foldlM {σ ι ε : Type} {step : σ → ι → Except ε σ} {step? : σ → ι → Option σ}
    (h : ∀ state item, (step state item).toOption = step? state item) (state : σ) (items : List ι) :
    (items.foldlM step state).toOption = items.foldlM step? state := by
  induction items generalizing state with
  | nil => rfl
  | cons item items ih =>
    rw [List.foldlM_cons, List.foldlM_cons, ← h]
    cases step state item with
    | error => rfl
    | ok state => exact ih state

theorem toOption_mapM {α β ε : Type} {f : α → Except ε β} {g : α → Option β}
    (h : ∀ a, (f a).toOption = g a) (items : List α) :
    (items.mapM f).toOption = items.mapM g := by
  induction items with
  | nil => rfl
  | cons item items ih =>
    rw [List.mapM_cons, List.mapM_cons, ← h, ← ih]
    cases f item with
    | error => rfl
    | ok b => cases items.mapM f <;> rfl

theorem toOption_map {α β ε : Type} (f : α → β) (result : Except ε α) :
    (result.map f).toOption = result.toOption.map f := by
  cases result <;> rfl

/-! ## Kinds

The kind of a node is found by one more fold with a slot, which also keeps the other entries.
`tagStep` and `chosenTag` are the two halves of `takeTag`, cut apart here so that each can be
compared on its own. -/

/-- The kind and the other entries of a node's object after one more entry, the last one first. What
makes a kind of a value is a parameter, because a text that is read directly accepts fewer kinds. -/
def takeKind? {τ : Type} (accept : Value → Option τ) (state : Option τ × List (String × Value))
    (entry : String × Value) : Option (Option τ × List (String × Value)) :=
  if entry.1 = tagName then
    if state.1.isSome then none else (accept entry.2).map fun tag => (some tag, state.2)
  else some (state.1, entry :: state.2)

/-- The kind is a slot under its name, and the other entries stay in their order. The state of the
fold has them in reverse, and the fold may start with some in hand. -/
theorem foldlM_takeKind? {τ : Type} (accept : Value → Option τ) (slot : Option τ)
    (taken entries : List (String × Value)) :
    entries.foldlM (takeKind? accept) (slot, taken) =
      (fillSlot? accept slot (valuesOf tagName entries)).map fun slot =>
        (slot, (without tagName entries).reverse ++ taken) := by
  induction entries generalizing slot taken with
  | nil => rfl
  | cons entry entries ih =>
    rw [List.foldlM_cons, takeKind?]
    by_cases key : entry.1 = tagName
    · rw [if_pos key, valuesOf_cons_of_eq key, without_cons_of_eq key]
      cases slot with
      | some tag => rfl
      | none =>
        cases accepted : accept entry.2 with
        | none => simp [fillSlot?, accepted]
        | some tag =>
          simp only [fillSlot?, accepted, Option.bind_some]
          exact ih (some tag) taken
    · rw [if_neg key, valuesOf_cons_of_ne key, without_cons_of_ne key, List.reverse_cons,
        List.append_assoc]
      exact ih slot (entry :: taken)

/-- What one entry adds to the kind and the other entries. -/
def tagStep (state : Option Tag × List (String × Value)) (entry : String × Value) :
    Except Cause (Option Tag × List (String × Value)) :=
  if entry.1 = tagName then
    match state.1 with
    | some _ => .error (.duplicateField tagName)
    | none => (Tag.ofValue entry.2).map fun tag => (some tag, state.2)
  else .ok (state.1, entry :: state.2)

theorem toOption_ofValue (v : Value) : (Tag.ofValue v).toOption = kindOf? false v := by
  unfold Tag.ofValue kindOf?
  split <;> simp_all [Except.toOption]

theorem toOption_tagStep (state : Option Tag × List (String × Value)) (entry : String × Value) :
    (tagStep state entry).toOption = takeKind? (kindOf? false) state entry := by
  obtain ⟨tag, taken⟩ := state
  unfold tagStep takeKind?
  split
  · cases tag with
    | some _ => rfl
    | none => exact (toOption_map _ _).trans (by rw [toOption_ofValue]; rfl)
  · rfl

/-- The kind and the other entries once all entries have been gone through. -/
def chosenTag : Except Cause (Option Tag × List (String × Value)) →
    Except Cause (Tag × List (String × Value))
  | .error cause => .error cause
  | .ok (none, _) => .error (.missingField tagName)
  | .ok (some tag, others) => .ok (tag, others.reverse)

theorem toOption_chosenTag (result : Except Cause (Option Tag × List (String × Value))) :
    (chosenTag result).toOption =
      result.toOption.bind fun state => state.1.map fun tag => (tag, state.2.reverse) := by
  obtain _ | ⟨_ | _, _⟩ := result <;> rfl

theorem takeTag_eq (entries : List (String × Value)) :
    takeTag entries = chosenTag (entries.foldlM tagStep (none, [])) := rfl

/-- The kind is taken from the entries of an object wherever it stands; with none or several there
is no node. -/
theorem toOption_takeTag (entries : List (String × Value)) :
    (takeTag entries).toOption = tagged? false entries := by
  rw [takeTag_eq, toOption_chosenTag, toOption_foldlM toOption_tagStep, foldlM_takeKind?,
    fillSlot?_none, tagged?]
  match valuesOf tagName entries with
  | [] => rfl
  | [v] => cases kind : kindOf? false v <;> simp [kind]
  | _ :: _ :: _ => rfl

/-! ## Decoding

One statement for each of the three kinds of format, proved together along the format: decoding
recurses into fields and variants and back. -/

theorem toOption_decodeBare {α : Type} (a : α) (v : Value) :
    (decodeBare a v).toOption = bareOf? a v := by
  unfold decodeBare bareOf?
  split <;> simp_all [Except.toOption]

theorem toOption_decodeWord {α : Type} (ofWord : String → α) (v : Value) :
    (decodeWord ofWord v).toOption = wordOf? false ofWord v := by
  unfold decodeWord wordOf?
  split <;> simp_all [Except.toOption]

mutual

/-- **Decoding gives what a value means**, or a message where it means nothing. The cases follow the
format. In each the two definitions make the same distinctions, except for records and kinds, which
go through the sections above. -/
theorem Format.toOption_decode {α : Type} (format : Format α) (v : Value) :
    (format.decode v).toOption = format.accept? false v := by
  match format with
  | .string => cases v <;> rfl
  | .boolean => cases v <;> rfl
  | .natural =>
    simp only [Format.decode, Format.accept?]
    split <;> simp_all [Except.toOption]
  | .word ofWord => exact toOption_decodeWord ofWord v
  | .convert f inner =>
    rw [Format.decode, Format.accept?, toOption_map, inner.toOption_decode]
  | .option inner =>
    cases v with
    | null => rfl
    | _ => 
      simp only [Format.decode, Format.accept?, toOption_map, inner.toOption_decode]
  | .list inner =>
    cases v with
    | array vs => exact toOption_mapM (fun v => inner.toOption_decode v) vs
    | _ => rfl
  | .bare a => exact toOption_decodeBare a v
  | .record name fields make =>
    cases v with
    -- Decoding folds over the entries and then completes the slots; the meaning looks each field
    -- up.
    | object entries =>
      simp only [Format.decode, Format.accept?]
      have each (slots : _) (entry : String × Value) :=
        fields.toOption_decodeEntry entry.1 entry.2 slots
      rw [← fields.complete_takeEntries?, Fields.takeEntries?, ← toOption_foldlM each]
      cases entries.foldlM (fun slots entry => fields.decodeEntry entry.1 entry.2 slots)
        fields.blank with
      | error => rfl
      | ok slots => exact toOption_map make (fields.complete slots)
    -- Elements that are left over are an error on one side and no meaning on the other.
    | array vs =>
      simp only [Format.decode, Format.accept?]
      rw [← fields.toOption_decodeInOrder (.recordOf name fields.count) 0]
      obtain _ | ⟨all, _ | _⟩ := fields.decodeInOrder (.recordOf name fields.count) 0 vs <;> rfl
    | _ => rfl
  | .node name variants other =>
    cases v with
    | object entries =>
      simp only [Format.decode, Format.accept?]
      rw [← toOption_takeTag]
      obtain _ | ⟨tag, others⟩ := takeTag entries
      · rfl
      · exact variants.toOption_decode other tag (.object others)
    | array vs =>
      cases vs with
      | nil => rfl
      | cons v vs =>
        simp only [Format.decode, Format.accept?]
        rw [← toOption_ofValue]
        cases Tag.ofValue v with
        | error => rfl
        | ok tag => exact variants.toOption_decode other tag (.array vs)
    | _ => rfl
termination_by structural format

theorem Fields.toOption_decodeEntry {π σ : Type} (fields : Fields π σ) (key : String) (v : Value)
    (slots : π) :
    (fields.decodeEntry key v slots).toOption = fields.takeEntry? false key v slots := by
  match fields, slots with
  | .done, () => rfl
  | .field name format presence others, (slot, slots) =>
    simp only [Fields.decodeEntry, Fields.takeEntry?]
    split
    · split
      · rfl
      · rw [toOption_map, format.toOption_decode]
    · rw [toOption_map, others.toOption_decodeEntry]
termination_by structural fields

/-- The position of a field and what an array should have been only go into messages, so the
statement holds for any. -/
theorem Fields.toOption_decodeInOrder {π σ : Type} (fields : Fields π σ) (expected : Expectation)
    (index : Nat) (vs : List Value) :
    (fields.decodeInOrder expected index vs).toOption = fields.inOrder? false vs := by
  match fields with
  | .done => rfl
  | .field name format presence others =>
    cases vs with
    | nil =>
      cases presence with
      | optional a =>
        simp only [Fields.decodeInOrder, Fields.inOrder?, toOption_map,
          others.toOption_decodeInOrder]
      | _ => rfl
    | cons v vs =>
      simp only [Fields.decodeInOrder, Fields.inOrder?]
      rw [← format.toOption_decode, ← others.toOption_decodeInOrder expected (index + 1)]
      cases format.decode v with
      | error => rfl
      | ok a => exact toOption_map _ _
termination_by structural fields

theorem Variants.toOption_decode {α : Type} (variants : Variants α) (other : α) (tag : Tag)
    (v : Value) : (variants.decode other tag v).toOption = variants.accept? other tag v := by
  match variants with
  | .done => exact toOption_decodeBare other v
  | .variant kinds format others =>
    cases tag with
    | name kind =>
      simp only [Variants.decode, Variants.accept?]
      split
      · exact format.toOption_decode v
      · exact others.toOption_decode other (.name kind) v
    | index n =>
      cases n with
      | zero => exact format.toOption_decode v
      | succ n => exact others.toOption_decode other (.index n) v
termination_by structural variants

end

end ScalaFacade.Json
