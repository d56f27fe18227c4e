import ScalaFacade.Json.Read
import ScalaFacade.Proofs.Json.Printing

/-! # Decoding printed values

`format.Undoes printed depth` says that decoding undoes a way of printing, on all values that are
printed with at most that many levels of nesting. It is the relation in which a format and its
printer are shown to belong together, and there is one lemma for each way to build a format: a fact
about a format is put together the way the format is, and none of these lemmas knows what a document
is.

* **Records.** The keys of a record are told apart by `Fields.Holds`: it pairs the fields, in their
  order, with the entries of an object, where an optional field may have none. From it follows what
  the slots are after all entries (`Fields.Holds.decodeEntries`). Whether the names of the fields
  differ is a computation (`Fields.distinct`), which the users settle by `rfl`.
* **Nodes.** A node is decoded from a value, or read from its text, in the same way. Both follow
  from `Format.DecodesNode`, which says that the content of the node is decoded, so that a node has
  to be looked into only once.
* **Texts.** The last section has what a format needs to be read directly: only nodes, strings,
  lists and the outermost record are, since everything below a node is decoded.

## Why there is a depth

Types are recursive and formats are not. The format of a type is built in layers, one for each level
of nesting, and a layer undoes printing only for trees that are not deeper than it. So the depth is
part of the statement from the start; the lemmas for lists and objects lower it in the same way as
the reader does.
-/

set_option autoImplicit false

namespace ScalaFacade.Json

/-- Decoding undoes a way of printing, up to a depth. -/
def Format.Undoes {α : Type} (format : Format α) (printed : α → Plain) (depth : Nat) : Prop :=
  ∀ a, (printed a).depth ≤ depth → format.decode (printed a).value = .ok a

/-! ## Scalars, options and lists

The formats without fields. Strings, booleans and words have no depth to speak of; a list passes on
the depth of its elements. -/

namespace Format

variable {α : Type} {inner : Format α} {printed : α → Plain} {n : Nat}

theorem Undoes.string : Format.string.Undoes Plain.string n := fun _ _ => rfl

theorem Undoes.boolean : Format.boolean.Undoes Plain.boolean n := fun _ _ => rfl

theorem Undoes.word {ofWord : String → α} {word : α → String} (h : ∀ a, ofWord (word a) = a) :
    (Format.word ofWord).Undoes (fun a => .string (word a)) n :=
  fun a _ => congrArg Except.ok (h a)

/-- No plain value is null, so an option is decoded as its content. -/
theorem decode_option {p : Plain} {a : α} (h : inner.decode p.value = .ok a) :
    (Format.option inner).decode p.value = .ok (some a) := by
  cases p <;> simp_all [Format.decode, Plain.value, Except.map]

/-- A list is decoded from an array if its elements are. The elements are given as the images of
items, because in a document they are printed trees and the results are these trees again. -/
theorem decode_list {ι : Type} {items : List ι} {element : ι → Plain} {result : ι → α}
    (h : ∀ item ∈ items, inner.decode (element item).value = .ok (result item)) :
    (Format.list inner).decode (Plain.array (items.map element)).value =
      .ok (items.map result) := by
  simp only [Format.decode, Plain.value, Plain.elementValues_eq_map, List.map_map]
  induction items with
  | nil => rfl
  | cons item items ih =>
    rw [List.map_cons, List.mapM_cons, Function.comp_apply, h item List.mem_cons_self,
      ih fun other hm => h other (List.mem_cons_of_mem item hm)]
    rfl

theorem Undoes.list (h : inner.Undoes printed n) :
    (Format.list inner).Undoes (fun items => .array (items.map printed)) n := by
  intro items nesting
  have below := Plain.depth_array_le_iff.1 (Nat.le_succ_of_le nesting)
  have decoded := decode_list fun a ha => h a (below _ (List.mem_map_of_mem ha))
  rwa [List.map_id'] at decoded

end Format

/-! ## Records

The fold over the entries of an object, for entries that come in the order of the fields. The first
entry belongs to the first field that is not left out, and to no other, since the names differ. -/

theorem Plain.entryValues_key_ne {entries : List (String × Plain)} {name : String}
    (h : ∀ entry ∈ entries, entry.1 ≠ name) : ∀ entry ∈ entryValues entries, entry.1 ≠ name := by
  rw [entryValues_eq_map]
  simpa only [List.forall_mem_map] using h

/-- The names of the fields. -/
def Fields.names {π σ : Type} : Fields π σ → List String
  | .done => []
  | .field name _ _ others => name :: others.names

/-- Whether the names of the fields differ from each other and from the tag of a node. The tag is
included because a record is also the content of a node, where its entries stand beside the kind. -/
def Fields.distinct {π σ : Type} (fields : Fields π σ) : Bool :=
  decide (tagName :: fields.names).Nodup

/-- The entries of an object hold these values of the fields, in the order of the fields. A required
field has to be there; for an optional one `absent` says that it is not printed when it has the
value that it would be given anyway. -/
inductive Fields.Holds : {π σ : Type} → Fields π σ → List (String × Plain) → σ → Prop where
  | done : Fields.Holds .done [] ()
  | present {α π σ : Type} {name : String} {format : Format α} {presence : Presence α}
      {others : Fields π σ} {p : Plain} {a : α} {entries : List (String × Plain)} {values : σ}
      (here : format.decode p.value = .ok a) (rest : others.Holds entries values) :
      Fields.Holds (.field name format presence others) ((name, p) :: entries) (a, values)
  | absent {α π σ : Type} {name : String} {format : Format α} {a : α} {others : Fields π σ}
      {entries : List (String × Plain)} {values : σ} (rest : others.Holds entries values) :
      Fields.Holds (.field name format (.optional a) others) entries (a, values)

section Holds

variable {π σ : Type} {fields : Fields π σ} {entries : List (String × Plain)} {values : σ}

/-- Every key is the name of a field. -/
theorem Fields.Holds.key_mem (h : fields.Holds entries values) :
    ∀ entry ∈ entries, entry.1 ∈ fields.names := by
  induction h with
  | done => simp
  | present here rest ih =>
    intro entry hm
    rcases List.mem_cons.1 hm with rfl | hm
    · exact List.mem_cons_self
    · exact List.mem_cons_of_mem _ (ih entry hm)
  | absent rest ih => exact fun entry hm => List.mem_cons_of_mem _ (ih entry hm)

/-- A name that is not among those of the fields is none of the keys. Applied to the name of a field
and those behind it, and to the tag of a node. -/
theorem Fields.Holds.key_ne {name : String} (h : fields.Holds entries values)
    (distinct : (name :: fields.names).Nodup) : ∀ entry ∈ entries, entry.1 ≠ name := by
  rintro entry hm rfl
  exact (List.nodup_cons.1 distinct).1 (h.key_mem entry hm)

/-- The slots of a record after the entries of an object. -/
def Fields.decodeEntries (fields : Fields π σ) (slots : π) (entries : List (String × Value)) :
    Except Cause π :=
  entries.foldlM (fun slots entry => fields.decodeEntry entry.1 entry.2 slots) slots

variable {α : Type} {name : String} {format : Format α} {presence : Presence α}

/-- An entry fills the empty slot of its field. -/
theorem Fields.decodeEntries_cons {v : Value} {a : α} (here : format.decode v = .ok a) (slots : π)
    (below : List (String × Value)) :
    (Fields.field name format presence fields).decodeEntries (none, slots) ((name, v) :: below) =
      (Fields.field name format presence fields).decodeEntries (some a, slots) below := by
  simp only [decodeEntries, List.foldlM_cons, decodeEntry, here]
  rfl

/-- Entries with other keys leave the slot of a field alone. -/
theorem Fields.decodeEntries_others {entries : List (String × Value)}
    (h : ∀ entry ∈ entries, entry.1 ≠ name) (slot : Option α) (slots : π) :
    (Fields.field name format presence fields).decodeEntries (slot, slots) entries =
      (fields.decodeEntries slots entries).map fun slots => (slot, slots) := by
  induction entries generalizing slots with
  | nil => rfl
  | cons entry entries ih =>
    have other := h entry List.mem_cons_self
    have below := ih fun e he => h e (List.mem_cons_of_mem entry he)
    simp only [decodeEntries, List.foldlM_cons, decodeEntry, if_neg other] at below ⊢
    cases fields.decodeEntry entry.1 entry.2 slots with
    | error cause => rfl
    | ok slots => exact below slots

/-- **The values that entries hold are decoded from them.** By induction on `Holds`: an entry that
is there fills the slot of the first field and the others leave it alone; a field without an entry
has its slot still empty when the record is completed, and then gets its default. -/
theorem Fields.Holds.decodeEntries (h : fields.Holds entries values)
    (distinct : fields.names.Nodup) :
    ∃ slots, fields.decodeEntries fields.blank (Plain.entryValues entries) = .ok slots ∧
      fields.complete slots = .ok values := by
  induction h with
  | done => exact ⟨(), rfl, rfl⟩
  | @present _ _ _ name format presence others p a entries values here rest ih =>
    obtain ⟨slots, decoded, completed⟩ := ih (List.nodup_cons.1 distinct).2
    have other := Plain.entryValues_key_ne (rest.key_ne distinct)
    refine ⟨(some a, slots), ?_, by simp only [Fields.complete, completed, Except.map]⟩
    -- Only the first entry has the name of the first field.
    rw [Fields.blank, Plain.entryValues, decodeEntries_cons here, decodeEntries_others other, decoded]
    rfl
  | @absent _ _ _ name format a others entries values rest ih =>
    obtain ⟨slots, decoded, completed⟩ := ih (List.nodup_cons.1 distinct).2
    have other := Plain.entryValues_key_ne (rest.key_ne distinct)
    refine ⟨(none, slots), ?_, by simp only [Fields.complete, completed, Except.map]⟩
    rw [Fields.blank, decodeEntries_others other, decoded]
    rfl

theorem Format.decode_record {make : σ → α} (h : fields.Holds entries values)
    (distinct : fields.names.Nodup) :
    (Format.record name fields make).decode (Plain.object entries).value = .ok (make values) := by
  obtain ⟨slots, decoded, completed⟩ := h.decodeEntries distinct
  rw [Fields.decodeEntries] at decoded
  simp only [Format.decode, Plain.value, decoded, completed, Except.map]

end Holds

/-- The fields are found again in printed entries, up to a depth. The printer of a record is a list
of entries that is built field by field, as the fields are. -/
def Fields.Undoes {π σ : Type} (fields : Fields π σ) (printed : σ → List (String × Plain))
    (depth : Nat) : Prop :=
  ∀ values, (∀ entry ∈ printed values, entry.2.depth ≤ depth) →
    fields.Holds (printed values) values

namespace Fields

variable {α π σ : Type} {name : String} {format : Format α} {printed : α → Plain}
  {presence : Presence α} {others : Fields π σ} {printedOthers : σ → List (String × Plain)} {n : Nat}

theorem Undoes.done : Fields.done.Undoes (fun _ => []) n := fun _ _ => .done

/-- A field that is always printed. -/
theorem Undoes.always (here : format.Undoes printed n) (rest : others.Undoes printedOthers n) :
    (Fields.field name format presence others).Undoes
      (fun values => (name, printed values.1) :: printedOthers values.2) n := by
  intro (a, values) nesting
  obtain ⟨first, below⟩ := List.forall_mem_cons.1 nesting
  exact .present (here a first) (rest values below)

/-- A field that is printed if it has a value. -/
theorem Undoes.option (here : format.Undoes printed n) (rest : others.Undoes printedOthers n) :
    (Fields.field name (.option format) (.optional none) others).Undoes
      (fun values => Plain.optional name printed values.1 ++ printedOthers values.2) n := by
  intro (value, values) nesting
  obtain ⟨first, below⟩ := List.forall_mem_append.1 nesting
  cases value with
  | none => exact .absent (rest values below)
  | some a =>
    have inside := here a (first (name, printed a) List.mem_cons_self)
    exact .present (Format.decode_option inside) (rest values below)

end Fields

/-- Decoding undoes a way of printing the entries of an object, none of which is the tag of a node.
The depth is that of the values of the entries. This is `Undoes` for formats that are used in two
places, as a value of their own and as the content of a node. -/
def Format.UndoesEntries {α : Type} (format : Format α) (entries : α → List (String × Plain))
    (depth : Nat) : Prop :=
  ∀ a, (∀ entry ∈ entries a, entry.2.depth ≤ depth) →
    format.decode (Plain.object (entries a)).value = .ok a ∧ ∀ entry ∈ entries a, entry.1 ≠ tagName

/-- A record is undone if its fields are, given the way back from a value to its fields. -/
theorem Fields.Undoes.record {α π σ : Type} {name : String} {fields : Fields π σ} {make : σ → α}
    {printed : σ → List (String × Plain)} {entries : α → List (String × Plain)} {n : Nat}
    (undo : fields.Undoes printed n) (distinct : fields.distinct = true) (values : α → σ)
    (h : ∀ a, entries a = printed (values a) ∧ make (values a) = a) :
    (Format.record name fields make).UndoesEntries entries n := by
  intro a nesting
  obtain ⟨same, made⟩ := h a
  have holds := undo (values a) (same ▸ nesting)
  rw [← same] at holds
  have names := of_decide_eq_true distinct
  refine ⟨?_, holds.key_ne names⟩
  rw [Format.decode_record holds (List.nodup_cons.1 names).2, made]

theorem Format.UndoesEntries.object {α : Type} {format : Format α}
    {entries : α → List (String × Plain)} {n : Nat} (h : format.UndoesEntries entries n) :
    format.Undoes (fun a => .object (entries a)) n :=
  fun a nesting => (h a (Plain.depth_object_le_iff.1 (Nat.le_succ_of_le nesting))).1

/-! ## Nodes

A node is an object that starts with its kind. Which format its content has is looked up by the
kind, and an unknown kind is kept as such, with whatever else it holds ignored. -/

/-- The format of a kind, if the kind is known. -/
def Variants.find? {α : Type} : Variants α → String → Option (Format α)
  | .done, _ => none
  | .variant kinds format others, kind => if kind ∈ kinds then some format else others.find? kind

/-- The kinds that are known. -/
def Variants.kinds {α : Type} : Variants α → List String
  | .done => []
  | .variant kinds _ others => kinds ++ others.kinds

/-- A kind that is found is decoded by its format. Later variants that go by the same name are never
reached, here as in decoding. -/
theorem Variants.decode_known {α : Type} {variants : Variants α} {kind : String}
    {content : Format α} (found : variants.find? kind = some content) (other : α) (v : Value) :
    variants.decode other (.name kind) v = content.decode v := by
  match variants with
  | .done => cases found
  | .variant kinds format others =>
    rw [Variants.find?] at found
    simp only [Variants.decode]
    split at found
    next known =>
      cases found
      rw [if_pos known]
    next unknown =>
      rw [if_neg unknown]
      exact decode_known found other v

theorem Variants.decode_unknown {α : Type} {variants : Variants α} {kind : String}
    (unknown : kind ∉ variants.kinds) (other : α) (v : Value) :
    variants.decode other (.name kind) v = decodeBare other v := by
  match variants with
  | .done => rfl
  | .variant kinds format others =>
    rw [Variants.kinds, List.mem_append, not_or] at unknown
    simp only [Variants.decode, if_neg unknown.1]
    exact decode_unknown unknown.2 other v

/-- A node format takes a tagged object for a value. It is stated about the content, from which both
ways to get at it follow: `Format.DecodesNode.decode` and `Format.DecodesNode.read`. -/
inductive Format.DecodesNode {α : Type} : Format α → Plain → α → Prop where
  | intro {name : String} {variants : Variants α} {other : α} {kind : String}
      {entries : List (String × Plain)} {a : α} (untagged : ∀ entry ∈ entries, entry.1 ≠ tagName)
      (content : variants.decode other (.name kind) (Plain.object entries).value = .ok a) :
      Format.DecodesNode (.node name variants other) (.node kind entries) a

namespace Format.DecodesNode

variable {α β π σ : Type} {name : String} {variants : Variants α} {other : α} {kind : String} {n : Nat}

/-- A kind whose format is a record. -/
theorem record {recordName : String} {fields : Fields π σ} {make : σ → α}
    {printed : σ → List (String × Plain)} {entries : List (String × Plain)} {a : α}
    (found : variants.find? kind = some (.record recordName fields make))
    (undo : fields.Undoes printed n) (distinct : fields.distinct = true) (values : σ)
    (same : entries = printed values ∧ make values = a)
    (nesting : (Plain.node kind entries).depth ≤ n + 1) :
    (Format.node name variants other).DecodesNode (.node kind entries) a := by
  obtain ⟨rfl, rfl⟩ := same
  have holds := undo values (Plain.depth_node_le_iff.1 nesting)
  have names := of_decide_eq_true distinct
  refine .intro (holds.key_ne names) ?_
  rw [Variants.decode_known found, Format.decode_record holds (List.nodup_cons.1 names).2]

/-- A kind whose format is that of a type of its own. -/
theorem convert {content : Format β} {make : β → α} {entries : β → List (String × Plain)}
    (found : variants.find? kind = some (.convert make content))
    (undo : content.UndoesEntries entries n) (b : β)
    (nesting : (Plain.node kind (entries b)).depth ≤ n + 1) :
    (Format.node name variants other).DecodesNode (.node kind (entries b)) (make b) := by
  obtain ⟨decoded, untagged⟩ := undo b (Plain.depth_node_le_iff.1 nesting)
  refine .intro untagged ?_
  rw [Variants.decode_known found, Format.decode, decoded]
  rfl

/-- A kind that holds nothing else. -/
theorem bare {a : α} (found : variants.find? kind = some (.bare a)) :
    (Format.node name variants other).DecodesNode (.node kind []) a :=
  .intro (by simp) (Variants.decode_known found other _)

theorem unknown (h : kind ∉ variants.kinds) :
    (Format.node name variants other).DecodesNode (.node kind []) other :=
  .intro (by simp) (Variants.decode_unknown h other _)

end Format.DecodesNode

theorem foldlM_ok {σ ι ε : Type} {step : σ → ι → Except ε σ} (next : σ → ι → σ) {items : List ι}
    (h : ∀ item ∈ items, ∀ state, step state item = .ok (next state item)) (state : σ) :
    items.foldlM step state = .ok (items.foldl next state) := by
  induction items generalizing state with
  | nil => rfl
  | cons item items ih =>
    rw [List.foldlM_cons, h item List.mem_cons_self]
    exact ih (fun other hm => h other (List.mem_cons_of_mem item hm)) (next state item)

theorem foldl_gather {τ ι : Type} (tag : τ) (taken items : List ι) :
    items.foldl (fun state item => (state.1, item :: state.2)) (tag, taken) =
      (tag, items.reverse ++ taken) := by
  induction items generalizing taken with
  | nil => rfl
  | cons item items ih => rw [List.foldl_cons, ih, List.reverse_cons, List.append_assoc]; rfl

/-- The tag is taken from the front of the entries, where printing puts it. It would be found
anywhere, but for the way back from a printed text this is enough. -/
theorem takeTag_cons {kind : String} {entries : List (String × Value)}
    (untagged : ∀ entry ∈ entries, entry.1 ≠ tagName) :
    takeTag ((tagName, .string kind) :: entries) = .ok (.name kind, entries) := by
  simp only [takeTag, List.foldlM_cons, ↓reduceIte, Tag.ofValue, Except.map, bind, Except.bind]
  rw [foldlM_ok (fun state entry => (state.1, entry :: state.2)) ?_, foldl_gather]
  · simp
  · intro entry hm state
    rw [if_neg (untagged entry hm)]

/-- The kind is taken off, and what remains is the content. -/
theorem Format.DecodesNode.decode {α : Type} {format : Format α} {p : Plain} {a : α}
    (h : format.DecodesNode p a) : format.decode p.value = .ok a := by
  cases h with
  | intro untagged content =>
    simp only [Format.decode, Plain.node, Plain.value, Plain.entryValues]
    rw [takeTag_cons (Plain.entryValues_key_ne untagged)]
    exact content

/-! ## Reading formats from texts

Strings, nodes and lists are also read directly from their texts. The values inside a node are read
as values (`readValue_text`) and decoded afterwards, so what was shown above carries over. -/

/-- A printed scalar is read and decoded. -/
theorem readPlain_text {α : Type} {decode : Value → Except Cause α} {p : Plain} {a : α}
    (flat : p.depth = 0) (h : decode p.value = .ok a) (expected : Expectation) (rest : List Char) :
    readPlain decode expected (skipSpace (p.text ++ rest)) = .ok (a, rest) := by
  have scalar := readScalar?_text flat rest
  obtain ⟨c, s, head, -, -⟩ := p.text_head
  rw [p.skipSpace_text]
  rw [head, List.cons_append] at scalar ⊢
  simp only [readPlain, scalar, h]

theorem readTag_text (kind : String) (rest : List Char) :
    readTag ((Plain.string kind).text ++ rest) = .ok (kind, rest) := by
  rw [readTag]
  refine readPlain_text ?_ ?_ .tag rest <;> rfl

theorem Gathered.readEntry_tag (bound depth : Nat) (kind : String) (after : List Char) :
    Gathered.readEntry bound depth {} tagName (':' :: ((Plain.string kind).text ++ after)) =
      .ok ({ tag := some kind }, after) := by
  simp only [readEntry, ↓reduceIte, Option.isSome_none, Bool.false_eq_true, readColon_colon,
    Except.bind, readTag_text]
  rfl

/-- An entry that is not the kind is read as a value and put in front of those before it. -/
theorem Gathered.readEntry_other {bound depth : Nat} {key : String} {p : Plain}
    (untagged : key ≠ tagName) (nesting : p.depth ≤ depth) (room : p.text.length ≤ bound)
    (read : Gathered) (after : List Char) :
    read.readEntry bound depth key (':' :: (p.text ++ after)) =
      .ok ({ read with entries := (key, p.value) :: read.entries }, after) := by
  simp only [readEntry, if_neg untagged, readColon_colon, Except.bind,
    readValue_text p nesting room after]
  rfl

theorem Gathered.foldl_entries (entries : List (String × Plain)) (read : Gathered) :
    entries.foldl (fun read entry => { read with
        entries := (entry.1, entry.2.value) :: read.entries }) read =
      { read with entries := (Plain.entryValues entries).reverse ++ read.entries } := by
  induction entries generalizing read with
  | nil => rfl
  | cons entry entries ih => simp [ih, Plain.entryValues]

/-- The object of a node is read into its kind and the value of its content. The kind is read in a
round of its own; for all other rounds the state only grows at its front. -/
theorem readNodeObject_text {bound depth : Nat} {kind : String} {entries : List (String × Plain)}
    (untagged : ∀ entry ∈ entries, entry.1 ≠ tagName)
    (nesting : ∀ entry ∈ entries, entry.2.depth ≤ depth)
    (room : (Plain.node kind entries).text.length ≤ bound) (rest : List Char) :
    readNodeObject bound depth
        (Plain.entriesText true ((tagName, .string kind) :: entries) ++ '}' :: rest) =
      .ok ((kind, (Plain.object entries).value), '}' :: rest) := by
  obtain ⟨count, inside⟩ := Plain.room_object room
  obtain ⟨bound, rfl⟩ := Nat.exists_eq_succ_of_ne_zero (Nat.ne_zero_of_lt count)
  have run := readEntries_text (fun (read : Gathered) entry => { read with
      entries := (entry.1, entry.2.value) :: read.entries })
    (fun entry hm read after => read.readEntry_other (untagged entry hm) (nesting entry hm)
      (inside entry (List.mem_cons_of_mem _ hm)) after)
    (Nat.lt_of_succ_lt_succ count) false { tag := some kind } rest
  rw [Gathered.foldl_entries] at run
  simp only [readNodeObject, Plain.entriesText, List.append_assoc, List.cons_append]
  rw [readEntries_round (Gathered.readEntry_tag _ _ _ _), run]
  simp [Plain.value]

/-- **A node is read from the text of its object**, with anything behind it. One level of depth is
used up by the object itself, which is why the depth cannot be zero. -/
theorem Format.DecodesNode.read {α : Type} {format : Format α} {p : Plain} {a : α}
    (h : format.DecodesNode p a) {bound depth : Nat} (nesting : p.depth ≤ depth)
    (room : p.text.length ≤ bound) (rest : List Char) :
    format.read bound depth (p.text ++ rest) = .ok (a, rest) := by
  cases h with
  | @intro name variants other kind entries a untagged content =>
    obtain ⟨depth, rfl⟩ : ∃ n, depth = n + 1 :=
      Nat.exists_eq_succ_of_ne_zero (by simp only [Plain.node, Plain.depth] at nesting; omega)
    have inside := readNodeObject_text untagged (Plain.depth_node_le_iff.1 nesting) room rest
    simp only [Format.read]
    rw [Plain.skipSpace_text, Plain.node, Plain.object_text_append]
    simp only [Char.reduceEq, ↓reduceIte, nested, inside, closingObject_text, content, orStopped]

theorem Format.read_string (bound depth : Nat) (s : String) (rest : List Char) :
    Format.string.read bound depth ((Plain.string s).text ++ rest) = .ok (s, rest) := by
  rw [Format.read]
  refine readPlain_text ?_ ?_ .string rest <;> rfl

/-- A list is read from the text of an array if its elements are read from theirs. -/
theorem Format.read_list {α : Type} {inner : Format α} {printed : α → Plain} {items : List α}
    {bound depth : Nat}
    (h : ∀ a ∈ items, ∀ rest,
      inner.read bound depth ((printed a).text ++ rest) = .ok (a, rest))
    (room : items.length < bound) (rest : List Char) :
    (Format.list inner).read bound (depth + 1)
        ((Plain.array (items.map printed)).text ++ rest) = .ok (items, rest) := by
  simp only [Format.read]
  rw [Plain.skipSpace_text, Plain.array_text_append]
  simp only [↓reduceIte, nested]
  rw [readElements_text id ?_ room]
  · simp [closingArray_text, Except.map]
  · intro a ha taken after
    simp [h a ha, Except.map]

section Records

variable {α π σ : Type} {name : String} {format : Format α} {presence : Presence α}
  {fields : Fields π σ} {bound depth : Nat}

/-- The entry of a field is read into its empty slot. -/
theorem Fields.readEntry_here {p : Plain} {a : α} {after : List Char}
    (h : format.read bound depth (p.text ++ after) = .ok (a, after)) (slots : π) :
    (Fields.field name format presence fields).readEntry bound depth name
        (':' :: (p.text ++ after)) (none, slots) = .ok ((some a, slots), after) := by
  simp [Fields.readEntry, readColon_colon, Except.bind, h, Except.map]

theorem Fields.readEntry_there {key : String} {s after : List Char} {slots read : π}
    (other : key ≠ name) (h : fields.readEntry bound depth key s slots = .ok (read, after))
    (slot : Option α) :
    (Fields.field name format presence fields).readEntry bound depth key s (slot, slots) =
      .ok ((slot, read), after) := by
  simp [Fields.readEntry, other, h, Except.map]

/-- A record is read from the text of an object if its slots are filled by the entries. Which
entries fill which slots is left to the caller: only the record of a whole document is read
directly, and its entries are few. -/
theorem Format.read_record {make : σ → α} {entries : List (String × Plain)} {a : α}
    {rest : List Char} (slots : π)
    (run : readEntries (fun slots key s => fields.readEntry bound depth key s slots) bound true
      fields.blank (Plain.entriesText true entries ++ '}' :: rest) = .ok (slots, '}' :: rest))
    (completed : (fields.complete slots).map make = .ok a) :
    (Format.record name fields make).read bound (depth + 1) ((Plain.object entries).text ++ rest) =
      .ok (a, rest) := by
  simp only [Format.read]
  rw [Plain.skipSpace_text, Plain.object_text_append]
  simp only [Char.reduceEq, ↓reduceIte, nested, run, completed]
  rfl

end Records

end ScalaFacade.Json
