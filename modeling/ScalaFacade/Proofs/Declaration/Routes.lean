import ScalaFacade.Proofs.Declaration.Tolerance
import ScalaFacade.Proofs.Json.Context

/-! # The two ways to write a document

A document is an object or the bare list of its statements. On every well-formed text the first
character tells which of the two it is, and a list means the same bare and as the only entry of an
object. Reading a list does not go through the object, nor the other way round, so that this is a
fact about two routes through the code and not a definition.

The value in the text settles both if there is one: the document depends on it alone. The work is in
the texts that hold none, since a number is out of range or an escape is half a character. A reader
that stops early, or passes over the bad part, could make a document of one of the two and not of
the other. It does not, for this reason:

> a list of statements is read only where a value can be read, because a node is read whole before
> it is decoded (`Format.readsValues_node`).

So if the text has no value, neither route makes a document. With the module about contexts, the
list means the same in both texts, though it stands one level deeper in the second, and this gives
the outcome on both sides as the same function of that meaning (`Format.ReadsValues.toOption_read`).

Records do not have that property. They pass over unknown keys, and what is passed over need not be
readable. So the statement is about the object whose only entry is the list, and not about any
object with such an entry.
-/

set_option autoImplicit false

namespace ScalaFacade

open Json

/-! ## Nodes are values

The converse of what direct reading is about: there, a text held a value and was read; here, it is
read and must hold one. It is shown for nodes and for lists of them. -/

namespace Json

/-- If every step of a loop over an array only succeeds where a value can be read, a loop that
succeeds has gone along elements. Steps are known to be like that only on texts below a length,
which is passed on as `room`. -/
theorem elements_of_steps {σ : Type} {step : σ → List Char → Outcome σ} {bound depth room : Nat}
    (spelled : ∀ {state state' : σ} {s rest : List Char}, s.length < room →
      step state s = .ok (state', rest) → ∃ v, readValue bound depth s = .ok (v, rest))
    {rounds : Nat} {first : Bool} {state state' : σ} {s rest : List Char} (enough : s.length < room)
    (h : readElements step rounds first state s = .ok (state', rest)) :
    ∃ vs, Elements (readValue bound depth) first s vs rest := by
  induction rounds generalizing first state s with
  | zero => cases h
  | succ rounds ih =>
    rw [readElements] at h
    split at h
    · cases h
    · next closing =>
      cases h
      exact ⟨[], .done closing⟩
    · next before next =>
      split at h
      · cases h
      · next state after stepped =>
        have shorter := length_of_nextElement next
        obtain ⟨v, here⟩ := spelled (by omega) stepped
        have progress := length_of_readValue here
        obtain ⟨vs, others⟩ := ih (by omega) h
        exact ⟨v :: vs, .more next here others⟩

theorem entries_of_steps {σ : Type} {step : σ → String → List Char → Outcome σ}
    {read : List Char → Outcome Value}
    (spelled : ∀ {state state' : σ} {key : String} {s rest : List Char},
      step state key s = .ok (state', rest) →
      ∃ before v, readColon s = .ok before ∧ read before = .ok (v, rest))
    {rounds : Nat} {first : Bool} {state state' : σ} {s rest : List Char}
    (h : readEntries step rounds first state s = .ok (state', rest)) :
    ∃ entries, Entries read first s entries rest := by
  induction rounds generalizing first state s with
  | zero => cases h
  | succ rounds ih =>
    rw [readEntries] at h
    split at h
    · cases h
    · next closing =>
      cases h
      exact ⟨[], .done closing⟩
    · next key colon next =>
      split at h
      · cases h
      · next state after stepped =>
        obtain ⟨before, v, marked, here⟩ := spelled stepped
        obtain ⟨entries, others⟩ := ih h
        exact ⟨(key, v) :: entries, .more next marked here others⟩

section

variable {bound depth : Nat} {s inside closing rest : List Char}

/-- Elements between brackets are an array that can be read: the way back from `Elements` to the
reader, with the length of the text as the bound on its rounds. -/
theorem Elements.readValue_eq {vs : List Value}
    (h : Elements (readValue bound depth) true inside vs closing)
    (opening : skipSpace s = '[' :: inside) (closed : endArray closing = .ok rest)
    (room : s.length < bound) : readValue bound (depth + 1) s = .ok (.array vs, rest) := by
  have shorter := length_of_skipSpace_cons opening
  have all := h.toOption_readElements (readValue bound depth) some
    (fun {_ _ _} read _ => by rw [read]; rfl) (by omega) (by omega : inside.length < bound) []
  rw [← readValue_skipSpace, opening, readValue_openArray]
  refine eq_ok_of_toOption (toOption_closingArray ?_ closed)
  have pure : vs.mapM some = some vs := (List.mapM_pure (m := Option) (f := id)).trans (by simp)
  rw [pure] at all
  rw [toOption_map]
  refine (congrArg _ all).trans ?_
  simp

theorem Entries.readValue_eq {entries : List (String × Value)}
    (h : Entries (readValue bound depth) true inside entries closing)
    (opening : skipSpace s = '{' :: inside) (closed : endObject closing = .ok rest)
    (room : s.length < bound) : readValue bound (depth + 1) s = .ok (.object entries, rest) := by
  have shorter := length_of_skipSpace_cons opening
  have all := h.toOption_readEntries (readMember bound depth)
    (fun taken entry => some (entry :: taken))
    (fun {_ _ _ _ _ _} marked read _ => by rw [readMember, marked, Except.bind, read]; rfl)
    (by omega) (by omega : inside.length < bound) []
  rw [← readValue_skipSpace, opening, readValue_openObject]
  refine eq_ok_of_toOption (toOption_closingObject ?_ closed)
  have pure : entries.foldlM (fun taken entry => some (entry :: taken)) [] = some entries.reverse :=
    List.foldlM_pure.trans (by simp)
  rw [toOption_map, all, pure]
  simp

/-- A kind is read as a scalar, and scalars are values. -/
theorem readValue_of_readTag {kind : String} (h : readTag s = .ok (kind, rest)) :
    ∃ v, readValue bound depth s = .ok (v, rest) := by
  unfold readTag readPlain at h
  split at h
  · cases h
  · split at h
    · next v after found =>
      split at h <;> cases h
      refine ⟨v, ?_⟩
      rw [readValue]
      simp_all
    · cases h
    · cases h

theorem Gathered.readValue_of_readEntry {read read' : Gathered} {key : String} {colon : List Char}
    (h : Gathered.readEntry bound depth read key colon = .ok (read', rest)) :
    ∃ before v, readColon colon = .ok before ∧ readValue bound depth before = .ok (v, rest) := by
  unfold Gathered.readEntry at h
  split at h
  · split at h
    · cases h
    · obtain ⟨before, marked, h⟩ := bind_eq_ok.1 h
      obtain ⟨⟨kind, after⟩, tag, same⟩ := map_eq_ok.1 h
      cases same
      obtain ⟨v, here⟩ := readValue_of_readTag tag
      exact ⟨before, v, marked, here⟩
  · obtain ⟨before, marked, h⟩ := bind_eq_ok.1 h
    obtain ⟨⟨v, after⟩, here, same⟩ := map_eq_ok.1 h
    cases same
    exact ⟨before, v, marked, here⟩

theorem entries_of_readNodeObject {content : String × Value}
    (h : readNodeObject bound depth inside = .ok (content, closing)) :
    ∃ entries, Entries (readValue bound depth) true inside entries closing := by
  unfold readNodeObject at h
  split at h
  · cases h
  · next read after gathered =>
    split at h <;> cases h
    exact entries_of_steps Gathered.readValue_of_readEntry gathered

theorem elements_of_readNodeArray {content : String × Value}
    (h : readNodeArray bound depth inside = .ok (content, closing)) :
    ∃ vs, Elements (readValue bound depth) true inside vs closing := by
  unfold readNodeArray at h
  split at h
  · cases h
  · cases h
  · next before next =>
    split at h
    · cases h
    · next kind after tag =>
      obtain ⟨v, here⟩ := readValue_of_readTag tag
      obtain ⟨⟨all, _⟩, run, same⟩ := map_eq_ok.1 h
      cases same
      obtain ⟨vs, -, others⟩ := elements_of_readElements run
      exact ⟨v :: vs, .more next here others⟩

/-- Whatever a format reads from a text, a value can be read from it, and both end at the same
place. -/
def Format.ReadsValues {α : Type} (format : Format α) : Prop :=
  ∀ (bound depth : Nat) (s rest : List Char) (a : α), s.length < bound →
    format.read bound depth s = .ok (a, rest) → ∃ v, readValue bound depth s = .ok (v, rest)

theorem nested_eq_ok {α : Type} {inner : Nat → Outcome α} {result : α × List Char}
    (h : nested depth s inner = .ok result) :
    ∃ below, depth = below + 1 ∧ inner below = .ok result := by
  cases depth with
  | zero => cases h
  | succ below => exact ⟨below, rfl, h⟩

/-- **A node is read only where a value can be read.** Its entries are read as values, apart from
its kind, which is one too; that it is then decoded does not take more text. -/
theorem Format.readsValues_node {α : Type} (name : String) (variants : Variants α) (other : α) :
    (Format.node name variants other).ReadsValues := by
  intro bound depth s rest a room h
  rw [Format.read] at h
  split at h
  · cases h
  · next c inside opening =>
    simp only at h
    split at h
    · cases h
    · next kind v after content =>
      -- Decoding what was read leaves the text where reading left it.
      have left : after = rest := by
        unfold orStopped at h
        split at h <;> cases h
        rfl
      subst left
      split at content
      · next array =>
        subst array
        obtain ⟨below, rfl, inner⟩ := nested_eq_ok content
        obtain ⟨closing, whole, closed⟩ := closingArray_eq_ok.1 inner
        obtain ⟨vs, elements⟩ := elements_of_readNodeArray whole
        exact ⟨_, elements.readValue_eq opening closed room⟩
      · split at content
        · next object =>
          subst object
          obtain ⟨below, rfl, inner⟩ := nested_eq_ok content
          obtain ⟨closing, whole, closed⟩ := closingObject_eq_ok.1 inner
          obtain ⟨entries, found⟩ := entries_of_readNodeObject whole
          exact ⟨_, found.readValue_eq opening closed room⟩
        · cases content

/-- A list of what is read as values is read as a value. -/
theorem Format.ReadsValues.list {α : Type} {inner : Format α} (values : inner.ReadsValues) :
    (Format.list inner).ReadsValues := by
  intro bound depth s rest all room h
  rw [Format.read] at h
  split at h
  · cases h
  · next c inside opening =>
    split at h
    · next array =>
      subst array
      obtain ⟨below, rfl, opened⟩ := nested_eq_ok h
      obtain ⟨closing, whole, closed⟩ := closingArray_eq_ok.1 opened
      obtain ⟨⟨read, _⟩, run, same⟩ := map_eq_ok.1 whole
      cases same
      have shorter := length_of_skipSpace_cons opening
      have enough : inside.length < bound := by omega
      obtain ⟨vs, elements⟩ : ∃ vs, Elements (readValue bound below) true inside vs closing := by
        refine elements_of_steps ?_ enough run
        intro read read' t after enough stepped
        obtain ⟨⟨a, after⟩, here, same⟩ := map_eq_ok.1 stepped
        cases same
        exact values _ _ _ _ _ enough here
      exact ⟨_, elements.readValue_eq opening closed room⟩
    · cases h

end

/-- What a format that reads values makes of a text depends on its meaning alone. Where the meaning
is a value this is direct reading; where it is nothing, the format cannot have read anything
either. -/
theorem Format.ReadsValues.toOption_read {α : Type} {format : Format α}
    (values : format.ReadsValues) {n : Nat} {s after : List Char} {meaning : Option Value}
    (means : Means n s after meaning) {bound depth : Nat} {tail : List Char} (nesting : n ≤ depth)
    (delimited : Delimited tail) (room : (s ++ tail).length < bound) :
    (format.read bound depth (s ++ tail)).toOption =
      leaving (after ++ tail) (meaning.bind (format.accept? true)) := by
  have found := means nesting delimited room
  cases meaning with
  | some v => exact format.toOption_read (eq_ok_of_toOption found) room
  | none =>
    obtain ⟨fault, failed⟩ := eq_error_of_toOption found
    cases read : format.read bound depth (s ++ tail) with
    | error => rfl
    | ok result =>
      obtain ⟨v, value⟩ := values _ _ _ _ _ room read
      rw [failed] at value
      cases value

/-- A whole text is read if only white space is left. Stated once for both routes. -/
theorem Format.toOption_readAll {α : Type} {format : Format α} {text rest : List Char}
    {meaning : Option α}
    (read : (format.read (text.length + 1) nestingLimit text).toOption = leaving rest meaning)
    (ends : skipSpace rest = []) : (format.readAll text).toOption = meaning := by
  rw [Format.readAll]
  cases meaning with
  | none =>
    obtain ⟨fault, failed⟩ := eq_error_of_toOption read
    rw [failed]
    rfl
  | some a =>
    rw [eq_ok_of_toOption read]
    simp only [ends]
    rfl

end Json

theorem Statement.format_readsValues : Statement.format.ReadsValues :=
  Format.readsValues_node _ _ _

/-! ## Which way a text is written

The choice is made by the first character that is not blank, and the grammar knows that
character. -/

theorem isBlank_of_opens {kind : Kind} {c : Char} (h : kind.Opens c) : Text.isBlank c = false := by
  cases kind with
  | scalar =>
    obtain listed | digit := h
    · simp only [List.mem_cons, List.not_mem_nil, or_false] at listed
      obtain rfl | rfl | rfl | rfl | rfl := listed <;> rfl
    · exact isBlank_of_isDigit digit
  | array =>
    subst h
    rfl
  | object =>
    subst h
    rfl

theorem Json.Kind.Opens.array_iff {kind : Kind} {c : Char} (h : kind.Opens c) :
    c = '[' ↔ kind = .array := by
  cases kind with
  | scalar =>
    refine iff_of_false ?_ (by simp)
    rintro rfl
    obtain listed | digit := h
    · revert listed
      decide
    · cases digit
  | array => exact iff_of_true h rfl
  | object =>
    subst h
    decide

/-- The first character of a well-formed text, white space apart. -/
theorem Json.Spells.start {kind : Kind} {n : Nat} {s : List Char} (h : Spells (.element kind) n s) :
    ∃ c t, skipSpace s = c :: t ∧ kind.Opens c := by
  cases h with
  | element gap value gap' =>
    obtain ⟨c, t, rfl, opens⟩ := value.opens
    rw [skipSpace_gap gap]
    exact ⟨c, _, skipSpace_of_head opens.plain.1 _, opens⟩

/-- **A well-formed text is taken for a list exactly if it is an array.** The grammar has the kind
of the value in its index, so that nothing has to be read for this. -/
theorem isStatementList_of_spells {kind : Kind} {n : Nat} {s : List Char}
    (h : Spells (.element kind) n s) : isStatementList s = true ↔ kind = .array := by
  obtain ⟨c, t, start, opens⟩ := h.start
  rw [isStatementList, ← trimStart_skipSpace, start, Text.trimStart,
    List.dropWhile_cons_of_neg (by simp [isBlank_of_opens opens])]
  exact beq_iff_eq.trans opens.array_iff

/-! ## A list inside of an object

The object with a list as its only entry, written around the text of the list. Its reading is
followed entry by entry: the key, the colon, the list, the bracket. -/

section

variable {α π σ : Type} {name : String} {format : Format α} {presence : Presence α}
  {others : Fields π σ} {bound depth : Nat}

theorem Json.Fields.readEntry_named (s : List Char) (slots : π) :
    (Fields.field name format presence others).readEntry bound depth name s (none, slots) =
      (readColon s).bind fun s =>
        (format.read bound depth s).map fun (a, s) => ((some a, slots), s) := by
  simp [Fields.readEntry]

theorem Json.Fields.readEntry_other {key : String} (other : key ≠ name) (s : List Char)
    (slot : Option α) (slots : π) :
    (Fields.field name format presence others).readEntry bound depth key s (slot, slots) =
      (others.readEntry bound depth key s slots).map fun (slots, s) => ((slot, slots), s) := by
  simp [Fields.readEntry, other]

end

/-- The object whose only entry is a list of statements, as a text around that of the list. -/
def statementsObject (statements : String) : String :=
  "\x7b\"statements\": " ++ statements ++ "\x7d"

theorem toList_statementsObject (statements : String) :
    (statementsObject statements).toList =
      '{' :: '"' :: ("statements".toList ++ '"' :: ':' :: ' ' :: (statements.toList ++ ['}'])) := by
  -- The parts are named, since a literal can be taken for an append.
  have opened := String.toList_append (s := "\x7b\"statements\": ") (t := statements)
  have closed := String.toList_append (s := "\x7b\"statements\": " ++ statements) (t := "\x7d")
  have whole := closed.trans (congrArg (· ++ ['}']) opened)
  rw [List.append_assoc] at whole
  exact whole

/-- The object is well formed if the list is, and nested one level deeper. The blank behind the
colon goes to the white space in front of the list. -/
theorem spells_statementsObject {kind : Kind} {n : Nat} {statements : String}
    (h : Spells (.element kind) n statements.toList) :
    Spells (.element .object) (n + 1) (statementsObject statements).toList := by
  have key := (stringInside_of_plainLetters (s := "statements".toList) (by decide)).1
  have blank : IsGap [] := rfl
  have value : Spells (.element kind) n (' ' :: statements.toList) := by
    generalize statements.toList = s at h
    cases h with
    | element gap value gap' =>
      have gap : IsGap (' ' :: _) := gap
      exact .element gap value gap'
  have whole := Spells.element blank (.object (.lastMember (.member blank key blank value))) blank
  rw [toList_statementsObject]
  simpa only [List.nil_append, List.append_nil, List.append_assoc, List.cons_append] using whole

/-- The fields of a document. They are named here, since the format of documents has them inside. -/
def Document.fields :
    Fields (Option String × Option (List Statement) × Unit) (String × List Statement × Unit) :=
  .optional "fileName" .string "" <| .optional "statements" (.list Statement.format) [] .done

/-- The document of its fields. -/
def Document.ofFields : String × List Statement × Unit → Document
  | (fileName, statements, ()) => { fileName, statements }

/-- Reads the inside of an object as a document, by the names of its entries. This is the object
route of the format, cut out to be stated. -/
def Document.readByName (bound depth : Nat) (inside : List Char) : Outcome Document :=
  closingObject (andThen (fun slots => (fields.complete slots).map ofFields)
    (readEntries (fun slots key s => fields.readEntry bound depth key s slots) bound true
      fields.blank inside))

theorem Document.read_object {s inside : List Char} (opening : skipSpace s = '{' :: inside)
    (bound depth : Nat) :
    Document.format.read bound (depth + 1) s = readByName bound depth inside := by
  rw [Document.format, Format.read, opening]
  rfl

/-- The entry with the statements fills their slot. -/
theorem Document.toOption_readEntry_statements {bound depth : Nat} {s rest : List Char}
    {meaning : Option (List Statement)}
    (read : ((Format.list Statement.format).read bound depth s).toOption = leaving rest meaning) :
    (fields.readEntry bound depth "statements" (':' :: ' ' :: s) fields.blank).toOption =
      leaving rest (meaning.map fun statements => (none, some statements, ())) := by
  have blank : (Format.list Statement.format).read bound depth (' ' :: s) =
      (Format.list Statement.format).read bound depth s := by
    rw [Format.read, Format.read]
    rfl
  rw [fields, Fields.optional, Fields.optional, Fields.blank, Fields.blank,
    Fields.readEntry_other (by decide), toOption_map, Fields.readEntry_named, readColon_colon,
    Except.bind, toOption_map, blank, read]
  cases meaning <;> rfl

theorem nextKey_statements (s : List Char) :
    nextKey true ('"' :: ("statements".toList ++ '"' :: s)) = .ok (some ("statements", s)) := by
  have plain : plainLetters "statements".toList = true := by decide
  have named := eq_ok_of_toOption ((stringInside_of_plainLetters plain).2 [] s)
  rw [Standing.start.nextKey_eq (skipSpace_of_head rfl _), named]
  rfl

/-- The inside of the object is read as the document of its statements. The loop takes one round for
the entry and one for the bracket, behind the white space that the list leaves. -/
theorem Document.toOption_readByName_statements {bound depth : Nat} (rounds : 1 < bound)
    {s after : List Char} {meaning : Option (List Statement)} (gap : IsGap after)
    (read : ((Format.list Statement.format).read bound depth s).toOption =
      leaving (after ++ ['}']) meaning) :
    (readByName bound depth ('"' :: ("statements".toList ++ '"' :: ':' :: ' ' :: s))).toOption =
      leaving [] (meaning.map fun statements => { fileName := "", statements }) := by
  obtain ⟨more, rfl⟩ := Nat.exists_eq_succ_of_ne_zero (Nat.ne_zero_of_lt rounds)
  have slots : (readEntries (fun slots key s => fields.readEntry (more + 1) depth key s slots)
      (more + 1) true fields.blank
      ('"' :: ("statements".toList ++ '"' :: ':' :: ' ' :: s))).toOption =
        leaving ['}'] (meaning.map fun statements => (none, some statements, ())) := by
    rw [toOption_readEntries_more (nextKey_statements _), toOption_readEntry_statements read]
    cases meaning with
    | none => rfl
    | some statements =>
      rw [Option.map_some, leaving_some, Option.bind_some]
      simp only [readEntries_closing _ (Nat.lt_of_succ_lt_succ rounds) _ _ gap]
      rfl
  refine (toOption_closingObject (toOption_andThen _ slots) rfl).trans ?_
  cases meaning <;> rfl

section

variable {n : Nat} {after : List Char} {meaning : Option Value} {text : String}
  (means : Means n text.toList after meaning) (gap : IsGap after)
include means gap

/-- The statements in a list that stands alone: the meaning of the text, accepted as a list of
statements. -/
theorem toOption_parse_list (nesting : n ≤ nestingLimit) :
    ((Format.list Statement.format).parse text).toOption =
      meaning.bind ((Format.list Statement.format).accept? true) := by
  have room : (text.toList ++ []).length < text.toList.length + 1 := by simp
  have delimited : Delimited [] := trivial
  have read := Statement.format_readsValues.list.toOption_read means nesting delimited room
  rw [List.append_nil] at read
  exact Format.toOption_readAll read (skipSpace_gap gap [])

/-- The document in an object whose only entry is a list of statements: the same meaning, accepted
in the same way, one level deeper. That level is why the nesting is strict here. -/
theorem toOption_parse_statementsObject (nesting : n < nestingLimit) :
    (Document.format.parse (statementsObject text)).toOption =
      (meaning.bind ((Format.list Statement.format).accept? true)).map fun statements =>
        { fileName := "", statements } := by
  have shape := toList_statementsObject text
  have size := congrArg List.length shape
  simp only [List.length_cons, List.length_append] at size
  have room : (text.toList ++ ['}']).length < (statementsObject text).toList.length + 1 := by
    rw [List.length_append, List.length_singleton]
    omega
  have delimited : Delimited ['}'] := .inr (.inr (.inr rfl))
  have read := Statement.format_readsValues.list.toOption_read means (Nat.le_of_lt_succ nesting)
    delimited room
  have start := (congrArg skipSpace shape).trans (skipSpace_of_head rfl _)
  have whole := Document.toOption_readByName_statements (by omega) gap read
  rw [← Document.read_object start] at whole
  exact Format.toOption_readAll whole rfl

end

/-! ## Both ways -/

/-- **The two ways to write a document agree.** A well-formed text, white space around it included,
is read as a list of statements exactly if its value is an array, and an object is read by the names
of its entries, never by their places. A list makes the same document, named after the file, as the
object that holds it under `statements`, or neither makes one, as long as the object is not nested
too deeply. -/
theorem Document.parse_routes (file : String) {text : String} {kind : Kind} {n : Nat}
    (spelled : Spells (.element kind) n text.toList) :
    (isStatementList text.toList = true ↔ kind = .array) ∧
    (kind = .array → Document.parse file text =
      ((Format.list Statement.format).parse text).map fun statements =>
        { fileName := file, statements }) ∧
    (kind ≠ .array →
      Document.parse file text = (Document.format.parse text).map (·.namedAfter file)) ∧
    (kind = .object → ∃ inside, skipSpace text.toList = '{' :: inside ∧ ∀ bound depth,
      Document.format.read bound (depth + 1) text.toList = readByName bound depth inside) ∧
    Spells (.element .object) (n + 1) (statementsObject text).toList ∧
    (kind = .array → n + 1 ≤ nestingLimit →
      (Document.parse file text).toOption = (Document.parse file (statementsObject text)).toOption ∧
        ∀ document, Document.parse file text = .ok document → document.fileName = file) := by
  have chosen := isStatementList_of_spells spelled
  have object := spells_statementsObject spelled
  have list (array : kind = .array) : Document.parse file text =
      ((Format.list Statement.format).parse text).map fun statements =>
        { fileName := file, statements } := if_pos (chosen.2 array)
  refine ⟨chosen, list, fun other => if_neg fun h => other (chosen.1 h), ?_, object, ?_⟩
  · rintro rfl
    obtain ⟨c, inside, start, rfl⟩ := spelled.start
    exact ⟨inside, start, read_object start⟩
  · intro array nesting
    obtain ⟨⟨after, meaning, gap, means⟩, -⟩ := spelled.meaningful
    have bare := toOption_parse_list means gap (Nat.le_of_succ_le nesting)
    have inside := toOption_parse_statementsObject means gap nesting
    have held : Document.parse file (statementsObject text) =
        (Document.format.parse (statementsObject text)).map (·.namedAfter file) :=
      if_neg fun h => Kind.noConfusion ((isStatementList_of_spells object).1 h)
    refine ⟨?_, ?_⟩
    · rw [list array, held, toOption_map, toOption_map, bare, inside, Option.map_map]
      rfl
    · intro document parsed
      rw [list array] at parsed
      obtain ⟨statements, -, rfl⟩ := map_eq_ok.1 parsed
      rfl

/-- A list of one statement, with white space around it. -/
def moduleList : String :=
  "\t[ \x7b\"kind\":\"ModuleDeclaration\", \"name\":\"M\"\x7d]\n"

/-- The derivation is written out, from the keys outwards; the reader is not run. -/
theorem spells_moduleList : Spells (.element .array) 2 moduleList.toList := by
  have blank : IsGap [] := rfl
  have space : IsGap [' '] := rfl
  have word {s : List Char} (plain : plainLetters s = true) :
      Spells (.element .scalar) 0 ([] ++ ('"' :: (s ++ ['"']) ++ [])) :=
    .element blank (.scalar (.string (stringInside_of_plainLetters plain).1)) blank
  have key {s : List Char} (plain : plainLetters s = true) : StringInside s :=
    (stringInside_of_plainLetters plain).1
  have kind := Spells.member blank (key (s := "kind".toList) (by decide)) blank
    (word (s := "ModuleDeclaration".toList) (by decide))
  have name := Spells.member space (key (s := "name".toList) (by decide)) blank
    (word (s := "M".toList) (by decide))
  have object := Spells.object (.moreMembers kind (.lastMember name))
  have list := Spells.array (.lastElement (.element space object blank))
  exact .element (rfl : IsGap ['\t']) list (rfl : IsGap ['\n'])

theorem Document.parse_routes_moduleList :
    isStatementList moduleList.toList = true ∧
      (Document.parse "m.d.ts" moduleList).toOption =
        (Document.parse "m.d.ts" (statementsObject moduleList)).toOption ∧
      (Document.parse "m.d.ts" moduleList).toOption.isSome = true := by
  obtain ⟨chosen, -, -, -, -, agree⟩ := Document.parse_routes "m.d.ts" spells_moduleList
  refine ⟨chosen.2 rfl, (agree rfl (by decide)).1, ?_⟩
  decide +kernel

end ScalaFacade
