import Mathlib.Logic.Relation
import ScalaFacade.Declaration.Parse
import ScalaFacade.Proofs.Declaration.Canonical
import ScalaFacade.Proofs.Json.Direct
import ScalaFacade.Proofs.Json.Places
import ScalaFacade.Proofs.Json.Reordering

/-! # What reading a document does not depend on

Documents come from another program, and from other versions of it. Reading them is tolerant in
three ways: the order of entries does not count, entries that nobody looks for do not count, and a
statement, member or type of an unknown kind is kept as such, whatever else it holds, and is never
the reason why a document cannot be read.

The first step takes the text away:

> a document depends on its text only through the value that the text holds
> (`Document.toOption_parse`).

The rest is about values. A change that does not count is `Document.Varied`, one step of reordering
or of adding an entry at some place of the document, and two values that are connected by such
steps, in either direction, make the same document (`Document.ofValue?_eq_of_eqvGen`). The
equivalence that the steps generate is the library's; only a single step needs an argument, and that
is in the modules about order and places.

For unknown kinds more is said than that the document can be read. `Document.Degrades` says what
stands in the tree at that place, and that everything else is as it would be with any other object
there: either the rest of the document is at fault, or the node shows at its place and nowhere else.

Nothing is said about messages. A document that cannot be read for two reasons may report either,
depending on the order of its entries.
-/

set_option autoImplicit false

namespace ScalaFacade

open Json

/-! ## The value in a text

Whether a text is a list of statements is decided by its first character, before anything is read,
and with a wider notion of blank than that of JSON. For a text that holds a value the two notions
agree on what the first character is. -/

/-- Whether a value is an array, and so a document that is written as the list of its statements. -/
def Json.Value.isArray : Value → Bool
  | .array _ => true
  | _ => false

theorem Json.Value.isArray_of_isScalar {v : Value} (h : v.isScalar = true) : v.isArray = false := by
  cases v with
  | array => cases h
  | _ => rfl

theorem isBlank_of_isSpace {c : Char} (h : isSpace c = true) : Text.isBlank c = true := by
  simp only [isSpace, Bool.or_eq_true, beq_iff_eq] at h
  obtain ((rfl | rfl) | rfl) | rfl := h <;> decide

/-- What JSON takes for white space is blank, so that trimming it first makes no difference. -/
theorem trimStart_skipSpace (s : List Char) : Text.trimStart (skipSpace s) = Text.trimStart s := by
  unfold skipSpace Text.trimStart
  induction s with
  | nil => rfl
  | cons c s ih =>
    rw [List.dropWhile_cons]
    split
    · next space => rw [ih, List.dropWhile_cons_of_pos (isBlank_of_isSpace space)]
    · rfl

/-- No digit is blank: the ranges of blank characters lie on either side of the digits. -/
theorem isBlank_of_isDigit {c : Char} (h : c.isDigit = true) : Text.isBlank c = false := by
  have range : 48 ≤ c.toNat ∧ c.toNat ≤ 57 := by
    simpa [Char.isDigit, UInt32.le_iff_toNat_le] using h
  rw [Text.isBlank, Text.inRanges, List.any_eq_false]
  intro bounds listed
  have apart : bounds.2 < 48 ∨ 57 < bounds.1 :=
    (by decide : ∀ bounds ∈ Text.blankRanges, bounds.2 < 48 ∨ 57 < bounds.1) bounds listed
  simp only [Bool.and_eq_true, decide_eq_true_eq, not_and, Nat.not_le]
  omega

theorem isBlank_of_readScalar? {c : Char} {s : List Char} {outcome : Outcome Value}
    (h : readScalar? (c :: s) = some outcome) : Text.isBlank c = false := by
  by_cases mark : c = 'n' ∨ c = 't' ∨ c = 'f' ∨ c = '"' ∨ c = '-'
  · rcases mark with rfl | rfl | rfl | rfl | rfl <;> rfl
  · simp only [not_or] at mark
    obtain ⟨digit, -⟩ : c.isDigit = true ∧ _ := by simpa [readScalar?, mark] using h
    exact isBlank_of_isDigit digit

theorem Json.Plain.valueOf?_text (p : Plain) (nesting : p.depth ≤ nestingLimit) :
    valueOf? p.text = some p.value := by
  have read := readValue_text p nesting (Nat.le_succ _) []
  rw [List.append_nil] at read
  exact valueOf?_eq_some_iff.2 ⟨[], read, rfl⟩

/-- The first character that is not blank tells whether the value in a text is an array. A text that
holds a value starts with a scalar or a bracket, and none of these characters is blank. -/
theorem isStatementList_of_valueOf? {text : List Char} {v : Value} (h : valueOf? text = some v) :
    isStatementList text = v.isArray := by
  obtain ⟨rest, read, -⟩ := valueOf?_eq_some_iff.1 h
  unfold isStatementList
  rw [← trimStart_skipSpace]
  cases reads_of_readValue read with
  | scalar found =>
    obtain ⟨flat, c, t, start, ne, -⟩ := start_of_scalar found
    rw [start] at found ⊢
    rw [Text.trimStart, List.dropWhile_cons_of_neg (by simp [isBlank_of_readScalar? found])]
    exact (beq_eq_false_iff_ne.2 ne).trans (Value.isArray_of_isScalar flat).symm
  | array opening =>
    rw [opening]
    rfl
  | object opening =>
    rw [opening]
    rfl

/-- The document that a value stands for. -/
def Document.ofValue? (file : String) (v : Value) : Option Document :=
  if v.isArray then
    ((Format.list Statement.format).accept? true v).map fun statements =>
      { fileName := file, statements }
  else (Document.format.accept? true v).map (·.namedAfter file)

/-- **A document depends only on the value that its text holds.** Both ways to write it are read
against a format, and for formats this is known. -/
theorem Document.toOption_parse (file : String) {text : String} {v : Value}
    (h : valueOf? text.toList = some v) :
    (Document.parse file text).toOption = Document.ofValue? file v := by
  unfold Document.parse Document.ofValue?
  rw [isStatementList_of_valueOf? h]
  split
  · rw [toOption_map, Format.toOption_parse _ h]
  · rw [toOption_map, Format.toOption_parse _ h]

/-! ## Places in a document

A document is written in two ways, so there are two ways from a document to a statement in it. In
the tree they lead to the same place. -/

/-- `plug` puts an object that is decoded by `hole` at a place of a document. A document is written
as the list of its statements or as an object. -/
inductive Document.Place :
    {β : Type} → (hole : Format β) → (path : List Step) → (plug : Value → Value) → Prop where
  | document : Document.Place Document.format [] id
  | listed {β : Type} {hole : Format β} {path : List Step} {plug : Value → Value}
      (before after : List Value) (inside : hole.At Statement.format path plug) :
      Document.Place hole (.field "statements" :: .item before.length :: path) fun x =>
        .array (before ++ plug x :: after)
  | inside {β : Type} {hole : Format β} {path : List Step} {plug : Value → Value}
      (before after : List (String × Value)) (inside : hole.At (.list Statement.format) path plug) :
      Document.Place hole (.field "statements" :: path) fun x =>
        .object (before ++ ("statements", plug x) :: after)

/-- `build` makes a document with a value of `hole` at a place. The name of the document may be that
of the file, which depends on the document and not on the place. -/
def Document.BuildsAt {β : Type} (file : String) (hole : Format β) (path : List Step)
    (build : β → Document) : Prop :=
  ∃ inner, hole.Builds Document.format path inner ∧ build = fun b => (inner b).namedAfter file

theorem Document.namedAfter_self (file : String) (statements : List Statement) :
    Document.namedAfter { fileName := file, statements } file =
      { fileName := file, statements } := by
  unfold Document.namedAfter
  split <;> rfl

/-- What stands at a place of a document shows at that place only, in either way of writing the
document. A bare list makes the same tree as the record with the list as its second field, so that
the path through that field is right for both. -/
theorem Document.Place.meaning {β : Type} {hole : Format β} {path : List Step}
    {plug : Value → Value} (h : Document.Place hole path plug) (file : String) :
    Depends hole (Document.BuildsAt file hole path) fun entries =>
      Document.ofValue? file (plug (.object entries)) := by
  cases h with
  | document =>
    have whole : Document.format.At Document.format [] id := .here
    exact (whole.meaning true).map (Document.namedAfter · file) fun build built =>
      ⟨build, built, rfl⟩
  | listed before after inside =>
    refine ((Format.At.element before after inside).meaning true).map _ fun build built => ?_
    exact ⟨_, .field (.there file (.here ())) built, funext fun b => (namedAfter_self file _).symm⟩
  | inside before after inside =>
    have within : hole.At Document.format _ _ :=
      .entry before after (.there (by decide) .here) inside
    exact (within.meaning true).map (Document.namedAfter · file) fun build built =>
      ⟨build, built, rfl⟩

/-! ## Variation

The changes that do not count, one at a time. -/

/-- One change that does not count: the entries of an object in another order, or one more entry
that nobody looks for in an object that stands for a part of the document. The entry may have any
value; what it holds is not looked at. -/
inductive Document.Varied : Value → Value → Prop where
  | reordered {v w : Value} (order : Reordered v w) : Document.Varied v w
  | extended {β : Type} {hole : Format β} {path : List Step} {plug : Value → Value} {key : String}
      {before after : List (String × Value)} (place : Document.Place hole path plug)
      (ignored : hole.Ignores key (before ++ after)) (v : Value) :
      Document.Varied (plug (.object (before ++ after)))
        (plug (.object (before ++ (key, v) :: after)))

/-- One change leaves the document as it is. For an added entry the meaning of the object is the
same, and the document depends on the object through that alone. -/
theorem Document.Varied.ofValue?_eq {v w : Value} (h : Document.Varied v w) (file : String) :
    Document.ofValue? file v = Document.ofValue? file w := by
  cases h with
  | reordered order =>
    have shape : v.isArray = w.isArray := by cases order <;> rfl
    rw [ofValue?, ofValue?, shape, order.accept?_eq, order.accept?_eq]
  | extended place ignored v =>
    obtain failed | ⟨direct, build, -, same⟩ := place.meaning file
    · exact (failed _).trans (failed _).symm
    · refine (same _).trans (.trans ?_ (same _).symm)
      rw [ignored.accept?_insert]

/-- Values that differ only by changes that do not count make the same document. -/
theorem Document.ofValue?_eq_of_eqvGen {v w : Value} (h : Relation.EqvGen Document.Varied v w)
    (file : String) : Document.ofValue? file v = Document.ofValue? file w := by
  induction h with
  | rel v w h => exact h.ofValue?_eq file
  | refl v => rfl
  | symm v w _ ih => exact ih.symm
  | trans u v w _ _ ih ih' => exact ih.trans ih'

/-! ## Unknown kinds

A node whose kind is not in the list. Its other entries are never looked at, so they may be
anything. -/

/-- The entries of an object give one kind, by its name. -/
def Tagged (entries : List (String × Value)) (kind : String) : Prop :=
  valuesOf tagName entries = [.string kind]

/-- A node of an unknown kind stands for `other` where it stands, and does not make the reading of a
document fail: an object at a place of a document either shows there as what it is decoded to, or
the document cannot be read for another reason, whichever object stands there. -/
structure Document.Degrades {β : Type} (file : String) (hole : Format β) (known : List String)
    (other : β) : Prop where
  stands {entries : List (String × Value)} {kind : String} (tagged : Tagged entries kind)
    (unknown : kind ∉ known) : hole.decode (.object entries) = .ok other
  shows {path : List Step} {plug : Value → Value} (place : Document.Place hole path plug) :
    (∀ text entries, valueOf? text.toList = some (plug (.object entries)) →
        (Document.parse file text).toOption = none) ∨
      ∃ build, Document.BuildsAt file hole path build ∧
        ∀ text entries kind, valueOf? text.toList = some (plug (.object entries)) →
          Tagged entries kind →
          (Document.parse file text).toOption = (hole.decode (.object entries)).toOption.map build

/-- A node format degrades at its unknown kinds, whatever its variants are. Statements, members and
types are three instances. -/
theorem Document.degrades_node {β : Type} (file name : String) (variants : Variants β) (other : β) :
    Document.Degrades file (.node name variants other) variants.kinds other where
  stands tagged unknown := by
    rw [← toOption_eq_some_iff, Format.toOption_decode]
    exact Format.accept?_unknown unknown name other tagged false
  shows place := by
    refine (place.meaning file).imp ?_ ?_
    · intro failed text entries read
      exact (toOption_parse file read).trans (failed entries)
    · rintro ⟨direct, build, built, same⟩
      refine ⟨build, built, fun text entries kind read tagged => ?_⟩
      rw [toOption_parse file read, Format.toOption_decode,
        ← Format.accept?_direct name variants other tagged direct]
      exact same entries

/-! ## A variable in several spellings

A document of one variable, written in two ways, and one with a type of an unknown kind.
-/

def variableOfType (type : List (String × Plain)) : Plain :=
  .array [.node "VariableStatement"
    [("declarations", .array [.object [("name", .string "v"), ("type", .object type)]])]]

def variableKindLast (type : List (String × Plain)) : Plain :=
  .array [.object
    [("declarations", .array [.object [("name", .string "v"), ("type", .object type)]]),
      (tagName, .string "VariableStatement")]]

def keywordType : List (String × Plain) :=
  [(tagName, .string "KeywordType"), ("keyword", .string "string")]

def positionedType : List (String × Plain) :=
  [("keyword", .string "string"), ("range", .array [.boolean true]),
    (tagName, .string "KeywordType")]

def mappedType : List (String × Plain) :=
  [("members", .boolean false), (tagName, .string "MappedType"), ("keyword", .array [])]

/-- The place of the type of the first variable, through five steps. The node around the variables
is passed by its kind, which stands in front. -/
theorem variableOfType_place :
    Document.Place TypeNode.format
      [.field "statements", .item 0, .field "declarations", .item 0, .field "type"] fun type =>
        .array [.object [(tagName, .string "VariableStatement"),
          ("declarations", .array [.object [("name", .string "v"), ("type", type)]])]] := by
  refine .listed [] [] (.content rfl (fun _ => rfl) (.convert ?_))
  refine .entry [] [] .here (.element [] [] ?_)
  exact .entry [("name", .string "v")] [] (.there (by decide) .here) (.option .here)

/-- From one spelling to the other in three steps: one entry is added to the type, then its entries
are reordered, then those of the statement. -/
theorem variableKindLast_varied :
    Relation.EqvGen Document.Varied (variableOfType keywordType).value
      (variableKindLast positionedType).value := by
  let range : String × Plain := ("range", .array [.boolean true])
  have ignored : TypeNode.format.Ignores "range" (Plain.entryValues keywordType ++ []) :=
    .known (by decide) rfl rfl (.record (by decide))
  have extended : Document.Varied (variableOfType keywordType).value
      (variableOfType (keywordType ++ [range])).value :=
    .extended variableOfType_place ignored range.2.value
  have inside : Reordered (variableOfType (keywordType ++ [range])).value
      (variableOfType positionedType).value := by
    refine .element [] [] (.entry [(tagName, .string "VariableStatement")] [] "declarations" ?_)
    refine .element [] [] (.entry [("name", .string "v")] [] "type" (.here ?_))
    exact (List.Perm.swap _ _ _).trans (.cons _ (.swap _ _ _))
  have outside : Reordered (variableOfType positionedType).value
      (variableKindLast positionedType).value := .element [] [] (.here (.swap _ _ _))
  exact .trans _ _ _ (.rel _ _ extended)
    (.trans _ _ _ (.rel _ _ (.reordered inside)) (.rel _ _ (.reordered outside)))

/-! ## Tolerance -/

/-- **Reading a document is tolerant.** Texts that differ in the order of entries and in entries
that nobody looks for make the same document or none, and statements, members and types of unknown
kinds are kept as such. -/
theorem Document.parse_tolerant (file : String) :
    (∀ (text text' : String) (v w : Value), valueOf? text.toList = some v →
      valueOf? text'.toList = some w → Relation.EqvGen Document.Varied v w →
      (Document.parse file text).toOption = (Document.parse file text').toOption) ∧
    (∀ inner, Document.Degrades file (Statement.layer inner) Statement.kinds .other) ∧
    (∀ inner, Document.Degrades file (Member.formatOver inner) Member.kinds .other) ∧
    ∀ inner, Document.Degrades file (TypeNode.layer inner) TypeNode.kinds .other := by
  refine ⟨?_, fun inner => ?_, fun inner => ?_, fun inner => ?_⟩
  · intro text text' v w read read' varied
    rw [toOption_parse file read, toOption_parse file read', ofValue?_eq_of_eqvGen varied]
  · exact degrades_node file _ _ _
  · exact degrades_node file _ _ _
  · exact degrades_node file _ _ _

theorem Document.parse_tolerant_variable :
    Relation.EqvGen Document.Varied (variableOfType keywordType).value
        (variableKindLast positionedType).value ∧
      (Document.parse "a.d.ts" (.ofList (variableOfType keywordType).text)).toOption =
        (Document.parse "a.d.ts" (.ofList (variableKindLast positionedType).text)).toOption ∧
      (Document.parse "a.d.ts" (.ofList (variableOfType mappedType).text)).toOption.isSome := by
  obtain ⟨same, -, -, types⟩ := Document.parse_tolerant "a.d.ts"
  have read (p : Plain) (nesting : p.depth ≤ nestingLimit) :
      valueOf? (String.ofList p.text).toList = some p.value := by
    rw [String.toList_ofList]
    exact p.valueOf?_text nesting
  have plain := read (variableOfType keywordType) (by decide)
  have varied := read (variableKindLast positionedType) (by decide)
  have mapped := read (variableOfType mappedType) (by decide)
  refine ⟨variableKindLast_varied, same _ _ _ _ plain varied variableKindLast_varied, ?_⟩
  have types := types (TypeNode.formatOfDepth nestingLimit)
  have tagged : Tagged (Plain.entryValues mappedType) "MappedType" := rfl
  obtain failed | ⟨build, -, built⟩ := types.shows variableOfType_place
  · have parsed : (Document.parse "a.d.ts"
        (.ofList (variableOfType keywordType).text)).toOption.isSome = true := by decide +kernel
    rw [failed _ _ plain] at parsed
    cases parsed
  · rw [built _ _ _ mapped tagged, types.stands tagged (by decide)]
    rfl

end ScalaFacade
