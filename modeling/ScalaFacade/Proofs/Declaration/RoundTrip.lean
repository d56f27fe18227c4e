import ScalaFacade.Declaration.Parse
import ScalaFacade.Proofs.Declaration.Canonical
import ScalaFacade.Proofs.Json.Undoing

/-! # Reading canonical texts back

Parsing undoes canonical printing: a named document that is not nested too deeply is read back from
its canonical text, whatever the file is called and whichever words stand for what is not known
(`Document.parse_canonicalText`).

The fact is put together in the order of the formats: words, records, members and types,
declarations, statements, the document. For each type there is one lemma that says that its format
undoes its printer, and its proof is a term that mirrors the format: a list of fields, each given by
the lemma of its own format, then the way from a value to its fields. A field that is added to the
format and to the printer is added to that term; nothing else changes.

## Layers

The formats of types and statements are built in layers, one for each level of nesting, so the
induction is on the number of layers: what a layer leaves to the one below it is printed with at
least one level less. Types and statements have layers of their own. Types do not hold statements,
so theirs come first; a statement holds types at any depth up to the limit, which is why the lemmas
about declarations carry a bound on the depth and not a layer.

## What is asked

That the document has a name is a hypothesis, because a document without one is given that of its
file. That it is not nested too deeply is one because the reader gives up there; the
limit counts arrays and objects of the text, of which one level of the tree may take several.
-/

set_option autoImplicit false

namespace ScalaFacade

open Json

/-! ## Words and modifiers

The leaves. A word that is not known is read as such, whichever it is; the hypothesis that it is not
known is part of the type of words. -/

/-- The word of a keyword leads back to it. Only the word for what is not known needs an argument:
it has to differ from all that are. -/
theorem Keyword.ofWord_word (words : UnknownWords) (keyword : Keyword) :
    Keyword.ofWord (keyword.word words) = keyword := by
  cases keyword with
  | other =>
    have unknown := words.keyword_unknown
    simp only [Keyword.words, List.mem_cons, not_or] at unknown
    simp [Keyword.word, Keyword.ofWord, unknown]
  | _ => rfl

theorem LiteralKind.ofWord_word (words : UnknownWords) (kind : LiteralKind) :
    LiteralKind.ofWord (kind.word words) = kind := by
  cases kind with
  | other =>
    have unknown := words.literal_unknown
    simp only [LiteralKind.words, List.mem_cons, not_or] at unknown
    simp [LiteralKind.word, LiteralKind.ofWord, unknown]
  | _ => rfl

theorem TypeOperator.ofWord_word (words : UnknownWords) (operator : TypeOperator) :
    TypeOperator.ofWord (operator.word words) = operator := by
  cases operator with
  | other =>
    have unknown := words.operator_unknown
    simp only [TypeOperator.words, List.mem_cons, not_or] at unknown
    simp [TypeOperator.word, TypeOperator.ofWord, unknown]
  | _ => rfl

theorem Modifier.ofKeyword?_keyword (m : Modifier) : Modifier.ofKeyword? m.keyword = some m := by
  cases m <;> rfl

namespace Modifiers

theorem contains_single (m k : Modifier) : (single m).contains k = decide (m = k) := by
  cases m <;> cases k <;> rfl

theorem contains_union (a b : Modifiers) (m : Modifier) :
    (a.union b).contains m = (a.contains m || b.contains m) := by
  simp [contains, union]

/-- A set has no bits besides those of its members, so that two sets with the same members are
equal. Sets are bit vectors; without this a set could hold a bit that no keyword stands for, and
would not be read back. -/
theorem eq_of_contains {a b : Modifiers} (h : ∀ m, a.contains m = b.contains m) : a = b := by
  have distinct : Modifier.all.Nodup := by decide
  have bits : a.bits = b.bits := by
    apply BitVec.eq_of_getLsbD_eq
    intro i hi
    have place : Modifier.all.idxOf (Modifier.all.get ⟨i, hi⟩) = i := distinct.idxOf_getElem i hi
    simpa only [contains, place] using h (Modifier.all.get ⟨i, hi⟩)
  cases a
  cases b
  exact congrArg _ bits

/-- A set that is made from a list has the members of the list. The list may have repetitions, as
the list of keywords in a text may. -/
theorem contains_ofList (modifiers : List Modifier) (k : Modifier) :
    (ofList modifiers).contains k = modifiers.contains k := by
  have loop (set : Modifiers) :
      (modifiers.foldl (fun set m => set.union (single m)) set).contains k =
        (set.contains k || modifiers.contains k) := by
    induction modifiers generalizing set with
    | nil => simp
    | cons m modifiers ih =>
      rw [List.foldl_cons, ih, contains_union, contains_single, Bool.or_assoc]
      simp [eq_comm]
  rw [ofList, loop]
  simp [contains, none]

theorem ofList_toList (set : Modifiers) : ofList set.toList = set := by
  apply eq_of_contains
  intro m
  have listed : m ∈ Modifier.all := by cases m <;> decide
  rw [contains_ofList, toList]
  simp [listed]

/-- Modifiers are written as the list of their keywords and read as the set of those that are
known. -/
theorem format_undoes (n : Nat) : Modifiers.format.Undoes Modifiers.canonical n := by
  intro set _
  have decoded : (Format.list (.word Modifier.ofKeyword?)).decode
      (Plain.array (set.toList.map fun m => .string m.keyword)).value = .ok (set.toList.map some) :=
    Format.decode_list fun m _ => congrArg Except.ok m.ofKeyword?_keyword
  rw [Modifiers.format, Modifiers.canonical, Format.decode, decoded]
  simp [Except.map, ofList_toList]

end Modifiers

/-! ## Types and members

`type` is the format of the layer below, and each lemma passes on that it undoes printing. None of
them knows how many layers there are. -/

variable {words : UnknownWords} {type : Format TypeNode} {n : Nat}

/-- A record in the form that all others have: the fields with the reasons why each is undone, the
check that their names differ, and the fields of a value. What remains is that the printer writes
these fields, which holds by computation up to the shape of optional entries. -/
theorem TypeParameter.format_undoes (h : type.Undoes (TypeNode.canonical words) n) :
    (TypeParameter.format type).UndoesEntries (TypeParameter.entries words) n :=
  Fields.Undoes.record (.always .string (.option h (.option h .done))) rfl
    (fun p => (p.name, p.constraint, p.default, ()))
    fun p => by cases p; simp [TypeParameter.entries, canonicalType?_eq_optional]

theorem Parameter.format_undoes (h : type.Undoes (TypeNode.canonical words) n) :
    (Parameter.format type).UndoesEntries (Parameter.entries words) n :=
  Fields.Undoes.record (.always .string (.option h (.always .boolean (.always .boolean .done)))) rfl
    (fun p => (p.name, p.type, p.optional, p.rest, ()))
    fun p => by cases p; simp [Parameter.entries, canonicalType?_eq_optional]

theorem typeParameters_undoes (h : type.Undoes (TypeNode.canonical words) n) :
    (Format.list (TypeParameter.format type)).Undoes
      (fun parameters => .array (canonicalTypeParameters words parameters)) n := by
  simp only [canonicalTypeParameters_eq_map]
  exact (TypeParameter.format_undoes h).object.list

theorem parameters_undoes (h : type.Undoes (TypeNode.canonical words) n) :
    (Format.list (Parameter.format type)).Undoes
      (fun parameters => .array (canonicalParameters words parameters)) n := by
  simp only [canonicalParameters_eq_map]
  exact (Parameter.format_undoes h).object.list

theorem Property.format_undoes (h : type.Undoes (TypeNode.canonical words) n) :
    (Property.format type).UndoesEntries (Property.entries words) n :=
  Fields.Undoes.record
    (.always .string (.option h (.always .boolean (.always (Modifiers.format_undoes n) .done)))) rfl
    (fun p => (p.name, p.type, p.optional, p.modifiers, ()))
    fun p => by cases p; simp [Property.entries, canonicalType?_eq_optional]

theorem Method.format_undoes (h : type.Undoes (TypeNode.canonical words) n) :
    (Method.format type).UndoesEntries (Method.entries words) n :=
  Fields.Undoes.record
    (.always .string (.always (typeParameters_undoes h) (.always (parameters_undoes h)
      (.option h (.always .boolean (.always (Modifiers.format_undoes n) .done)))))) rfl
    (fun m => (m.name, m.typeParameters, m.parameters, m.result, m.optional, m.modifiers, ()))
    fun m => by cases m; simp [Method.entries, canonicalType?_eq_optional]

theorem IndexSignature.format_undoes (h : type.Undoes (TypeNode.canonical words) n) :
    (IndexSignature.format type).UndoesEntries (IndexSignature.entries words) n :=
  Fields.Undoes.record
    (.always (parameters_undoes h) (.option h (.always (Modifiers.format_undoes n) .done))) rfl
    (fun s => (s.parameters, s.type, s.modifiers, ()))
    fun s => by cases s; simp [IndexSignature.entries, canonicalType?_eq_optional]

/-- A member is a node whose kind selects a record. An unknown kind has no content to be undone. -/
theorem Member.formatOver_undoes (h : type.Undoes (TypeNode.canonical words) n) :
    (Member.formatOver type).Undoes (Member.canonical words) n := by
  intro member nesting
  have below := Nat.le_succ_of_le nesting
  apply Format.DecodesNode.decode
  cases member with
  | property property => exact .convert rfl (Property.format_undoes h) property below
  | method method => exact .convert rfl (Method.format_undoes h) method below
  | index signature => exact .convert rfl (IndexSignature.format_undoes h) signature below
  | other => exact .unknown words.member_unknown

theorem types_undoes (h : type.Undoes (TypeNode.canonical words) n) :
    (Format.list type).Undoes (fun types => .array (canonicalTypes words types)) n := by
  simp only [canonicalTypes_eq_map]
  exact h.list

theorem members_undoes (h : type.Undoes (TypeNode.canonical words) n) :
    (Format.list (Member.formatOver type)).Undoes
      (fun members => .array (canonicalMembers words members)) n := by
  simp only [canonicalMembers_eq_map]
  exact (Member.formatOver_undoes h).list

/-- **One layer of types**, over a format that undoes the types of one level less. Each kind of type
is a record over the layer below; `nesting` bounds the types inside it by one level less than the
node itself. -/
theorem TypeNode.layer_decodes (h : type.Undoes (TypeNode.canonical words) n) (t : TypeNode)
    (nesting : (t.canonical words).depth ≤ n + 1) :
    (TypeNode.layer type).DecodesNode (t.canonical words) t := by
  cases t with
  | keyword keyword =>
    exact .record rfl (.always (.word (Keyword.ofWord_word words)) .done) rfl (keyword, ())
      ⟨rfl, rfl⟩ nesting
  | reference name arguments =>
    exact .record rfl (.always .string (.always (types_undoes h) .done)) rfl (name, arguments, ())
      ⟨rfl, rfl⟩ nesting
  | literal literal =>
    exact .record rfl (.always (.word (LiteralKind.ofWord_word words)) (.always .string .done)) rfl
      (literal.kind, literal.text, ()) ⟨rfl, rfl⟩ nesting
  | array element => exact .record rfl (.always h .done) rfl (element, ()) ⟨rfl, rfl⟩ nesting
  | union members =>
    exact .record rfl (.always (types_undoes h) .done) rfl (members, ()) ⟨rfl, rfl⟩ nesting
  | intersection members =>
    exact .record rfl (.always (types_undoes h) .done) rfl (members, ()) ⟨rfl, rfl⟩ nesting
  | function typeParameters parameters result =>
    exact .record rfl
      (.always (typeParameters_undoes h) (.always (parameters_undoes h) (.option h .done))) rfl
      (typeParameters, parameters, result, ())
      ⟨by simp [canonicalType?_eq_optional], rfl⟩ nesting
  | operator operator operand =>
    exact .record rfl (.always (.word (TypeOperator.ofWord_word words)) (.always h .done)) rfl
      (operator, operand, ()) ⟨rfl, rfl⟩ nesting
  | parenthesized inner => exact .record rfl (.always h .done) rfl (inner, ()) ⟨rfl, rfl⟩ nesting
  | object members =>
    exact .record rfl (.always (members_undoes h) .done) rfl (members, ()) ⟨rfl, rfl⟩ nesting
  | other => exact .unknown words.type_unknown

/-- As many layers as there are levels undo the printing of types. Without a layer there is nothing
to undo: every type is an object and has at least one level. -/
theorem TypeNode.formatOfDepth_undoes (depth : Nat) :
    (TypeNode.formatOfDepth depth).Undoes (TypeNode.canonical words) depth := by
  induction depth with
  -- No type is printed without a level of nesting.
  | zero =>
    intro t nesting
    cases t <;> simp [TypeNode.canonical, Plain.node, Plain.depth] at nesting
  | succ depth ih => exact fun t nesting => (TypeNode.layer_decodes ih t nesting).decode

theorem TypeNode.format_undoes (le : n ≤ nestingLimit + 1) :
    TypeNode.format.Undoes (TypeNode.canonical words) n :=
  fun t nesting => TypeNode.formatOfDepth_undoes _ t (Nat.le_trans nesting le)

/-! ## Declarations and statements

The same for what holds types. The bound on the depth says that the layers of types suffice. -/

/-- The fields of a class; its types may be as deep as the layers of types allow, which is one more
than the limit of the reader. -/
theorem ClassDeclaration.format_undoes (le : n ≤ nestingLimit + 1) :
    ClassDeclaration.format.UndoesEntries (ClassDeclaration.entries words) n :=
  have types := TypeNode.format_undoes le
  Fields.Undoes.record
    (.option .string (.always (typeParameters_undoes types) (.always (members_undoes types)
      (.always (Modifiers.format_undoes n) .done)))) rfl
    (fun d => (d.name, d.typeParameters, d.members, d.modifiers, ())) fun _ => ⟨rfl, rfl⟩

theorem InterfaceDeclaration.format_undoes (le : n ≤ nestingLimit + 1) :
    InterfaceDeclaration.format.UndoesEntries (InterfaceDeclaration.entries words) n :=
  have types := TypeNode.format_undoes le
  Fields.Undoes.record
    (.always .string (.always (typeParameters_undoes types) (.always (members_undoes types)
      (.always (Modifiers.format_undoes n) .done)))) rfl
    (fun d => (d.name, d.typeParameters, d.members, d.modifiers, ())) fun _ => ⟨rfl, rfl⟩

theorem EnumDeclaration.format_undoes (n : Nat) :
    EnumDeclaration.format.UndoesEntries EnumDeclaration.entries n :=
  Fields.Undoes.record
    (.always .string
      (.always (Fields.Undoes.record (.always .string .done) rfl (fun name => (name, ()))
          fun _ => ⟨rfl, rfl⟩).object.list
        (.always (Modifiers.format_undoes n) .done))) rfl
    (fun d => (d.name, d.members, d.modifiers, ())) fun _ => ⟨rfl, rfl⟩

theorem TypeAliasDeclaration.format_undoes (le : n ≤ nestingLimit + 1) :
    TypeAliasDeclaration.format.UndoesEntries (TypeAliasDeclaration.entries words) n :=
  have types := TypeNode.format_undoes le
  Fields.Undoes.record
    (.always .string (.always (typeParameters_undoes types) (.always types
      (.always (Modifiers.format_undoes n) .done)))) rfl
    (fun d => (d.name, d.typeParameters, d.type, d.modifiers, ())) fun _ => ⟨rfl, rfl⟩

theorem VariableDeclaration.format_undoes (le : n ≤ nestingLimit + 1) :
    VariableDeclaration.format.UndoesEntries (VariableDeclaration.entries words) n :=
  have types : TypeNode.format.Undoes (TypeNode.canonical words) n := TypeNode.format_undoes le
  Fields.Undoes.record (.always .string (.option types .done)) rfl
    (fun d => (d.name, d.type, ())) fun d => ⟨by simp [VariableDeclaration.entries], rfl⟩

theorem VariableStatement.format_undoes (le : n ≤ nestingLimit + 1) :
    VariableStatement.format.UndoesEntries (VariableStatement.entries words) n :=
  Fields.Undoes.record
    (.always (VariableDeclaration.format_undoes le).object.list
      (.always (Modifiers.format_undoes n) .done)) rfl
    (fun s => (s.declarations, s.modifiers, ())) fun _ => ⟨rfl, rfl⟩

theorem FunctionDeclaration.format_undoes (le : n ≤ nestingLimit + 1) :
    FunctionDeclaration.format.UndoesEntries (FunctionDeclaration.entries words) n :=
  have types := TypeNode.format_undoes le
  Fields.Undoes.record
    (.option .string (.always (typeParameters_undoes types) (.always (parameters_undoes types)
      (.option types (.always (Modifiers.format_undoes n) .done))))) rfl
    (fun d => (d.name, d.typeParameters, d.parameters, d.result, d.modifiers, ()))
    fun _ => ⟨rfl, rfl⟩

theorem ExportAssignment.format_undoes (n : Nat) :
    ExportAssignment.format.UndoesEntries ExportAssignment.entries n :=
  Fields.Undoes.record (.option .string (.always .boolean .done)) rfl
    (fun a => (a.expression, a.isExportEquals, ())) fun _ => ⟨rfl, rfl⟩

/-- **One layer of statements**, over a format that undoes the statements of one level less. Only
modules hold statements; all other kinds are decoded as they stand. -/
theorem Statement.layer_decodes {format : Format Statement} (le : n ≤ nestingLimit + 1)
    (h : format.Undoes (Statement.canonical words) n) (statement : Statement)
    (nesting : (statement.canonical words).depth ≤ n + 1) :
    (Statement.layer format).DecodesNode (statement.canonical words) statement := by
  cases statement with
  | module name body modifiers =>
    exact .record rfl
      (.always .string (.option h.list (.always (Modifiers.format_undoes n) .done))) rfl
      (name, body, modifiers, ()) ⟨by rw [canonicalBody?_eq_optional], rfl⟩ nesting
  | classDecl declaration =>
    exact .convert rfl (ClassDeclaration.format_undoes le) declaration nesting
  | interfaceDecl declaration =>
    exact .convert rfl (InterfaceDeclaration.format_undoes le) declaration nesting
  | enumDecl declaration =>
    exact .convert rfl (EnumDeclaration.format_undoes n) declaration nesting
  | typeAlias declaration =>
    exact .convert rfl (TypeAliasDeclaration.format_undoes le) declaration nesting
  | variableDecl statement =>
    exact .convert rfl (VariableStatement.format_undoes le) statement nesting
  | function declaration =>
    exact .convert rfl (FunctionDeclaration.format_undoes le) declaration nesting
  | exportAssignment assignment =>
    exact .convert rfl (ExportAssignment.format_undoes n) assignment nesting
  | importDeclaration => exact .bare rfl
  | exportDeclaration => exact .bare rfl
  | other => exact .unknown words.statement_unknown

theorem Statement.formatOfDepth_undoes {depth : Nat} (le : depth ≤ nestingLimit + 1) :
    (Statement.formatOfDepth depth).Undoes (Statement.canonical words) depth := by
  induction depth with
  | zero =>
    intro statement nesting
    cases statement <;> simp [Statement.canonical, Plain.node, Plain.depth] at nesting
  | succ depth ih =>
    have below := Nat.le_of_succ_le le
    exact fun statement nesting => (Statement.layer_decodes below (ih below) statement nesting).decode

theorem Statement.format_decodes (statement : Statement)
    (nesting : (statement.canonical words).depth ≤ nestingLimit + 1) :
    Statement.format.DecodesNode (statement.canonical words) statement :=
  Statement.layer_decodes (Nat.le_succ _) (Statement.formatOfDepth_undoes (Nat.le_succ _)) statement
    nesting

/-! ## Documents

The outermost record, its list of statements and the statements themselves are read directly from
the text; below a statement everything is decoded. -/

/-- The statements are read from the text of their array. Depth and room for the array are depth and
room for each statement in it. -/
theorem statements_read {statements : List Statement} {bound depth : Nat}
    (nesting : (Plain.array (statements.map (Statement.canonical words))).depth ≤ depth + 1)
    (le : depth ≤ nestingLimit + 1)
    (room : (Plain.array (statements.map (Statement.canonical words))).text.length ≤ bound)
    (rest : List Char) :
    (Format.list Statement.format).read bound (depth + 1)
        ((Plain.array (statements.map (Statement.canonical words))).text ++ rest) =
      .ok (statements, rest) := by
  obtain ⟨count, inside⟩ := Plain.room_array room
  have below := Plain.depth_array_le_iff.1 nesting
  rw [List.length_map] at count
  refine Format.read_list (fun statement hm rest => ?_) count rest
  have printed : statement.canonical words ∈ statements.map (Statement.canonical words) :=
    List.mem_map_of_mem hm
  have shallow := below _ printed
  exact (Statement.format_decodes statement (Nat.le_trans shallow le)).read shallow
    (inside _ printed) rest

/-- A document is read from its canonical text, whatever follows. The two entries are two rounds of
the loop, each filling one slot, and a third round finds the bracket. -/
theorem Document.format_read (document : Document) {bound depth : Nat}
    (nesting : (document.canonical words).depth ≤ depth) (le : depth ≤ nestingLimit)
    (room : (document.canonical words).text.length ≤ bound) (rest : List Char) :
    Document.format.read bound depth ((document.canonical words).text ++ rest) =
      .ok (document, rest) := by
  -- The object and the array of statements take two levels.
  obtain ⟨depth, rfl⟩ : ∃ d, depth = d + 2 := ⟨depth - 2, by
    simp only [canonical, Plain.depth, Plain.entriesDepth] at nesting
    omega⟩
  obtain ⟨count, inside⟩ := Plain.room_object room
  obtain ⟨bound, rfl⟩ : ∃ b, bound = b + 3 := ⟨bound - 3, by
    simp only [List.length_cons, List.length_nil] at count
    omega⟩
  have below := Plain.depth_object_le_iff.1 nesting
  simp only [List.forall_mem_cons] at below inside
  have statements := statements_read below.2.1 (by omega) inside.2.1
  refine Format.read_record (some document.fileName, some document.statements, ()) ?_ rfl
  simp only [Plain.entriesText, List.append_assoc, List.cons_append]
  rw [readEntries_round (Fields.readEntry_here (Format.read_string _ _ _ _) _),
    readEntries_round
      (Fields.readEntry_there (by decide) (Fields.readEntry_here (statements _) _) _)]
  exact readEntries_end ..

theorem Document.format_parse (document : Document)
    (nesting : (document.canonical words).depth ≤ nestingLimit) :
    Document.format.parse (document.canonicalText words) = .ok document := by
  have read := document.format_read nesting (Nat.le_refl _) (Nat.le_succ _) []
  rw [List.append_nil] at read
  rw [Format.parse, canonicalText, String.toList_ofList, Format.readAll, read]
  rfl

/-- A canonical text starts with a brace, so it is not taken for a list of statements. -/
theorem Document.isStatementList_canonical (document : Document) :
    isStatementList (document.canonical words).text = false := rfl

/-- **Parsing undoes canonical printing.** A named document whose canonical text is not nested too
deeply is read back from that text, whatever the file is called and whichever words stand for what
is not known. -/
theorem Document.parse_canonicalText (words : UnknownWords) (document : Document) (file : String)
    (named : document.fileName ≠ "") (nesting : (document.canonical words).depth ≤ nestingLimit) :
    Document.parse file (document.canonicalText words) = .ok document := by
  have list : isStatementList (document.canonicalText words).toList = false := by
    rw [canonicalText, String.toList_ofList, isStatementList_canonical]
  rw [Document.parse, list, document.format_parse nesting]
  simp [Except.map, namedAfter, named]

/-- A document with every way of leaving something out, and with characters that are escaped. -/
def partialDocument : Document where
  fileName := "a\"\\\n\u0001é.d.ts"
  statements :=
    [.module "m" none (.ofList [.ambient, .exported]),
      .module "n" (some [.other, .variableDecl { declarations := [{ name := "v" }] }]) .none,
      .classDecl
        { members :=
            [.property { name := "p", type := some (.union [.other, .keyword .other]) },
              .method { name := "q", parameters := [{ name := "x", rest := true }] }, .other] },
      .exportAssignment {}]

theorem Document.parse_canonicalText_partialDocument :
    partialDocument.fileName ≠ "" ∧
      (partialDocument.canonical laterWords).depth ≤ nestingLimit ∧
      Document.parse "b.json" (partialDocument.canonicalText laterWords) = .ok partialDocument :=
  have named : partialDocument.fileName ≠ "" := by decide
  have nesting : (partialDocument.canonical laterWords).depth ≤ nestingLimit := by decide
  ⟨named, nesting, Document.parse_canonicalText laterWords partialDocument "b.json" named nesting⟩

end ScalaFacade
