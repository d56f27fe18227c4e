import Mathlib.Data.List.Nodup
import ScalaFacade.Proofs.Facade.Interleaving
import ScalaFacade.Proofs.Facade.Language
import ScalaFacade.Proofs.OrderedSet
import ScalaFacade.Proofs.Scala.Heads

/-! # The object of a scope

What has no declaration of its own in Scala is written as a line of the object of its scope. The
object is filled from four lists that one pass over the scope has collected, functions are looked up
by name in one of them, and lines that are there already are left out. Here the lines are told from
the statements of the scope alone: `listedOf` are the declarations that have a line, in the order of
their lines, and the object has the line of each of them once.

Lines are compared as texts, so it has to be shown that leaving out a text never leaves out a
declaration: the head of a line says its sort and its name (`Listed.headOf_line`). Overloads with
one line are the exception that is meant, and they have one name. Backticks in names are excluded,
because a name with one of its own cannot be read back from a line.

Whether there is an object at all is decided by another function than what is in it; the two
disagree in one case only, when nothing but unknown things are exported. In that case the object is
there and empty (`hasMembers_agrees`).

There are two results, and they share the middle part:

* `memberLines_exact`, what is in the object;
* `hasMembers_agrees`, when there is one.
-/

set_option autoImplicit false

namespace ScalaFacade

open Scala

/-! ## The declarations with a line

`listedOf` is defined from the statements and not from what was collected. That the two come to the
same is shown further down; what is in the list is characterised here, for each sort. -/

/-- A declaration that a line of an object stands for. -/
inductive Listed where
  | typeAlias (declaration : TypeAliasDeclaration)
  | function (declaration : FunctionDeclaration)
  | value (declaration : VariableDeclaration)

/-- The sorts of such declarations. -/
inductive ListedSort where
  | typeAlias
  | function
  | value
deriving DecidableEq

/-- The word that a line of a sort starts with. -/
def ListedSort.word : ListedSort → String
  | .typeAlias => "type"
  | .function => "def"
  | .value => "val"

theorem ListedSort.solid_word (sort : ListedSort) : ' ' ∉ sort.word.toList := by
  cases sort <;> decide

theorem ListedSort.word_inj {sort other : ListedSort} (h : sort.word = other.word) :
    sort = other := by
  cases sort <;> cases other <;> first | rfl | exact absurd h (by decide)

namespace Listed

def sort : Listed → ListedSort
  | .typeAlias _ => .typeAlias
  | .function _ => .function
  | .value _ => .value

def name? : Listed → Option String
  | .typeAlias declaration => some declaration.name
  | .function declaration => declaration.name
  | .value declaration => some declaration.name

def line? : Listed → Option String
  | .typeAlias declaration => some declaration.line
  | .function declaration => declaration.line?
  | .value declaration => some declaration.line

end Listed

/-- The functions of a scope that have a name. -/
def functionsOf (statements : List Statement) : List FunctionDeclaration :=
  statements.filterMap Statement.namedFunction?

/-- The first function that has the name which is exported. -/
def exportedBy? (statements : List Statement) (assignment : ExportAssignment) :
    Option FunctionDeclaration :=
  assignment.expression.bind fun name =>
    (functionsOf statements).find? fun function => function.name == some name

/-- The declarations that the object of a scope has lines for, in the order of the lines: type
aliases, functions that are exported, and then the functions of a module or the variables of a
document. -/
def listedOf (kind : ScopeKind) (statements : List Statement) : List Listed :=
  (statements.filterMap Statement.typeAlias?).map .typeAlias
    ++ ((statements.filterMap Statement.exportAssignment?).filterMap (exportedBy? statements)).map
      .function
    ++ match kind with
      | .topLevel => (statements.flatMap Statement.looseVariables).map .value
      | .module => (functionsOf statements).map .function

section Members

variable {statements : List Statement}

/-- What is selected by the constructor of its statement. -/
theorem mem_filterMap_constructor {α : Type} {select : Statement → Option α} {make : α → Statement}
    (h : ∀ statement declared, select statement = some declared ↔ statement = make declared)
    {declared : α} : declared ∈ statements.filterMap select ↔ make declared ∈ statements := by
  simp [List.mem_filterMap, h]

theorem mem_typeAliases {declaration : TypeAliasDeclaration} :
    declaration ∈ statements.filterMap Statement.typeAlias?
      ↔ .typeAlias declaration ∈ statements :=
  mem_filterMap_constructor fun statement _ => by cases statement <;> simp [Statement.typeAlias?]

theorem mem_exportAssignments {assignment : ExportAssignment} :
    assignment ∈ statements.filterMap Statement.exportAssignment?
      ↔ .exportAssignment assignment ∈ statements :=
  mem_filterMap_constructor fun statement _ => by
    cases statement <;> simp [Statement.exportAssignment?]

theorem mem_functionsOf {function : FunctionDeclaration} :
    function ∈ functionsOf statements
      ↔ .function function ∈ statements ∧ function.name.isSome = true := by
  rw [functionsOf, List.mem_filterMap]
  constructor
  · rintro ⟨statement, present, found⟩
    cases statement with
    | function declaration =>
      obtain ⟨named, same⟩ := Option.ite_none_right_eq_some.1 found
      cases same
      exact ⟨present, named⟩
    | _ => cases found
  · rintro ⟨present, named⟩
    exact ⟨_, present, if_pos named⟩

theorem mem_functionsOf_of_exportedBy? {assignment : ExportAssignment}
    {function : FunctionDeclaration} (h : exportedBy? statements assignment = some function) :
    function ∈ functionsOf statements := by
  obtain ⟨name, -, found⟩ := Option.bind_eq_some_iff.1 h
  exact List.mem_of_find?_eq_some found

/-- An export assignment finds nothing if it has no name or no function of the scope has it. A class
with that name is no function. -/
theorem exportedBy?_eq_none_iff {assignment : ExportAssignment} :
    exportedBy? statements assignment = none ↔
      ∀ function name, .function function ∈ statements → assignment.expression = some name →
        function.name ≠ some name := by
  rw [exportedBy?, Option.bind_eq_none_iff]
  simp only [List.find?_eq_none, beq_iff_eq, mem_functionsOf]
  constructor
  · intro unknown function name present exported named
    exact unknown name exported function ⟨present, by simp [named]⟩ named
  · intro unknown name exported function present
    exact unknown function name present.1 exported

variable {kind : ScopeKind}

theorem typeAlias_mem_listedOf {declaration : TypeAliasDeclaration} :
    .typeAlias declaration ∈ listedOf kind statements ↔ .typeAlias declaration ∈ statements := by
  rw [← mem_typeAliases]
  cases kind <;> simp [listedOf]

/-- A function is listed for one of two reasons: it is exported, or it has a name and stands in a
module. -/
theorem function_mem_listedOf {function : FunctionDeclaration} :
    .function function ∈ listedOf kind statements ↔
      (∃ assignment, .exportAssignment assignment ∈ statements
          ∧ exportedBy? statements assignment = some function)
        ∨ kind = .module ∧ function ∈ functionsOf statements := by
  simp only [← mem_exportAssignments]
  cases kind <;> simp [listedOf]

theorem value_mem_listedOf {declaration : VariableDeclaration} :
    .value declaration ∈ listedOf kind statements ↔
      kind = .topLevel ∧ ∃ statement ∈ statements, declaration ∈ statement.looseVariables := by
  cases kind <;> simp [listedOf]

end Members

/-! ## Lines and heads

The head of a line can be read back, since something that cannot belong to the name stands behind
it. -/

/-- Type parameters are in brackets, or there are none and the name goes on with what follows
them. -/
theorem endsName_typeParametersText (parameters : List TypeParameter) :
    EndsName (typeParametersText parameters) := by
  unfold typeParametersText
  split
  · decide
  · have bracket : EndsName ("" ++ "[") := by decide +kernel
    rw [applied, String.append_assoc]
    exact bracket.append nofun

namespace Listed

/-- A line is a word, a name, and something that ends the name. -/
theorem line_spec {listed : Listed} {line : String} (h : listed.line? = some line) :
    ∃ name rest, listed.name? = some name ∧ EndsName rest
      ∧ line = listed.sort.word ++ " " ++ (Name.escape name ++ rest) := by
  cases listed with
  | typeAlias declaration =>
    cases h
    refine ⟨declaration.name, typeParametersText declaration.typeParameters
      ++ (" = " ++ declaration.type.scala), rfl, ?_, ?_⟩
    · have equals : EndsName " = " := by decide +kernel
      exact (endsName_typeParametersText _).append fun _ => equals.append nofun
    · simp only [TypeAliasDeclaration.line, String.append_assoc]
      rfl
  | function declaration =>
    obtain ⟨name, named, rfl⟩ := Option.map_eq_some_iff.1 h
    refine ⟨name, typeParametersText declaration.typeParameters
      ++ ("(" ++ (parametersText declaration.parameters ++ ("): "
        ++ (scalaTypeOr Scala.unit declaration.result ++ nativeStub)))), named, ?_, ?_⟩
    · have parenthesis : EndsName "(" := by decide +kernel
      exact (endsName_typeParametersText _).append fun _ => parenthesis.append nofun
    · simp only [signature, String.append_assoc]
      rfl
  | value declaration =>
    cases h
    refine ⟨declaration.name, ": " ++ (scalaTypeOr Scala.any declaration.type ++ nativeStub), rfl,
      ?_, ?_⟩
    · have colon : EndsName ": " := by decide +kernel
      exact colon.append nofun
    · simp only [VariableDeclaration.line, String.append_assoc]
      rfl

/-- The sort is in the first word, which is read without looking at the name, so backticks are no
obstacle here. -/
theorem sort_eq_of_line {a b : Listed} {line : String} (ha : a.line? = some line)
    (hb : b.line? = some line) : a.sort = b.sort := by
  obtain ⟨_, _, _, _, lineA⟩ := line_spec ha
  obtain ⟨_, _, _, _, lineB⟩ := line_spec hb
  apply ListedSort.word_inj
  rw [← wordOf_append a.sort.solid_word, ← lineA, lineB, wordOf_append b.sort.solid_word]

/-- The head of a line says the sort and the name of what it declares. -/
theorem headOf_line {listed : Listed} {line : String}
    (free : ∀ name ∈ listed.name?, '`' ∉ name.toList) (h : listed.line? = some line) :
    ∃ name, listed.name? = some name ∧ headOf line = (listed.sort.word, name) := by
  obtain ⟨name, rest, named, ends, rfl⟩ := line_spec h
  exact ⟨name, named, headOf_append listed.sort.solid_word (free name named) ends⟩

/-- Two declarations with the same line are of one sort and have one name. -/
theorem same_of_line {a b : Listed} {line : String}
    (freeA : ∀ name ∈ a.name?, '`' ∉ name.toList) (freeB : ∀ name ∈ b.name?, '`' ∉ name.toList)
    (ha : a.line? = some line) (hb : b.line? = some line) :
    a.sort = b.sort ∧ a.name? = b.name? := by
  obtain ⟨nameA, namedA, headA⟩ := headOf_line freeA ha
  obtain ⟨nameB, namedB, headB⟩ := headOf_line freeB hb
  have name := (Prod.mk.inj (headA.symm.trans headB)).2
  exact ⟨sort_eq_of_line ha hb, by rw [namedA, namedB, name]⟩

end Listed

/-! ## The lines of the object

The collected parts are those of `Exports.parts_ofStatements`; functions are known there by name and
line. -/

section Lines

variable (kind : ScopeKind) (statements : List Statement)

/-- Looking a line up by the name of a function finds the line of the function that is exported. -/
theorem filterMap_lineNamed? {parts : ObjectParts} (h : parts.functions =
      (functionsOf statements).map fun function => (function.name, function.line?))
    (assignments : List ExportAssignment) :
    (assignments.map ExportAssignment.expression).filterMap (fun expression =>
        expression.bind parts.lineNamed?)
      = ((assignments.filterMap (exportedBy? statements)).map Listed.function).filterMap
        Listed.line? := by
  rw [List.filterMap_map, List.filterMap_map, List.filterMap_filterMap]
  refine List.filterMap_congr fun assignment _ => ?_
  cases exported : assignment.expression with
  | none => simp [exportedBy?, exported]
  | some name =>
    simp [exportedBy?, exported, ObjectParts.lineNamed?, h, List.find?_map, Function.comp_def,
      Option.bind_map, Listed.line?]

/-- The collected lines are those of the listed declarations, before repeated ones are left out. -/
theorem lines_parts_ofStatements :
    (Exports.ofStatements kind statements).parts.lines kind
      = (listedOf kind statements).filterMap Listed.line? := by
  rw [Exports.parts_ofStatements, ObjectParts.lines.eq_def, filterMap_lineNamed? statements rfl,
    listedOf.eq_def]
  cases kind <;>
    simp [functionsOf, List.filterMap_append, List.filterMap_map, Function.comp_def, Listed.line?]

/-- The object has the lines of the listed declarations, each at its first occurrence. -/
theorem entries_memberLines :
    ((Exports.ofStatements kind statements).memberLines kind).entries
      = ((listedOf kind statements).filterMap Listed.line?).eraseDups := by
  rw [Exports.memberLines_eq, OrderedSet.entries_ofList_eq, lines_parts_ofStatements]

variable {kind statements}

theorem mem_memberLines {line : String} :
    line ∈ ((Exports.ofStatements kind statements).memberLines kind).entries
      ↔ ∃ listed ∈ listedOf kind statements, listed.line? = some line := by
  rw [entries_memberLines, List.mem_eraseDups, List.mem_filterMap]

/-- The line of a listed declaration is there once: an ordered set does not hold it twice. -/
theorem count_memberLines {listed : Listed} {line : String}
    (h : listed ∈ listedOf kind statements) (hline : listed.line? = some line) :
    ((Exports.ofStatements kind statements).memberLines kind).entries.count line = 1 := by
  refine List.count_eq_one_of_mem ?_ (mem_memberLines.2 ⟨listed, h, hline⟩)
  rw [entries_memberLines]
  exact OrderedSet.nodup_eraseDups _

theorem exists_line_of_mem_functionsOf {function : FunctionDeclaration}
    (h : function ∈ functionsOf statements) : ∃ line, function.line? = some line := by
  obtain ⟨name, named⟩ := Option.isSome_iff_exists.1 (mem_functionsOf.1 h).2
  exact ⟨_, by rw [FunctionDeclaration.line?, named, Option.map_some]⟩

/-- Whatever is listed has a line. Functions without a name would not have one and are not
listed. -/
theorem exists_line_of_listed {listed : Listed} (h : listed ∈ listedOf kind statements) :
    ∃ line, listed.line? = some line := by
  cases listed with
  | typeAlias declaration => exact ⟨_, rfl⟩
  | value declaration => exact ⟨_, rfl⟩
  | function declaration =>
    rcases function_mem_listedOf.1 h with ⟨assignment, -, exported⟩ | ⟨-, named⟩
    · exact exists_line_of_mem_functionsOf (mem_functionsOf_of_exportedBy? exported)
    · exact exists_line_of_mem_functionsOf named

/-- There are lines as soon as a declaration is listed. -/
theorem memberLines_eq_nil_iff :
    ((Exports.ofStatements kind statements).memberLines kind).entries = []
      ↔ listedOf kind statements = [] := by
  constructor
  · intro empty
    rw [List.eq_nil_iff_forall_not_mem]
    intro listed h
    obtain ⟨line, hline⟩ := exists_line_of_listed h
    have present := mem_memberLines.2 ⟨listed, h, hline⟩
    simp [empty] at present
  · intro empty
    rw [entries_memberLines, empty]
    rfl

end Lines

/-- **What is in the object of a scope.** Its lines are those of the type aliases, of the functions
that are exported, of all named functions in a module, and of the variables at top level, each at
its first occurrence. Lines that are the same text are of declarations of one sort and one name. So
every type alias, every function of a module and every variable of a document has its line exactly
once, and the line of a function of a document is there exactly if it is that of a function that is
exported.

Of all names in a scope, only those of the listed declarations must be free of backticks. -/
theorem memberLines_exact (kind : ScopeKind) (statements : List Statement)
    (free : BacktickFree ((listedOf kind statements).filterMap Listed.name?)) :
    let lines := ((Exports.ofStatements kind statements).memberLines kind).entries
    lines = ((listedOf kind statements).filterMap Listed.line?).eraseDups
    ∧ (∀ a ∈ listedOf kind statements, ∀ b ∈ listedOf kind statements, a.line? = b.line? →
        a.sort = b.sort ∧ a.name? = b.name?)
    ∧ (∀ declaration, .typeAlias declaration ∈ statements → lines.count declaration.line = 1)
    ∧ (kind = .module → ∀ function line, .function function ∈ statements →
        function.line? = some line → lines.count line = 1)
    ∧ (kind = .topLevel → ∀ statement ∈ statements, ∀ declaration ∈ statement.looseVariables,
        lines.count declaration.line = 1)
    ∧ (kind = .topLevel → ∀ function line, .function function ∈ statements →
        function.line? = some line →
          (line ∈ lines ↔ ∃ assignment first, .exportAssignment assignment ∈ statements
            ∧ exportedBy? statements assignment = some first ∧ first.line? = some line)) := by
  have names : ∀ listed ∈ listedOf kind statements, ∀ name ∈ listed.name?, '`' ∉ name.toList :=
    fun listed h name named => free name (List.mem_filterMap.2 ⟨listed, h, named⟩)
  refine ⟨entries_memberLines kind statements, ?_, ?_, ?_, ?_, ?_⟩
  · intro a ha b hb same
    obtain ⟨line, hline⟩ := exists_line_of_listed ha
    exact Listed.same_of_line (names a ha) (names b hb) hline (same ▸ hline)
  · intro declaration present
    exact count_memberLines (typeAlias_mem_listedOf.2 present) rfl
  · rintro rfl function line present hline
    have named : function.name.isSome = true := by
      obtain ⟨name, named, -⟩ := Option.map_eq_some_iff.1 hline
      simp [named]
    have listed : .function function ∈ listedOf .module statements :=
      function_mem_listedOf.2 (Or.inr ⟨rfl, mem_functionsOf.2 ⟨present, named⟩⟩)
    exact count_memberLines listed hline
  · rintro rfl statement present declaration loose
    have listed : .value declaration ∈ listedOf .topLevel statements :=
      value_mem_listedOf.2 ⟨rfl, statement, present, loose⟩
    exact count_memberLines listed rfl
  · rintro rfl function line - hline
    rw [mem_memberLines]
    constructor
    · -- Only a function has the line of a function, and in a document it is listed for an export.
      rintro ⟨listed, h, same⟩
      have sort := Listed.sort_eq_of_line (a := .function function) hline same
      cases listed with
      | typeAlias | value => cases sort
      | function first =>
        rcases function_mem_listedOf.1 h with ⟨assignment, present, exported⟩ | ⟨inside, -⟩
        · exact ⟨assignment, first, present, exported, same⟩
        · cases inside
    · rintro ⟨assignment, first, present, exported, same⟩
      have listed : .function first ∈ listedOf .topLevel statements :=
        function_mem_listedOf.2 (Or.inl ⟨assignment, present, exported⟩)
      exact ⟨_, listed, same⟩

/-- A document that exports an overloaded function twice and repeats an alias. -/
def crowded : List Statement :=
  [.exportAssignment { expression := some "run" },
    .typeAlias { name := "Id", type := .keyword .string },
    .function { name := some "run", parameters := [{ name := "wait" }] },
    .function { name := some "run" },
    .variableDecl
      { declarations := [{ name := "type" }, { name := "config", type := some (.object []) }] },
    .typeAlias { name := "Id", type := .keyword .string },
    .exportAssignment { expression := some "run" }]

theorem memberLines_exact_crowded :
    BacktickFree ((listedOf .topLevel crowded).filterMap Listed.name?)
    ∧ ((Exports.ofStatements .topLevel crowded).memberLines .topLevel).entries =
      ["type Id = String", "def run(wait: js.Any): Unit = js.native",
        "val `type`: js.Any = js.native"]
    ∧ "def run(): Unit = js.native"
      ∉ ((Exports.ofStatements .topLevel crowded).memberLines .topLevel).entries := by
  have free : BacktickFree ((listedOf .topLevel crowded).filterMap Listed.name?) := by decide
  have exact := memberLines_exact .topLevel crowded free
  have lines : ((listedOf .topLevel crowded).filterMap Listed.line?).eraseDups =
      ["type Id = String", "def run(wait: js.Any): Unit = js.native",
        "val `type`: js.Any = js.native"] := by decide +kernel
  refine ⟨free, exact.1.trans lines, ?_⟩
  rw [exact.1, lines]
  decide

/-! ## Whether there is an object

`hasMembers` asks whether lists are empty and does not look for functions that are exported.
Compared with the lines it has one case more. -/

theorem eq_nil_iff_of_map_eq {α β γ : Type} {f : α → γ} {g : β → γ} {xs : List α} {ys : List β}
    (h : xs.map f = ys.map g) : xs = [] ↔ ys = [] := by
  rw [← List.map_eq_nil_iff (f := f), h, List.map_eq_nil_iff]

/-- There is an object if something is exported, known or not, or listed. -/
theorem hasMembers_iff (kind : ScopeKind) (statements : List Statement) :
    (Exports.ofStatements kind statements).hasMembers kind = true ↔
      (∃ assignment, .exportAssignment assignment ∈ statements)
        ∨ listedOf kind statements ≠ [] := by
  have parts := Exports.parts_ofStatements kind statements
  simp only [Exports.parts, ObjectParts.mk.injEq] at parts
  obtain ⟨aliases, functions, assignments, values⟩ := parts
  have some_assignment : (∃ assignment, .exportAssignment assignment ∈ statements)
      ↔ statements.filterMap Statement.exportAssignment? ≠ [] := by
    simp only [← mem_exportAssignments]
    constructor
    · rintro ⟨assignment, present⟩
      exact List.ne_nil_of_mem present
    · exact List.exists_mem_of_ne_nil _
  -- Without an export assignment nothing is exported.
  have exported : statements.filterMap Statement.exportAssignment? = [] →
      (statements.filterMap Statement.exportAssignment?).filterMap (exportedBy? statements) = [] :=
    fun none => by rw [none, List.filterMap_nil]
  rw [some_assignment]
  cases kind with
  | topLevel =>
    rw [if_pos rfl] at values
    simp only [Exports.hasMembers, listedOf, Bool.or_eq_true, Bool.not_eq_true',
      List.isEmpty_eq_false_iff, ne_eq, eq_nil_iff_of_map_eq aliases,
      eq_nil_iff_of_map_eq assignments, eq_nil_iff_of_map_eq values, List.append_eq_nil_iff,
      List.map_eq_nil_iff]
    tauto
  | module =>
    simp only [Exports.hasMembers, listedOf, functionsOf, Bool.or_eq_true, Bool.not_eq_true',
      List.isEmpty_eq_false_iff, ne_eq, eq_nil_iff_of_map_eq aliases,
      eq_nil_iff_of_map_eq assignments, eq_nil_iff_of_map_eq functions, List.append_eq_nil_iff,
      List.map_eq_nil_iff]
    tauto

/-- Nothing is listed: there is no type alias, no variable at top level, no named function in a
module, and no export of a function that is there. -/
theorem listedOf_eq_nil_iff {kind : ScopeKind} {statements : List Statement} :
    listedOf kind statements = [] ↔
      (∀ declaration, .typeAlias declaration ∉ statements)
      ∧ (kind = .topLevel → ∀ statement ∈ statements, statement.looseVariables = [])
      ∧ (kind = .module → ∀ function, .function function ∈ statements → function.name = none)
      ∧ (∀ assignment function name, .exportAssignment assignment ∈ statements →
          .function function ∈ statements → assignment.expression = some name →
            function.name ≠ some name) := by
  constructor
  · intro empty
    have absent : ∀ listed, listed ∉ listedOf kind statements := by simp [empty]
    refine ⟨?_, ?_, ?_, ?_⟩
    · intro declaration present
      exact absent _ (typeAlias_mem_listedOf.2 present)
    · intro top statement present
      rw [List.eq_nil_iff_forall_not_mem]
      intro declaration loose
      exact absent _ (value_mem_listedOf.2 ⟨top, statement, present, loose⟩)
    · intro inside function present
      by_contra named
      have named : function.name.isSome = true := Option.isSome_iff_ne_none.2 named
      exact absent _ (function_mem_listedOf.2
        (Or.inr ⟨inside, mem_functionsOf.2 ⟨present, named⟩⟩))
    · intro assignment function name exported present hname
      have unknown : exportedBy? statements assignment = none := by
        rw [Option.eq_none_iff_forall_ne_some]
        intro first found
        exact absent _ (function_mem_listedOf.2 (Or.inl ⟨assignment, exported, found⟩))
      exact exportedBy?_eq_none_iff.1 unknown function name present hname
  · rintro ⟨aliases, values, functions, unknown⟩
    rw [List.eq_nil_iff_forall_not_mem]
    intro listed h
    cases listed with
    | typeAlias declaration => exact aliases declaration (typeAlias_mem_listedOf.1 h)
    | value declaration =>
      obtain ⟨top, statement, present, loose⟩ := value_mem_listedOf.1 h
      simp [values top statement present] at loose
    | function function =>
      rcases function_mem_listedOf.1 h with ⟨assignment, exported, found⟩ | ⟨inside, named⟩
      · have nothing : exportedBy? statements assignment = none :=
          exportedBy?_eq_none_iff.2 fun function name => unknown assignment function name exported
        simp [nothing] at found
      · obtain ⟨present, named⟩ := mem_functionsOf.1 named
        simp [functions inside function present] at named

/-- **When there is an object, and when it is empty.** A scope without an object has no lines for
it. An object without lines stands for export assignments alone, none of which names a function that
is there. -/
theorem hasMembers_agrees (kind : ScopeKind) (statements : List Statement) :
    let exports := Exports.ofStatements kind statements
    (exports.hasMembers kind = false → (exports.memberLines kind).entries = [])
    ∧ (exports.hasMembers kind = true ∧ (exports.memberLines kind).entries = [] ↔
        (∃ assignment, .exportAssignment assignment ∈ statements)
        ∧ (∀ declaration, .typeAlias declaration ∉ statements)
        ∧ (kind = .topLevel → ∀ statement ∈ statements, statement.looseVariables = [])
        ∧ (kind = .module → ∀ function, .function function ∈ statements → function.name = none)
        ∧ (∀ assignment function name, .exportAssignment assignment ∈ statements →
            .function function ∈ statements → assignment.expression = some name →
              function.name ≠ some name)) := by
  dsimp only
  rw [← Bool.not_eq_true, memberLines_eq_nil_iff, hasMembers_iff, ← listedOf_eq_nil_iff]
  constructor
  · intro nothing
    by_contra some
    exact nothing (Or.inr some)
  · constructor
    · rintro ⟨assigned | some, empty⟩
      · exact ⟨assigned, empty⟩
      · exact absurd empty some
    · rintro ⟨assigned, empty⟩
      exact ⟨Or.inl assigned, empty⟩

/-- A module that exports a class by its name and something that has no name. Its one function has
none either. -/
def exportsUnknown : List Statement :=
  [.exportAssignment { expression := some "missing" }, .function {},
    .classDecl { name := some "missing" }, .exportAssignment {}]

theorem hasMembers_agrees_exportsUnknown :
    ((Exports.ofStatements .module []).hasMembers .module = false
      ∧ ((Exports.ofStatements .module []).memberLines .module).entries = [])
    ∧ (Exports.ofStatements .module exportsUnknown).hasMembers .module = true
    ∧ ((Exports.ofStatements .module exportsUnknown).memberLines .module).entries = [] := by
  refine ⟨⟨rfl, (hasMembers_agrees .module []).1 rfl⟩, ?_⟩
  refine (hasMembers_agrees .module exportsUnknown).2.2 ⟨⟨_, List.mem_cons_self⟩, ?_, nofun, ?_, ?_⟩
  · simp [exportsUnknown]
  · simp [exportsUnknown]
  · intro assignment function name _ present _
    have unnamed : function = {} := by simpa [exportsUnknown] using present
    simp [unnamed]

end ScalaFacade
