import ScalaFacade.Proofs.Facade.Pieces

/-! # The order of declarations

A scope is gone through once, and emitting and collecting happen in the same pass. Still the text
does not depend on how declarations of different sorts follow each other: it depends on five
sequences, each taken out of the scope on its own (`Rearranged`). Within a sequence order matters,
across sequences it does not; neither does it matter which variables share a statement, or what
statements without a counterpart stand in between.

The five sequences are the declarations with blocks, the type aliases, the functions that have a
name, the export assignments and, at top level, the variables without an object type. In a module
such variables are written nowhere, so there they may differ.

The relation goes into modules: two scopes are also rearranged if the bodies of their modules are.
It is therefore defined together with the comparison of declarations with blocks, and the proof that
the texts agree is a mutual recursion over the two.

Two facts are used. The text is made from pieces and parts (`scopeDirectives_congr`), and the parts
are read off the sequences (`Exports.parts_ofStatements`). Nothing is shown about swapping
neighbours: the sequences say at once what any number of swaps would.
-/

set_option autoImplicit false

namespace ScalaFacade

open Layout

/-! ## The sequences of a scope

The first sequence, that of declarations with blocks, is `producersOf`. -/

def Statement.typeAlias? : Statement → Option TypeAliasDeclaration
  | .typeAlias declaration => some declaration
  | _ => none

/-- The function that a statement declares, if it has a name. -/
def Statement.namedFunction? : Statement → Option FunctionDeclaration
  | .function declaration => if declaration.name.isSome then some declaration else none
  | _ => none

def Statement.exportAssignment? : Statement → Option ExportAssignment
  | .exportAssignment assignment => some assignment
  | _ => none

/-- The variables of a statement that are not annotated with an object type. -/
def Statement.looseVariables : Statement → List VariableDeclaration
  | .variableDecl statement => statement.declarations.filter (·.objectMembers?.isNone)
  | _ => []

mutual

/-- Two lists of statements that agree on each sequence of a scope of the given kind. Loose
variables count at top level only. -/
inductive Rearranged : ScopeKind → List Statement → List Statement → Prop where
  | intro {kind : ScopeKind} {xs ys : List Statement}
      (blocks : SameProducers (producersOf xs) (producersOf ys))
      (aliases : xs.filterMap Statement.typeAlias? = ys.filterMap Statement.typeAlias?)
      (functions : xs.filterMap Statement.namedFunction? = ys.filterMap Statement.namedFunction?)
      (assignments :
        xs.filterMap Statement.exportAssignment? = ys.filterMap Statement.exportAssignment?)
      (loose : kind = .topLevel →
        xs.flatMap Statement.looseVariables = ys.flatMap Statement.looseVariables) :
      Rearranged kind xs ys

/-- The same declarations with blocks, in the same order, up to a rearrangement of the bodies of
modules. -/
inductive SameProducers : List Producer → List Producer → Prop where
  | nil : SameProducers [] []
  | same {ps qs : List Producer} (p : Producer) (others : SameProducers ps qs) :
      SameProducers (p :: ps) (p :: qs)
  | module {ps qs : List Producer} {body body' : List Statement} (name : String)
      (modifiers : Modifiers) (inside : Rearranged .module body body')
      (others : SameProducers ps qs) :
      SameProducers (.module name (some body) modifiers :: ps)
        (.module name (some body') modifiers :: qs)

end

/-! ## What is collected, sequence by sequence

The fold over a scope looks at its statements one after the other; here it is taken apart by
sort. -/

/-- The parts of the object come from the sequences, whatever stands between their entries. -/
theorem Exports.parts_ofStatements (kind : ScopeKind) (statements : List Statement) :
    (ofStatements kind statements).parts =
      { aliases := (statements.filterMap Statement.typeAlias?).map TypeAliasDeclaration.line
        functions := (statements.filterMap Statement.namedFunction?).map fun function =>
          (function.name, function.line?)
        assignments :=
          (statements.filterMap Statement.exportAssignment?).map ExportAssignment.expression
        values :=
          if kind = .topLevel then
            (statements.flatMap Statement.looseVariables).map VariableDeclaration.line
          else [] } := by
  induction statements with
  | nil => cases kind <;> rfl
  | cons statement statements ih =>
    rw [parts_ofStatements_cons, ih]
    cases statement with
    | interfaceDecl declaration =>
      simp only [record]
      split <;> rfl
    | function declaration =>
      cases h : declaration.name <;>
        simp [record, h, parts, ObjectParts.append, List.filterMap_cons, Statement.namedFunction?,
          Statement.typeAlias?, Statement.exportAssignment?, Statement.looseVariables]
    | variableDecl statement =>
      cases kind <;>
        simp [record, parts, ObjectParts.append, List.filterMap_cons, Statement.namedFunction?,
          Statement.typeAlias?, Statement.exportAssignment?, Statement.looseVariables]
    | _ => rfl

/-! ## The same text

By recursion over the derivation of `Rearranged`. The kind of a scope is an index of the relation,
while the text needs the scope with its path, so the scope is quantified behind it. -/

mutual

/-- Rearranged scopes have the same directives. Loose variables are only known to agree at top
level, where alone they are collected. -/
theorem Rearranged.scopeDirectives_eq : ∀ {kind : ScopeKind} {xs ys : List Statement},
    Rearranged kind xs ys → ∀ scope : Scope, scope.kind = kind →
      scopeDirectives scope xs = scopeDirectives scope ys
  | _, xs, ys, .intro blocks aliases functions assignments loose, scope, hkind => by
    have values : scope.kind = .topLevel →
        (xs.flatMap Statement.looseVariables).map VariableDeclaration.line =
          (ys.flatMap Statement.looseVariables).map VariableDeclaration.line := by
      intro top
      rw [loose (hkind ▸ top)]
    refine scopeDirectives_congr (blocks.pieces_eq scope) ?_
    rw [Exports.parts_ofStatements, Exports.parts_ofStatements, aliases, functions, assignments]
    by_cases top : scope.kind = .topLevel
    · rw [if_pos top, if_pos top, values top]
    · rw [if_neg top, if_neg top]

/-- Equal pieces, in the same order. Bodies may be rearranged, which cannot be seen in a finished
piece. -/
theorem SameProducers.pieces_eq : ∀ {ps qs : List Producer}, SameProducers ps qs →
    ∀ scope : Scope, ps.filterMap (·.piece? scope) = qs.filterMap (·.piece? scope)
  | _, _, .nil, _ => rfl
  | _, _, .same p others, scope => by
    rw [List.filterMap_cons, List.filterMap_cons, others.pieces_eq scope]
  | _, _, .module name modifiers inside others, scope => by
    -- The body is a scope of its own and, by induction, one finished piece in both lists.
    have body := inside.scopeDirectives_eq (scope.module name) rfl
    rw [List.filterMap_cons, List.filterMap_cons, Producer.piece?, Producer.piece?, body,
      others.pieces_eq scope]

end

/-- **Across sorts, order does not matter.** Rearranged scopes are written alike, from whatever
state of the writer, and so are documents whose statements are rearranged. The first half is about
any scope and so about the body of a module on its own; the second needs the sequences of a scope at
top level, which is what a document is. -/
theorem facade_order_independent {kind : ScopeKind} {xs ys : List Statement}
    (h : Rearranged kind xs ys) :
    (∀ (scope : Scope) (writer : Writer), scope.kind = kind →
        runAll (scopeDirectives scope xs) writer = runAll (scopeDirectives scope ys) writer) ∧
      (kind = .topLevel → ∀ (emitter : Emitter) (file : String),
        emitter.emit { fileName := file, statements := xs } =
          emitter.emit { fileName := file, statements := ys }) := by
  constructor
  · intro scope writer hkind
    rw [h.scopeDirectives_eq scope hkind]
  · intro top emitter file
    exact Emitter.emit_congr (h.scopeDirectives_eq (.topLevel emitter.package) top.symm)

/-- A document with an export in front of its function, two variables in one statement and, in a
module, an alias in front of a class. -/
def scattered : List Statement :=
  [.exportAssignment { expression := some "create" },
    .module "ui"
      (some [.typeAlias { name := "Id", type := .keyword .string }, .importDeclaration,
        .classDecl { name := some "Widget" }]) .none,
    .variableDecl
      { declarations := [{ name := "version" }, { name := "config", type := some (.object []) }] },
    .function { name := some "create" }]

/-- The same declarations in another order, with an unnamed function among them. -/
def gathered : List Statement :=
  [.function { name := some "create" },
    .module "ui"
      (some [.classDecl { name := some "Widget" },
        .typeAlias { name := "Id", type := .keyword .string }]) .none,
    .variableDecl { declarations := [{ name := "config", type := some (.object []) }] },
    .function {}, .variableDecl { declarations := [{ name := "version" }] },
    .exportAssignment { expression := some "create" }]

theorem facade_order_independent_scattered :
    Rearranged .topLevel scattered gathered ∧
      ∀ emitter : Emitter,
        emitter.emit { statements := scattered } = emitter.emit { statements := gathered } := by
  have inside : Rearranged .module
      [.typeAlias { name := "Id", type := .keyword .string }, .importDeclaration,
        .classDecl { name := some "Widget" }]
      [.classDecl { name := some "Widget" },
        .typeAlias { name := "Id", type := .keyword .string }] :=
    .intro (.same _ .nil) rfl rfl rfl nofun
  have rearranged : Rearranged .topLevel scattered gathered :=
    .intro (.module "ui" .none inside (.same _ .nil)) rfl rfl rfl fun _ => rfl
  exact ⟨rearranged, fun emitter => (facade_order_independent rearranged).2 rfl emitter ""⟩

end ScalaFacade
