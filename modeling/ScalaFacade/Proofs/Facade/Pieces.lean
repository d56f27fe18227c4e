import ScalaFacade.Facade.Emit
import ScalaFacade.Proofs.Facade.Collected
import ScalaFacade.Proofs.Facade.TraitBody

/-! # What the text of a scope is made of

A scope is written in one pass that emits blocks, looks interfaces up by name and collects the rest.
Seen from outside, the text depends on two things only: the **pieces** of the declarations that have
blocks, in their order, and the **parts** of the object. A piece is either finished blocks or one
declaration's share of a trait; a part is a line, or the name under which a function is found.

`scopeDirectives_congr` says so: to show that two documents have the same facade, compare their
pieces and parts. A module is one finished piece, so such a comparison goes from scope to scope and
does not look into the pass again. It is used for reordered declarations, for other ways to write a
declaration and for what can be erased from one.

What makes this more than a rearrangement is the trait. Its block stands where the first declaration
of the name stands and has the members of all of them, so neither of the two can be seen from one
declaration alone. A piece therefore holds a *share*, and `assemble` puts the shares of a name
together. That the pass does the same, although it works with statements and looks back at those
above, is `blocksOfAll_eq_assemble`.

Pieces and parts hold what has been written out already: directives, and the texts of members and of
type parameters. Two documents that differ but come out the same have equal pieces, and no
equivalence between syntax trees is needed.
-/

set_option autoImplicit false

namespace ScalaFacade

open Layout

/-! ## Declarations with blocks

Variables are taken out of their statement, because two statements of one variable each are written
like one of two. -/

/-- A declaration that is written in its place. -/
inductive Producer where
  | module (name : String) (body : Option (List Statement)) (modifiers : Modifiers)
  | classDecl (declaration : ClassDeclaration)
  | interfaceDecl (declaration : InterfaceDeclaration)
  | enumDecl (declaration : EnumDeclaration)
  /-- A variable annotated with an object type. -/
  | objectVariable (declaration : VariableDeclaration)

/-- The declarations with blocks in a statement. Variables are taken out of their statement. -/
def Statement.producers : Statement → List Producer
  | .module name body modifiers => [.module name body modifiers]
  | .classDecl declaration => [.classDecl declaration]
  | .interfaceDecl declaration => [.interfaceDecl declaration]
  | .enumDecl declaration => [.enumDecl declaration]
  | .variableDecl statement =>
    (statement.declarations.filter (·.objectMembers?.isSome)).map .objectVariable
  | .typeAlias _ | .function _ | .exportAssignment _ => []
  | .importDeclaration | .exportDeclaration | .other => []

/-- The declarations with blocks of a scope, in their order. -/
def producersOf (statements : List Statement) : List Producer :=
  statements.flatMap Statement.producers

/-! ## Pieces

What a declaration contributes, without the declarations around it. -/

/-- What a declaration contributes to the blocks of its scope. -/
inductive Piece where
  /-- Blocks that nothing else has a share in. -/
  | finished (blocks : List Directive)
  /-- A share of the trait of a name. -/
  | share (name typeParameters : String) (members : List MemberText)

/-- The piece of a declaration. A module without a body has none. -/
def Producer.piece? (scope : Scope) : Producer → Option Piece
  | .module _ none _ => none
  | .module name (some body) _ =>
    some (.finished (packageBlock (scope.module name) (scopeDirectives (scope.module name) body)))
  | .classDecl declaration => some (.finished (declaration.block scope))
  | .interfaceDecl declaration =>
    some (.share declaration.name (typeParametersText declaration.typeParameters)
      (memberTexts declaration.members .interface))
  | .enumDecl declaration => some (.finished (declaration.blocks scope))
  | .objectVariable declaration => some (.finished (declaration.block scope))

/-- The pieces of a scope. -/
def piecesOf (scope : Scope) (statements : List Statement) : List Piece :=
  (producersOf statements).filterMap (·.piece? scope)

@[simp] theorem piecesOf_nil (scope : Scope) : piecesOf scope [] = [] := rfl

theorem piecesOf_append (scope : Scope) (above below : List Statement) :
    piecesOf scope (above ++ below) = piecesOf scope above ++ piecesOf scope below := by
  simp [piecesOf, producersOf]

theorem piecesOf_cons (scope : Scope) (statement : Statement) (statements : List Statement) :
    piecesOf scope (statement :: statements) =
      statement.producers.filterMap (·.piece? scope) ++ piecesOf scope statements := by
  simp [piecesOf, producersOf]

/-- Variables of object type are finished pieces, each with a block of its own. -/
theorem pieces_objectVariables (scope : Scope) (declared : List VariableDeclaration) :
    (declared.map Producer.objectVariable).filterMap (·.piece? scope) =
      declared.map fun declaration => .finished (declaration.block scope) := by
  rw [List.filterMap_map, ← List.filterMap_eq_map]
  rfl

/-- The texts that a piece has for the trait of a name. -/
def Piece.textsNamed (name : String) : Piece → List MemberText
  | .share shared _ members => if shared = name then members else []
  | .finished _ => []

/-- The texts of all members of the trait of a name. -/
def textsNamed (name : String) (pieces : List Piece) : List MemberText :=
  pieces.flatMap (Piece.textsNamed name)

/-- A trait from its name, its type parameters and the texts of its members. -/
def traitBlock (name typeParameters : String) (texts : List MemberText) : List Directive :=
  [.blank,
    .atRoot
      [native,
        .block ("trait " ++ Name.escape name ++ typeParameters ++ " extends js.Object")
          (((withoutRepeated texts).flatMap MemberText.lines).map .line)]]

/-- Puts pieces together. `all` are the pieces of the scope, `seen` the names of the traits above.
The first share of a name becomes the whole trait, the later ones nothing; the type parameters are
those of the first. -/
def assemble (all : List Piece) (seen : List String) : List Piece → List Directive
  | [] => []
  | .finished blocks :: pieces => blocks ++ assemble all seen pieces
  | .share name typeParameters _ :: pieces =>
    (if name ∈ seen then [] else traitBlock name typeParameters (textsNamed name all))
      ++ assemble all (name :: seen) pieces

/-! ## The pass over a scope

The pass knows statements where `assemble` knows pieces. The correspondence is stated for a pass
that is already on its way, with `above` in reverse order as the pass keeps it. -/

/-- What one statement has for the trait of a name: the members of the interface it declares, if
that has the name. -/
theorem Statement.textsNamed_producers (scope : Scope) (name : String) (statement : Statement) :
    textsNamed name (statement.producers.filterMap (·.piece? scope)) =
      memberTexts ((interfacesNamed name [statement]).flatMap InterfaceDeclaration.members)
        .interface := by
  cases statement with
  | interfaceDecl declaration =>
    by_cases h : declaration.name = name <;>
      simp [producers, Producer.piece?, textsNamed, Piece.textsNamed, interfacesNamed,
        Statement.interface?, memberTexts, h]
  | module _ body _ => cases body <;> rfl
  | variableDecl statement =>
    rw [producers, pieces_objectVariables, textsNamed, List.flatMap_map]
    exact List.flatMap_eq_nil_iff.2 fun _ _ => rfl
  | _ => rfl

/-- The texts under a name are those of the members of all its declarations. -/
theorem textsNamed_piecesOf (scope : Scope) (name : String) (statements : List Statement) :
    textsNamed name (piecesOf scope statements) =
      memberTexts ((interfacesNamed name statements).flatMap InterfaceDeclaration.members)
        .interface := by
  induction statements with
  | nil => rfl
  | cons statement statements ih =>
    rw [piecesOf_cons, textsNamed, List.flatMap_append]
    have first := statement.textsNamed_producers scope name
    have split := interfacesNamed_append name [statement] statements
    rw [List.singleton_append] at split
    rw [textsNamed] at first ih
    rw [first, ih, split, memberTexts, memberTexts, memberTexts, List.flatMap_append,
      List.filterMap_append]

theorem interfaceBlock_eq_traitBlock (first : InterfaceDeclaration)
    (others : List InterfaceDeclaration) :
    interfaceBlock (first :: others) =
      traitBlock first.name (typeParametersText first.typeParameters)
        (memberTexts ((first :: others).flatMap InterfaceDeclaration.members) .interface) := by
  simp only [interfaceBlock, traitBlock, traitLines_eq]

/-- A variable without an object type has no block and no piece, so leaving it out changes
nothing. -/
theorem assemble_variables (scope : Scope) (all : List Piece) (seen : List String)
    (declared : List VariableDeclaration) (pieces : List Piece) :
    assemble all seen
        (((declared.filter (·.objectMembers?.isSome)).map fun declaration =>
          .finished (declaration.block scope)) ++ pieces) =
      declared.flatMap (·.block scope) ++ assemble all seen pieces := by
  induction declared with
  | nil => rfl
  | cons declaration declared ih =>
    cases h : declaration.objectMembers? with
    | none =>
      have nothing : declaration.block scope = [] := by simp [VariableDeclaration.block, h]
      rw [List.filter_cons_of_neg (by simp [h]), ih, List.flatMap_cons, nothing, List.nil_append]
    | some members =>
      rw [List.filter_cons_of_pos (by simp [h]), List.map_cons, List.cons_append,
        assemble, ih, List.flatMap_cons, List.append_assoc]

/-- **One statement of the pass.** It stands below `above`, which is kept in reverse order; `pieces`
are those of the statements below it. All kinds of statement are finished pieces or none, except for
interfaces. -/
theorem Statement.blocks_eq_assemble (statement : Statement) (scope : Scope)
    (above below : List Statement) (pieces : List Piece) :
    statement.blocks scope (above.reverse ++ statement :: below) above
        ++ assemble (piecesOf scope (above.reverse ++ statement :: below))
          (interfaceNames (statement :: above)) pieces =
      assemble (piecesOf scope (above.reverse ++ statement :: below)) (interfaceNames above)
        (statement.producers.filterMap (·.piece? scope) ++ pieces) := by
  cases statement with
  | interfaceDecl declaration =>
    have piece : (interfaceDecl declaration).producers.filterMap (·.piece? scope) =
        [.share declaration.name (typeParametersText declaration.typeParameters)
          (memberTexts declaration.members .interface)] := rfl
    rw [interfaceNames_interface, Statement.blocks, piece, List.singleton_append, assemble,
      textsNamed_piecesOf]
    congr 1
    -- The pass asks whether a declaration of the name is above, `assemble` whether the name is
    -- among those above.
    by_cases seen : declaration.name ∈ interfaceNames above
    · have earlier : (interfacesNamed declaration.name above).isEmpty = false := by
        simpa [interfacesNamed_eq_nil_iff] using seen
      rw [earlier, if_pos seen]
      rfl
    · have first : (interfacesNamed declaration.name above).isEmpty = true := by
        simpa [interfacesNamed_eq_nil_iff] using seen
      have names : declaration.name ∉ interfaceNames above.reverse := by
        rwa [← interfacesNamed_eq_nil_iff, interfacesNamed_reverse, List.reverse_eq_nil_iff,
          interfacesNamed_eq_nil_iff]
      rw [first, if_pos rfl, if_neg seen, interfacesNamed_first names,
        interfaceBlock_eq_traitBlock]
  | module name body modifiers =>
    cases body with
    | none => rfl
    | some body =>
      rw [Statement.blocks]
      rfl
  | variableDecl statement =>
    rw [producers, pieces_objectVariables, assemble_variables, Statement.blocks,
      interfaceNames_other rfl]
  | classDecl _ | enumDecl _ => rfl
  | typeAlias _ | function _ | exportAssignment _ => rfl
  | importDeclaration | exportDeclaration | other => rfl

/-- The pass is putting the pieces together, by induction over the statements that are left. -/
theorem blocksOfAll_eq_assemble (scope : Scope) (above statements : List Statement) :
    blocksOfAll scope (above.reverse ++ statements) above statements =
      assemble (piecesOf scope (above.reverse ++ statements)) (interfaceNames above)
        (piecesOf scope statements) := by
  induction statements generalizing above with
  | nil => rfl
  | cons statement statements ih =>
    have rest := ih (statement :: above)
    rw [List.reverse_cons, List.append_assoc, List.singleton_append] at rest
    rw [blocksOfAll, rest, piecesOf_cons, statement.blocks_eq_assemble]

/-! ## Parts

The object of a scope is written from lines. Functions are kept with their names as well, since an
export assignment looks one up. -/

/-- What the object of a scope is written from. A function is known by the name it is exported
under and by its line. -/
structure ObjectParts where
  aliases : List String
  functions : List (Option String × Option String)
  assignments : List (Option String)
  values : List String

namespace ObjectParts

/-- Two lots of parts, one behind the other. -/
def append (first second : ObjectParts) : ObjectParts where
  aliases := first.aliases ++ second.aliases
  functions := first.functions ++ second.functions
  assignments := first.assignments ++ second.assignments
  values := first.values ++ second.values

/-- The line of the first function of a name. -/
def lineNamed? (parts : ObjectParts) (name : String) : Option String :=
  (parts.functions.find? fun function => function.1 == some name).bind Prod.snd

/-- The lines of the object, before repeated ones are left out. -/
def lines (parts : ObjectParts) (kind : ScopeKind) : List String :=
  parts.aliases
    ++ parts.assignments.filterMap (fun expression => expression.bind parts.lineNamed?)
    ++ (match kind with
      | .topLevel => []
      | .module => parts.functions.filterMap Prod.snd)
    ++ parts.values

end ObjectParts

namespace Exports

/-- The parts that a collection comes down to. -/
def parts (exports : Exports) : ObjectParts where
  aliases := exports.typeAliases.map TypeAliasDeclaration.line
  functions := exports.functions.map fun function => (function.name, function.line?)
  assignments := exports.exportAssignments.map ExportAssignment.expression
  values := exports.looseVariables.map VariableDeclaration.line

theorem parts_append (first second : Exports) :
    (first.append second).parts = first.parts.append second.parts := by
  simp [parts, append, ObjectParts.append]

theorem parts_ofStatements_cons (kind : ScopeKind) (statement : Statement)
    (statements : List Statement) :
    (ofStatements kind (statement :: statements)).parts =
      (record kind {} statement).parts.append (ofStatements kind statements).parts := by
  rw [ofStatements_cons, parts_append]

/-- An interface is collected, but no part is made from it. -/
theorem parts_ofStatements_interface (kind : ScopeKind) (declaration : InterfaceDeclaration) :
    (ofStatements kind [.interfaceDecl declaration]).parts = (ofStatements kind []).parts := by
  simp only [ofStatements, List.foldl_cons, List.foldl_nil, record]
  split <;> rfl

theorem assignmentLine?_eq (exports : Exports) (assignment : ExportAssignment) :
    exports.assignmentLine? assignment = assignment.expression.bind exports.parts.lineNamed? := by
  have found (name : String) : exports.parts.lineNamed? name =
      (exports.functionNamed? name).bind FunctionDeclaration.line? := by
    rw [ObjectParts.lineNamed?, parts, List.find?_map, Option.bind_map]
    rfl
  rw [funext found]
  rfl

theorem memberLines_eq (exports : Exports) (kind : ScopeKind) :
    exports.memberLines kind = OrderedSet.ofList (exports.parts.lines kind) := by
  have assigned : exports.exportAssignments.filterMap exports.assignmentLine? =
      exports.parts.assignments.filterMap fun expression =>
        expression.bind exports.parts.lineNamed? := by
    rw [funext exports.assignmentLine?_eq, parts, List.filterMap_map]
    rfl
  have functions : exports.functions.filterMap FunctionDeclaration.line? =
      exports.parts.functions.filterMap Prod.snd := by
    rw [parts, List.filterMap_map]
    rfl
  cases kind <;> simp only [memberLines, ObjectParts.lines, assigned, functions] <;> rfl

theorem hasMembers_congr {first second : Exports} (h : first.parts = second.parts)
    (kind : ScopeKind) : first.hasMembers kind = second.hasMembers kind := by
  simp only [parts, ObjectParts.mk.injEq] at h
  obtain ⟨aliases, functions, assignments, values⟩ := h
  have empty {α β : Type} {f : α → β} {xs ys : List α} (h : xs.map f = ys.map f) :
      xs.isEmpty = ys.isEmpty := by
    rw [← List.isEmpty_map (f := f), h, List.isEmpty_map]
  cases kind <;>
    simp only [hasMembers, empty aliases, empty functions, empty assignments, empty values]

/-- The object is written from its parts. -/
theorem object_congr {first second : Exports} (h : first.parts = second.parts) (scope : Scope) :
    first.object scope = second.object scope := by
  rw [object, object, hasMembers_congr h, memberLines_eq, memberLines_eq, h]

end Exports

/-! ## Two scopes with the same text -/

/-- A scope is written from its pieces and parts. -/
theorem scopeDirectives_congr {scope : Scope} {xs ys : List Statement}
    (pieces : piecesOf scope xs = piecesOf scope ys)
    (parts : (Exports.ofStatements scope.kind xs).parts =
      (Exports.ofStatements scope.kind ys).parts) :
    scopeDirectives scope xs = scopeDirectives scope ys := by
  have blocks (statements : List Statement) := blocksOfAll_eq_assemble scope [] statements
  simp only [List.reverse_nil, List.nil_append] at blocks
  rw [scopeDirectives, scopeDirectives, blocks xs, blocks ys, pieces,
    Exports.object_congr parts]

theorem Emitter.emit_congr {emitter : Emitter} {first second : Document}
    (h : scopeDirectives (.topLevel emitter.package) first.statements =
      scopeDirectives (.topLevel emitter.package) second.statements) :
    emitter.emit first = emitter.emit second := by
  rw [Emitter.emit, Emitter.emit, Emitter.directives, Emitter.directives, h]

end ScalaFacade
