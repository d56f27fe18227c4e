import ScalaFacade.Proofs.Facade.TypeView

/-! # What a facade does not depend on

`Document.erased` takes out of a document everything that its facade takes no notice of: the name of
the file, nearly all modifiers, optional members, defaults of type parameters, whatever stands
inside types that are not told apart, and statements and members without a counterpart. The facade
stays the same (`Emitter.emit_erased`), so none of that can influence it.

An equation between facades says this about all those places at once. Two documents that differ only
in what is erased have the same erased form, and so the same facade; no relation of "differing only
there" is needed, and what the facade does depend on is what is left to read.

* Types come first: erasing keeps the view of a type (`TypeNode.view_erased`), and lines follow from
  views.
* For statements, erasing keeps the pieces and the parts of a scope.
* The `export` modifier of an interface is the one flag that the pass does ask for and that is
  erased all the same; it decides about an entry of the collection from which no part of the object
  is made.

Some things look as if they could go and have to stay: a number literal keeps its decimal point, a
class whether it is abstract, an index signature whether it is read-only, and an object type its
properties if it is the whole annotation of a variable. What is kept of a variable depends on the
kind of its scope.
-/

set_option autoImplicit false

namespace ScalaFacade

open Layout

/-! ## Erasing types

Function types lose more than functions: names of parameters, the marks on them and type parameters
are not written in a type. -/

/-- A literal without its text. Of a number it stays visible whether it has a decimal point. -/
def Literal.erased (literal : Literal) : Literal where
  kind := literal.kind
  text :=
    match literal.kind with
    | .number => if literal.hasPoint then "0.0" else "0"
    | .string | .boolean | .other => ""

mutual

/-- A type without what stands behind operators, in object types and, apart from the types of
parameters and result, in function types. -/
def TypeNode.erased : TypeNode → TypeNode
  | .keyword word => .keyword word
  | .reference name arguments => .reference name (erasedTypes arguments)
  | .literal found => .literal found.erased
  | .array element => .array element.erased
  | .union members => .union (erasedTypes members)
  | .intersection members => .intersection (erasedTypes members)
  | .function _ parameters result => .function [] (erasedPositions parameters) (erasedType? result)
  | .operator word _ => .operator word .other
  | .parenthesized inner => .parenthesized inner.erased
  | .object _ => .object []
  | .other => .other

def erasedTypes : List TypeNode → List TypeNode
  | [] => []
  | type :: types => type.erased :: erasedTypes types

def erasedType? : Option TypeNode → Option TypeNode
  | none => none
  | some type => some type.erased

/-- The parameters of a function type, without anything but their types. -/
def erasedPositions : List Parameter → List Parameter
  | [] => []
  | ⟨_, type, _, _⟩ :: parameters =>
    { name := "", type := erasedType? type } :: erasedPositions parameters

end

/-- The text of a literal does not show, but for the decimal point of a number, which tells `Int`
from `Double` in a union. -/
theorem Literal.view_erased (found : Literal) :
    (TypeNode.literal found.erased).view = (TypeNode.literal found).view := by
  obtain ⟨kind, text⟩ := found
  cases kind with
  | string | boolean | other => rfl
  | number =>
    -- The text that is left has a decimal point exactly if the erased one had.
    by_cases point : Literal.hasPoint ⟨.number, text⟩
    · have left : (Literal.erased ⟨.number, text⟩) = ⟨.number, "0.0"⟩ := by
        simp only [Literal.erased, point, if_true]
      rw [left]
      simp [TypeNode.view, TypeNode.scala, Literal.scala, restElement, TypeNode.unparenthesized,
        TypeNode.isStringLiteral, TypeNode.isIntegralLiteral, TypeNode.isFractionalLiteral,
        TypeNode.literal?, point, show Literal.hasPoint ⟨.number, "0.0"⟩ = true from rfl]
    · have left : (Literal.erased ⟨.number, text⟩) = ⟨.number, "0"⟩ := by
        simp only [Literal.erased, point, if_false, Bool.false_eq_true]
      rw [left]
      simp [TypeNode.view, TypeNode.scala, Literal.scala, restElement, TypeNode.unparenthesized,
        TypeNode.isStringLiteral, TypeNode.isIntegralLiteral, TypeNode.isFractionalLiteral,
        TypeNode.literal?, point, show Literal.hasPoint ⟨.number, "0"⟩ = false from rfl]

mutual

/-- Erasing keeps everything that is seen of a type. -/
theorem TypeNode.view_erased (type : TypeNode) : type.erased.view = type.view := by
  match type with
  | .keyword word => rfl
  | .reference name arguments =>
    rw [TypeNode.erased]
    exact view_reference name (views_erasedTypes arguments)
  | .literal found => exact found.view_erased
  | .array element => rw [TypeNode.erased, view_array, view_array, element.view_erased]
  | .union members =>
    rw [TypeNode.erased]
    exact view_union (views_erasedTypes members)
  | .intersection members =>
    rw [TypeNode.erased]
    exact view_intersection (views_erasedTypes members)
  | .function typeParameters parameters result =>
    rw [TypeNode.erased]
    exact view_function (views_erasedPositions parameters) (view_erasedType? result)
  | .operator word operand => exact view_operator word .other operand
  | .parenthesized inner =>
    rw [TypeNode.erased, view_parenthesized, view_parenthesized, inner.view_erased]
  | .object members => exact view_object [] members
  | .other => rfl

theorem views_erasedTypes (types : List TypeNode) :
    (erasedTypes types).map TypeNode.view = types.map TypeNode.view := by
  match types with
  | [] => rfl
  | type :: types =>
    rw [erasedTypes, List.map_cons, List.map_cons, type.view_erased, views_erasedTypes types]

theorem view_erasedType? (type : Option TypeNode) :
    (erasedType? type).map TypeNode.view = type.map TypeNode.view := by
  match type with
  | none => rfl
  | some type => rw [erasedType?, Option.map_some, Option.map_some, type.view_erased]

theorem views_erasedPositions (parameters : List Parameter) :
    ((erasedPositions parameters).map fun parameter => parameter.type.map TypeNode.view) =
      parameters.map fun parameter => parameter.type.map TypeNode.view := by
  match parameters with
  | [] => rfl
  | ⟨_, type, _, _⟩ :: parameters =>
    rw [erasedPositions, List.map_cons, List.map_cons, view_erasedType? type,
      views_erasedPositions parameters]

end

/-! ## Erasing parameters and members

Lists are erased entry by entry, so each lemma is about a whole list. -/

/-- A set of modifiers without all but one. -/
def Modifiers.only (set : Modifiers) (m : Modifier) : Modifiers :=
  if set.contains m then .single m else .none

/-- The modifier that is kept is there exactly if it was. -/
@[simp] theorem Modifiers.contains_only (set : Modifiers) (m : Modifier) :
    (set.only m).contains m = set.contains m := by
  unfold Modifiers.only
  cases h : set.contains m <;> cases m <;> rfl

def TypeParameter.erased (parameter : TypeParameter) : TypeParameter where
  name := parameter.name
  constraint := erasedType? parameter.constraint
  default := none

/-- A parameter that is not marked as optional if it takes the rest of the arguments. -/
def Parameter.erased (parameter : Parameter) : Parameter where
  name := parameter.name
  type := erasedType? parameter.type
  optional := parameter.optional && !parameter.rest
  rest := parameter.rest

def Property.erased (property : Property) : Property where
  name := property.name
  type := erasedType? property.type
  optional := false
  modifiers := .none

def Method.erased (method : Method) : Method where
  name := method.name
  typeParameters := method.typeParameters.map TypeParameter.erased
  parameters := method.parameters.map Parameter.erased
  result := erasedType? method.result
  optional := false
  modifiers := .none

def IndexSignature.erased (index : IndexSignature) : IndexSignature where
  parameters := index.parameters.map Parameter.erased
  type := erasedType? index.type
  modifiers := index.modifiers.only .readonly

/-- What is left of a member; of a constructor, a call signature or an accessor nothing is. -/
def Member.erased? : Member → Option Member
  | .property declared => some (.property declared.erased)
  | .method declared => some (.method declared.erased)
  | .index declared => some (.index declared.erased)
  | .other => none

theorem TypeParameter.scala_erased (parameters : List TypeParameter) :
    (parameters.map TypeParameter.erased).map TypeParameter.scala =
      parameters.map TypeParameter.scala := by
  rw [List.map_map]
  refine List.map_congr_left fun parameter _ => ?_
  refine TypeParameter.scala_congr ?_ (view_erasedType? parameter.constraint)
  rfl

/-- The mark of an optional parameter stays unless the parameter takes the rest of the arguments,
where it is not written. -/
theorem Parameter.scala_erased (parameters : List Parameter) :
    (parameters.map Parameter.erased).map Parameter.scala = parameters.map Parameter.scala := by
  rw [List.map_map]
  refine List.map_congr_left fun parameter _ => ?_
  refine Parameter.scala_congr ?_ (view_erasedType? parameter.type) ?_ fun single => ?_
  · rfl
  · rfl
  · have single : parameter.rest = false := single
    simp [Parameter.erased, single]

theorem Property.line_erased (property : Property) (owner : Owner) :
    property.erased.line owner = property.line owner := by
  refine Property.line_congr ?_ (view_erasedType? property.type) owner
  rfl

/-- The text of a member from what is left of it. A member without a counterpart is dropped and has
no text, so both sides are options. -/
theorem Member.text?_erased (member : Member) (owner : Owner) :
    member.erased?.bind (·.text? owner) = member.text? owner := by
  cases member with
  | property declared =>
    simp only [Member.erased?, Option.bind_some, Member.text?, declared.line_erased]
  | method declared =>
    have line : declared.erased.line owner = declared.line owner := by
      refine Method.line_congr ?_ (TypeParameter.scala_erased declared.typeParameters)
        (Parameter.scala_erased declared.parameters) (view_erasedType? declared.result) owner
      rfl
    simp only [Member.erased?, Option.bind_some, Member.text?, line]
  | index declared =>
    have keys : (declared.erased.parameters.map fun key => (key.name, key.type.map TypeNode.view)) =
        declared.parameters.map fun key => (key.name, key.type.map TypeNode.view) := by
      rw [IndexSignature.erased, List.map_map]
      refine List.map_congr_left fun key _ => ?_
      exact congrArg _ (view_erasedType? key.type)
    have lines : declared.erased.lines owner = declared.lines owner :=
      IndexSignature.lines_congr keys (view_erasedType? declared.type)
        (declared.modifiers.contains_only .readonly) owner
    simp only [Member.erased?, Option.bind_some, Member.text?, lines]
  | other => rfl

theorem memberTexts_erased (members : List Member) (owner : Owner) :
    memberTexts (members.filterMap Member.erased?) owner = memberTexts members owner := by
  rw [memberTexts, List.filterMap_filterMap, memberTexts]
  exact congrArg (fun text => List.filterMap text members)
    (funext fun member => member.text?_erased owner)

/-! ## Erasing declarations

In a module, variables without an object type are dropped as well: nothing is written for them
there. -/

def ClassDeclaration.erased (declaration : ClassDeclaration) : ClassDeclaration where
  name := declaration.name
  typeParameters := declaration.typeParameters.map TypeParameter.erased
  members := declaration.members.filterMap Member.erased?
  modifiers := declaration.modifiers.only .abstract

def InterfaceDeclaration.erased (declaration : InterfaceDeclaration) : InterfaceDeclaration where
  name := declaration.name
  typeParameters := declaration.typeParameters.map TypeParameter.erased
  members := declaration.members.filterMap Member.erased?
  modifiers := .none

def TypeAliasDeclaration.erased (declaration : TypeAliasDeclaration) : TypeAliasDeclaration where
  name := declaration.name
  typeParameters := declaration.typeParameters.map TypeParameter.erased
  type := declaration.type.erased
  modifiers := .none

def FunctionDeclaration.erased (declaration : FunctionDeclaration) : FunctionDeclaration where
  name := declaration.name
  typeParameters := declaration.typeParameters.map TypeParameter.erased
  parameters := declaration.parameters.map Parameter.erased
  result := erasedType? declaration.result
  modifiers := .none

/-- What is left of a member of the object type that a variable is annotated with. -/
def Member.erasedProperty? : Member → Option Member
  | .property declared => some (.property declared.erased)
  | .method _ | .index _ | .other => none

/-- An annotation of a variable. An object type that is the whole annotation keeps its
properties. -/
def erasedAnnotation : Option TypeNode → Option TypeNode
  | some (.object members) => some (.object (members.filterMap Member.erasedProperty?))
  | type => erasedType? type

def VariableDeclaration.erased (declaration : VariableDeclaration) : VariableDeclaration where
  name := declaration.name
  type := erasedAnnotation declaration.type

mutual

/-- What is left of a statement of a scope of the given kind. -/
def Statement.erased? (kind : ScopeKind) : Statement → Option Statement
  | .module _ none _ => none
  | .module name (some body) _ => some (.module name (some (erasedStatements .module body)) .none)
  | .classDecl declaration => some (.classDecl declaration.erased)
  | .interfaceDecl declaration => some (.interfaceDecl declaration.erased)
  | .enumDecl declaration => some (.enumDecl { declaration with modifiers := .none })
  | .typeAlias declaration => some (.typeAlias declaration.erased)
  | .variableDecl statement =>
    let kept :=
      match kind with
      | .topLevel => statement.declarations
      | .module => statement.declarations.filter (·.objectMembers?.isSome)
    some (.variableDecl { declarations := kept.map VariableDeclaration.erased, modifiers := .none })
  | .function declaration =>
    if declaration.name.isSome then some (.function declaration.erased) else none
  | .exportAssignment assignment =>
    some (.exportAssignment { assignment with isExportEquals := false })
  | .importDeclaration | .exportDeclaration | .other => none

def erasedStatements (kind : ScopeKind) : List Statement → List Statement
  | [] => []
  | statement :: statements =>
    (statement.erased? kind).toList ++ erasedStatements kind statements

end

/-- A document without anything that its facade does not depend on. -/
def Document.erased (document : Document) : Document where
  fileName := ""
  statements := erasedStatements .topLevel document.statements

/-! ## The same pieces and parts

Pieces and parts are compared for each statement, and those of a scope follow by appending.
Variables need the most work, because their annotation is erased in another way if it is an object
type. -/

/-- A variable keeps its object type, so it has a block after erasing exactly if it had one
before. -/
theorem VariableDeclaration.objectMembers?_erased (declaration : VariableDeclaration) :
    declaration.erased.objectMembers? =
      declaration.objectMembers?.map fun members => members.filterMap Member.erasedProperty? := by
  obtain ⟨name, type⟩ := declaration
  match type with
  | none => rfl
  | some type => cases type <;> rfl

theorem objectLines_erased (members : List Member) :
    (members.filterMap Member.erasedProperty?).filterMap objectLine? =
      members.filterMap objectLine? := by
  rw [List.filterMap_filterMap]
  refine congrArg (fun line => List.filterMap line members) (funext fun member => ?_)
  cases member with
  | property declared => exact congrArg some (declared.line_erased .concreteClass)
  | method _ | index _ | other => rfl

theorem VariableDeclaration.block_erased (declaration : VariableDeclaration) (scope : Scope) :
    declaration.erased.block scope = declaration.block scope := by
  rw [VariableDeclaration.block, VariableDeclaration.block, declaration.objectMembers?_erased]
  cases declaration.objectMembers? with
  | none => rfl
  | some members =>
    simp only [Option.map_some, objectBlock, objectLines_erased]
    rfl

/-- The line of a loose variable. For an annotation with an object type the two ways of erasing
differ, and the hypothesis rules it out. -/
theorem VariableDeclaration.line_erased {declaration : VariableDeclaration}
    (h : declaration.objectMembers? = none) : declaration.erased.line = declaration.line := by
  have annotation : erasedAnnotation declaration.type = erasedType? declaration.type := by
    obtain ⟨name, type⟩ := declaration
    match type with
    | none => rfl
    | some type =>
      cases type with
      | object members => exact absurd h (by simp [VariableDeclaration.objectMembers?])
      | _ => rfl
  have view : declaration.erased.type.map TypeNode.view = declaration.type.map TypeNode.view := by
    rw [VariableDeclaration.erased, annotation]
    exact view_erasedType? declaration.type
  refine VariableDeclaration.line_congr ?_ view
  rfl

theorem isSome_objectMembers?_erased :
    (fun declaration : VariableDeclaration => declaration.objectMembers?.isSome) ∘
        VariableDeclaration.erased =
      fun declaration => declaration.objectMembers?.isSome := by
  funext declaration
  simp [declaration.objectMembers?_erased]

theorem isNone_objectMembers?_erased :
    (fun declaration : VariableDeclaration => declaration.objectMembers?.isNone) ∘
        VariableDeclaration.erased =
      fun declaration => declaration.objectMembers?.isNone := by
  funext declaration
  simp [declaration.objectMembers?_erased]

/-- The blocks of variables are the same, whether or not loose ones are among them. -/
theorem pieces_erasedVariables (scope : Scope) (declared : List VariableDeclaration) :
    piecesOf scope [.variableDecl { declarations := declared.map VariableDeclaration.erased }] =
      piecesOf scope [.variableDecl { declarations := declared }] := by
  rw [piecesOf_cons, piecesOf_cons, Statement.producers, Statement.producers,
    pieces_objectVariables, pieces_objectVariables, List.filter_map, List.map_map,
    isSome_objectMembers?_erased]
  exact congrArg (· ++ _) (List.map_congr_left fun declaration _ =>
    congrArg Piece.finished (declaration.block_erased scope))

/-- Leaving loose variables out of a statement leaves the pieces as they are. -/
theorem pieces_filteredVariables (scope : Scope) (statement : VariableStatement) :
    piecesOf scope
        [.variableDecl { declarations := statement.declarations.filter (·.objectMembers?.isSome) }] =
      piecesOf scope [.variableDecl statement] := by
  rw [piecesOf_cons, piecesOf_cons, Statement.producers, Statement.producers]
  simp only [List.filter_filter, Bool.and_self]

/-- The lines of loose variables are the same. -/
theorem lines_erasedVariables (declared : List VariableDeclaration) :
    ((declared.map VariableDeclaration.erased).filter (·.objectMembers?.isNone)).map
        VariableDeclaration.line =
      (declared.filter (·.objectMembers?.isNone)).map VariableDeclaration.line := by
  rw [List.filter_map, List.map_map, isNone_objectMembers?_erased]
  refine List.map_congr_left fun declaration h => ?_
  have loose : declaration.objectMembers? = none := by simpa using (List.mem_filter.1 h).2
  exact VariableDeclaration.line_erased loose

/-- What is left of a statement, if anything, has the parts of the statement. -/
theorem Statement.parts_erased (kind : ScopeKind) (statement : Statement) :
    (Exports.ofStatements kind (statement.erased? kind).toList).parts =
      (Exports.ofStatements kind [statement]).parts := by
  cases statement with
  | module _ body _ => cases body <;> rfl
  | interfaceDecl declaration =>
    exact (Exports.parts_ofStatements_interface kind declaration.erased).trans
      (Exports.parts_ofStatements_interface kind declaration).symm
  | typeAlias declaration =>
    have line : declaration.erased.line = declaration.line := by
      refine TypeAliasDeclaration.line_congr ?_
        (TypeParameter.scala_erased declaration.typeParameters) declaration.type.view_erased
      rfl
    simp [Statement.erased?, Exports.ofStatements, Exports.record, Exports.parts, line]
  | function declaration =>
    have line : declaration.erased.line? = declaration.line? := by
      refine FunctionDeclaration.line?_congr ?_
        (TypeParameter.scala_erased declaration.typeParameters)
        (Parameter.scala_erased declaration.parameters) (view_erasedType? declaration.result)
      rfl
    have name : declaration.erased.name = declaration.name := rfl
    cases h : declaration.name <;>
      simp [Statement.erased?, Exports.ofStatements, Exports.record, Exports.parts, name, line, h]
  | variableDecl statement =>
    cases kind with
    | topLevel =>
      simp [Statement.erased?, Exports.ofStatements, Exports.record, Exports.parts,
        lines_erasedVariables]
    | module => rfl
  | classDecl _ | enumDecl _ | exportAssignment _ => rfl
  | importDeclaration | exportDeclaration | other => rfl

theorem Exports.parts_erasedStatements (kind : ScopeKind) (statements : List Statement) :
    (ofStatements kind (erasedStatements kind statements)).parts =
      (ofStatements kind statements).parts := by
  induction statements with
  | nil => rfl
  | cons statement statements ih =>
    have first := statement.parts_erased kind
    have split := @ofStatements_append kind [statement] statements
    rw [List.singleton_append] at split
    rw [erasedStatements, ofStatements_append, split, parts_append, parts_append, first, ih]

mutual

/-- And it has the pieces of the statement. A module has its body erased as the body of a module,
whatever the scope it stands in, and its piece is the same because the body is written alike. -/
theorem Statement.pieces_erased (statement : Statement) (kind : ScopeKind) (scope : Scope) :
    piecesOf scope (statement.erased? kind).toList = piecesOf scope [statement] := by
  match statement with
  | .module name none modifiers => rfl
  | .module name (some body) modifiers =>
    have inside : scopeDirectives (scope.module name) (erasedStatements .module body) =
        scopeDirectives (scope.module name) body :=
      scopeDirectives_congr (piecesOf_erasedStatements body .module (scope.module name))
        (Exports.parts_erasedStatements .module body)
    rw [Statement.erased?, Option.toList_some, piecesOf_cons, piecesOf_cons, Statement.producers,
      Statement.producers, List.filterMap_cons, List.filterMap_cons, Producer.piece?,
      Producer.piece?, inside]
  | .classDecl declaration =>
    have block : declaration.erased.block scope = declaration.block scope := by
      refine ClassDeclaration.block_congr ?_ ?_ ?_ ?_ scope
      · rfl
      · exact declaration.modifiers.contains_only .abstract
      · exact TypeParameter.scala_erased declaration.typeParameters
      · exact memberTexts_erased declaration.members
    simp [Statement.erased?, piecesOf_cons, Statement.producers, Producer.piece?, block]
  | .interfaceDecl declaration =>
    have typeParameters := typeParametersText_congr
      (TypeParameter.scala_erased declaration.typeParameters)
    simp [Statement.erased?, piecesOf_cons, Statement.producers, Producer.piece?,
      InterfaceDeclaration.erased, memberTexts_erased, typeParameters]
  | .enumDecl declaration => rfl
  | .variableDecl statement =>
    match kind with
    | .topLevel => exact pieces_erasedVariables scope statement.declarations
    | .module =>
      exact (pieces_erasedVariables scope _).trans (pieces_filteredVariables scope statement)
  | .function declaration =>
    rw [Statement.erased?]
    split <;> rfl
  | .typeAlias _ | .exportAssignment _ => rfl
  | .importDeclaration | .exportDeclaration | .other => rfl

theorem piecesOf_erasedStatements (statements : List Statement) (kind : ScopeKind)
    (scope : Scope) :
    piecesOf scope (erasedStatements kind statements) = piecesOf scope statements := by
  match statements with
  | [] => rfl
  | statement :: statements =>
    have first := statement.pieces_erased kind scope
    have rest := piecesOf_erasedStatements statements kind scope
    have split := piecesOf_append scope [statement] statements
    rw [List.singleton_append] at split
    rw [erasedStatements, piecesOf_append, split, first, rest]

end

/-- **Nothing that is erased influences the facade.** So documents with the same erased form have
the same facade, for every emitter. The text of a scope is made from its pieces and its parts, and
erasing keeps both: parts statement by statement, pieces by recursion into the bodies of modules. -/
theorem Emitter.emit_erased (emitter : Emitter) (document : Document) :
    emitter.emit document.erased = emitter.emit document := by
  refine Emitter.emit_congr (scopeDirectives_congr ?_ ?_)
  · exact piecesOf_erasedStatements document.statements .topLevel (.topLevel emitter.package)
  · exact Exports.parts_erasedStatements .topLevel document.statements

end ScalaFacade
