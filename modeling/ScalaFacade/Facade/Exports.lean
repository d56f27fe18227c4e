import ScalaFacade.Facade.Member
import ScalaFacade.Facade.Scope
import ScalaFacade.Layout.Writer

/-! # What a scope declares outside of classes

Type aliases, functions and, at top level, variables have no declaration of their own in Scala. They
are collected while a scope is gone through and become the members of one object at its end.
-/

set_option autoImplicit false

namespace ScalaFacade

open Layout

/-- The declarations of a scope by sort, each in the order of the source. -/
structure Exports where
  interfaces : List InterfaceDeclaration := []
  typeAliases : List TypeAliasDeclaration := []
  functions : List FunctionDeclaration := []
  exportAssignments : List ExportAssignment := []
  looseVariables : List VariableDeclaration := []

namespace Exports

/-- Adds a statement of a scope of the given kind. -/
def record (kind : ScopeKind) (exports : Exports) : Statement → Exports
  | .interfaceDecl declaration =>
    if kind = .module ∨ declaration.modifiers.contains .exported then
      { exports with interfaces := exports.interfaces ++ [declaration] }
    else exports
  | .typeAlias declaration => { exports with typeAliases := exports.typeAliases ++ [declaration] }
  | .function declaration =>
    if declaration.name.isSome then
      { exports with functions := exports.functions ++ [declaration] }
    else exports
  | .exportAssignment assignment =>
    { exports with exportAssignments := exports.exportAssignments ++ [assignment] }
  | .variableDecl statement =>
    if kind = .topLevel then
      let loose := statement.declarations.filter fun d => d.objectMembers?.isNone
      { exports with looseVariables := exports.looseVariables ++ loose }
    else exports
  | _ => exports

/-- The declarations of a list of statements. -/
def ofStatements (kind : ScopeKind) (statements : List Statement) : Exports :=
  statements.foldl (record kind) {}

/-- Whether a scope gets an object. An export assignment counts even if nothing is known about what
it exports. -/
def hasMembers (exports : Exports) (kind : ScopeKind) : Bool :=
  !exports.typeAliases.isEmpty || !exports.exportAssignments.isEmpty ||
    match kind with
    | .topLevel => !exports.looseVariables.isEmpty
    | .module => !exports.functions.isEmpty

/-- The first function of a name. -/
def functionNamed? (exports : Exports) (name : String) : Option FunctionDeclaration :=
  exports.functions.find? fun function => function.name == some name

/-- The line of the function that an export assignment names. -/
def assignmentLine? (exports : Exports) (assignment : ExportAssignment) : Option String := do
  let name ← assignment.expression
  let function ← exports.functionNamed? name
  function.line?

end Exports

/-- The line of a type alias. -/
def TypeAliasDeclaration.line (declaration : TypeAliasDeclaration) : String :=
  "type " ++ Name.escape declaration.name ++ typeParametersText declaration.typeParameters ++ " = "
    ++ declaration.type.scala

/-- The line of a variable. -/
def VariableDeclaration.line (declaration : VariableDeclaration) : String :=
  "val " ++ Name.escape declaration.name ++ ": " ++ scalaTypeOr Scala.any declaration.type
    ++ nativeStub

namespace Exports

/-- The lines of the object, each once: the type aliases, the functions that are exported, all
functions of a module, and the variables. -/
def memberLines (exports : Exports) (kind : ScopeKind) : OrderedSet String :=
  let aliases := exports.typeAliases.map TypeAliasDeclaration.line
  let exported := exports.exportAssignments.filterMap exports.assignmentLine?
  let functions :=
    match kind with
    | .topLevel => []
    | .module => exports.functions.filterMap FunctionDeclaration.line?
  let values := exports.looseVariables.map VariableDeclaration.line
  OrderedSet.ofList (aliases ++ exported ++ functions ++ values)

/-- The object of a scope, if it gets one. -/
def object (exports : Exports) (scope : Scope) : List Directive :=
  if exports.hasMembers scope.kind then
    [.blank,
      .atRoot
        [.line "@js.native",
          .line scope.objectAnnotation,
          .block ("object " ++ scope.objectName ++ " extends js.Object")
            ((exports.memberLines scope.kind).entries.map .line)]]
  else []

end Exports

end ScalaFacade
