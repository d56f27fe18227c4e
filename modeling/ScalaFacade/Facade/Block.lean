import ScalaFacade.Facade.Exports

/-! # Blocks

Every class, interface, enumeration and module of a scope is a block of its own, and so is every
variable annotated with an object type. Packages nest by name and not by braces, so all blocks start
at the left margin, each with an empty line above it. All interfaces of one name in a scope are one
block, at the place of the first.
-/

set_option autoImplicit false

namespace ScalaFacade

open Layout

/-- The mark of declarations that JavaScript provides. -/
def native : Directive := .line "@js.native"

/-- The name of a class that has none. -/
def anonymousClass : String := "AnonymousClass"

/-- The block of a class. -/
def ClassDeclaration.block (declaration : ClassDeclaration) (scope : Scope) : List Directive :=
  let name := declaration.name.getD anonymousClass
  let owner := declaration.owner
  let header := (if owner = .abstractClass then "abstract " else "") ++ "class " ++ Name.escape name
    ++ typeParametersText declaration.typeParameters ++ " extends js.Object"
  [.blank,
    .atRoot
      [native,
        .line (scope.globalAnnotation name),
        .block header ((memberLines declaration.members owner).map .line)]]

/-- The lines of an interface. A method whose line has been written is not written again; all
other members are. -/
def traitLines (members : List Member) : List String :=
  go [] members
where
  /-- The lines of `members` when the method lines `written` are above them. -/
  go (written : List String) : List Member → List String
    | [] => []
    | member :: members =>
      match member.text? .interface with
      | none => go written members
      | some (.method line) =>
        if line ∈ written then go written members else line :: go (line :: written) members
      | some text => text.lines ++ go written members

/-- The block of all declarations of one interface. The first decides on the type parameters. -/
def interfaceBlock : (declarations : List InterfaceDeclaration) → List Directive
  | [] => []
  | first :: others =>
    let header := "trait " ++ Name.escape first.name ++ typeParametersText first.typeParameters
      ++ " extends js.Object"
    let members := (first :: others).flatMap InterfaceDeclaration.members
    [.blank, .atRoot [native, .block header ((traitLines members).map .line)]]

/-- The blocks of an enumeration: the type of its members, and the object that holds them. -/
def EnumDeclaration.blocks (declaration : EnumDeclaration) (scope : Scope) : List Directive :=
  let name := Name.escape declaration.name
  let members := declaration.members.map fun member =>
    "var " ++ memberName member ++ ": " ++ name ++ nativeStub
  [.blank,
    .atRoot
      [native,
        .block ("sealed trait " ++ name ++ " extends js.Object") [],
        .blank,
        native,
        .line (globalBinding (scope.path.qualify declaration.name)),
        .block ("object " ++ name ++ " extends js.Object")
          ((members ++ [bracketAccess, "def apply(value: " ++ name ++ "): String" ++ nativeStub]).map
            .line)]]

/-- The line of a property of an object type, if the member is one. -/
def objectLine? : Member → Option String
  | .property declared => some (declared.line .concreteClass)
  | _ => none

/-- The block of a variable with the members of its object type. -/
def objectBlock (name : String) (members : List Member) (scope : Scope) : List Directive :=
  [.blank,
    .atRoot
      [native,
        .line (scope.globalAnnotation name),
        .block ("object " ++ Name.escape name ++ " extends js.Object")
          ((members.filterMap objectLine?).map .line)]]

/-- The block of a variable that is annotated with an object type. -/
def VariableDeclaration.block (declaration : VariableDeclaration) (scope : Scope) : List Directive :=
  match declaration.objectMembers? with
  | some members => objectBlock declaration.name members scope
  | none => []

/-- The interface that a statement declares. -/
def Statement.interface? : Statement → Option InterfaceDeclaration
  | .interfaceDecl declaration => some declaration
  | _ => none

/-- The interfaces of a scope that have the given name. -/
def interfacesNamed (name : String) (statements : List Statement) : List InterfaceDeclaration :=
  (statements.filterMap Statement.interface?).filter fun declaration => declaration.name == name

/-- Wraps the blocks of a module body into the package of the module. -/
def packageBlock (scope : Scope) (body : List Directive) : List Directive :=
  [.blank, .atRoot [.block ("package " ++ scope.packageName) (body ++ [.blank])]]

mutual

/-- The blocks of a statement. `all` are the statements of its scope, `above` those before it. -/
def Statement.blocks (scope : Scope) (all above : List Statement) : Statement → List Directive
  | .module _ none _ => []
  | .module name (some body) _ =>
    let inner := scope.module name
    packageBlock inner
      (blocksOfAll inner body [] body ++ (Exports.ofStatements inner.kind body).object inner)
  | .classDecl declaration => declaration.block scope
  | .interfaceDecl declaration =>
    if (interfacesNamed declaration.name above).isEmpty then
      interfaceBlock (interfacesNamed declaration.name all)
    else []
  | .enumDecl declaration => declaration.blocks scope
  | .variableDecl statement => statement.declarations.flatMap (·.block scope)
  | .typeAlias _ | .function _ | .exportAssignment _ => []
  | .importDeclaration | .exportDeclaration | .other => []

/-- The blocks of the remaining statements of a scope; `above` are the earlier ones, last first. -/
def blocksOfAll (scope : Scope) (all above : List Statement) : List Statement → List Directive
  | [] => []
  | statement :: statements =>
    statement.blocks scope all above ++ blocksOfAll scope all (statement :: above) statements

end

/-- Everything that stands for the statements of a scope: their blocks, then the object. -/
def scopeDirectives (scope : Scope) (statements : List Statement) : List Directive :=
  blocksOfAll scope statements [] statements
    ++ (Exports.ofStatements scope.kind statements).object scope

end ScalaFacade
