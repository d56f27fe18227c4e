import ScalaFacade.Declaration.Modifier

/-! # Declaration trees

The part of TypeScript that an ambient declaration file is made of: statements, the members of
classes, interfaces and object types, and type expressions. What lies outside of that part has a
place in the tree (`other`), but no content.
-/

set_option autoImplicit false

namespace ScalaFacade

/-- The keyword types. -/
inductive Keyword where
  | string
  | number
  | boolean
  | void
  | any
  | object
  | never
  | this
  | null
  | undefined
  | unknown
  | symbol
  | bigint
  | other
deriving DecidableEq, Repr

/-- The kinds of literals that occur as types. -/
inductive LiteralKind where
  | string
  | number
  | boolean
  | other
deriving DecidableEq, Repr

/-- The operators in front of a type. -/
inductive TypeOperator where
  | keyof
  | readonly
  | unique
  | other
deriving DecidableEq, Repr

/-- A literal as a type, with its source text (`"a"`, `1.5`, `true`). -/
structure Literal where
  kind : LiteralKind
  text : String
deriving DecidableEq, Repr

mutual

/-- A type expression. -/
inductive TypeNode where
  | keyword (keyword : Keyword)
  /-- A possibly qualified name (`ns.Foo`) with type arguments. -/
  | reference (name : String) (arguments : List TypeNode)
  | literal (literal : Literal)
  | array (element : TypeNode)
  | union (members : List TypeNode)
  | intersection (members : List TypeNode)
  | function (typeParameters : List TypeParameter) (parameters : List Parameter)
      (result : Option TypeNode)
  | operator (operator : TypeOperator) (operand : TypeNode)
  | parenthesized (inner : TypeNode)
  /-- An object type, given by its members. -/
  | object (members : List Member)
  /-- Every other shape of type. -/
  | other

/-- A type parameter with its bound and its default. -/
structure TypeParameter where
  name : String
  constraint : Option TypeNode := none
  default : Option TypeNode := none

/-- A parameter of a function or an index signature. -/
structure Parameter where
  name : String
  type : Option TypeNode := none
  /-- `name?: T` -/
  optional : Bool := false
  /-- `...name: T[]` -/
  rest : Bool := false

/-- A property of a class, an interface or an object type. -/
structure Property where
  name : String
  type : Option TypeNode := none
  optional : Bool := false
  modifiers : Modifiers := .none

/-- A method of a class, an interface or an object type. -/
structure Method where
  name : String
  typeParameters : List TypeParameter := []
  parameters : List Parameter := []
  result : Option TypeNode := none
  optional : Bool := false
  modifiers : Modifiers := .none

/-- An index signature `[key: string]: T`. -/
structure IndexSignature where
  parameters : List Parameter := []
  type : Option TypeNode := none
  modifiers : Modifiers := .none

/-- A member of a class, an interface or an object type. -/
inductive Member where
  | property (property : Property)
  | method (method : Method)
  | index (signature : IndexSignature)
  /-- Constructors, call signatures, accessors and the like. -/
  | other

end

/-- A class; without a name it is `export default class`. -/
structure ClassDeclaration where
  name : Option String := none
  typeParameters : List TypeParameter := []
  members : List Member := []
  modifiers : Modifiers := .none

/-- An interface. -/
structure InterfaceDeclaration where
  name : String
  typeParameters : List TypeParameter := []
  members : List Member := []
  modifiers : Modifiers := .none

/-- An enumeration, given by the names of its members. -/
structure EnumDeclaration where
  name : String
  members : List String := []
  modifiers : Modifiers := .none

/-- A type alias. -/
structure TypeAliasDeclaration where
  name : String
  typeParameters : List TypeParameter := []
  type : TypeNode
  modifiers : Modifiers := .none

/-- One variable of a variable statement. -/
structure VariableDeclaration where
  name : String
  type : Option TypeNode := none

/-- The variables declared by one statement. -/
structure VariableStatement where
  declarations : List VariableDeclaration := []
  modifiers : Modifiers := .none

/-- A function; without a name it is `export default function`. -/
structure FunctionDeclaration where
  name : Option String := none
  typeParameters : List TypeParameter := []
  parameters : List Parameter := []
  result : Option TypeNode := none
  modifiers : Modifiers := .none

/-- `export = foo;` or `export default foo;`. Only a bare identifier counts as an expression. -/
structure ExportAssignment where
  expression : Option String := none
  isExportEquals : Bool := false

/-- A statement of a document or of a module body. -/
inductive Statement where
  /-- A module or namespace; one without a body is a shorthand (`declare module "foo";`). -/
  | module (name : String) (body : Option (List Statement)) (modifiers : Modifiers)
  | classDecl (declaration : ClassDeclaration)
  | interfaceDecl (declaration : InterfaceDeclaration)
  | enumDecl (declaration : EnumDeclaration)
  | typeAlias (declaration : TypeAliasDeclaration)
  | variableDecl (statement : VariableStatement)
  | function (declaration : FunctionDeclaration)
  | exportAssignment (assignment : ExportAssignment)
  | importDeclaration
  | exportDeclaration
  /-- Every other statement. -/
  | other

/-- A declaration document. -/
structure Document where
  fileName : String := ""
  statements : List Statement := []

/-! ## Questions about types -/

/-- The type of a string literal, written in double quotes. -/
def TypeNode.stringLiteral (value : String) : TypeNode :=
  .literal ⟨.string, "\"" ++ value ++ "\""⟩

/-- The type inside any number of parentheses. -/
def TypeNode.unparenthesized : TypeNode → TypeNode
  | .parenthesized inner => inner.unparenthesized
  | type => type

/-- The literal that a type is, parentheses aside. -/
def TypeNode.literal? (type : TypeNode) : Option Literal :=
  match type.unparenthesized with
  | .literal found => some found
  | _ => none

/-- Whether a type is a string literal, parentheses aside. -/
def TypeNode.isStringLiteral (type : TypeNode) : Bool :=
  match type.literal? with
  | some found => found.kind == .string
  | none => false

/-- The members of the object type that a variable is annotated with. An object type in
parentheses does not count. -/
def VariableDeclaration.objectMembers? (declaration : VariableDeclaration) :
    Option (List Member) :=
  match declaration.type with
  | some (.object members) => some members
  | _ => none

end ScalaFacade
