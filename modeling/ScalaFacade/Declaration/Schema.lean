import ScalaFacade.Declaration.Tree
import ScalaFacade.Json.Container
import ScalaFacade.Json.Format

/-! # The JSON of declaration trees

Statements, members and types are nodes, told apart by their `kind`; everything below them is a
record. The formats of types and statements are built in layers, each of which allows one more level
of nesting; since a text is never read deeper than the nesting limit, as many layers are enough.
-/

set_option autoImplicit false

namespace ScalaFacade

open Json

/-- The keyword that a word stands for. -/
def Keyword.ofWord (word : String) : Keyword :=
  match word with
  | "string" => .string
  | "number" => .number
  | "boolean" => .boolean
  | "void" => .void
  | "any" => .any
  | "object" => .object
  | "never" => .never
  | "this" => .this
  | "null" => .null
  | "undefined" => .undefined
  | "unknown" => .unknown
  | "symbol" => .symbol
  | "bigint" => .bigint
  | _ => .other

/-- The kind of literal that a word stands for. -/
def LiteralKind.ofWord (word : String) : LiteralKind :=
  match word with
  | "string" => .string
  | "number" => .number
  | "boolean" => .boolean
  | _ => .other

/-- The operator that a word stands for. -/
def TypeOperator.ofWord (word : String) : TypeOperator :=
  match word with
  | "keyof" => .keyof
  | "readonly" => .readonly
  | "unique" => .unique
  | _ => .other

/-- A list of modifier keywords. Unknown ones are left out. -/
def Modifiers.format : Format Modifiers :=
  .convert (fun words => Modifiers.ofList (words.filterMap id)) (.list (.word Modifier.ofKeyword?))

/-- The modifiers of a declaration, none unless given. -/
def modifiersField {π σ : Type} (others : Fields π σ) :
    Fields (Option Modifiers × π) (Modifiers × σ) :=
  .optional "modifiers" Modifiers.format .none others

/-! ## Types and members -/

/-- A type parameter, over the format of the types in it. -/
def TypeParameter.format (type : Format TypeNode) : Format TypeParameter :=
  .record "TypeParameter"
    (.required "name" .string <|
      .optional "constraint" (.option type) none <|
      .optional "default" (.option type) none .done)
    fun (name, constraint, default, ()) => { name, constraint, default }

/-- A parameter, over the format of the types in it. -/
def Parameter.format (type : Format TypeNode) : Format Parameter :=
  .record "Parameter"
    (.required "name" .string <|
      .optional "type" (.option type) none <|
      .optional "optional" .boolean false <|
      .optional "rest" .boolean false .done)
    fun (name, type, optional, rest, ()) => { name, type, optional, rest }

/-- A list of type parameters, empty unless given. -/
def typeParametersField {π σ : Type} (type : Format TypeNode) (others : Fields π σ) :
    Fields (Option (List TypeParameter) × π) (List TypeParameter × σ) :=
  .optional "typeParameters" (.list (TypeParameter.format type)) [] others

/-- A list of parameters, empty unless given. -/
def parametersField {π σ : Type} (type : Format TypeNode) (others : Fields π σ) :
    Fields (Option (List Parameter) × π) (List Parameter × σ) :=
  .optional "parameters" (.list (Parameter.format type)) [] others

/-- A type annotation, absent unless given. -/
def annotationField {π σ : Type} (type : Format TypeNode) (others : Fields π σ) :
    Fields (Option (Option TypeNode) × π) (Option TypeNode × σ) :=
  .optional "type" (.option type) none others

/-- A property, over the format of the types in it. -/
def Property.format (type : Format TypeNode) : Format Property :=
  .record "PropertyMember"
    (.required "name" .string <|
      annotationField type <|
      .optional "optional" .boolean false <|
      modifiersField .done)
    fun (name, type, optional, modifiers, ()) => { name, type, optional, modifiers }

/-- A method, over the format of the types in it. -/
def Method.format (type : Format TypeNode) : Format Method :=
  .record "MethodMember"
    (.required "name" .string <|
      typeParametersField type <|
      parametersField type <|
      annotationField type <|
      .optional "optional" .boolean false <|
      modifiersField .done)
    fun (name, typeParameters, parameters, result, optional, modifiers, ()) =>
      { name, typeParameters, parameters, result, optional, modifiers }

/-- An index signature, over the format of the types in it. -/
def IndexSignature.format (type : Format TypeNode) : Format IndexSignature :=
  .record "IndexSignature"
    (parametersField type <| annotationField type <| modifiersField .done)
    fun (parameters, type, modifiers, ()) => { parameters, type, modifiers }

/-- A member, over the format of the types in it. -/
def Member.formatOver (type : Format TypeNode) : Format Member :=
  .node "Member"
    (.variant ["PropertyDeclaration", "PropertySignature"]
        (.convert Member.property (Property.format type)) <|
      .variant ["MethodDeclaration", "MethodSignature"]
        (.convert Member.method (Method.format type)) <|
      .variant ["IndexSignature"] (.convert Member.index (IndexSignature.format type)) .done)
    .other

/-- A type, over the format of the types in it. -/
def TypeNode.layer (type : Format TypeNode) : Format TypeNode :=
  .node "TypeNode"
    (.variant ["KeywordType"]
        (.record "KeywordTypeNode" (.required "keyword" (.word Keyword.ofWord) .done)
          fun (word, ()) => .keyword word) <|
      .variant ["TypeReference"]
        (.record "TypeReferenceNode"
          (.required "typeName" .string <| .optional "typeArguments" (.list type) [] .done)
          fun (name, arguments, ()) => .reference name arguments) <|
      .variant ["LiteralType"]
        (.record "LiteralTypeNode"
          (.required "literal" (.word LiteralKind.ofWord) <| .optional "text" .string "" .done)
          fun (kind, text, ()) => .literal { kind, text }) <|
      .variant ["ArrayType"]
        (.record "ArrayTypeNode" (.required "elementType" type .done)
          fun (element, ()) => .array element) <|
      .variant ["UnionType"]
        (.record "UnionTypeNode" (.required "types" (.list type) .done)
          fun (members, ()) => .union members) <|
      .variant ["IntersectionType"]
        (.record "IntersectionTypeNode" (.required "types" (.list type) .done)
          fun (members, ()) => .intersection members) <|
      .variant ["FunctionType"]
        (.record "FunctionTypeNode"
          (typeParametersField type <| parametersField type <| annotationField type .done)
          fun (typeParameters, parameters, result, ()) =>
            .function typeParameters parameters result) <|
      .variant ["TypeOperator"]
        (.record "TypeOperatorNode"
          (.required "operator" (.word TypeOperator.ofWord) <| .required "type" type .done)
          fun (word, operand, ()) => .operator word operand) <|
      .variant ["ParenthesizedType"]
        (.record "ParenthesizedTypeNode" (.required "type" type .done)
          fun (inner, ()) => .parenthesized inner) <|
      .variant ["TypeLiteral"]
        (.record "TypeLiteralNode"
          (.optional "members" (.list (Member.formatOver type)) [] .done)
          fun (members, ()) => .object members) .done)
    .other

/-- Types of at most `depth` levels. -/
def TypeNode.formatOfDepth : (depth : Nat) → Format TypeNode
  | 0 => .bare .other
  | depth + 1 => TypeNode.layer (TypeNode.formatOfDepth depth)

/-- A type. -/
def TypeNode.format : Format TypeNode := TypeNode.formatOfDepth (nestingLimit + 1)

/-- A member. -/
def Member.format : Format Member := Member.formatOver TypeNode.format

/-! ## Statements -/

/-- A class. -/
def ClassDeclaration.format : Format ClassDeclaration :=
  .record "ClassDeclaration"
    (.optional "name" (.option .string) none <|
      typeParametersField TypeNode.format <|
      .optional "members" (.list Member.format) [] <|
      modifiersField .done)
    fun (name, typeParameters, members, modifiers, ()) =>
      { name, typeParameters, members, modifiers }

/-- An interface. -/
def InterfaceDeclaration.format : Format InterfaceDeclaration :=
  .record "InterfaceDeclaration"
    (.required "name" .string <|
      typeParametersField TypeNode.format <|
      .optional "members" (.list Member.format) [] <|
      modifiersField .done)
    fun (name, typeParameters, members, modifiers, ()) =>
      { name, typeParameters, members, modifiers }

/-- An enumeration, whose members are records of a name. -/
def EnumDeclaration.format : Format EnumDeclaration :=
  .record "EnumDeclaration"
    (.required "name" .string <|
      .optional "members"
        (.list (.record "EnumMember" (.required "name" .string .done) fun (name, ()) => name)) [] <|
      modifiersField .done)
    fun (name, members, modifiers, ()) => { name, members, modifiers }

/-- A type alias. -/
def TypeAliasDeclaration.format : Format TypeAliasDeclaration :=
  .record "TypeAliasDeclaration"
    (.required "name" .string <|
      typeParametersField TypeNode.format <|
      .required "type" TypeNode.format <|
      modifiersField .done)
    fun (name, typeParameters, type, modifiers, ()) => { name, typeParameters, type, modifiers }

/-- One variable. -/
def VariableDeclaration.format : Format VariableDeclaration :=
  .record "VariableDeclaration"
    (.required "name" .string <| annotationField TypeNode.format .done)
    fun (name, type, ()) => { name, type }

/-- A variable statement. -/
def VariableStatement.format : Format VariableStatement :=
  .record "VariableStatement"
    (.optional "declarations" (.list VariableDeclaration.format) [] <| modifiersField .done)
    fun (declarations, modifiers, ()) => { declarations, modifiers }

/-- A function. -/
def FunctionDeclaration.format : Format FunctionDeclaration :=
  .record "FunctionDeclaration"
    (.optional "name" (.option .string) none <|
      typeParametersField TypeNode.format <|
      parametersField TypeNode.format <|
      annotationField TypeNode.format <|
      modifiersField .done)
    fun (name, typeParameters, parameters, result, modifiers, ()) =>
      { name, typeParameters, parameters, result, modifiers }

/-- An export assignment. -/
def ExportAssignment.format : Format ExportAssignment :=
  .record "ExportAssignment"
    (.optional "expression" (.option .string) none <|
      .optional "isExportEquals" .boolean false .done)
    fun (expression, isExportEquals, ()) => { expression, isExportEquals }

/-- A statement, over the format of the statements in it. -/
def Statement.layer (statement : Format Statement) : Format Statement :=
  .node "Statement"
    (.variant ["ModuleDeclaration"]
        (.record "ModuleDeclaration"
          (.required "name" .string <|
            .optional "body" (.option (.list statement)) none <|
            modifiersField .done)
          fun (name, body, modifiers, ()) => .module name body modifiers) <|
      .variant ["ClassDeclaration"] (.convert .classDecl ClassDeclaration.format) <|
      .variant ["InterfaceDeclaration"] (.convert .interfaceDecl InterfaceDeclaration.format) <|
      .variant ["EnumDeclaration"] (.convert .enumDecl EnumDeclaration.format) <|
      .variant ["TypeAliasDeclaration"] (.convert .typeAlias TypeAliasDeclaration.format) <|
      .variant ["VariableStatement"] (.convert .variableDecl VariableStatement.format) <|
      .variant ["FunctionDeclaration"] (.convert .function FunctionDeclaration.format) <|
      .variant ["ExportAssignment"] (.convert .exportAssignment ExportAssignment.format) <|
      .variant ["ImportDeclaration"] (.bare .importDeclaration) <|
      .variant ["ExportDeclaration"] (.bare .exportDeclaration) .done)
    .other

/-- Statements of at most `depth` levels. -/
def Statement.formatOfDepth : (depth : Nat) → Format Statement
  | 0 => .bare .other
  | depth + 1 => Statement.layer (Statement.formatOfDepth depth)

/-- A statement. -/
def Statement.format : Format Statement := Statement.formatOfDepth (nestingLimit + 1)

/-- A document object. -/
def Document.format : Format Document :=
  .record "SourceFile"
    (.optional "fileName" .string "" <| .optional "statements" (.list Statement.format) [] .done)
    fun (fileName, statements, ()) => { fileName, statements }

end ScalaFacade
