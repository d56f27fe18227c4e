import ScalaFacade.Declaration.Tree
import ScalaFacade.Proofs.Json.Printing

/-! # Canonical texts of documents

A document can be written in many ways: entries in any order, defaults left out or spelled out,
records as arrays, white space anywhere. The canonical text is the one that a tree is *written* as,
and the yardstick for "reading undoes writing":

* statements, members and types are objects tagged by their kind,
* the fields of a declaration are entries in the order of declaration,
* what is absent is left out; what has a default but is a list, a flag or a set of modifiers is
  always written,
* modifiers are the list of their keywords.

Some constructors of the tree keep no content: they stand for a statement, member, type, keyword,
literal or operator that is not known. A canonical text has to write *something* there. Which word
that is cannot be recovered from the tree and must not matter, so the words are a parameter
(`UnknownWords`): any word will do that is not among the known ones, and the type carries the proofs
of that.

Nothing here depends on the formats that documents are read with. The printer is written down from
the tree, the formats from the reader, and that they agree is a theorem of another module, not a
matter of definition. The lists of known words at the start are for the same reason spelled out once
more.

Trees are printed by functions for each kind of list that they occur in, because the recursion is
structural; the `_eq_map` lemmas turn these into `List.map`, which is what the printers of formats
use.
-/

set_option autoImplicit false

namespace ScalaFacade

open Json

/-! ## Words

The words that are known, in each of the places where one may be unknown. -/

/-- The kinds of statement that have a constructor of their own. -/
def Statement.kinds : List String :=
  ["ModuleDeclaration", "ClassDeclaration", "InterfaceDeclaration", "EnumDeclaration",
    "TypeAliasDeclaration", "VariableStatement", "FunctionDeclaration", "ExportAssignment",
    "ImportDeclaration", "ExportDeclaration"]

/-- The kinds of member. A declaration in a class and a signature in an interface are two kinds for
one constructor. -/
def Member.kinds : List String :=
  ["PropertyDeclaration", "PropertySignature", "MethodDeclaration", "MethodSignature",
    "IndexSignature"]

def TypeNode.kinds : List String :=
  ["KeywordType", "TypeReference", "LiteralType", "ArrayType", "UnionType", "IntersectionType",
    "FunctionType", "TypeOperator", "ParenthesizedType", "TypeLiteral"]

def Keyword.words : List String :=
  ["string", "number", "boolean", "void", "any", "object", "never", "this", "null", "undefined",
    "unknown", "symbol", "bigint"]

def LiteralKind.words : List String := ["string", "number", "boolean"]

def TypeOperator.words : List String := ["keyof", "readonly", "unique"]

/-- Words that are not known where they stand, for what has no word of its own. They are six, since
a word that is unknown as a statement may be known as a type. -/
structure UnknownWords where
  statement : String
  member : String
  type : String
  keyword : String
  literal : String
  operator : String
  statement_unknown : statement ∉ Statement.kinds := by decide
  member_unknown : member ∉ Member.kinds := by decide
  type_unknown : type ∉ TypeNode.kinds := by decide
  keyword_unknown : keyword ∉ Keyword.words := by decide
  literal_unknown : literal ∉ LiteralKind.words := by decide
  operator_unknown : operator ∉ TypeOperator.words := by decide

/-- The word of a keyword type. -/
def Keyword.word (words : UnknownWords) : Keyword → String
  | .string => "string"
  | .number => "number"
  | .boolean => "boolean"
  | .void => "void"
  | .any => "any"
  | .object => "object"
  | .never => "never"
  | .this => "this"
  | .null => "null"
  | .undefined => "undefined"
  | .unknown => "unknown"
  | .symbol => "symbol"
  | .bigint => "bigint"
  | .other => words.keyword

/-- The word of a kind of literal. -/
def LiteralKind.word (words : UnknownWords) : LiteralKind → String
  | .string => "string"
  | .number => "number"
  | .boolean => "boolean"
  | .other => words.literal

/-- The word of an operator. -/
def TypeOperator.word (words : UnknownWords) : TypeOperator → String
  | .keyof => "keyof"
  | .readonly => "readonly"
  | .unique => "unique"
  | .other => words.operator

/-- The keywords of the modifiers in a set. -/
def Modifiers.canonical (set : Modifiers) : Plain :=
  .array (set.toList.map fun m => .string m.keyword)

section

variable (words : UnknownWords)

/-! ## Types and members -/

mutual

/-- A type as JSON. -/
def TypeNode.canonical : TypeNode → Plain
  | .keyword keyword => .node "KeywordType" [("keyword", .string (keyword.word words))]
  | .reference name arguments =>
    .node "TypeReference"
      [("typeName", .string name), ("typeArguments", .array (canonicalTypes arguments))]
  | .literal literal =>
    .node "LiteralType"
      [("literal", .string (literal.kind.word words)), ("text", .string literal.text)]
  | .array element => .node "ArrayType" [("elementType", element.canonical)]
  | .union members => .node "UnionType" [("types", .array (canonicalTypes members))]
  | .intersection members => .node "IntersectionType" [("types", .array (canonicalTypes members))]
  | .function typeParameters parameters result =>
    .node "FunctionType"
      (("typeParameters", .array (canonicalTypeParameters typeParameters)) ::
        ("parameters", .array (canonicalParameters parameters)) :: canonicalType? "type" result)
  | .operator operator operand =>
    .node "TypeOperator"
      [("operator", .string (operator.word words)), ("type", operand.canonical)]
  | .parenthesized inner => .node "ParenthesizedType" [("type", inner.canonical)]
  | .object members => .node "TypeLiteral" [("members", .array (canonicalMembers members))]
  | .other => .node words.type []

def canonicalTypes : List TypeNode → List Plain
  | [] => []
  | type :: types => type.canonical :: canonicalTypes types

def canonicalType? (key : String) : Option TypeNode → List (String × Plain)
  | none => []
  | some type => [(key, type.canonical)]

/-- The fields of a type parameter. -/
def TypeParameter.entries : TypeParameter → List (String × Plain)
  | ⟨name, constraint, default⟩ =>
    ("name", .string name) ::
      (canonicalType? "constraint" constraint ++ canonicalType? "default" default)

def canonicalTypeParameters : List TypeParameter → List Plain
  | [] => []
  | parameter :: parameters => .object parameter.entries :: canonicalTypeParameters parameters

/-- The fields of a parameter. -/
def Parameter.entries : Parameter → List (String × Plain)
  | ⟨name, type, optional, rest⟩ =>
    ("name", .string name) ::
      (canonicalType? "type" type ++ [("optional", .boolean optional), ("rest", .boolean rest)])

def canonicalParameters : List Parameter → List Plain
  | [] => []
  | parameter :: parameters => .object parameter.entries :: canonicalParameters parameters

/-- The fields of a property. -/
def Property.entries : Property → List (String × Plain)
  | ⟨name, type, optional, modifiers⟩ =>
    ("name", .string name) ::
      (canonicalType? "type" type
        ++ [("optional", .boolean optional), ("modifiers", modifiers.canonical)])

/-- The fields of a method. -/
def Method.entries : Method → List (String × Plain)
  | ⟨name, typeParameters, parameters, result, optional, modifiers⟩ =>
    ("name", .string name) ::
      ("typeParameters", .array (canonicalTypeParameters typeParameters)) ::
      ("parameters", .array (canonicalParameters parameters)) ::
      (canonicalType? "type" result
        ++ [("optional", .boolean optional), ("modifiers", modifiers.canonical)])

/-- The fields of an index signature. -/
def IndexSignature.entries : IndexSignature → List (String × Plain)
  | ⟨parameters, type, modifiers⟩ =>
    ("parameters", .array (canonicalParameters parameters)) ::
      (canonicalType? "type" type ++ [("modifiers", modifiers.canonical)])

/-- A member as JSON. -/
def Member.canonical : Member → Plain
  | .property property => .node "PropertyDeclaration" property.entries
  | .method method => .node "MethodDeclaration" method.entries
  | .index signature => .node "IndexSignature" signature.entries
  | .other => .node words.member []

def canonicalMembers : List Member → List Plain
  | [] => []
  | member :: members => member.canonical :: canonicalMembers members

end

/-- A list of types is printed type by type. The recursion over the tree has to see the list, so it
cannot be defined like this. -/
theorem canonicalTypes_eq_map (types : List TypeNode) :
    canonicalTypes words types = types.map (TypeNode.canonical words) := by
  induction types with
  | nil => rfl
  | cons type types ih => rw [canonicalTypes, ih, List.map_cons]

theorem canonicalTypeParameters_eq_map (parameters : List TypeParameter) :
    canonicalTypeParameters words parameters =
      parameters.map fun parameter => .object (parameter.entries words) := by
  induction parameters with
  | nil => rfl
  | cons parameter parameters ih => rw [canonicalTypeParameters, ih, List.map_cons]

theorem canonicalParameters_eq_map (parameters : List Parameter) :
    canonicalParameters words parameters =
      parameters.map fun parameter => .object (parameter.entries words) := by
  induction parameters with
  | nil => rfl
  | cons parameter parameters ih => rw [canonicalParameters, ih, List.map_cons]

theorem canonicalMembers_eq_map (members : List Member) :
    canonicalMembers words members = members.map (Member.canonical words) := by
  induction members with
  | nil => rfl
  | cons member members ih => rw [canonicalMembers, ih, List.map_cons]

/-- An annotation is an entry if it is there. This is the shape in which optional fields are
decoded. -/
theorem canonicalType?_eq_optional (key : String) (type : Option TypeNode) :
    canonicalType? words key type = Plain.optional key (TypeNode.canonical words) type := by
  cases type <;> rfl

/-! ## Statements -/

/-- The fields of a class. -/
def ClassDeclaration.entries (declaration : ClassDeclaration) : List (String × Plain) :=
  Plain.optional "name" .string declaration.name
    ++ [("typeParameters", .array (canonicalTypeParameters words declaration.typeParameters)),
      ("members", .array (canonicalMembers words declaration.members)),
      ("modifiers", declaration.modifiers.canonical)]

/-- The fields of an interface. -/
def InterfaceDeclaration.entries (declaration : InterfaceDeclaration) : List (String × Plain) :=
  [("name", .string declaration.name),
    ("typeParameters", .array (canonicalTypeParameters words declaration.typeParameters)),
    ("members", .array (canonicalMembers words declaration.members)),
    ("modifiers", declaration.modifiers.canonical)]

/-- The fields of an enumeration. -/
def EnumDeclaration.entries (declaration : EnumDeclaration) : List (String × Plain) :=
  [("name", .string declaration.name),
    ("members", .array (declaration.members.map fun name => .object [("name", .string name)])),
    ("modifiers", declaration.modifiers.canonical)]

/-- The fields of a type alias. -/
def TypeAliasDeclaration.entries (declaration : TypeAliasDeclaration) : List (String × Plain) :=
  [("name", .string declaration.name),
    ("typeParameters", .array (canonicalTypeParameters words declaration.typeParameters)),
    ("type", declaration.type.canonical words),
    ("modifiers", declaration.modifiers.canonical)]

/-- The fields of one variable. -/
def VariableDeclaration.entries (declaration : VariableDeclaration) : List (String × Plain) :=
  ("name", .string declaration.name) ::
    Plain.optional "type" (TypeNode.canonical words) declaration.type

/-- The fields of a variable statement. -/
def VariableStatement.entries (statement : VariableStatement) : List (String × Plain) :=
  [("declarations", .array (statement.declarations.map fun declaration =>
      .object (declaration.entries words))),
    ("modifiers", statement.modifiers.canonical)]

/-- The fields of a function. -/
def FunctionDeclaration.entries (declaration : FunctionDeclaration) : List (String × Plain) :=
  Plain.optional "name" .string declaration.name
    ++ ("typeParameters", .array (canonicalTypeParameters words declaration.typeParameters)) ::
      ("parameters", .array (canonicalParameters words declaration.parameters)) ::
      (Plain.optional "type" (TypeNode.canonical words) declaration.result
        ++ [("modifiers", declaration.modifiers.canonical)])

/-- The fields of an export assignment. -/
def ExportAssignment.entries (assignment : ExportAssignment) : List (String × Plain) :=
  Plain.optional "expression" .string assignment.expression
    ++ [("isExportEquals", .boolean assignment.isExportEquals)]

mutual

/-- A statement as JSON. -/
def Statement.canonical : Statement → Plain
  | .module name body modifiers =>
    .node "ModuleDeclaration"
      (("name", .string name) :: (canonicalBody? body ++ [("modifiers", modifiers.canonical)]))
  | .classDecl declaration => .node "ClassDeclaration" (declaration.entries words)
  | .interfaceDecl declaration => .node "InterfaceDeclaration" (declaration.entries words)
  | .enumDecl declaration => .node "EnumDeclaration" declaration.entries
  | .typeAlias declaration => .node "TypeAliasDeclaration" (declaration.entries words)
  | .variableDecl statement => .node "VariableStatement" (statement.entries words)
  | .function declaration => .node "FunctionDeclaration" (declaration.entries words)
  | .exportAssignment assignment => .node "ExportAssignment" assignment.entries
  | .importDeclaration => .node "ImportDeclaration" []
  | .exportDeclaration => .node "ExportDeclaration" []
  | .other => .node words.statement []

def canonicalStatements : List Statement → List Plain
  | [] => []
  | statement :: statements => statement.canonical :: canonicalStatements statements

def canonicalBody? : Option (List Statement) → List (String × Plain)
  | none => []
  | some body => [("body", .array (canonicalStatements body))]

end

theorem canonicalStatements_eq_map (statements : List Statement) :
    canonicalStatements words statements = statements.map (Statement.canonical words) := by
  induction statements with
  | nil => rfl
  | cons statement statements ih => rw [canonicalStatements, ih, List.map_cons]

/-- The body of a module is an optional entry as well. A module without a body is not one with an
empty body. -/
theorem canonicalBody?_eq_optional (body : Option (List Statement)) :
    canonicalBody? words body =
      Plain.optional "body" (fun body => .array (body.map (Statement.canonical words))) body := by
  cases body with
  | none => rfl
  | some body => rw [canonicalBody?, canonicalStatements_eq_map, Plain.optional]

end

/-! ## Documents -/

/-- A document as JSON. -/
def Document.canonical (words : UnknownWords) (document : Document) : Plain :=
  .object [("fileName", .string document.fileName),
    ("statements", .array (document.statements.map (Statement.canonical words)))]

/-- The canonical text of a document. -/
def Document.canonicalText (words : UnknownWords) (document : Document) : String :=
  String.ofList (document.canonical words).text

/-- Words that could come from a later version of the format. They are unknown today, so that a
document that uses them is read with these parts left empty. -/
def laterWords : UnknownWords where
  statement := "UsingDeclaration"
  member := "ClassStaticBlock"
  type := "TemplateLiteralType"
  keyword := "intrinsic"
  literal := "bigint"
  operator := "asserts"

example : ({ fileName := "a\t", statements := [.module "m" none (.single .ambient)] } :
    Document).canonicalText laterWords =
      "\x7b\"fileName\":\"a\\t\",\"statements\":[\x7b\"kind\":\"ModuleDeclaration\",\"name\":\"m\"," ++
        "\"modifiers\":[\"declare\"]\x7d]\x7d" := by
  decide

end ScalaFacade
