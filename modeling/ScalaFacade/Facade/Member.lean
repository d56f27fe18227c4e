import ScalaFacade.Facade.Type

/-! # Members

The lines that stand for the members of a class or interface and for functions. Which of them end
in `= js.native` and what an unannotated method returns depends on the owner of the member.
-/

set_option autoImplicit false

namespace ScalaFacade

/-- What a member belongs to. -/
inductive Owner where
  | concreteClass
  | abstractClass
  | interface
deriving DecidableEq, Repr

/-- The owner that a class is. -/
def ClassDeclaration.owner (declaration : ClassDeclaration) : Owner :=
  if declaration.modifiers.contains .abstract then .abstractClass else .concreteClass

/-- What a native definition ends in. -/
def nativeStub : String := " = js.native"

/-- What a property of an owner ends in. -/
def Owner.propertyStub : Owner → String
  | .concreteClass | .interface => nativeStub
  | .abstractClass => ""

/-- What a method of an owner ends in. -/
def Owner.methodStub : Owner → String
  | .concreteClass => nativeStub
  | .abstractClass | .interface => ""

/-- What a method of an owner returns if it is not annotated. -/
def Owner.defaultResult : Owner → String
  | .interface => Scala.any
  | .concreteClass | .abstractClass => Scala.unit

/-- The name of a property or method, which may be written as a string literal. -/
def memberName (name : String) : String := Name.escape (Name.unquote name)

/-! ## Parameters -/

/-- The element type of a parameter that takes the rest of the arguments. -/
def restElement : Option TypeNode → String
  | none => Scala.any
  | some type =>
    match type.unparenthesized with
    | .array element => element.scala
    | .reference name [argument] =>
      if name = "Array" ∨ name = "ReadonlyArray" then argument.scala
      else (TypeNode.reference name [argument]).scala
    | plain => plain.scala

/-- A parameter in a parameter list. -/
def Parameter.scala (parameter : Parameter) : String :=
  let name := Name.escape parameter.name
  if parameter.rest then name ++ ": " ++ restElement parameter.type ++ "*"
  else
    let type := scalaTypeOr Scala.any parameter.type
    if parameter.optional then name ++ ": " ++ type ++ " = ???" else name ++ ": " ++ type

/-- A parameter list without its parentheses. -/
def parametersText (parameters : List Parameter) : String :=
  ", ".intercalate (parameters.map Parameter.scala)

/-! ## Lines -/

/-- A definition up to its result type. -/
def signature (name : String) (typeParameters : List TypeParameter) (parameters : List Parameter)
    (result : String) : String :=
  "def " ++ name ++ typeParametersText typeParameters ++ "(" ++ parametersText parameters ++ "): "
    ++ result

/-- The line of a property. -/
def Property.line (property : Property) (owner : Owner) : String :=
  "var " ++ memberName property.name ++ ": " ++ scalaTypeOr Scala.any property.type
    ++ owner.propertyStub

/-- The line of a method. -/
def Method.line (method : Method) (owner : Owner) : String :=
  signature (memberName method.name) method.typeParameters method.parameters
    (scalaTypeOr owner.defaultResult method.result) ++ owner.methodStub

/-- The name and type of the key of an index signature. -/
def IndexSignature.key (index : IndexSignature) : String × String :=
  match index.parameters with
  | key :: _ => (Name.escape key.name, scalaTypeOr Scala.any key.type)
  | [] => ("key", Scala.any)

/-- The annotation of definitions that stand for bracket access. -/
def bracketAccess : String := "@JSBracketAccess"

/-- The lines of an index signature: a definition to get an element and, unless it is read-only,
one to set it. -/
def IndexSignature.lines (index : IndexSignature) (owner : Owner) : List String :=
  let (name, type) := index.key
  let value := scalaTypeOr Scala.any index.type
  let get := "def apply(" ++ name ++ ": " ++ type ++ "): " ++ value ++ owner.methodStub
  let set := "def update(" ++ name ++ ": " ++ type ++ ", v: " ++ value ++ "): Unit"
    ++ owner.methodStub
  if index.modifiers.contains .readonly then [bracketAccess, get]
  else [bracketAccess, get, bracketAccess, set]

/-- The lines of one member, by its sort. -/
inductive MemberText where
  | property (line : String)
  | method (line : String)
  | accessors (lines : List String)
deriving DecidableEq, Repr

/-- All lines of a member. -/
def MemberText.lines : MemberText → List String
  | .property line => [line]
  | .method line => [line]
  | .accessors lines => lines

/-- The lines that stand for a member of an owner; nothing stands for a constructor, a call
signature or an accessor. -/
def Member.text? (member : Member) (owner : Owner) : Option MemberText :=
  match member with
  | .property declared => some (.property (declared.line owner))
  | .method declared => some (.method (declared.line owner))
  | .index declared => some (.accessors (declared.lines owner))
  | .other => none

/-- The lines of all members of a class. -/
def memberLines (members : List Member) (owner : Owner) : List String :=
  (members.filterMap (·.text? owner)).flatMap MemberText.lines

/-- The line of a function, if it has a name. -/
def FunctionDeclaration.line? (function : FunctionDeclaration) : Option String :=
  function.name.map fun name =>
    signature (Name.escape name) function.typeParameters function.parameters
      (scalaTypeOr Scala.unit function.result) ++ nativeStub

end ScalaFacade
