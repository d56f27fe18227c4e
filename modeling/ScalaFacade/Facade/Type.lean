import ScalaFacade.OrderedSet
import ScalaFacade.Scala.Builtin
import ScalaFacade.Scala.Name
import ScalaFacade.Text.Segment

/-! # Types

Every type expression has a Scala type that stands for it; a shape without a counterpart becomes
`js.Any`. Unions and intersections lose repeated members, a union that may be both null and
undefined gives these up for `js.Any`, and the string literals of a union become one `String` in
front of it.
-/

set_option autoImplicit false

namespace ScalaFacade

/-- A type constructor applied to arguments. -/
def applied (constructor : String) (arguments : List String) : String :=
  constructor ++ "[" ++ ", ".intercalate arguments ++ "]"

/-- A named type with the given arguments. Of an array only the first argument counts. -/
def referenceText (name : String) (arguments : List String) : String :=
  if name = "Array" then applied "js.Array" [arguments.headD Scala.any]
  else if name = "ReadonlyArray" then
    match arguments with
    | element :: _ => applied "js.Array" ["_ <: " ++ element]
    | [] => applied "js.Array" [Scala.any]
  else
    let base :=
      match Scala.renamed? name with
      | some renamed => renamed
      | none => ".".intercalate ((Text.split '.' name).map Name.escape)
    if arguments.isEmpty then base else applied base arguments

/-- Whether a type is a number literal without a decimal point, parentheses aside. -/
def TypeNode.isIntegralLiteral (type : TypeNode) : Bool :=
  match type.literal? with
  | some found => found.kind == .number && !found.hasPoint
  | none => false

/-- Whether a type is a number literal with a decimal point, parentheses aside. -/
def TypeNode.isFractionalLiteral (type : TypeNode) : Bool :=
  match type.literal? with
  | some found => found.kind == .number && found.hasPoint
  | none => false

/-- The alternatives of a union, from its members and the types that stand for them. -/
def alternatives (members : List TypeNode) (texts : List String) : OrderedSet String :=
  let all := OrderedSet.ofList texts
  if all.contains Scala.null && all.contains Scala.unit then
    (all.filter fun text => text != Scala.null && text != Scala.unit).insert Scala.any
  else if members.any TypeNode.isStringLiteral then
    let others := (members.zip texts).filter fun (member, _) => !member.isStringLiteral
    (OrderedSet.ofList [Scala.string]).extend (others.map (·.2))
  else all

/-- A union, from its members and the types that stand for them. -/
def unionText (members : List TypeNode) (texts : List String) : String :=
  if members.isEmpty then Scala.any
  else if members.all TypeNode.isStringLiteral then Scala.string
  else if members.all TypeNode.isIntegralLiteral then "Int"
  else if members.all TypeNode.isFractionalLiteral then "Double"
  else (alternatives members texts).join " | "

/-- An intersection, from the types that stand for its members. -/
def intersectionText (texts : List String) : String :=
  if texts.isEmpty then Scala.any else (OrderedSet.ofList texts).join " with "

/-- A function type. Functions of more than two parameters are not told apart. -/
def functionText (parameters : List String) (result : String) : String :=
  match parameters with
  | [] => applied "js.Function0" [result]
  | [a] => applied "js.Function1" [a, result]
  | [a, b] => applied "js.Function2" [a, b, result]
  | _ => "js.Function"

mutual

/-- The Scala type that stands for a type expression. -/
def TypeNode.scala : TypeNode → String
  | .keyword word => word.scala
  | .reference name arguments => referenceText name (scalaTypes arguments)
  | .literal found => found.scala
  | .array element => applied "js.Array" [element.scala]
  | .union members => unionText members (scalaTypes members)
  | .intersection members => intersectionText (scalaTypes members)
  | .function _ parameters result =>
    functionText (parameterTypes parameters) (scalaTypeOr Scala.unit result)
  | .operator word _ => word.scala
  | .parenthesized inner => inner.scala
  | .object _ => Scala.any
  | .other => Scala.any

/-- The Scala types that stand for a list of type expressions. -/
def scalaTypes : List TypeNode → List String
  | [] => []
  | type :: types => type.scala :: scalaTypes types

/-- The Scala type that stands for an annotation, or the given one if there is none. -/
def scalaTypeOr (absent : String) : Option TypeNode → String
  | none => absent
  | some type => type.scala

/-- The types of the parameters of a function type. -/
def parameterTypes : List Parameter → List String
  | [] => []
  | ⟨_, type, _, _⟩ :: parameters => scalaTypeOr Scala.any type :: parameterTypes parameters

end

theorem scalaTypes_eq_map (types : List TypeNode) : scalaTypes types = types.map TypeNode.scala := by
  induction types with
  | nil => rfl
  | cons type types ih => rw [scalaTypes, ih, List.map_cons]

/-- The types that stand for the members of a union that are no string literals. -/
theorem otherTypes_eq (members : List TypeNode) :
    (((members.zip (scalaTypes members)).filter fun (member, _) =>
        !member.isStringLiteral).map (·.2)) =
      (members.filter fun member => !member.isStringLiteral).map TypeNode.scala := by
  have paired : members.zip (scalaTypes members) = members.map fun type => (type, type.scala) := by
    induction members with
    | nil => rfl
    | cons member members ih => rw [scalaTypes, List.zip_cons_cons, ih, List.map_cons]
  rw [paired, List.filter_map, List.map_map]
  rfl

/-- One type parameter with its bound. -/
def TypeParameter.scala (parameter : TypeParameter) : String :=
  match parameter.constraint with
  | some bound => Name.escape parameter.name ++ " <: " ++ bound.scala
  | none => Name.escape parameter.name

/-- A list of type parameters in brackets, nothing if it is empty. -/
def typeParametersText (parameters : List TypeParameter) : String :=
  if parameters.isEmpty then "" else applied "" (parameters.map TypeParameter.scala)

end ScalaFacade
