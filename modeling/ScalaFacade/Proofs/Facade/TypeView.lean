import ScalaFacade.Proofs.Facade.Pieces

/-! # What is seen of a type

Lines and blocks look at the types in a declaration in three ways: they print a type, they ask
whether a member of a union is a literal of some sort, and they look for the element type of a
parameter that takes the rest of the arguments. The answers together are the **view** of a type.

> Two types with the same view can stand for each other, inside other types and in every line.

There are two layers, and each is a list of congruences:

* For types inside types, the view of the whole is determined by the views of its parts
  (`view_union` and its siblings). The printed text alone would not do for that: a union asks more
  of its members than how they are printed.
* For parameters, members and declarations, the text is determined by views. Hypotheses are about
  `TypeParameter.scala` and `Parameter.scala` where a whole list is written, so that a lemma about
  one parameter is used through `List.map`.

One question about types is not answered by a view: whether the annotation of a variable is an
object type, which decides if the variable has a block of its own, and what is in it. Those who
change types at such a place have to deal with it themselves.
-/

set_option autoImplicit false

namespace ScalaFacade

open Layout

/-! ## Views

First the texts that are functions of views: of lists of types, of annotations and of parameters. -/

/-- The answers to all questions about a type. -/
structure TypeView where
  scala : String
  isString : Bool
  isIntegral : Bool
  isFractional : Bool
  /-- The element type of a parameter of this type that takes the rest of the arguments. -/
  rest : String

/-- What is seen of a type. -/
def TypeNode.view (type : TypeNode) : TypeView where
  scala := type.scala
  isString := type.isStringLiteral
  isIntegral := type.isIntegralLiteral
  isFractional := type.isFractionalLiteral
  rest := restElement (some type)

/-- The view of a type that is neither a literal nor an array. -/
def TypeView.solid (scala : String) : TypeView := ⟨scala, false, false, false, scala⟩

theorem scalaTypes_eq_views (types : List TypeNode) :
    scalaTypes types = (types.map TypeNode.view).map TypeView.scala := by
  rw [scalaTypes_eq_map, List.map_map]
  rfl

theorem scalaTypeOr_eq_view (absent : String) (type : Option TypeNode) :
    scalaTypeOr absent type = ((type.map TypeNode.view).map TypeView.scala).getD absent := by
  cases type <;> rfl

/-- An annotation that is absent has no view, and the default steps in. -/
theorem restElement_eq_view (type : Option TypeNode) :
    restElement type = ((type.map TypeNode.view).map TypeView.rest).getD Scala.any := by
  cases type <;> rfl

theorem parameterTypes_eq_views (parameters : List Parameter) :
    parameterTypes parameters =
      (parameters.map fun parameter => parameter.type.map TypeNode.view).map fun view =>
        (view.map TypeView.scala).getD Scala.any := by
  induction parameters with
  | nil => rfl
  | cons parameter parameters ih =>
    obtain ⟨_, type, _, _⟩ := parameter
    rw [parameterTypes, ih, scalaTypeOr_eq_view]
    rfl

/-! ## Types inside types

One congruence for each shape of type that has others in it. -/

/-- Parentheses cannot be seen. All questions look through them, each in its own definition. -/
@[simp] theorem view_parenthesized (type : TypeNode) :
    (TypeNode.parenthesized type).view = type.view := rfl

theorem view_array (element : TypeNode) :
    (TypeNode.array element).view =
      { TypeView.solid (applied "js.Array" [element.view.scala]) with
        rest := element.view.scala } := rfl

/-- The arguments of a named type count by their views. As the annotation of a parameter that takes
the rest, an array has its element type seen, which is why one argument is a case of its own. -/
theorem view_reference (name : String) {types types' : List TypeNode}
    (h : types.map TypeNode.view = types'.map TypeNode.view) :
    (TypeNode.reference name types).view = (TypeNode.reference name types').view := by
  have texts : scalaTypes types = scalaTypes types' := by
    rw [scalaTypes_eq_views, scalaTypes_eq_views, h]
  have scala : (TypeNode.reference name types).scala = (TypeNode.reference name types').scala := by
    rw [TypeNode.scala, TypeNode.scala, texts]
  -- Only a single argument is an element type, and both lists are equally long.
  have rest : restElement (some (.reference name types)) =
      restElement (some (.reference name types')) := by
    match types, types', h with
    | [], [], _ => rfl
    | [type], [type'], h =>
      have element : type.scala = type'.scala :=
        congrArg TypeView.scala (List.cons.inj h).1
      simp only [restElement, TypeNode.unparenthesized, element, scala]
    | _ :: _ :: _, _ :: _ :: _, _ => exact scala
    | [], _ :: _, h | _ :: _, [], h => exact absurd h (by simp)
    | [_], _ :: _ :: _, h | _ :: _ :: _, [_], h => exact absurd h (by simp)
  simp only [TypeNode.view, scala, rest]
  rfl

/-- The members of a union that are no string literals, by their views. -/
theorem others_eq_views (types : List TypeNode) :
    ((types.zip (scalaTypes types)).filter fun (member, _) => !member.isStringLiteral).map (·.2) =
      ((types.map TypeNode.view).filter fun view => !view.isString).map TypeView.scala := by
  rw [otherTypes_eq, List.filter_map, List.map_map]
  rfl

/-- The one shape that asks all questions about literals: whether all members are string literals,
all integral, all fractional, or any a string. Each is a question about the list of views. -/
theorem view_union {types types' : List TypeNode}
    (h : types.map TypeNode.view = types'.map TypeNode.view) :
    (TypeNode.union types).view = (TypeNode.union types').view := by
  have texts : scalaTypes types = scalaTypes types' := by
    rw [scalaTypes_eq_views, scalaTypes_eq_views, h]
  have strings (members : List TypeNode) : members.all TypeNode.isStringLiteral =
      (members.map TypeNode.view).all TypeView.isString := by rw [List.all_map]; rfl
  have integrals (members : List TypeNode) : members.all TypeNode.isIntegralLiteral =
      (members.map TypeNode.view).all TypeView.isIntegral := by rw [List.all_map]; rfl
  have fractionals (members : List TypeNode) : members.all TypeNode.isFractionalLiteral =
      (members.map TypeNode.view).all TypeView.isFractional := by rw [List.all_map]; rfl
  have string (members : List TypeNode) : members.any TypeNode.isStringLiteral =
      (members.map TypeNode.view).any TypeView.isString := by rw [List.any_map]; rfl
  have others := others_eq_views types
  rw [h, ← others_eq_views types', texts] at others
  have alternatives : alternatives types (scalaTypes types) =
      alternatives types' (scalaTypes types') := by
    simp only [ScalaFacade.alternatives, string, h, texts, others]
  have empty : types.isEmpty = types'.isEmpty := by
    rw [← List.isEmpty_map (f := TypeNode.view), h, List.isEmpty_map]
  have scala : (TypeNode.union types).scala = (TypeNode.union types').scala := by
    simp only [TypeNode.scala, unionText, empty, strings, integrals, fractionals, h, alternatives]
  exact congrArg TypeView.solid scala

theorem view_intersection {types types' : List TypeNode}
    (h : types.map TypeNode.view = types'.map TypeNode.view) :
    (TypeNode.intersection types).view = (TypeNode.intersection types').view := by
  have scala : (TypeNode.intersection types).scala = (TypeNode.intersection types').scala := by
    rw [TypeNode.scala, TypeNode.scala, scalaTypes_eq_views, scalaTypes_eq_views, h]
  exact congrArg TypeView.solid scala

/-- Of a function type only the types of its parameters and its result are seen. -/
theorem view_function {typeParameters typeParameters' : List TypeParameter}
    {parameters parameters' : List Parameter} {result result' : Option TypeNode}
    (types : (parameters.map fun parameter => parameter.type.map TypeNode.view) =
      parameters'.map fun parameter => parameter.type.map TypeNode.view)
    (results : result.map TypeNode.view = result'.map TypeNode.view) :
    (TypeNode.function typeParameters parameters result).view =
      (TypeNode.function typeParameters' parameters' result').view := by
  have scala : (TypeNode.function typeParameters parameters result).scala =
      (TypeNode.function typeParameters' parameters' result').scala := by
    rw [TypeNode.scala, TypeNode.scala, parameterTypes_eq_views, parameterTypes_eq_views, types,
      scalaTypeOr_eq_view, scalaTypeOr_eq_view, results]
  exact congrArg TypeView.solid scala

/-- Of a type behind an operator nothing is seen. -/
theorem view_operator (word : TypeOperator) (operand operand' : TypeNode) :
    (TypeNode.operator word operand).view = (TypeNode.operator word operand').view := rfl

/-- Of an object type inside another type nothing is seen. -/
theorem view_object (members members' : List Member) :
    (TypeNode.object members).view = (TypeNode.object members').view := rfl

/-! ## Parameters

From here on views are only passed on; no text of a type is opened. -/

/-- Of a type parameter the name and the bound count. Its default is never written. -/
theorem TypeParameter.scala_congr {first second : TypeParameter} (name : first.name = second.name)
    (bound : first.constraint.map TypeNode.view = second.constraint.map TypeNode.view) :
    first.scala = second.scala := by
  have seen (parameter : TypeParameter) : parameter.scala =
      (parameter.constraint.map TypeNode.view).elim (Name.escape parameter.name) fun view =>
        Name.escape parameter.name ++ " <: " ++ view.scala := by
    unfold TypeParameter.scala
    cases parameter.constraint <;> rfl
  rw [seen first, seen second, name, bound]

theorem typeParametersText_congr {first second : List TypeParameter}
    (h : first.map TypeParameter.scala = second.map TypeParameter.scala) :
    typeParametersText first = typeParametersText second := by
  have empty : first.isEmpty = second.isEmpty := by
    rw [← List.isEmpty_map (f := TypeParameter.scala), h, List.isEmpty_map]
  rw [typeParametersText, typeParametersText, empty, h]

/-- A parameter that takes the rest of the arguments is never written as optional, so there the flag
may differ. -/
theorem Parameter.scala_congr {first second : Parameter} (name : first.name = second.name)
    (type : first.type.map TypeNode.view = second.type.map TypeNode.view)
    (rest : first.rest = second.rest)
    (optional : first.rest = false → first.optional = second.optional) :
    first.scala = second.scala := by
  unfold Parameter.scala
  rw [name, restElement_eq_view, restElement_eq_view, scalaTypeOr_eq_view, scalaTypeOr_eq_view,
    type, ← rest]
  cases h : first.rest with
  | true => rfl
  | false => rw [optional h]

/-! ## Members

The owner is the same on both sides and may be any. -/

theorem Property.line_congr {first second : Property} (name : first.name = second.name)
    (type : first.type.map TypeNode.view = second.type.map TypeNode.view) (owner : Owner) :
    first.line owner = second.line owner := by
  rw [Property.line, Property.line, name, scalaTypeOr_eq_view, scalaTypeOr_eq_view, type]

theorem Method.line_congr {first second : Method} (name : first.name = second.name)
    (typeParameters :
      first.typeParameters.map TypeParameter.scala = second.typeParameters.map TypeParameter.scala)
    (parameters : first.parameters.map Parameter.scala = second.parameters.map Parameter.scala)
    (result : first.result.map TypeNode.view = second.result.map TypeNode.view) (owner : Owner) :
    first.line owner = second.line owner := by
  simp only [Method.line, signature, parametersText, name, parameters, scalaTypeOr_eq_view, result,
    typeParametersText_congr typeParameters]

/-- Of the parameters of an index signature the name and the type of the first count. -/
theorem IndexSignature.lines_congr {first second : IndexSignature}
    (parameters : (first.parameters.map fun key => (key.name, key.type.map TypeNode.view)) =
      second.parameters.map fun key => (key.name, key.type.map TypeNode.view))
    (type : first.type.map TypeNode.view = second.type.map TypeNode.view)
    (readonly : first.modifiers.contains .readonly = second.modifiers.contains .readonly)
    (owner : Owner) : first.lines owner = second.lines owner := by
  have seen (index : IndexSignature) : index.key =
      (index.parameters.map fun key => (key.name, key.type.map TypeNode.view)).head?.elim
        ("key", Scala.any) fun key =>
          (Name.escape key.1, (key.2.map TypeView.scala).getD Scala.any) := by
    unfold IndexSignature.key
    cases index.parameters with
    | nil => rfl
    | cons key _ => simp only [List.map_cons, scalaTypeOr_eq_view, List.head?_cons, Option.elim_some]
  simp only [IndexSignature.lines, seen first, seen second, parameters, scalaTypeOr_eq_view, type,
    readonly]

/-! ## Declarations

Each lemma asks for what the text is made from and no more. What it does not ask for is what the
facade takes no notice of. -/

/-- Of the modifiers of a class only `abstract` counts. Members are compared by their texts for
every owner, because the owner depends on that modifier. -/
theorem ClassDeclaration.block_congr {first second : ClassDeclaration}
    (name : first.name = second.name)
    (abstract : first.modifiers.contains .abstract = second.modifiers.contains .abstract)
    (typeParameters :
      first.typeParameters.map TypeParameter.scala = second.typeParameters.map TypeParameter.scala)
    (members : ∀ owner, memberTexts first.members owner = memberTexts second.members owner)
    (scope : Scope) : first.block scope = second.block scope := by
  have owner : first.owner = second.owner := by
    rw [ClassDeclaration.owner, ClassDeclaration.owner, abstract]
  have lines : memberLines first.members second.owner = memberLines second.members second.owner :=
    congrArg (List.flatMap MemberText.lines) (members second.owner)
  simp only [ClassDeclaration.block, name, owner, lines, typeParametersText_congr typeParameters]

theorem FunctionDeclaration.line?_congr {first second : FunctionDeclaration}
    (name : first.name = second.name)
    (typeParameters :
      first.typeParameters.map TypeParameter.scala = second.typeParameters.map TypeParameter.scala)
    (parameters : first.parameters.map Parameter.scala = second.parameters.map Parameter.scala)
    (result : first.result.map TypeNode.view = second.result.map TypeNode.view) :
    first.line? = second.line? := by
  simp only [FunctionDeclaration.line?, signature, parametersText, name, parameters,
    scalaTypeOr_eq_view, result, typeParametersText_congr typeParameters]

theorem TypeAliasDeclaration.line_congr {first second : TypeAliasDeclaration}
    (name : first.name = second.name)
    (typeParameters :
      first.typeParameters.map TypeParameter.scala = second.typeParameters.map TypeParameter.scala)
    (type : first.type.view = second.type.view) : first.line = second.line := by
  have scala : first.type.scala = second.type.scala := congrArg TypeView.scala type
  simp only [TypeAliasDeclaration.line, name, scala, typeParametersText_congr typeParameters]

theorem VariableDeclaration.line_congr {first second : VariableDeclaration}
    (name : first.name = second.name)
    (type : first.type.map TypeNode.view = second.type.map TypeNode.view) :
    first.line = second.line := by
  rw [VariableDeclaration.line, VariableDeclaration.line, name, scalaTypeOr_eq_view,
    scalaTypeOr_eq_view, type]

end ScalaFacade
