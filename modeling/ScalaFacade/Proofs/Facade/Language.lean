import ScalaFacade.Facade.Exports
import ScalaFacade.Proofs.Scala.Grammar

/-! # The texts of a facade are in the language

Whatever tree it stands for, the text of a type is one of the grammar's types, and the lines of
members, functions, type aliases and variables are lines of the grammar. The grammar is a relation
that knows nothing of declarations, and the texts are made by functions that know nothing of the
grammar, so this is where the two meet.

The only thing that can break it is a **backtick inside a name**. A name that is no identifier is
put between backticks, and between backticks there is no way to write one. The statements ask for
nothing else: names may be empty, reserved words, numbers or have any other character in them.

`names` of a tree are the names that its text is made from, and `BacktickFree` of them is the
hypothesis throughout. Names in parts that leave no trace (the operand of an operator, the members
of an object type, the parameter names of a function type) are not among them, so they may be
anything. That makes the hypothesis as weak as it can be stated along the tree, and it is why there
is a `names` for every kind of node and not one for the whole document.

Types come first and take most of the room, since a union gives up alternatives and a reference has
special cases. Once the text of every type is a type, the lines follow from the shape of the line
alone: each is a keyword, an identifier, parameters and a type, in an order the grammar has a
constructor for.
-/

set_option autoImplicit false

namespace ScalaFacade

open Scala

/-! ## The names in a tree

What the text is made from, in the order of the text. The definitions recurse as the texts do, so
that a case of a proof about texts has the hypothesis about names it needs by unfolding one step. -/

/-- No name of a list has a backtick. It is decidable, so a witness is checked by computation. -/
def BacktickFree (names : List String) : Prop := ∀ name ∈ names, '`' ∉ name.toList

instance (names : List String) : Decidable (BacktickFree names) :=
  inferInstanceAs (Decidable (∀ name ∈ names, '`' ∉ name.toList))

@[simp] theorem backtickFree_cons {name : String} {names : List String} :
    BacktickFree (name :: names) ↔ '`' ∉ name.toList ∧ BacktickFree names := by
  simp [BacktickFree]

@[simp] theorem backtickFree_append {left right : List String} :
    BacktickFree (left ++ right) ↔ BacktickFree left ∧ BacktickFree right := by
  simp only [BacktickFree, List.mem_append, or_imp, forall_and]

/-- From all parts to one of them. Lists of parameters and members carry their names concatenated,
and each proof about a list looks at one entry. -/
theorem BacktickFree.of_flatMap {α : Type} {names : α → List String} {parts : List α} {part : α}
    (free : BacktickFree (parts.flatMap names)) (h : part ∈ parts) : BacktickFree (names part) :=
  fun name hname => free name (List.mem_flatMap.2 ⟨part, h, hname⟩)

mutual

/-- The names that the text of a type is made from. -/
def TypeNode.names : TypeNode → List String
  | .reference name arguments => name :: namesOfTypes arguments
  | .array element => element.names
  | .union members => namesOfTypes members
  | .intersection members => namesOfTypes members
  | .function _ parameters result => namesOfParameterTypes parameters ++ annotationNames result
  | .parenthesized inner => inner.names
  | .keyword _ | .literal _ | .operator _ _ | .object _ | .other => []

def namesOfTypes : List TypeNode → List String
  | [] => []
  | type :: types => type.names ++ namesOfTypes types

def annotationNames : Option TypeNode → List String
  | none => []
  | some type => type.names

def namesOfParameterTypes : List Parameter → List String
  | [] => []
  | ⟨_, type, _, _⟩ :: parameters => annotationNames type ++ namesOfParameterTypes parameters

end

/-- The recursion over a list of types, as a `flatMap`. The definition cannot be that, because it
recurses through the tree. -/
theorem namesOfTypes_eq_flatMap (types : List TypeNode) :
    namesOfTypes types = types.flatMap TypeNode.names := by
  induction types with
  | nil => rfl
  | cons type types ih => rw [namesOfTypes, ih, List.flatMap_cons]

def TypeParameter.names (parameter : TypeParameter) : List String :=
  parameter.name :: annotationNames parameter.constraint

def Parameter.names (parameter : Parameter) : List String :=
  parameter.name :: annotationNames parameter.type

def Property.names (property : Property) : List String :=
  property.name :: annotationNames property.type

/-- The names of a method are those of all parts of its line: type parameters with their bounds,
parameters with their types, and the result. -/
def Method.names (method : Method) : List String :=
  method.name :: (method.typeParameters.flatMap TypeParameter.names
    ++ method.parameters.flatMap Parameter.names ++ annotationNames method.result)

def IndexSignature.names (index : IndexSignature) : List String :=
  index.parameters.flatMap Parameter.names ++ annotationNames index.type

def Member.names : Member → List String
  | .property declared => declared.names
  | .method declared => declared.names
  | .index declared => declared.names
  | .other => []

/-- A function without a name has no line. Its other names are listed all the same, which asks a
little more than is needed. -/
def FunctionDeclaration.names (function : FunctionDeclaration) : List String :=
  function.name.toList ++ (function.typeParameters.flatMap TypeParameter.names
    ++ function.parameters.flatMap Parameter.names ++ annotationNames function.result)

def TypeAliasDeclaration.names (declaration : TypeAliasDeclaration) : List String :=
  declaration.name :: (declaration.typeParameters.flatMap TypeParameter.names
    ++ declaration.type.names)

def VariableDeclaration.names (declaration : VariableDeclaration) : List String :=
  declaration.name :: annotationNames declaration.type

def Exports.names (exports : Exports) : List String :=
  exports.typeAliases.flatMap TypeAliasDeclaration.names
    ++ exports.functions.flatMap FunctionDeclaration.names
    ++ exports.looseVariables.flatMap VariableDeclaration.names

/-! ## Types

The leaves are names of the facade itself, listed once and checked together. Above them each shape
of type has one lemma, about texts that are known to be types; the recursion at the end ties them to
the tree. -/

/-- The type names that a facade has of itself and not from its document. -/
def builtinNames : List String :=
  [any, unit, string, null, "Boolean", "Double", "Int", "Nothing", "js.Array", "js.Function",
    "js.Function0", "js.Function1", "js.Function2", "js.Object"] ++ renamedGlobals.map (·.2)

/-- Every segment of a builtin name is an identifier and not reserved. The list is short and closed,
so the check is a computation. -/
theorem qualifiedName_builtin {name : String} (h : name ∈ builtinNames) : QualifiedName name := by
  have plain : ∀ name ∈ builtinNames, ∀ segment ∈ Text.split '.' name,
      Name.isIdentifier segment = true ∧ Name.isReserved segment = false := by decide +kernel
  exact qualifiedName_of_plain (plain name h)

theorem simple_builtin {name : String} (h : name ∈ builtinNames) : Derives .simple name :=
  .named (qualifiedName_builtin h)

theorem isType_any : IsType any := (simple_builtin (by simp [builtinNames])).alternative.type

theorem isType_unit : IsType unit := (simple_builtin (by simp [builtinNames])).alternative.type

theorem isType_string : IsType string := (simple_builtin (by simp [builtinNames])).alternative.type

theorem Keyword.simple_scala (word : Keyword) : Derives .simple word.scala := by
  cases word with
  | this => exact .this
  | string | void | undefined | any | unknown | symbol | bigint | other | number | boolean | object
  | never | null => exact simple_builtin (by simp [builtinNames, Keyword.scala])

theorem Literal.simple_scala (literal : Literal) : Derives .simple literal.scala := by
  unfold Literal.scala
  split
  · exact simple_builtin (by simp [builtinNames])
  · exact simple_builtin (by simp [builtinNames])
  · split <;> exact simple_builtin (by simp [builtinNames])
  · exact simple_builtin (by simp [builtinNames])

theorem TypeOperator.simple_scala (operator : TypeOperator) : Derives .simple operator.scala := by
  cases operator with
  | keyof | readonly | unique | other =>
    exact simple_builtin (by simp [builtinNames, TypeOperator.scala])

theorem simple_applied {constructor : String} {arguments : List String}
    (h : QualifiedName constructor) (some : arguments ≠ [])
    (each : ∀ text ∈ arguments, IsType text) : Derives .simple (applied constructor arguments) :=
  .applied h some fun text ht => .exact (each text ht)

/-- Three shapes of type become arrays, each in its own way, so the name is singled out. -/
theorem qualifiedName_array : QualifiedName "js.Array" :=
  qualifiedName_builtin (by simp [builtinNames])

/-- A global that goes by another name in a facade is written as one of the listed names, whatever
it was called in the document. So it needs no hypothesis about its own name. -/
theorem qualifiedName_renamed {name renamed : String} (h : renamed? name = some renamed) :
    QualifiedName renamed := by
  obtain ⟨before, after, split, -⟩ := List.lookup_eq_some_iff.1 h
  have listed : (name, renamed) ∈ renamedGlobals := by simp [split]
  exact qualifiedName_builtin
    (List.mem_append_right _ (List.mem_map.2 ⟨(name, renamed), listed, rfl⟩))

/-- **A reference is a name or a name with arguments**, whichever of its special cases applies: an
array, a read-only array with its wildcard, a renamed global, or the name that is written. Only in
the last case the name itself comes into the text, so only there it matters that it has no
backtick. -/
theorem simple_referenceText {name : String} {arguments : List String}
    (free : '`' ∉ name.toList) (each : ∀ text ∈ arguments, IsType text) :
    Derives .simple (referenceText name arguments) := by
  unfold referenceText
  -- An array takes its first argument and forgets the others; without one it is an array of
  -- anything.
  split
  · refine simple_applied qualifiedName_array (by simp) fun text h => ?_
    rw [List.mem_singleton.1 h]
    cases arguments with
    | nil => exact isType_any
    | cons first others => exact each first (by simp)
  split
  · split
    · rename_i first others
      refine .applied qualifiedName_array (by simp) fun text h => ?_
      rw [List.mem_singleton.1 h]
      exact .bounded (each first (by simp))
    · refine simple_applied qualifiedName_array (by simp) fun text h => ?_
      rw [List.mem_singleton.1 h]
      exact isType_any
  -- Any other name, which is renamed or escaped, with all its arguments.
  · have whole : ∀ base, QualifiedName base →
        Derives .simple (if arguments.isEmpty then base else applied base arguments) := by
      intro base h
      split
      · exact .named h
      · rename_i some
        exact simple_applied h (by simpa using some) each
    apply whole
    split
    · exact qualifiedName_renamed ‹_›
    · exact qualifiedName_escape free

/-- A union keeps at least one alternative, whatever it gives up, and what it keeps are types. The
first half is needed because an empty union would be an empty text, which is no type. -/
theorem alternatives_entries {members : List TypeNode} {texts : List String} (some : texts ≠ [])
    (each : ∀ text ∈ texts, IsType text) :
    (alternatives members texts).entries ≠ []
      ∧ ∀ text ∈ (alternatives members texts).entries, IsType text := by
  unfold alternatives
  dsimp only
  -- Null and undefined at once, string literals among the members, or neither of the two.
  split
  · constructor
    · have : Scala.any ∈ (((OrderedSet.ofList texts).filter fun text =>
          text != Scala.null && text != Scala.unit).insert Scala.any).entries :=
        (OrderedSet.mem_insert (OrderedSet.coherent_filter _ _)).2 (Or.inr rfl)
      exact List.ne_nil_of_mem this
    · intro text h
      rcases (OrderedSet.mem_insert (OrderedSet.coherent_filter _ _)).1 h with h | rfl
      · rw [OrderedSet.filter, OrderedSet.mem_ofList, List.mem_filter, OrderedSet.mem_ofList] at h
        exact each text h.1
      · exact isType_any
  split
  · constructor
    · exact List.ne_nil_of_mem ((OrderedSet.mem_extend (OrderedSet.coherent_ofList _)).2
        (Or.inl (by decide : Scala.string ∈ _)))
    · intro text h
      rcases (OrderedSet.mem_extend (OrderedSet.coherent_ofList _)).1 h with h | h
      · rw [OrderedSet.mem_ofList, List.mem_singleton] at h
        exact h ▸ isType_string
      · obtain ⟨⟨member, text⟩, hpair, rfl⟩ := List.mem_map.1 h
        exact each text (List.of_mem_zip (List.mem_filter.1 hpair).1).2
  · constructor
    · obtain ⟨text, h⟩ := List.exists_mem_of_ne_nil texts some
      exact List.ne_nil_of_mem (OrderedSet.mem_ofList.2 h)
    · intro text h
      exact each text (OrderedSet.mem_ofList.1 h)

/-- A union is a single builtin type in its special cases, and otherwise types with bars between
them. That types are closed under the bar is a rule of the grammar. -/
theorem isType_unionText {members : List TypeNode} {texts : List String}
    (some : members ≠ [] → texts ≠ []) (each : ∀ text ∈ texts, IsType text) :
    IsType (unionText members texts) := by
  unfold unionText
  split
  · exact isType_any
  rename_i nonempty
  split
  · exact isType_string
  split
  · exact (simple_builtin (by simp [builtinNames])).alternative.type
  split
  · exact (simple_builtin (by simp [builtinNames])).alternative.type
  · obtain ⟨kept, types⟩ := alternatives_entries (some (by simpa using nonempty)) each
    exact closed_intercalate IsType.or kept types

/-- An intersection of none is anything. Otherwise its parts are joined by `with`, each as it is,
even where one is a union; the grammar reads that differently, but it is a type. -/
theorem isType_intersectionText {texts : List String} (each : ∀ text ∈ texts, IsType text) :
    IsType (intersectionText texts) := by
  unfold intersectionText
  split
  · exact isType_any
  · rename_i nonempty
    obtain ⟨text, h⟩ := List.exists_mem_of_ne_nil texts (by simpa using nonempty)
    exact closed_intercalate IsType.and (List.ne_nil_of_mem (OrderedSet.mem_ofList.2 h))
      fun text h => each text (OrderedSet.mem_ofList.1 h)

/-- A function type by the number of its parameters. From three on the parameters are given up, and
only the name remains. -/
theorem simple_functionText {parameters : List String} {result : String}
    (each : ∀ text ∈ parameters, IsType text) (h : IsType result) :
    Derives .simple (functionText parameters result) := by
  have constructor : ∀ name ∈ ["js.Function", "js.Function0", "js.Function1", "js.Function2"],
      QualifiedName name := fun name h =>
    qualifiedName_builtin (by revert name; simp [builtinNames])
  unfold functionText
  split
  · exact simple_applied (constructor _ (by simp)) (by simp) (by simpa using h)
  · exact simple_applied (constructor _ (by simp)) (by simp) (by simpa [h] using each)
  · exact simple_applied (constructor _ (by simp)) (by simp) (by simpa [h] using each)
  · exact .named (constructor _ (by simp))

-- The recursion is that of `TypeNode.scala`: a case for each shape of type, and beside it one
-- statement for each kind of list or option that types occur in.
mutual

/-- **Types are types**: the text of every type is in the language of types, unless a name in it has
a backtick. Nothing else is asked. Unions of nothing, function types with many parameters and types
of unknown kinds are written as builtin types. -/
theorem TypeNode.isType_scala :
    ∀ (type : TypeNode), BacktickFree type.names → IsType type.scala
  | .keyword word, _ => word.simple_scala.alternative.type
  | .reference name arguments, free => by
    rw [TypeNode.names, backtickFree_cons] at free
    exact (simple_referenceText free.1 (isType_scalaTypes arguments free.2)).alternative.type
  | .literal found, _ => found.simple_scala.alternative.type
  | .array element, free =>
    (simple_applied qualifiedName_array (by simp)
      (by simpa using element.isType_scala free)).alternative.type
  | .union members, free => by
    refine isType_unionText (fun some => ?_) (isType_scalaTypes members free)
    rw [scalaTypes_eq_map]
    simpa using some
  | .intersection members, free => isType_intersectionText (isType_scalaTypes members free)
  | .function _ parameters result, free => by
    rw [TypeNode.names, backtickFree_append] at free
    exact (simple_functionText (isType_parameterTypes parameters free.1)
      (isType_scalaTypeOr isType_unit result free.2)).alternative.type
  | .operator word _, _ => word.simple_scala.alternative.type
  | .parenthesized inner, free => inner.isType_scala free
  | .object _, _ => isType_any
  | .other, _ => isType_any

theorem isType_scalaTypes :
    ∀ (types : List TypeNode), BacktickFree (namesOfTypes types) →
      ∀ text ∈ scalaTypes types, IsType text
  | [], _, text, h => absurd h (by simp [scalaTypes])
  | type :: types, free, text, h => by
    rw [namesOfTypes, backtickFree_append] at free
    rw [scalaTypes, List.mem_cons] at h
    rcases h with rfl | h
    · exact type.isType_scala free.1
    · exact isType_scalaTypes types free.2 text h

/-- An annotation that is missing is replaced by a type that depends on where it is missing, so that
one is a parameter of the statement. -/
theorem isType_scalaTypeOr {absent : String} (h : IsType absent) :
    ∀ (type : Option TypeNode), BacktickFree (annotationNames type) →
      IsType (scalaTypeOr absent type)
  | none, _ => h
  | some type, free => type.isType_scala free

theorem isType_parameterTypes :
    ∀ (parameters : List Parameter), BacktickFree (namesOfParameterTypes parameters) →
      ∀ text ∈ parameterTypes parameters, IsType text
  | [], _, text, h => absurd h (by simp [parameterTypes])
  | ⟨_, type, _, _⟩ :: parameters, free, text, h => by
    rw [namesOfParameterTypes, backtickFree_append] at free
    rw [parameterTypes, List.mem_cons] at h
    rcases h with rfl | h
    · exact isType_scalaTypeOr isType_any type free.1
    · exact isType_parameterTypes parameters free.2 text h

end

/-! ## Parameters

Parameters, type parameters and their lists. A rest parameter has a type of its own, which is taken
out of the array it is annotated with. -/

/-- Parentheses have no names, so taking them off keeps the hypothesis. -/
theorem TypeNode.names_unparenthesized (type : TypeNode) :
    type.unparenthesized.names = type.names := by
  fun_induction TypeNode.unparenthesized type with
  | case1 inner ih => rw [ih, TypeNode.names]
  | case2 => rfl

/-- The element of a rest parameter is found through parentheses, in both spellings of an array
type. Any other type is taken as it is. -/
theorem isType_restElement {type : Option TypeNode}
    (free : BacktickFree (annotationNames type)) : IsType (restElement type) := by
  cases type with
  | none => exact isType_any
  | some type =>
    rw [annotationNames, ← type.names_unparenthesized] at free
    rw [restElement]
    split
    · rename_i element shape
      rw [shape] at free
      exact element.isType_scala free
    · rename_i name argument shape
      rw [shape] at free
      split
      · rw [TypeNode.names, backtickFree_cons, namesOfTypes, backtickFree_append] at free
        exact argument.isType_scala free.2.1
      · exact TypeNode.isType_scala _ free
    · exact TypeNode.isType_scala _ free

/-- The three forms of a parameter are the three rules of the grammar: rest, optional and required.
A parameter that is both rest and optional is a rest parameter. -/
theorem Parameter.isParameter_scala {parameter : Parameter} (free : BacktickFree parameter.names) :
    IsParameter parameter.scala := by
  rw [Parameter.names, backtickFree_cons] at free
  have name := identifier_escape free.1
  have type := isType_scalaTypeOr isType_any parameter.type free.2
  rw [Parameter.scala]
  split
  · exact .rest name (isType_restElement free.2)
  dsimp only
  split
  · exact .optional name type
  · exact .required name type

theorem TypeParameter.isTypeParameter_scala {parameter : TypeParameter}
    (free : BacktickFree parameter.names) : IsTypeParameter parameter.scala := by
  rw [TypeParameter.names, backtickFree_cons] at free
  have name := identifier_escape free.1
  rw [TypeParameter.scala]
  split
  · rename_i bound shape
    rw [shape] at free
    exact .bounded name (bound.isType_scala free.2)
  · exact .free name

/-- No type parameters are no brackets; otherwise each is a name with or without a bound. -/
theorem isTypeParameterList_text {parameters : List TypeParameter}
    (free : BacktickFree (parameters.flatMap TypeParameter.names)) :
    IsTypeParameterList (typeParametersText parameters) := by
  unfold typeParametersText
  split
  · exact .absent
  · rename_i some
    refine .present (by simpa using some) fun text h => ?_
    obtain ⟨parameter, hparameter, rfl⟩ := List.mem_map.1 h
    exact TypeParameter.isTypeParameter_scala (free.of_flatMap hparameter)

/-! ## Lines

A line is a definition, with or without the mark of a native implementation. Which of the two
depends on the owner and on whether it is a property or a method. -/

/-- Methods and functions share their signature, and so this lemma. The name is an identifier by
hypothesis, because the two escape it differently. -/
theorem isDefinition_signature {name result : String} {typeParameters : List TypeParameter}
    {parameters : List Parameter} (h : Identifier name)
    (freeT : BacktickFree (typeParameters.flatMap TypeParameter.names))
    (freeP : BacktickFree (parameters.flatMap Parameter.names)) (isType : IsType result) :
    IsDefinition (signature name typeParameters parameters result) := by
  refine .function h (isTypeParameterList_text freeT) (fun text ht => ?_) isType
  obtain ⟨parameter, hparameter, rfl⟩ := List.mem_map.1 ht
  exact Parameter.isParameter_scala (freeP.of_flatMap hparameter)

/-- Abstract classes leave the mark out, and the line is then a plain declaration. For methods it is
left out in interfaces too, which is why there are two lemmas. -/
theorem isLine_propertyStub {text : String} (owner : Owner) (h : IsDefinition text) :
    IsLine (text ++ owner.propertyStub) := by
  cases owner with
  | concreteClass | interface => exact .native h
  | abstractClass => simpa [Owner.propertyStub] using IsLine.declared h

theorem isLine_methodStub {text : String} (owner : Owner) (h : IsDefinition text) :
    IsLine (text ++ owner.methodStub) := by
  cases owner with
  | concreteClass => exact .native h
  | abstractClass | interface => simpa [Owner.methodStub] using IsLine.declared h

theorem isType_defaultResult (owner : Owner) : IsType owner.defaultResult := by
  cases owner with
  | interface => exact isType_any
  | concreteClass | abstractClass => exact isType_unit

/-- Taking quotes off a name adds no character, and so no backtick. Member names may be written as
string literals in a document. -/
theorem Name.mem_of_mem_unquote {name : String} {c : Char} (h : c ∈ (Name.unquote name).toList) :
    c ∈ name.toList := by
  unfold Name.unquote at h
  split at h
  · exact h
  · rename_i first rest chars
    split at h
    · rw [String.toList_ofList] at h
      rw [chars]
      exact List.mem_cons_of_mem _ (List.dropLast_subset _ h)
    · exact h

theorem identifier_memberName {name : String} (free : '`' ∉ name.toList) :
    Identifier (memberName name) :=
  identifier_escape fun h => free (Name.mem_of_mem_unquote h)

theorem Property.isLine_line {property : Property} (owner : Owner)
    (free : BacktickFree property.names) : IsLine (property.line owner) := by
  rw [Property.names, backtickFree_cons] at free
  exact isLine_propertyStub owner
    (.var (identifier_memberName free.1) (isType_scalaTypeOr isType_any property.type free.2))

theorem Method.isLine_line {method : Method} (owner : Owner) (free : BacktickFree method.names) :
    IsLine (method.line owner) := by
  rw [Method.names, backtickFree_cons, backtickFree_append, backtickFree_append] at free
  obtain ⟨name, ⟨typeParameters, parameters⟩, result⟩ := free
  exact isLine_methodStub owner
    (isDefinition_signature (identifier_memberName name) typeParameters parameters
      (isType_scalaTypeOr (isType_defaultResult owner) method.result result))

/-- The key of an index signature is a parameter, also if the signature has none: then it gets a
name and a type of its own. -/
theorem IndexSignature.key_spec {index : IndexSignature} (free : BacktickFree index.names) :
    Identifier index.key.1 ∧ IsType index.key.2 := by
  rw [IndexSignature.names, backtickFree_append] at free
  unfold IndexSignature.key
  split
  · rename_i key others shape
    rw [shape, List.flatMap_cons, backtickFree_append, Parameter.names, backtickFree_cons] at free
    exact ⟨identifier_escape free.1.1.1, isType_scalaTypeOr isType_any key.type free.1.1.2⟩
  · exact ⟨.plain (by decide) (by decide), isType_any⟩

/-- Access by index is two methods of fixed names, one to read and one to write. They are spelled as
literals in the code, so the literals have to be cut up into what the grammar puts together. -/
theorem isDefinition_get {name type value : String} (h : Identifier name) (isType : IsType type)
    (isValue : IsType value) :
    IsDefinition ("def apply(" ++ name ++ ": " ++ type ++ "): " ++ value) := by
  have get : Identifier "apply" := .plain (by decide) (by decide)
  have key : ∀ text ∈ [name ++ ": " ++ type], IsParameter text := by
    simpa using IsParameter.required h isType
  have start : "def " ++ "apply" ++ "" ++ "(" = "def apply(" := by decide
  simpa only [String.intercalate_singleton, ← String.append_assoc, start]
    using IsDefinition.function get .absent key isValue

theorem isDefinition_set {name type value : String} (h : Identifier name) (isType : IsType type)
    (isValue : IsType value) :
    IsDefinition ("def update(" ++ name ++ ": " ++ type ++ ", v: " ++ value ++ "): Unit") := by
  have set : Identifier "update" := .plain (by decide) (by decide)
  have new : Identifier "v" := .plain (by decide) (by decide)
  have both : ∀ text ∈ [name ++ ": " ++ type, "v" ++ ": " ++ value], IsParameter text := by
    intro text ht
    rcases List.mem_cons.1 ht with rfl | ht
    · exact .required h isType
    · rw [List.mem_singleton.1 ht]
      exact .required new isValue
  -- The line is spelled with fewer and longer literals than the grammar's.
  have start : "def " ++ "update" ++ "" ++ "(" = "def update(" := by decide
  have middle : ∀ text : String, text ++ ", " ++ "v" ++ ": " = text ++ ", v: " := by
    intro text
    rw [String.append_assoc, String.append_assoc]
    congr 1
  have last : ∀ text : String, text ++ "): " ++ unit = text ++ "): Unit" := by
    intro text
    rw [String.append_assoc]
    congr 1
  simpa only [String.intercalate_cons_cons, String.intercalate_singleton, ← String.append_assoc,
    start, middle, last] using IsDefinition.function set .absent both isType_unit

/-- Each access has its annotation on a line above. A signature that is read-only has the first of
the two only. -/
theorem IndexSignature.isLine_lines {index : IndexSignature} (owner : Owner)
    (free : BacktickFree index.names) : ∀ line ∈ index.lines owner, IsLine line := by
  obtain ⟨name, type⟩ := IndexSignature.key_spec free
  rw [IndexSignature.names, backtickFree_append] at free
  have value := isType_scalaTypeOr isType_any index.type free.2
  have get := isLine_methodStub owner (isDefinition_get name type value)
  have set := isLine_methodStub owner (isDefinition_set name type value)
  rw [IndexSignature.lines]
  dsimp only
  split
  · simpa using ⟨IsLine.bracketAccess, get⟩
  · simpa using ⟨IsLine.bracketAccess, get, IsLine.bracketAccess, set⟩

/-- **The lines of a member**, by its kind. A member of an unknown kind has no text. -/
theorem Member.isLine_text {member : Member} {owner : Owner} {text : MemberText}
    (free : BacktickFree member.names) (h : member.text? owner = some text) :
    ∀ line ∈ text.lines, IsLine line := by
  cases member with
  | property declared =>
    cases h
    simpa [MemberText.lines] using Property.isLine_line owner free
  | method declared =>
    cases h
    simpa [MemberText.lines] using Method.isLine_line owner free
  | index declared =>
    cases h
    exact IndexSignature.isLine_lines owner free
  | other => cases h

theorem FunctionDeclaration.isLine_line {function : FunctionDeclaration} {line : String}
    (free : BacktickFree function.names) (h : function.line? = some line) : IsLine line := by
  obtain ⟨name, named, rfl⟩ := Option.map_eq_some_iff.1 h
  rw [FunctionDeclaration.names, named, backtickFree_append, backtickFree_append,
    backtickFree_append] at free
  obtain ⟨own, ⟨typeParameters, parameters⟩, result⟩ := free
  exact .native (isDefinition_signature (identifier_escape (own name (by simp))) typeParameters
    parameters (isType_scalaTypeOr isType_unit function.result result))

theorem TypeAliasDeclaration.isLine_line {declaration : TypeAliasDeclaration}
    (free : BacktickFree declaration.names) : IsLine declaration.line := by
  rw [TypeAliasDeclaration.names, backtickFree_cons, backtickFree_append] at free
  exact .declared (.type (identifier_escape free.1) (isTypeParameterList_text free.2.1)
    (declaration.type.isType_scala free.2.2))

theorem VariableDeclaration.isLine_line {declaration : VariableDeclaration}
    (free : BacktickFree declaration.names) : IsLine declaration.line := by
  rw [VariableDeclaration.names, backtickFree_cons] at free
  exact .native (.val (identifier_escape free.1)
    (isType_scalaTypeOr isType_any declaration.type free.2))

/-- A function that an export assignment names is one of the functions of the scope. -/
theorem Exports.mem_functions_of_assignmentLine {exports : Exports} {assignment : ExportAssignment}
    {line : String} (h : exports.assignmentLine? assignment = some line) :
    ∃ function ∈ exports.functions, function.line? = some line := by
  obtain ⟨name, -, h⟩ := Option.bind_eq_some_iff.1 h
  obtain ⟨function, found, h⟩ := Option.bind_eq_some_iff.1 h
  exact ⟨function, List.mem_of_find?_eq_some found, h⟩

/-- **The lines of the object of a scope.** They come from four sources, and a line in the set is in
one of them. An export assignment writes the line of a function of the scope, so it adds no names of
its own. -/
theorem Exports.isLine_memberLines {exports : Exports} (kind : ScopeKind)
    (free : BacktickFree exports.names) :
    ∀ line ∈ (exports.memberLines kind).entries, IsLine line := by
  rw [Exports.names, backtickFree_append, backtickFree_append] at free
  obtain ⟨⟨aliases, functions⟩, loose⟩ := free
  have function : ∀ {declared line}, declared ∈ exports.functions →
      FunctionDeclaration.line? declared = some line → IsLine line := fun hdeclared h =>
    FunctionDeclaration.isLine_line (functions.of_flatMap hdeclared) h
  intro line h
  simp only [Exports.memberLines, OrderedSet.mem_ofList, List.mem_append] at h
  rcases h with ((h | h) | h) | h
  · obtain ⟨declaration, hdeclaration, rfl⟩ := List.mem_map.1 h
    exact TypeAliasDeclaration.isLine_line (aliases.of_flatMap hdeclaration)
  · obtain ⟨assignment, -, h⟩ := List.mem_filterMap.1 h
    obtain ⟨declared, hdeclared, h⟩ := Exports.mem_functions_of_assignmentLine h
    exact function hdeclared h
  · cases kind with
    | topLevel => exact absurd h (by simp)
    | module =>
      obtain ⟨declared, hdeclared, h⟩ := List.mem_filterMap.1 h
      exact function hdeclared h
  · obtain ⟨declaration, hdeclaration, rfl⟩ := List.mem_map.1 h
    exact VariableDeclaration.isLine_line (loose.of_flatMap hdeclaration)

/-! ## The language of a facade -/

/-- **A facade is written in the language**: types are types of the grammar, and the lines of
members of any owner, of functions and of the object of a scope are lines of the grammar, as long as
the names they are made from have no backtick. -/
theorem texts_in_language :
    (∀ type : TypeNode, BacktickFree type.names → IsType type.scala)
    ∧ (∀ (member : Member) (owner : Owner) (text : MemberText), BacktickFree member.names →
        member.text? owner = some text → ∀ line ∈ text.lines, IsLine line)
    ∧ (∀ (function : FunctionDeclaration) (line : String), BacktickFree function.names →
        function.line? = some line → IsLine line)
    ∧ (∀ (exports : Exports) (kind : ScopeKind), BacktickFree exports.names →
        ∀ line ∈ (exports.memberLines kind).entries, IsLine line) := by
  refine ⟨TypeNode.isType_scala, ?_, ?_, ?_⟩
  · intro member owner text free h
    exact Member.isLine_text free h
  · intro function line free h
    exact FunctionDeclaration.isLine_line free h
  · intro exports kind free
    exact Exports.isLine_memberLines kind free

/-- A type with a reserved word in its name, parentheses, and an operand of an operator whose name
is out of the language. -/
def wildType : TypeNode :=
  .intersection [.reference "ns.type" [],
    .parenthesized (.union [.reference "ReadonlyArray" [.reference "T" []], .keyword .null]),
    .operator .keyof (.reference "`" [])]

/-- A function whose name is reserved, with a parameter that has no name at all. -/
def wildFunction : FunctionDeclaration :=
  { name := "val", typeParameters := [⟨"T", some wildType, none⟩],
    parameters := [⟨"", some wildType, false, true⟩, ⟨"x-y", none, true, false⟩] }

def wildIndex : IndexSignature :=
  { parameters := [⟨"key", none, false, false⟩], type := wildType }

/-- An object with a line from each of its sources. -/
def wildExports : Exports :=
  { typeAliases := [⟨"A", [], wildType, .none⟩], functions := [wildFunction],
    exportAssignments := [⟨"val", true⟩], looseVariables := [⟨"v", none⟩] }

theorem texts_in_language_wild :
    (BacktickFree wildType.names
      ∧ IsType "ns.`type` with js.Array[_ <: T] | Null with String")
    ∧ (BacktickFree wildIndex.names ∧ ∀ line ∈ wildIndex.lines .interface, IsLine line)
    ∧ (BacktickFree wildFunction.names
      ∧ IsLine ("def `val`[T <: ns.`type` with js.Array[_ <: T] | Null with String]"
        ++ "(``: ns.`type` with js.Array[_ <: T] | Null with String*, `x-y`: js.Any = ???): Unit"
        ++ " = js.native"))
    ∧ (BacktickFree wildExports.names
      ∧ ∀ line ∈ (wildExports.memberLines .topLevel).entries, IsLine line) :=
  ⟨⟨by decide, texts_in_language.1 wildType (by decide)⟩,
    ⟨by decide, texts_in_language.2.1 (.index wildIndex) .interface _ (by decide) rfl⟩,
    ⟨by decide, texts_in_language.2.2.1 wildFunction _ (by decide) (by decide +kernel)⟩,
    ⟨by decide, texts_in_language.2.2.2 wildExports .topLevel (by decide)⟩⟩

end ScalaFacade
