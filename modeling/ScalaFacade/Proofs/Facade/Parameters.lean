import ScalaFacade.Proofs.Facade.Language
import ScalaFacade.Proofs.Scala.Definition

/-! # The names of parameters

A definition must not declare two parameters of one name. Source names are written by a rule that
keeps different names apart, so methods and functions inherit this from their source. Index
signatures do not: their setter has a parameter for the new value that is always called `v`, and if
the source calls the key `v` as well, the setter has two parameters of that name. This is the only
clash (`parameters_distinct_iff`).

Which names a line declares is told twice: by the parts that it is put together from, whatever the
names are, and by reading the line, if no name has a backtick. The first is what the generator
means, the second is what a reader of the facade finds, and the theorem says that they agree.

To bring the two together, every line that starts with `def` is shown to be the text of a
`Scala.Definition`: a name, type parameters, parameters and a result. Methods, functions and the two
definitions of an index signature are all of that form, so distinct names and reading back are shown
for definitions, once, and this module only says which definition a line is.

The clash is a property of the source: an index signature that can be set, with a first parameter
called `v`. It does not depend on the owner or on any type. `setter_declares_twice` has the smallest
one.
-/

set_option autoImplicit false

namespace ScalaFacade

open Scala

/-! ## Definitions from parameters

A parameter is a name and an ascription, in whichever of the three ways it is written. -/

/-- What follows the colon of a parameter. -/
def Parameter.annotation (parameter : Parameter) : String :=
  if parameter.rest then restElement parameter.type ++ "*"
  else scalaTypeOr Scala.any parameter.type ++ if parameter.optional then " = ???" else ""

/-- The three ways to write a parameter differ behind the colon only. -/
theorem Parameter.scala_eq (parameter : Parameter) :
    parameter.scala = Name.escape parameter.name ++ ": " ++ parameter.annotation := by
  rw [Parameter.scala, Parameter.annotation]
  dsimp only
  split
  · rw [String.append_assoc]
  · split
    · rw [String.append_assoc]
    · rw [String.append_empty]

theorem Parameter.isAscription_annotation {parameter : Parameter}
    (free : BacktickFree parameter.names) : IsAscription parameter.annotation := by
  rw [Parameter.names, backtickFree_cons] at free
  rw [Parameter.annotation]
  split
  · exact .ending (isType_restElement free.2) (by decide)
  · split
    · exact .ending (isType_scalaTypeOr isType_any parameter.type free.2) (by decide)
    · exact .ending (isType_scalaTypeOr isType_any parameter.type free.2) (by decide)

/-- The definition of a name with the given parameters. -/
def definitionOf (name : String) (typeParameters : List TypeParameter)
    (parameters : List Parameter) (result : String) : Definition where
  name := name
  typeParameters := typeParametersText typeParameters
  parameters := parameters.map fun parameter => (parameter.name, parameter.annotation)
  result := result

section DefinitionOf

variable {name : String} {typeParameters : List TypeParameter} {parameters : List Parameter}

/-- The text is the signature, with what ends the line behind it. The stub is part of the result
here, since a definition has no place of its own for it. -/
theorem text_definitionOf (result rest : String) :
    (definitionOf name typeParameters parameters (result ++ rest)).text
      = signature name typeParameters parameters result ++ rest := by
  have parts : (definitionOf name typeParameters parameters (result ++ rest)).parameterTexts =
      parameters.map Parameter.scala := by
    simp [Definition.parameterTexts, definitionOf, Parameter.scala_eq, Function.comp_def]
  rw [Definition.text, parts, signature, parametersText]
  simp only [definitionOf, String.append_assoc]

theorem names_definitionOf (result : String) :
    (definitionOf name typeParameters parameters result).names = parameters.map Parameter.name := by
  simp [Definition.names, definitionOf, Function.comp_def]

/-- If no name in it has a backtick, a definition can be read back. The type parameters and
annotations have to be well-formed as well, which is where the grammar of types is used. -/
theorem readable_definitionOf {result : String} (identifier : Identifier name)
    (freeT : BacktickFree (typeParameters.flatMap TypeParameter.names))
    (freeP : BacktickFree (parameters.flatMap Parameter.names)) (h : IsAscription result) :
    (definitionOf name typeParameters parameters result).Readable where
  name := identifier
  typeParameters := isTypeParameterList_text freeT
  names := by
    rw [names_definitionOf, List.forall_mem_map]
    intro parameter declared
    have free := freeP.of_flatMap declared
    rw [Parameter.names, backtickFree_cons] at free
    exact free.1
  annotations := by
    refine List.forall_mem_map.2 fun parameter declared => ?_
    exact Parameter.isAscription_annotation (freeP.of_flatMap declared)
  result := h

end DefinitionOf

/-! ## The definitions of a member

For each sort of member, the definitions it has, that their texts are its lines, and that they can
be read. -/

theorem isAscription_methodStub {type : String} (owner : Owner) (h : IsType type) :
    IsAscription (type ++ owner.methodStub) := by
  cases owner <;> exact .ending h (by decide)

/-- The definition of a method. -/
def Method.definition (method : Method) (owner : Owner) : Definition :=
  definitionOf (memberName method.name) method.typeParameters method.parameters
    (scalaTypeOr owner.defaultResult method.result ++ owner.methodStub)

theorem Method.text_definition (method : Method) (owner : Owner) :
    (method.definition owner).text = method.line owner :=
  text_definitionOf _ _

theorem Method.readable_definition {method : Method} (owner : Owner)
    (free : BacktickFree method.names) : (method.definition owner).Readable := by
  rw [Method.names, backtickFree_cons, backtickFree_append, backtickFree_append] at free
  obtain ⟨name, ⟨typeParameters, parameters⟩, result⟩ := free
  exact readable_definitionOf (identifier_memberName name) typeParameters parameters
    (isAscription_methodStub owner
      (isType_scalaTypeOr (isType_defaultResult owner) method.result result))

/-- The definition of a function, if it has a name. -/
def FunctionDeclaration.definition? (function : FunctionDeclaration) : Option Definition :=
  function.name.map fun name =>
    definitionOf (Name.escape name) function.typeParameters function.parameters
      (scalaTypeOr Scala.unit function.result ++ nativeStub)

/-- A function with a line has a definition with that text. Both exist exactly if the function has a
name. -/
theorem FunctionDeclaration.definition?_of_line {function : FunctionDeclaration} {line : String}
    (h : function.line? = some line) :
    ∃ definition, function.definition? = some definition ∧ definition.text = line
      ∧ definition.names = function.parameters.map Parameter.name
      ∧ (BacktickFree function.names → definition.Readable) := by
  obtain ⟨name, named, rfl⟩ := Option.map_eq_some_iff.1 h
  refine ⟨_, by rw [FunctionDeclaration.definition?, named, Option.map_some],
    text_definitionOf _ _, names_definitionOf _, fun free => ?_⟩
  rw [FunctionDeclaration.names, named, backtickFree_append, backtickFree_append,
    backtickFree_append] at free
  obtain ⟨own, ⟨typeParameters, parameters⟩, result⟩ := free
  exact readable_definitionOf (identifier_escape (own name (by simp))) typeParameters parameters
    (.ending (isType_scalaTypeOr isType_unit function.result result) (by decide))

namespace IndexSignature

/-- The name of the key in the source, or the one that a key gets if there is none. -/
def keyName (index : IndexSignature) : String :=
  (index.parameters.head?.map Parameter.name).getD "key"

/-- A key that is missing in the source is called `key`, a name that needs no backticks. -/
theorem key_eq (index : IndexSignature) : index.key.1 = Name.escape index.keyName := by
  unfold key keyName
  split
  · rename_i shape
    rw [shape]
    rfl
  · rename_i shape
    rw [shape]
    decide

/-- The definition that gets an element. -/
def getter (index : IndexSignature) (owner : Owner) : Definition where
  name := "apply"
  parameters := [(index.keyName, index.key.2)]
  result := scalaTypeOr Scala.any index.type ++ owner.methodStub

/-- The definition that sets an element. -/
def setter (index : IndexSignature) (owner : Owner) : Definition where
  name := "update"
  parameters := [(index.keyName, index.key.2), ("v", scalaTypeOr Scala.any index.type)]
  result := Scala.unit ++ owner.methodStub

/-- The definitions of an index signature. -/
def definitions (index : IndexSignature) (owner : Owner) : List Definition :=
  if index.modifiers.contains .readonly then [index.getter owner]
  else [index.getter owner, index.setter owner]

/-- Each definition of an index signature has the annotation for bracket access above it. -/
theorem lines_eq (index : IndexSignature) (owner : Owner) :
    index.lines owner
      = (index.definitions owner).flatMap fun definition => [bracketAccess, definition.text] := by
  have get : (index.getter owner).text = "def apply(" ++ index.key.1 ++ ": " ++ index.key.2 ++ "): "
      ++ scalaTypeOr Scala.any index.type ++ owner.methodStub := by
    rw [key_eq]
    simp only [getter, Definition.text, Definition.parameterTexts, List.map_cons, List.map_nil,
      String.intercalate_singleton, String.append_assoc]
    rfl
  have set : (index.setter owner).text = "def update(" ++ index.key.1 ++ ": " ++ index.key.2
      ++ ", v: " ++ scalaTypeOr Scala.any index.type ++ "): Unit" ++ owner.methodStub := by
    have value : Name.escape "v" = "v" := by decide +kernel
    rw [key_eq]
    simp only [setter, Definition.text, Definition.parameterTexts, List.map_cons, List.map_nil,
      String.intercalate_cons_cons, String.intercalate_singleton, String.append_assoc, value]
    rfl
  rw [lines, definitions]
  dsimp only
  split
  · simp [get]
  · simp [get, set]

/-- The key is called as the setter calls the new value, and there is a setter. -/
def clashes (index : IndexSignature) : Bool :=
  !index.modifiers.contains .readonly && index.parameters.head?.any (·.name == "v")

theorem keyName_eq_value_iff (index : IndexSignature) :
    index.keyName = "v" ↔ index.parameters.head?.any (·.name == "v") = true := by
  rw [keyName]
  cases index.parameters.head? with
  | none => decide
  | some key => simp

/-- **The clash.** The names of all definitions are distinct unless there is a setter and the key is
called `v`. -/
theorem nodup_definitions_iff (index : IndexSignature) (owner : Owner) :
    (∀ definition ∈ index.definitions owner, definition.names.Nodup) ↔ index.clashes = false := by
  -- The getter has one parameter, so only the setter can declare a name twice.
  have get : (index.getter owner).names.Nodup := by simp [getter, Definition.names]
  have set : (index.setter owner).names.Nodup ↔ index.keyName ≠ "v" := by
    simp [setter, Definition.names]
  rw [definitions, clashes]
  split
  · rename_i readonly
    simp [get, readonly]
  · rename_i writable
    simp [get, set, writable, keyName_eq_value_iff]

theorem keyName_free {index : IndexSignature} (free : BacktickFree index.names) :
    '`' ∉ index.keyName.toList := by
  rw [IndexSignature.names, backtickFree_append] at free
  rw [keyName]
  cases shape : index.parameters with
  | nil => decide
  | cons key others =>
    rw [shape, List.flatMap_cons, backtickFree_append, Parameter.names, backtickFree_cons] at free
    exact free.1.1.1

theorem readable_definitions {index : IndexSignature} (owner : Owner)
    (free : BacktickFree index.names) :
    ∀ definition ∈ index.definitions owner, definition.Readable := by
  have bare : ∀ {type : String}, IsType type → IsAscription type := by
    intro type isType
    simpa using IsAscription.ending isType (by decide : "" ∈ typeEndings)
  have name := keyName_free free
  have key := bare (key_spec free).2
  rw [IndexSignature.names, backtickFree_append] at free
  have value := isType_scalaTypeOr isType_any index.type free.2
  have apply : Identifier "apply" := .plain (by decide) (by decide)
  have update : Identifier "update" := .plain (by decide) (by decide)
  have get : (index.getter owner).Readable :=
    { name := apply
      typeParameters := .absent
      names := by simpa [getter, Definition.names] using name
      annotations := by simpa [getter] using key
      result := isAscription_methodStub owner value }
  have set : (index.setter owner).Readable :=
    { name := update
      typeParameters := .absent
      names := by simpa [setter, Definition.names] using name
      annotations := by simpa [setter] using ⟨key, bare value⟩
      result := isAscription_methodStub owner isType_unit }
  rw [definitions]
  split
  · simpa using get
  · simpa using ⟨get, set⟩

end IndexSignature

/-- The definitions among the lines of a member. -/
def Member.definitions (member : Member) (owner : Owner) : List Definition :=
  match member with
  | .method declared => [declared.definition owner]
  | .index declared => declared.definitions owner
  | .property _ | .other => []

/-- The names of the parameters of a member. -/
def Member.parameterNames : Member → List String
  | .method declared => declared.parameters.map Parameter.name
  | .index declared => declared.parameters.map Parameter.name
  | .property _ | .other => []

def Member.clashes : Member → Bool
  | .index declared => declared.clashes
  | .method _ | .property _ | .other => false

/-- The lines of a member that start with `def` are its definitions. -/
theorem Member.text_definitions {member : Member} {owner : Owner} {text : MemberText}
    (h : member.text? owner = some text) :
    text.lines.filter (wordOf · == "def") = (member.definitions owner).map Definition.text := by
  cases member with
  | property declared =>
    cases h
    have start : declared.line owner = "var" ++ " " ++ (memberName declared.name ++ ": "
        ++ scalaTypeOr Scala.any declared.type ++ owner.propertyStub) := by
      simp only [Property.line, String.append_assoc]
      rfl
    have word : wordOf (declared.line owner) = "var" := by
      rw [start]
      exact wordOf_append (by decide) _
    simp [MemberText.lines, Member.definitions, word]
  | method declared =>
    cases h
    simp [MemberText.lines, Member.definitions, ← Method.text_definition, Definition.wordOf_text]
  | index declared =>
    cases h
    have mark : (wordOf bracketAccess == "def") = false := by decide
    rw [MemberText.lines, IndexSignature.lines_eq, Member.definitions, List.filter_flatMap,
      List.map_eq_flatMap]
    simp [mark, Definition.wordOf_text]
  | other => cases h

/-- For members in general. The hypothesis is about the source and is needed for methods; an index
signature has its clash, or not, without it. -/
theorem Member.nodup_definitions_iff {member : Member} (owner : Owner)
    (distinct : member.parameterNames.Nodup) :
    (∀ definition ∈ member.definitions owner, definition.names.Nodup)
      ↔ member.clashes = false := by
  cases member with
  | method declared =>
    have names : (declared.definition owner).names = declared.parameters.map Parameter.name :=
      names_definitionOf _
    have distinct : (declared.parameters.map Parameter.name).Nodup := distinct
    simpa [Member.definitions, Member.clashes, names] using distinct
  | index declared => exact declared.nodup_definitions_iff owner
  | property | other => simp [Member.definitions, Member.clashes]

theorem Member.readable_definitions {member : Member} (owner : Owner)
    (free : BacktickFree member.names) :
    ∀ definition ∈ member.definitions owner, definition.Readable := by
  cases member with
  | method declared => simpa [Member.definitions] using Method.readable_definition owner free
  | index declared => exact IndexSignature.readable_definitions owner free
  | property | other => simp [Member.definitions]

/-- What holds of the lines of all definitions holds of all lines that start with `def`. -/
theorem Member.forall_text_definitions {member : Member} {owner : Owner} {text : MemberText}
    (h : member.text? owner = some text) {p : String → Prop} :
    (∀ line ∈ text.lines, wordOf line = "def" → p line)
      ↔ ∀ definition ∈ member.definitions owner, p definition.text := by
  have lines := Member.text_definitions h
  constructor
  · intro all definition present
    have listed : definition.text ∈ text.lines.filter (wordOf · == "def") := by
      rw [lines]
      exact List.mem_map_of_mem present
    obtain ⟨line, word⟩ := List.mem_filter.1 listed
    exact all definition.text line (by simpa using word)
  · intro all line present word
    have listed : line ∈ text.lines.filter (wordOf · == "def") :=
      List.mem_filter.2 ⟨present, by simpa using word⟩
    rw [lines] at listed
    obtain ⟨definition, declared, rfl⟩ := List.mem_map.1 listed
    exact all definition declared

/-! ## Distinct names -/

/-- **Parameters have different names, with one exception.** A member whose parameters have
different names has definitions whose parameters are written differently, unless it is an index
signature that can be set and whose key is called `v`. The parameters of a function are always
written differently if they have different names. If no name has a backtick, the names can be read
off the lines, and the same is true of what is read. -/
theorem parameters_distinct_iff (member : Member) (owner : Owner) (function : FunctionDeclaration) :
    (∀ text, member.text? owner = some text →
      text.lines.filter (wordOf · == "def") = (member.definitions owner).map Definition.text
      ∧ (member.parameterNames.Nodup →
          ((∀ definition ∈ member.definitions owner, definition.identifiers.Nodup)
            ↔ member.clashes = false)
          ∧ (BacktickFree member.names →
              (∀ definition ∈ member.definitions owner,
                parametersOf definition.text = definition.names)
              ∧ ((∀ line ∈ text.lines, wordOf line = "def" → (parametersOf line).Nodup)
                ↔ member.clashes = false))))
    ∧ (∀ line, function.line? = some line → (function.parameters.map Parameter.name).Nodup →
        ∃ definition, function.definition? = some definition ∧ definition.text = line
          ∧ definition.identifiers.Nodup
          ∧ (BacktickFree function.names →
              parametersOf line = function.parameters.map Parameter.name)) := by
  constructor
  · intro text h
    refine ⟨Member.text_definitions h, fun distinct => ⟨?_, fun free => ?_⟩⟩
    · simp only [Definition.nodup_identifiers]
      exact Member.nodup_definitions_iff owner distinct
    · have read := fun definition declared =>
        (Member.readable_definitions owner free definition declared).parametersOf_text
      refine ⟨read, ?_⟩
      rw [Member.forall_text_definitions h, ← Member.nodup_definitions_iff owner distinct]
      exact forall₂_congr fun definition declared => by rw [read definition declared]
  · intro line h distinct
    obtain ⟨definition, declared, rfl, names, readable⟩ := FunctionDeclaration.definition?_of_line h
    refine ⟨definition, declared, rfl, ?_, fun free => ?_⟩
    · rw [Definition.nodup_identifiers, names]
      exact distinct
    · rw [(readable free).parametersOf_text, names]

/-- A method with a reserved word, a name that is no identifier and one that is called `v`. -/
def oddParameters : Method :=
  { name := "on", parameters := [{ name := "type" }, { name := "x-y", optional := true },
      { name := "v", rest := true }] }

def oddFunction : FunctionDeclaration :=
  { name := some "on", parameters := oddParameters.parameters }

theorem parameters_distinct_iff_odd :
    ((Member.method oddParameters).parameterNames.Nodup
      ∧ BacktickFree (Member.method oddParameters).names
      ∧ (parametersOf "def on(`type`: js.Any, `x-y`: js.Any = ???, v: js.Any*): js.Any").Nodup)
    ∧ ((oddFunction.parameters.map Parameter.name).Nodup ∧ BacktickFree oddFunction.names
      ∧ parametersOf "def on(`type`: js.Any, `x-y`: js.Any = ???, v: js.Any*): Unit = js.native"
        = ["type", "x-y", "v"]) := by
  have distinct : (Member.method oddParameters).parameterNames.Nodup := by decide
  have free : BacktickFree (Member.method oddParameters).names := by decide
  have freeF : BacktickFree oddFunction.names := by decide
  have line : oddParameters.line .interface =
      "def on(`type`: js.Any, `x-y`: js.Any = ???, v: js.Any*): js.Any" := by decide +kernel
  have lineF : oddFunction.line? =
      some "def on(`type`: js.Any, `x-y`: js.Any = ???, v: js.Any*): Unit = js.native" := by
    decide +kernel
  have distinct_iff := parameters_distinct_iff (.method oddParameters) .interface oddFunction
  have member := distinct_iff.1 _ rfl
  have read := ((member.2 distinct).2 free).2.2 rfl _ (List.mem_singleton.2 rfl)
  rw [line] at read
  obtain ⟨_, _, _, _, readF⟩ := distinct_iff.2 _ lineF distinct
  exact ⟨⟨distinct, free, read (by decide)⟩, distinct, freeF, readF freeF⟩

/-- An index signature with a key that is called `v`. -/
def keyCalledV : IndexSignature :=
  { parameters := [{ name := "v", type := some (.keyword .string) }],
    type := some (.keyword .number) }

/-- Its one parameter has a name of its own, but its setter declares two parameters `v`. -/
theorem setter_declares_twice :
    (Member.index keyCalledV).parameterNames.Nodup
    ∧ (∃ text, (Member.index keyCalledV).text? .concreteClass = some text
      ∧ "def update(v: String, v: Double): Unit = js.native" ∈ text.lines)
    ∧ parametersOf "def update(v: String, v: Double): Unit = js.native" = ["v", "v"]
    ∧ ¬(parametersOf "def update(v: String, v: Double): Unit = js.native").Nodup := by
  have read : parametersOf "def update(v: String, v: Double): Unit = js.native" = ["v", "v"] := by
    decide +kernel
  refine ⟨by decide, ⟨_, rfl, by decide +kernel⟩, read, ?_⟩
  rw [read]
  decide

end ScalaFacade
