import Mathlib.Logic.Relation
import ScalaFacade.Proofs.Facade.TypeView

/-! # Two spellings of a type

An array may be written `T[]` or `Array<T>`, and a type may be put in parentheses. Neither makes a
difference to a facade, wherever in a document the type stands (`Emitter.emit_respelled`).

A rewrite replaces one array or takes off one pair of parentheses, at one place; a document is
another spelling of a document if rewrites lead from one to the other, in either direction and any
number of times. One place is left out: an object type that is the whole annotation of a variable
has a block of its own, and with parentheses around it it has not.

Arrays and parentheses are looked at in many places of the emitter, each with its own way of seeing
through them. All of these are questions that the view of a type answers, so a rewrite is shown to
keep the view and, for object types, the lines of the properties. Equations of that form carry over
to any number of rewrites.

The argument goes up in three steps:

* in types and members, by mutual recursion over the rewrite (`TypeNode.Rewrite.view_eq` and its
  siblings), with one congruence for each place;
* in declarations, where a rewrite changes one entry of one list (`Within`);
* in scopes, where a statement can stand for another if its pieces and parts are the same
  (`Statement.StandsFor`). A module can, if its body is written alike, and so the last step reaches
  any depth by induction.

Rewrites are relations and not a normalising function. A function would have to say where it starts
and that it ends; the relation only says what one step is, and what it leaves out can be read off
its constructors.
-/

set_option autoImplicit false

namespace ScalaFacade

open Layout Relation

/-! ## Rewrites

One constructor for each place where a type can stand. `above` and `below` are the entries of a list
around the one that is rewritten. -/

mutual

/-- One rewrite in a type. -/
inductive TypeNode.Rewrite : TypeNode → TypeNode → Prop where
  | brackets (element : TypeNode) :
      TypeNode.Rewrite (.array element) (.reference "Array" [element])
  | parentheses (inner : TypeNode) : TypeNode.Rewrite (.parenthesized inner) inner
  | argument (name : String) (above below : List TypeNode) {t u : TypeNode}
      (inside : TypeNode.Rewrite t u) :
      TypeNode.Rewrite (.reference name (above ++ t :: below)) (.reference name (above ++ u :: below))
  | element {t u : TypeNode} (inside : TypeNode.Rewrite t u) :
      TypeNode.Rewrite (.array t) (.array u)
  | alternative (above below : List TypeNode) {t u : TypeNode} (inside : TypeNode.Rewrite t u) :
      TypeNode.Rewrite (.union (above ++ t :: below)) (.union (above ++ u :: below))
  | component (above below : List TypeNode) {t u : TypeNode} (inside : TypeNode.Rewrite t u) :
      TypeNode.Rewrite (.intersection (above ++ t :: below)) (.intersection (above ++ u :: below))
  | typeParameter (above below : List TypeParameter) (parameters : List Parameter)
      (result : Option TypeNode) {p q : TypeParameter} (inside : TypeParameter.Rewrite p q) :
      TypeNode.Rewrite (.function (above ++ p :: below) parameters result)
        (.function (above ++ q :: below) parameters result)
  | parameter (typeParameters : List TypeParameter) (above below : List Parameter)
      (result : Option TypeNode) {p q : Parameter} (inside : Parameter.Rewrite p q) :
      TypeNode.Rewrite (.function typeParameters (above ++ p :: below) result)
        (.function typeParameters (above ++ q :: below) result)
  | result (typeParameters : List TypeParameter) (parameters : List Parameter) {t u : TypeNode}
      (inside : TypeNode.Rewrite t u) :
      TypeNode.Rewrite (.function typeParameters parameters (some t))
        (.function typeParameters parameters (some u))
  | operand (word : TypeOperator) {t u : TypeNode} (inside : TypeNode.Rewrite t u) :
      TypeNode.Rewrite (.operator word t) (.operator word u)
  | inner {t u : TypeNode} (inside : TypeNode.Rewrite t u) :
      TypeNode.Rewrite (.parenthesized t) (.parenthesized u)
  | member (above below : List Member) {m n : Member} (inside : Member.Rewrite m n) :
      TypeNode.Rewrite (.object (above ++ m :: below)) (.object (above ++ n :: below))

/-- One rewrite in a type parameter. -/
inductive TypeParameter.Rewrite : TypeParameter → TypeParameter → Prop where
  | bound (name : String) (default : Option TypeNode) {t u : TypeNode}
      (inside : TypeNode.Rewrite t u) :
      TypeParameter.Rewrite ⟨name, some t, default⟩ ⟨name, some u, default⟩
  | default (name : String) (constraint : Option TypeNode) {t u : TypeNode}
      (inside : TypeNode.Rewrite t u) :
      TypeParameter.Rewrite ⟨name, constraint, some t⟩ ⟨name, constraint, some u⟩

/-- One rewrite in a parameter. -/
inductive Parameter.Rewrite : Parameter → Parameter → Prop where
  | type (name : String) (optional rest : Bool) {t u : TypeNode} (inside : TypeNode.Rewrite t u) :
      Parameter.Rewrite ⟨name, some t, optional, rest⟩ ⟨name, some u, optional, rest⟩

/-- One rewrite in a member. -/
inductive Member.Rewrite : Member → Member → Prop where
  | property (declared : Property) {t u : TypeNode} (inside : TypeNode.Rewrite t u) :
      Member.Rewrite (.property { declared with type := some t })
        (.property { declared with type := some u })
  | methodTypeParameter (declared : Method) (above below : List TypeParameter)
      {p q : TypeParameter} (inside : TypeParameter.Rewrite p q) :
      Member.Rewrite (.method { declared with typeParameters := above ++ p :: below })
        (.method { declared with typeParameters := above ++ q :: below })
  | methodParameter (declared : Method) (above below : List Parameter) {p q : Parameter}
      (inside : Parameter.Rewrite p q) :
      Member.Rewrite (.method { declared with parameters := above ++ p :: below })
        (.method { declared with parameters := above ++ q :: below })
  | methodResult (declared : Method) {t u : TypeNode} (inside : TypeNode.Rewrite t u) :
      Member.Rewrite (.method { declared with result := some t })
        (.method { declared with result := some u })
  | indexParameter (declared : IndexSignature) (above below : List Parameter) {p q : Parameter}
      (inside : Parameter.Rewrite p q) :
      Member.Rewrite (.index { declared with parameters := above ++ p :: below })
        (.index { declared with parameters := above ++ q :: below })
  | indexType (declared : IndexSignature) {t u : TypeNode} (inside : TypeNode.Rewrite t u) :
      Member.Rewrite (.index { declared with type := some t })
        (.index { declared with type := some u })

end

/-- One entry of a list is rewritten. -/
inductive Within {α : Type} (rewrite : α → α → Prop) : List α → List α → Prop where
  | intro (above below : List α) {a b : α} (inside : rewrite a b) :
      Within rewrite (above ++ a :: below) (above ++ b :: below)

/-- Whether a type is an object type. Parentheses count. -/
def TypeNode.isObject : TypeNode → Bool
  | .object _ => true
  | _ => false

/-- One rewrite in a variable. Its annotation does not become an object type or stop being one. -/
inductive VariableDeclaration.Rewrite : VariableDeclaration → VariableDeclaration → Prop where
  | type (name : String) {t u : TypeNode} (inside : t.Rewrite u)
      (same : t.isObject = u.isObject) :
      VariableDeclaration.Rewrite ⟨name, some t⟩ ⟨name, some u⟩

/-- One rewrite in a function. -/
inductive FunctionDeclaration.Rewrite : FunctionDeclaration → FunctionDeclaration → Prop where
  | typeParameters (declared : FunctionDeclaration) {ps qs : List TypeParameter}
      (inside : Within TypeParameter.Rewrite ps qs) :
      FunctionDeclaration.Rewrite { declared with typeParameters := ps }
        { declared with typeParameters := qs }
  | parameters (declared : FunctionDeclaration) {ps qs : List Parameter}
      (inside : Within Parameter.Rewrite ps qs) :
      FunctionDeclaration.Rewrite { declared with parameters := ps }
        { declared with parameters := qs }
  | result (declared : FunctionDeclaration) {t u : TypeNode} (inside : t.Rewrite u) :
      FunctionDeclaration.Rewrite { declared with result := some t }
        { declared with result := some u }

/-- One rewrite in a statement, in a module at any depth. -/
inductive Statement.Rewrite : Statement → Statement → Prop where
  | module (name : String) (above below : List Statement) (modifiers : Modifiers) {s s' : Statement}
      (inside : Statement.Rewrite s s') :
      Statement.Rewrite (.module name (some (above ++ s :: below)) modifiers)
        (.module name (some (above ++ s' :: below)) modifiers)
  | classTypeParameters (declared : ClassDeclaration) {ps qs : List TypeParameter}
      (inside : Within TypeParameter.Rewrite ps qs) :
      Statement.Rewrite (.classDecl { declared with typeParameters := ps })
        (.classDecl { declared with typeParameters := qs })
  | classMembers (declared : ClassDeclaration) {ms ns : List Member}
      (inside : Within Member.Rewrite ms ns) :
      Statement.Rewrite (.classDecl { declared with members := ms })
        (.classDecl { declared with members := ns })
  | interfaceTypeParameters (declared : InterfaceDeclaration) {ps qs : List TypeParameter}
      (inside : Within TypeParameter.Rewrite ps qs) :
      Statement.Rewrite (.interfaceDecl { declared with typeParameters := ps })
        (.interfaceDecl { declared with typeParameters := qs })
  | interfaceMembers (declared : InterfaceDeclaration) {ms ns : List Member}
      (inside : Within Member.Rewrite ms ns) :
      Statement.Rewrite (.interfaceDecl { declared with members := ms })
        (.interfaceDecl { declared with members := ns })
  | aliasTypeParameters (declared : TypeAliasDeclaration) {ps qs : List TypeParameter}
      (inside : Within TypeParameter.Rewrite ps qs) :
      Statement.Rewrite (.typeAlias { declared with typeParameters := ps })
        (.typeAlias { declared with typeParameters := qs })
  | aliasType (declared : TypeAliasDeclaration) {t u : TypeNode} (inside : t.Rewrite u) :
      Statement.Rewrite (.typeAlias { declared with type := t })
        (.typeAlias { declared with type := u })
  | declarations (modifiers : Modifiers) {ds es : List VariableDeclaration}
      (inside : Within VariableDeclaration.Rewrite ds es) :
      Statement.Rewrite (.variableDecl ⟨ds, modifiers⟩) (.variableDecl ⟨es, modifiers⟩)
  | function {f g : FunctionDeclaration} (inside : f.Rewrite g) :
      Statement.Rewrite (.function f) (.function g)

/-- One rewrite in a document. -/
inductive Document.Rewrite : Document → Document → Prop where
  | statements (file : String) {xs ys : List Statement}
      (inside : Within Statement.Rewrite xs ys) : Document.Rewrite ⟨file, xs⟩ ⟨file, ys⟩

/-! ## What a rewrite keeps

The view, and what a view does not have: the lines of an object type, which matter where it is the
annotation of a variable. -/

/-- The lines of the properties of an object type, parentheses aside. -/
def TypeNode.objectLines? (type : TypeNode) : Option (List String) :=
  match type.unparenthesized with
  | .object members => some (members.filterMap objectLine?)
  | _ => none

/-- The lines of an object type are those its properties would have in a class, so members with
equal texts there have equal lines here. -/
theorem objectLine?_of_text? {first second : Member}
    (h : first.text? .concreteClass = second.text? .concreteClass) :
    objectLine? first = objectLine? second := by
  cases first <;> cases second <;> simp_all [Member.text?, objectLine?]

mutual

/-- **A rewrite keeps the view.** Both base cases are equations between views. Object lines change
with a rewrite of a member only, and in every other case there are none on both sides or the same
ones by recursion. -/
theorem TypeNode.Rewrite.view_eq : ∀ {t u : TypeNode}, t.Rewrite u →
    t.view = u.view ∧ t.objectLines? = u.objectLines?
  | _, _, .brackets element => ⟨rfl, rfl⟩
  | _, _, .parentheses inner => ⟨rfl, rfl⟩
  | _, _, .argument name above below inside => by
    refine ⟨view_reference name ?_, rfl⟩
    simp [inside.view_eq.1]
  | _, _, .element inside => by
    refine ⟨?_, rfl⟩
    rw [view_array, view_array, inside.view_eq.1]
  | _, _, .alternative above below inside => by
    refine ⟨view_union ?_, rfl⟩
    simp [inside.view_eq.1]
  | _, _, .component above below inside => by
    refine ⟨view_intersection ?_, rfl⟩
    simp [inside.view_eq.1]
  -- The type parameters of a function type are not written.
  | _, _, .typeParameter above below parameters result inside =>
    ⟨view_function rfl rfl, rfl⟩
  | _, _, .parameter typeParameters above below result inside => by
    refine ⟨view_function ?_ rfl, rfl⟩
    simp [inside.type_eq.2.1]
  | _, _, .result typeParameters parameters inside => by
    refine ⟨view_function rfl ?_, rfl⟩
    simp [inside.view_eq.1]
  | _, _, .operand word inside => ⟨view_operator word _ _, rfl⟩
  | _, _, .inner inside => inside.view_eq
  | _, _, .member above below inside => by
    refine ⟨view_object _ _, ?_⟩
    have line := objectLine?_of_text? (inside.text?_eq .concreteClass)
    simp [TypeNode.objectLines?, TypeNode.unparenthesized, List.filterMap_cons, line]

theorem TypeParameter.Rewrite.scala_eq : ∀ {p q : TypeParameter}, p.Rewrite q →
    p.scala = q.scala
  | _, _, .bound name default inside => by
    refine TypeParameter.scala_congr rfl ?_
    simp [inside.view_eq.1]
  | _, _, .default name constraint inside => TypeParameter.scala_congr rfl rfl

/-- Three facts, for the three places where parameters occur: an index signature needs the name and
the view, a function type the view, and everything else the text. -/
theorem Parameter.Rewrite.type_eq : ∀ {p q : Parameter}, p.Rewrite q →
    p.name = q.name ∧ p.type.map TypeNode.view = q.type.map TypeNode.view ∧ p.scala = q.scala
  | _, _, .type name optional rest inside => by
    have view := congrArg some inside.view_eq.1
    exact ⟨rfl, view, Parameter.scala_congr rfl view rfl fun _ => rfl⟩

/-- The text of a member is kept for every owner. Each case picks the congruence of the member and
hands it what was shown about the part. -/
theorem Member.Rewrite.text?_eq : ∀ {m n : Member}, m.Rewrite n →
    ∀ owner : Owner, m.text? owner = n.text? owner
  | _, _, .property declared inside, owner => by
    have view := inside.view_eq.1
    simp only [Member.text?, Option.some.injEq, MemberText.property.injEq]
    apply Property.line_congr <;> simp [view]
  | _, _, .methodTypeParameter declared above below inside, owner => by
    have scala := inside.scala_eq
    simp only [Member.text?, Option.some.injEq, MemberText.method.injEq]
    apply Method.line_congr <;> simp [scala]
  | _, _, .methodParameter declared above below inside, owner => by
    have scala := inside.type_eq.2.2
    simp only [Member.text?, Option.some.injEq, MemberText.method.injEq]
    apply Method.line_congr <;> simp [scala]
  | _, _, .methodResult declared inside, owner => by
    have view := inside.view_eq.1
    simp only [Member.text?, Option.some.injEq, MemberText.method.injEq]
    apply Method.line_congr <;> simp [view]
  | _, _, .indexParameter declared above below inside, owner => by
    have key := inside.type_eq
    simp only [Member.text?, Option.some.injEq, MemberText.accessors.injEq]
    apply IndexSignature.lines_congr <;> simp [key.1, key.2.1]
  | _, _, .indexType declared inside, owner => by
    have view := inside.view_eq.1
    simp only [Member.text?, Option.some.injEq, MemberText.accessors.injEq]
    apply IndexSignature.lines_congr <;> simp [view]

end

/-! ## Rewrites in declarations

A declaration has its types in lists of parameters or members. What maps over a list and is kept by
a rewrite of one entry is kept. -/

section Lists

variable {α β : Type} {rewrite : α → α → Prop} {xs ys : List α}

/-- A function that does not tell the two entries apart does not tell the lists apart. -/
theorem Within.map_eq (inside : Within rewrite xs ys) (f : α → β)
    (h : ∀ a b, rewrite a b → f a = f b) : xs.map f = ys.map f := by
  cases inside with
  | intro above below step => simp [h _ _ step]

theorem Within.filterMap_eq (inside : Within rewrite xs ys) (f : α → Option β)
    (h : ∀ a b, rewrite a b → f a = f b) : xs.filterMap f = ys.filterMap f := by
  cases inside with
  | intro above below step => simp [List.filterMap_cons, h _ _ step]

end Lists

theorem memberTexts_rewrite {members members' : List Member}
    (inside : Within Member.Rewrite members members') (owner : Owner) :
    memberTexts members owner = memberTexts members' owner :=
  inside.filterMap_eq (·.text? owner) fun _ _ step => step.text?_eq owner

theorem FunctionDeclaration.Rewrite.line?_eq {f g : FunctionDeclaration} (step : f.Rewrite g) :
    f.name = g.name ∧ f.line? = g.line? := by
  cases step with
  | typeParameters declared inside =>
    have texts := inside.map_eq TypeParameter.scala fun _ _ step => step.scala_eq
    exact ⟨rfl, FunctionDeclaration.line?_congr rfl texts rfl rfl⟩
  | parameters declared inside =>
    have texts := inside.map_eq Parameter.scala fun _ _ step => step.type_eq.2.2
    exact ⟨rfl, FunctionDeclaration.line?_congr rfl rfl texts rfl⟩
  | result declared inside =>
    have view := congrArg some inside.view_eq.1
    exact ⟨rfl, FunctionDeclaration.line?_congr rfl rfl rfl view⟩

theorem TypeNode.eq_object_of_isObject {type : TypeNode} (h : type.isObject = true) :
    ∃ members, type = .object members := by
  cases type with
  | object members => exact ⟨members, rfl⟩
  | _ => exact absurd h (by simp [TypeNode.isObject])

theorem objectMembers?_of_not_isObject {type : TypeNode} (name : String)
    (h : type.isObject = false) : VariableDeclaration.objectMembers? ⟨name, some type⟩ = none := by
  cases type with
  | object members => exact absurd h (by simp [TypeNode.isObject])
  | _ => rfl

/-- A variable has its block and is loose, or not, before and after a rewrite. -/
theorem VariableDeclaration.Rewrite.block_eq {d e : VariableDeclaration} (step : d.Rewrite e) :
    d.objectMembers?.isSome = e.objectMembers?.isSome ∧ d.line = e.line ∧
      ∀ scope, d.block scope = e.block scope := by
  obtain @⟨name, t, u, inside, same⟩ := step
  obtain ⟨view, lines⟩ := inside.view_eq
  have line : VariableDeclaration.line ⟨name, some t⟩ = VariableDeclaration.line ⟨name, some u⟩ := by
    apply VariableDeclaration.line_congr <;> simp [view]
  cases object : t.isObject with
  | true =>
    obtain ⟨members, rfl⟩ := TypeNode.eq_object_of_isObject object
    obtain ⟨members', rfl⟩ := TypeNode.eq_object_of_isObject (same ▸ object)
    have lines : members.filterMap objectLine? = members'.filterMap objectLine? :=
      Option.some.inj lines
    refine ⟨rfl, line, fun scope => ?_⟩
    simp only [VariableDeclaration.block, VariableDeclaration.objectMembers?, objectBlock, lines]
  | false =>
    have before := objectMembers?_of_not_isObject name object
    have after := objectMembers?_of_not_isObject name (same ▸ object)
    refine ⟨by rw [before, after], line, fun scope => ?_⟩
    rw [VariableDeclaration.block, VariableDeclaration.block, before, after]

/-! ## Rewrites in scopes

The pieces and parts of a scope are those of its statements, so two statements can be compared on
their own. -/

/-- A statement that can stand for another in every scope. -/
structure Statement.StandsFor (first second : Statement) : Prop where
  pieces : ∀ scope, piecesOf scope [first] = piecesOf scope [second]
  parts : ∀ kind,
    (Exports.ofStatements kind [first]).parts = (Exports.ofStatements kind [second]).parts

section Scopes

variable {first second : Statement}

theorem Statement.StandsFor.parts_within (h : first.StandsFor second) (kind : ScopeKind)
    (above below : List Statement) :
    (Exports.ofStatements kind (above ++ first :: below)).parts =
      (Exports.ofStatements kind (above ++ second :: below)).parts := by
  have split (statement : Statement) :
      (Exports.ofStatements kind (above ++ statement :: below)).parts =
        (Exports.ofStatements kind above).parts.append
          ((Exports.ofStatements kind [statement]).parts.append
            (Exports.ofStatements kind below).parts) := by
    rw [← List.singleton_append, Exports.ofStatements_append, Exports.ofStatements_append,
      Exports.parts_append, Exports.parts_append]
  rw [split, split, h.parts kind]

/-- A statement that stands for another can be put in its place: everything above and below is
written as before. -/
theorem Statement.StandsFor.scopeDirectives_within (h : first.StandsFor second) (scope : Scope)
    (above below : List Statement) :
    scopeDirectives scope (above ++ first :: below) =
      scopeDirectives scope (above ++ second :: below) := by
  have split (statement : Statement) : piecesOf scope (above ++ statement :: below) =
      piecesOf scope above ++ (piecesOf scope [statement] ++ piecesOf scope below) := by
    rw [← List.singleton_append, piecesOf_append, piecesOf_append]
  refine scopeDirectives_congr ?_ (h.parts_within scope.kind above below)
  rw [split, split, h.pieces scope]

end Scopes

/-- A module is known by its package and by how its body is written, in whatever scope that is. -/
theorem Statement.standsFor_module {body body' : List Statement}
    (h : ∀ scope, scopeDirectives scope body = scopeDirectives scope body') (name : String)
    (modifiers : Modifiers) :
    (Statement.module name (some body) modifiers).StandsFor
      (.module name (some body') modifiers) where
  pieces := by
    intro scope
    simp [piecesOf_cons, Statement.producers, Producer.piece?, h (scope.module name)]
  parts := fun _ => rfl

theorem Statement.standsFor_class {c d : ClassDeclaration}
    (h : ∀ scope, c.block scope = d.block scope) :
    (Statement.classDecl c).StandsFor (.classDecl d) where
  pieces := by
    intro scope
    simp [piecesOf_cons, Statement.producers, Producer.piece?, h scope]
  parts := fun _ => rfl

/-- An interface is a share of a trait, so its members are compared by their texts. -/
theorem Statement.standsFor_interface {i j : InterfaceDeclaration} (name : i.name = j.name)
    (typeParameters :
      i.typeParameters.map TypeParameter.scala = j.typeParameters.map TypeParameter.scala)
    (members : memberTexts i.members .interface = memberTexts j.members .interface) :
    (Statement.interfaceDecl i).StandsFor (.interfaceDecl j) where
  pieces := by
    intro scope
    simp [piecesOf_cons, Statement.producers, Producer.piece?, name, members,
      typeParametersText_congr typeParameters]
  parts := by
    intro kind
    rw [Exports.parts_ofStatements_interface, Exports.parts_ofStatements_interface]

theorem Statement.standsFor_typeAlias {a b : TypeAliasDeclaration} (h : a.line = b.line) :
    (Statement.typeAlias a).StandsFor (.typeAlias b) where
  pieces := fun _ => rfl
  parts := by
    intro kind
    simp [Exports.ofStatements, Exports.record, Exports.parts, h]

theorem Statement.standsFor_function {f g : FunctionDeclaration} (step : f.Rewrite g) :
    (Statement.function f).StandsFor (.function g) where
  pieces := fun _ => rfl
  parts := by
    intro kind
    obtain ⟨name, line⟩ := step.line?_eq
    cases h : g.name <;>
      simp [Exports.ofStatements, Exports.record, Exports.parts, name, line, h]

/-- A variable is either loose or has a block, and stays what it was. In a module the loose ones are
not collected at all. -/
theorem Statement.standsFor_variables {ds es : List VariableDeclaration} (modifiers : Modifiers)
    (inside : Within VariableDeclaration.Rewrite ds es) :
    (Statement.variableDecl ⟨ds, modifiers⟩).StandsFor (.variableDecl ⟨es, modifiers⟩) := by
  obtain @⟨above, below, d, e, step⟩ := inside
  obtain ⟨object, line, block⟩ := step.block_eq
  constructor
  · intro scope
    cases h : e.objectMembers?.isSome <;>
      simp [piecesOf_cons, Statement.producers, Producer.piece?, object, h, block scope]
  · intro kind
    have loose := congrArg not object
    simp only [Option.not_isSome] at loose
    cases kind with
    | topLevel =>
      cases h : e.objectMembers?.isNone <;>
        simp [Exports.ofStatements, Exports.record, Exports.parts, loose, h, line,
          -Option.isNone_iff_eq_none, -Option.isNone_eq_false_iff]
    | module => rfl

/-- A rewritten statement can stand for the statement, in whatever scope. -/
theorem Statement.Rewrite.standsFor {s s' : Statement} (step : s.Rewrite s') :
    s.StandsFor s' := by
  induction step with
  | module name above below modifiers _ ih =>
    exact Statement.standsFor_module (fun scope => ih.scopeDirectives_within scope above below)
      name modifiers
  | classTypeParameters declared inside =>
    have texts := inside.map_eq TypeParameter.scala fun _ _ step => step.scala_eq
    exact Statement.standsFor_class
      (ClassDeclaration.block_congr rfl rfl texts fun _ => rfl)
  | classMembers declared inside =>
    exact Statement.standsFor_class
      (ClassDeclaration.block_congr rfl rfl rfl (memberTexts_rewrite inside))
  | interfaceTypeParameters declared inside =>
    have texts := inside.map_eq TypeParameter.scala fun _ _ step => step.scala_eq
    exact Statement.standsFor_interface rfl texts rfl
  | interfaceMembers declared inside =>
    exact Statement.standsFor_interface rfl rfl (memberTexts_rewrite inside .interface)
  | aliasTypeParameters declared inside =>
    have texts := inside.map_eq TypeParameter.scala fun _ _ step => step.scala_eq
    exact Statement.standsFor_typeAlias (TypeAliasDeclaration.line_congr rfl texts rfl)
  | aliasType declared inside =>
    exact Statement.standsFor_typeAlias
      (TypeAliasDeclaration.line_congr rfl rfl inside.view_eq.1)
  | declarations modifiers inside => exact Statement.standsFor_variables modifiers inside
  | function inside => exact Statement.standsFor_function inside

theorem Within.parts_eq {xs ys : List Statement} (inside : Within Statement.Rewrite xs ys)
    (kind : ScopeKind) :
    (Exports.ofStatements kind xs).parts = (Exports.ofStatements kind ys).parts := by
  obtain ⟨above, below, step⟩ := inside
  exact step.standsFor.parts_within kind above below

theorem Document.Rewrite.emit_eq {d e : Document} (step : d.Rewrite e) (emitter : Emitter) :
    emitter.emit d = emitter.emit e := by
  obtain ⟨file, ⟨above, below, inside⟩⟩ := step
  exact Emitter.emit_congr
    (inside.standsFor.scopeDirectives_within (.topLevel emitter.package) above below)

/-! ## Any number of rewrites

Everything above is an equation between the values of some function, so it holds along a chain of
rewrites in either direction. -/

/-- What every rewrite keeps, any number of rewrites in either direction keep. -/
theorem apply_eq_of_eqvGen {α β : Type} {rewrite : α → α → Prop} {a b : α}
    (rewrites : EqvGen rewrite a b) (f : α → β) (h : ∀ a b, rewrite a b → f a = f b) :
    f a = f b := by
  induction rewrites with
  | rel a b step => exact h a b step
  | refl => rfl
  | symm _ _ _ ih => exact ih.symm
  | trans _ _ _ _ _ first second => exact first.trans second

/-- **The spelling of a type does not matter.** A facade is the same for every spelling of its
document; so are, each on its own, the texts of types, parameters, type parameters, members and
functions, the answers about literals in a union, and the lines of the object of a scope. -/
theorem Emitter.emit_respelled (emitter : Emitter) :
    (∀ d e, EqvGen Document.Rewrite d e → emitter.emit d = emitter.emit e) ∧
      (∀ t u, EqvGen TypeNode.Rewrite t u → t.scala = u.scala ∧
        t.isStringLiteral = u.isStringLiteral ∧ t.isIntegralLiteral = u.isIntegralLiteral ∧
        t.isFractionalLiteral = u.isFractionalLiteral) ∧
      (∀ ps qs, EqvGen (Within Parameter.Rewrite) ps qs → parametersText ps = parametersText qs) ∧
      (∀ ps qs, EqvGen (Within TypeParameter.Rewrite) ps qs →
        typeParametersText ps = typeParametersText qs) ∧
      (∀ m n, EqvGen Member.Rewrite m n → ∀ owner, m.text? owner = n.text? owner) ∧
      (∀ f g, EqvGen FunctionDeclaration.Rewrite f g → f.line? = g.line?) ∧
      ∀ xs ys, EqvGen (Within Statement.Rewrite) xs ys → ∀ kind,
        (Exports.ofStatements kind xs).memberLines kind =
          (Exports.ofStatements kind ys).memberLines kind := by
  refine ⟨?_, ?_, ?_, ?_, ?_, ?_, ?_⟩
  · intro d e rewrites
    exact apply_eq_of_eqvGen rewrites emitter.emit fun _ _ step => step.emit_eq emitter
  · intro t u rewrites
    have view := apply_eq_of_eqvGen rewrites TypeNode.view fun _ _ step => step.view_eq.1
    exact ⟨congrArg TypeView.scala view, congrArg TypeView.isString view,
      congrArg TypeView.isIntegral view, congrArg TypeView.isFractional view⟩
  · intro ps qs rewrites
    have texts := apply_eq_of_eqvGen rewrites (List.map Parameter.scala) fun _ _ inside =>
      inside.map_eq Parameter.scala fun _ _ step => step.type_eq.2.2
    rw [parametersText, parametersText, texts]
  · intro ps qs rewrites
    have texts := apply_eq_of_eqvGen rewrites (List.map TypeParameter.scala) fun _ _ inside =>
      inside.map_eq TypeParameter.scala fun _ _ step => step.scala_eq
    exact typeParametersText_congr texts
  · intro m n rewrites owner
    exact apply_eq_of_eqvGen rewrites (·.text? owner) fun _ _ step => step.text?_eq owner
  · intro f g rewrites
    exact apply_eq_of_eqvGen rewrites FunctionDeclaration.line? fun _ _ step => step.line?_eq.2
  · intro xs ys rewrites kind
    have parts := apply_eq_of_eqvGen rewrites (fun zs => (Exports.ofStatements kind zs).parts)
      fun _ _ inside => inside.parts_eq kind
    rw [Exports.memberLines_eq, Exports.memberLines_eq, parts]

/-- `(string[])` -/
def bracketedArray : TypeNode := .parenthesized (.array (.keyword .string))

/-- `Array<string>` -/
def namedArray : TypeNode := .reference "Array" [.keyword .string]

/-- The two spellings of an array lead to each other wherever they stand. -/
theorem eqvGen_arrays {α : Type} (rewrite : α → α → Prop) (place : TypeNode → α)
    (h : ∀ t u, t.Rewrite u → rewrite (place t) (place u)) :
    EqvGen rewrite (place bracketedArray) (place namedArray) :=
  .trans _ _ _ (.rel _ _ (h _ _ (.parentheses _))) (.rel _ _ (h _ _ (.brackets _)))

/-- A function of a parameter that takes the rest of the arguments. -/
def variadic (type : TypeNode) : FunctionDeclaration :=
  { name := some "log", parameters := [{ name := "items", type := some type, rest := true }] }

theorem Emitter.emit_respelled_variadic :
    Emitter.emit { package := "lib" } { statements := [.function (variadic bracketedArray)] } =
        Emitter.emit { package := "lib" } { statements := [.function (variadic namedArray)] } ∧
      bracketedArray.scala = namedArray.scala ∧
      parametersText (variadic bracketedArray).parameters =
        parametersText (variadic namedArray).parameters ∧
      typeParametersText [{ name := "T", constraint := some bracketedArray }] =
        typeParametersText [{ name := "T", constraint := some namedArray }] ∧
      (Member.property { name := "x", type := some bracketedArray }).text? .interface =
        (Member.property { name := "x", type := some namedArray }).text? .interface ∧
      (variadic bracketedArray).line? = (variadic namedArray).line? ∧
      (Exports.ofStatements .module [.function (variadic bracketedArray)]).memberLines .module =
        (Exports.ofStatements .module [.function (variadic namedArray)]).memberLines .module := by
  have parameter (t u : TypeNode) (step : t.Rewrite u) :
      Within Parameter.Rewrite (variadic t).parameters (variadic u).parameters :=
    .intro [] [] (.type "items" false true step)
  have function (t u : TypeNode) (step : t.Rewrite u) : (variadic t).Rewrite (variadic u) :=
    .parameters (variadic t) (parameter t u step)
  have statement (t u : TypeNode) (step : t.Rewrite u) :
      Within Statement.Rewrite [.function (variadic t)] [.function (variadic u)] :=
    .intro [] [] (.function (function t u step))
  obtain ⟨documents, types, parameters, typeParameters, members, functions, scopes⟩ :=
    Emitter.emit_respelled { package := "lib" }
  refine ⟨documents _ _ ?_, (types _ _ ?_).1, parameters _ _ ?_, typeParameters _ _ ?_,
    members _ _ ?_ .interface, functions _ _ ?_, scopes _ _ ?_ .module⟩
  · exact eqvGen_arrays Document.Rewrite (fun type => { statements := [.function (variadic type)] })
      fun t u step => .statements "" (statement t u step)
  · exact eqvGen_arrays TypeNode.Rewrite id fun _ _ step => step
  · exact eqvGen_arrays (Within Parameter.Rewrite) (fun type => (variadic type).parameters) parameter
  · exact eqvGen_arrays (Within TypeParameter.Rewrite)
      (fun type => [{ name := "T", constraint := some type }])
      fun _ _ step => .intro [] [] (.bound "T" none step)
  · exact eqvGen_arrays Member.Rewrite (fun type => .property { name := "x", type := some type })
      fun _ _ step => .property { name := "x" } step
  · exact eqvGen_arrays FunctionDeclaration.Rewrite variadic function
  · exact eqvGen_arrays (Within Statement.Rewrite) (fun type => [.function (variadic type)]) statement

end ScalaFacade
