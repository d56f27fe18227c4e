import ScalaFacade.Proofs.Facade.Collected
import ScalaFacade.Proofs.Facade.Rendering

/-! # Declaration merging

An interface may be declared in several places of a scope. `Document.merged` puts all its members
into the first declaration and drops the others, in every scope, down to the innermost module. The
facade does not change by that (`Emitter.emit_merging`): emitting a document **is** emitting its
merged form, in which no scope declares a name twice.

Three facts carry the argument:

* `membersNamed_mergedFrom`: merging keeps the members under each name, in order, and a trait is
  made from nothing but these and the head of the first declaration.
* `Exports.withoutInterfaces_merged`: it keeps what a scope collects, interfaces aside, and the
  object is made from that. Interfaces have to be left aside, because the dropped declarations are
  no longer collected.
* `Statement.mem_names_merged`: the names above a statement are the same, although fewer
  declarations stand there. So the first site of a name stays its first site.

The argument is about outlines throughout; the writer comes in at the end, by the theorem that
emitting writes down the outline.

Equal facades alone would also hold of an emitter that ignores interfaces. The second half therefore
says where the traits are: every scope's lines stand in the text of the facade, and among the blocks
of a scope each name has one trait, at its first site and with the members of all declarations
(`OneTraitEach`).
-/

set_option autoImplicit false

namespace ScalaFacade

/-! ## Merging as a rewrite of documents

The recursion goes over the statements with the names above, as the outline does, and enters each
module with no names. Members are taken from the statements below: at a first site none
of the name is above. -/

/-- An interface with the members of later declarations behind its own. -/
def InterfaceDeclaration.absorb (first : InterfaceDeclaration)
    (later : List InterfaceDeclaration) : InterfaceDeclaration :=
  { first with members := first.members ++ later.flatMap InterfaceDeclaration.members }

mutual

/-- What becomes of a statement. `seen` are the names of the interfaces above it, `below` the
statements that follow it in its scope. -/
def Statement.merged (seen : List String) (below : List Statement) : Statement → List Statement
  | .module name none modifiers => [.module name none modifiers]
  | .module name (some body) modifiers => [.module name (some (mergedFrom [] body)) modifiers]
  | .interfaceDecl declaration =>
    if declaration.name ∈ seen then []
    else [.interfaceDecl (declaration.absorb (interfacesNamed declaration.name below))]
  | .classDecl declaration => [.classDecl declaration]
  | .enumDecl declaration => [.enumDecl declaration]
  | .typeAlias declaration => [.typeAlias declaration]
  | .variableDecl statement => [.variableDecl statement]
  | .function declaration => [.function declaration]
  | .exportAssignment assignment => [.exportAssignment assignment]
  | .importDeclaration => [.importDeclaration]
  | .exportDeclaration => [.exportDeclaration]
  | .other => [.other]

/-- What becomes of the remaining statements of a scope. -/
def mergedFrom (seen : List String) : List Statement → List Statement
  | [] => []
  | statement :: statements =>
    statement.merged seen statements ++ mergedFrom (interfaceNames [statement] ++ seen) statements

end

/-- A document in which every interface is declared once in its scope. -/
def Document.merged (document : Document) : Document :=
  { document with statements := mergedFrom [] document.statements }

/-- A statement that is no interface stays in its place. If it is a module, its body is another one;
nothing else changes. -/
theorem Statement.merged_of_interface?_eq_none {statement : Statement}
    (h : statement.interface? = none) (seen : List String) (below : List Statement) :
    ∃ kept : Statement, statement.merged seen below = [kept] ∧ kept.interface? = none ∧
      ∀ kind, Exports.record kind {} kept = Exports.record kind {} statement := by
  cases statement with
  | interfaceDecl declaration => exact absurd h (by simp [Statement.interface?])
  | module name body modifiers =>
    cases body with
    | none => exact ⟨_, rfl, rfl, fun _ => rfl⟩
    | some body => exact ⟨_, rfl, rfl, fun _ => rfl⟩
  | classDecl _ | enumDecl _ | typeAlias _ | variableDecl _ | function _ | exportAssignment _ =>
    exact ⟨_, rfl, rfl, fun _ => rfl⟩
  | importDeclaration | exportDeclaration | other => exact ⟨_, rfl, rfl, fun _ => rfl⟩

theorem Statement.eq_interfaceDecl {statement : Statement} {declaration : InterfaceDeclaration}
    (h : statement.interface? = some declaration) : statement = .interfaceDecl declaration := by
  cases statement with
  | interfaceDecl found => exact congrArg _ (Option.some.inj h)
  | _ => exact absurd h (by simp [Statement.interface?])

/-- Dropping a later declaration leaves its name among the names above, because an earlier one is
there. The two lists differ: `seen` has the name already. -/
theorem Statement.mem_names_merged (statement : Statement) (seen : List String)
    (below : List Statement) (name : String) :
    name ∈ interfaceNames (statement.merged seen below) ++ seen ↔
      name ∈ interfaceNames [statement] ++ seen := by
  cases h : statement.interface? with
  | none =>
    obtain ⟨kept, merged, other, _⟩ := statement.merged_of_interface?_eq_none h seen below
    rw [merged]
    simp [interfaceNames, h, other]
  | some declaration =>
    obtain rfl := Statement.eq_interfaceDecl h
    rw [Statement.merged]
    split
    · rename_i hseen
      simpa [interfaceNames, Statement.interface?] using fun same => same ▸ hseen
    · rfl

/-! ## The members under a name

A scope as a table from names to lists of members. What merging does to a scope is easiest to say
for that table: it stays as it is. -/

/-- All members that the interfaces of a name have in a scope. -/
def membersNamed (name : String) (statements : List Statement) : List Member :=
  (interfacesNamed name statements).flatMap InterfaceDeclaration.members

theorem membersNamed_append (name : String) (above below : List Statement) :
    membersNamed name (above ++ below) = membersNamed name above ++ membersNamed name below := by
  simp [membersNamed, interfacesNamed_append]

theorem membersNamed_cons (name : String) (statement : Statement) (below : List Statement) :
    membersNamed name (statement :: below) =
      membersNamed name [statement] ++ membersNamed name below :=
  membersNamed_append name [statement] below

theorem membersNamed_interface (name : String) (declaration : InterfaceDeclaration) :
    membersNamed name [.interfaceDecl declaration] =
      if declaration.name = name then declaration.members else [] := by
  by_cases h : declaration.name = name <;>
    simp [membersNamed, interfacesNamed, Statement.interface?, h]

theorem membersNamed_other {statement : Statement} (h : statement.interface? = none)
    (name : String) : membersNamed name [statement] = [] := by
  simp [membersNamed, interfacesNamed, h]

/-- **Merging loses no member.** The members of a name are with its first declaration, so below a
site that has seen the name there are none left, and below any other there are all. -/
theorem membersNamed_mergedFrom (name : String) (seen : List String) (statements : List Statement) :
    membersNamed name (mergedFrom seen statements) =
      if name ∈ seen then [] else membersNamed name statements := by
  induction statements generalizing seen with
  | nil => simp [mergedFrom, membersNamed, interfacesNamed]
  | cons statement statements ih =>
    rw [mergedFrom, membersNamed_append, ih, membersNamed_cons]
    -- An interface is a first or a later declaration, of the name asked for or of another.
    cases h : statement.interface? with
    | none =>
      obtain ⟨kept, merged, other, _⟩ := statement.merged_of_interface?_eq_none h seen statements
      rw [merged, membersNamed_other other, membersNamed_other h]
      simp [interfaceNames, h]
    | some declaration =>
      obtain rfl := Statement.eq_interfaceDecl h
      have names : interfaceNames [.interfaceDecl declaration] = [declaration.name] := rfl
      rw [Statement.merged, names, membersNamed_interface]
      by_cases hseen : declaration.name ∈ seen
      · by_cases hname : declaration.name = name
        · subst hname
          simp [hseen, membersNamed, interfacesNamed]
        · simp [hseen, hname, Ne.symm hname, membersNamed, interfacesNamed]
      · by_cases hname : declaration.name = name
        · subst hname
          rw [if_neg hseen, membersNamed_interface]
          simp [hseen, InterfaceDeclaration.absorb, membersNamed]
        · rw [if_neg hseen, membersNamed_interface]
          simp [hname, Ne.symm hname, InterfaceDeclaration.absorb]

/-! ## The same outline

`all` and `all'` are the statements of the scope before and after. They enter through the members
under each name only, which is what the hypothesis asks of them. -/

/-- What is collected is the same, interfaces aside. Statements of other sorts stay in their place,
and a module adds nothing, so the changed body does not show. -/
theorem Exports.withoutInterfaces_merged (kind : ScopeKind) (seen : List String)
    (statements : List Statement) :
    (Exports.ofStatements kind (mergedFrom seen statements)).withoutInterfaces =
      (Exports.ofStatements kind statements).withoutInterfaces := by
  induction statements generalizing seen with
  | nil => rfl
  | cons statement statements ih =>
    rw [mergedFrom, ofStatements_append, ofStatements_cons, withoutInterfaces_append,
      withoutInterfaces_append, ih]
    congr 1
    cases h : statement.interface? with
    | none =>
      obtain ⟨kept, merged, _, same⟩ := statement.merged_of_interface?_eq_none h seen statements
      rw [merged, ofStatements_cons, same kind]
      simp [ofStatements]
    | some declaration =>
      obtain rfl := Statement.eq_interfaceDecl h
      rw [Statement.merged, withoutInterfaces_record_interface]
      split
      · rfl
      · rw [ofStatements_cons, withoutInterfaces_append, withoutInterfaces_record_interface]
        rfl

theorem InterfaceDeclaration.outline_eq (declaration : InterfaceDeclaration)
    (all : List Statement) :
    declaration.outline all =
      .trait declaration.name declaration.typeParameters
        (traitLines (membersNamed declaration.name all)) := rfl

mutual

/-- The blocks of what has become of a statement are those of the statement. The left side is an
outline of a list, since there may be nothing left. -/
theorem Statement.outline_merged (statement : Statement) (scope : Scope)
    {all all' : List Statement} (h : ∀ name, membersNamed name all' = membersNamed name all)
    (seen : List String) (below : List Statement) :
    outlineOfAll scope all' seen (statement.merged seen below) =
      statement.outline scope all seen := by
  match statement with
  | .module name none modifiers => rfl
  | .module name (some body) modifiers =>
    have members : ∀ name, membersNamed name (mergedFrom [] body) = membersNamed name body := by
      intro name
      simpa using membersNamed_mergedFrom name [] body
    -- The body is a scope of its own, with no names above it, in both documents.
    have blocks := outlineOfAll_merged body (scope.module name) members []
    have object := Exports.outline_congr (scope.module name)
      (Exports.withoutInterfaces_merged (scope.module name).kind [] body)
    rw [Statement.merged, outlineOfAll, outlineOfAll, Statement.outline_module,
      Statement.outline_module, List.append_nil, scopeOutline, scopeOutline, blocks, object]
  | .interfaceDecl declaration =>
    rw [Statement.merged, Statement.outline]
    by_cases hseen : declaration.name ∈ seen
    · rw [if_pos hseen, if_pos hseen, outlineOfAll]
    · rw [if_neg hseen, if_neg hseen, outlineOfAll, outlineOfAll, List.append_nil,
        Statement.outline, if_neg (by exact hseen), InterfaceDeclaration.outline_eq,
        InterfaceDeclaration.outline_eq]
      simp only [InterfaceDeclaration.absorb, h]
  | .classDecl declaration | .enumDecl declaration | .variableDecl declaration =>
    rw [Statement.merged, outlineOfAll, outlineOfAll, List.append_nil]
    rfl
  | .typeAlias _ | .function _ | .exportAssignment _ => rfl
  | .importDeclaration | .exportDeclaration | .other => rfl

/-- The same for the statements of a scope. The two passes see the names above in different lists,
which `outlineOfAll_congr` allows. -/
theorem outlineOfAll_merged (statements : List Statement) (scope : Scope)
    {all all' : List Statement} (h : ∀ name, membersNamed name all' = membersNamed name all)
    (seen : List String) :
    outlineOfAll scope all' seen (mergedFrom seen statements) =
      outlineOfAll scope all seen statements := by
  match statements with
  | [] => rfl
  | statement :: statements =>
    have first := statement.outline_merged scope h seen statements
    have rest := outlineOfAll_merged statements scope h (interfaceNames [statement] ++ seen)
    rw [mergedFrom, outlineOfAll_append, outlineOfAll, first,
      outlineOfAll_congr (statement.mem_names_merged seen statements), rest]

end

theorem scopeOutline_merged (scope : Scope) (statements : List Statement) :
    scopeOutline scope (mergedFrom [] statements) = scopeOutline scope statements := by
  have members : ∀ name,
      membersNamed name (mergedFrom [] statements) = membersNamed name statements := by
    intro name
    simpa using membersNamed_mergedFrom name [] statements
  have object := Exports.outline_congr scope
    (Exports.withoutInterfaces_merged scope.kind [] statements)
  rw [scopeOutline, scopeOutline, outlineOfAll_merged statements scope members [], object]

/-! ## The scopes of a document

Every module body is a scope, so a statement about all scopes ranges over the list below. -/

mutual

/-- The scopes in a statement, each with its statements. -/
def Statement.scopes (scope : Scope) : Statement → List (Scope × List Statement)
  | .module _ none _ => []
  | .module name (some body) _ =>
    (scope.module name, body) :: scopesOfAll (scope.module name) body
  | .classDecl _ | .interfaceDecl _ | .enumDecl _ | .typeAlias _ | .variableDecl _ => []
  | .function _ | .exportAssignment _ => []
  | .importDeclaration | .exportDeclaration | .other => []

def scopesOfAll (scope : Scope) : List Statement → List (Scope × List Statement)
  | [] => []
  | statement :: statements => statement.scopes scope ++ scopesOfAll scope statements

end

/-- All scopes of a document: that of the package, and one for every module with a body. -/
def Document.scopes (document : Document) (package : String) : List (Scope × List Statement) :=
  (.topLevel package, document.statements)
    :: scopesOfAll (.topLevel package) document.statements

theorem scopesOfAll_append (scope : Scope) (above below : List Statement) :
    scopesOfAll scope (above ++ below) = scopesOfAll scope above ++ scopesOfAll scope below := by
  induction above with
  | nil => rfl
  | cons statement above ih =>
    rw [List.cons_append, scopesOfAll, scopesOfAll, ih, List.append_assoc]

/-! ## The normal form

In a merged document no scope declares an interface twice. -/

theorem interfaceNames_append (above below : List Statement) :
    interfaceNames (above ++ below) = interfaceNames above ++ interfaceNames below := by
  simp [interfaceNames]

/-- No name twice, and none of those above. The second half is what the induction needs: it keeps
the names further down apart from the one that stands first. -/
theorem nodup_names_mergedFrom (seen : List String) (statements : List Statement) :
    (interfaceNames (mergedFrom seen statements)).Nodup ∧
      ∀ name ∈ interfaceNames (mergedFrom seen statements), name ∉ seen := by
  induction statements generalizing seen with
  | nil => simp [mergedFrom]
  | cons statement statements ih =>
    rw [mergedFrom, interfaceNames_append]
    cases h : statement.interface? with
    | none =>
      obtain ⟨kept, merged, other, _⟩ := statement.merged_of_interface?_eq_none h seen statements
      simpa [merged, interfaceNames_other other, interfaceNames_other h] using ih seen
    | some declaration =>
      obtain rfl := Statement.eq_interfaceDecl h
      obtain ⟨nodup, fresh⟩ := ih (declaration.name :: seen)
      have below : ∀ name ∈ interfaceNames (mergedFrom (declaration.name :: seen) statements),
          name ≠ declaration.name ∧ name ∉ seen := by
        intro name hname
        simpa using fresh name hname
      rw [Statement.merged, interfaceNames_interface, interfaceNames_nil, List.singleton_append]
      by_cases hseen : declaration.name ∈ seen
      · rw [if_pos hseen, interfaceNames_nil, List.nil_append]
        exact ⟨nodup, fun name hname => (below name hname).2⟩
      · rw [if_neg hseen, interfaceNames_interface, interfaceNames_nil, List.singleton_append]
        refine ⟨List.nodup_cons.2 ⟨fun again => (below _ again).1 rfl, nodup⟩, ?_⟩
        intro name hname
        rcases List.mem_cons.1 hname with rfl | hname
        · exact hseen
        · exact (below name hname).2

mutual

/-- The scopes inside a merged statement are merged themselves, each from the start of its body. -/
theorem Statement.scopes_merged (statement : Statement) (scope : Scope) (seen : List String)
    (below : List Statement) {inner : Scope} {body : List Statement}
    (h : (inner, body) ∈ scopesOfAll scope (statement.merged seen below)) :
    ∃ source, body = mergedFrom [] source := by
  match statement with
  | .module name none modifiers =>
    exact absurd h (by simp [Statement.merged, scopesOfAll, Statement.scopes])
  | .module name (some source) modifiers =>
    rw [Statement.merged, scopesOfAll, scopesOfAll, List.append_nil, Statement.scopes,
      List.mem_cons] at h
    rcases h with h | h
    · cases h
      exact ⟨source, rfl⟩
    · exact scopesOfAll_merged source (scope.module name) [] h
  | .interfaceDecl declaration =>
    rw [Statement.merged] at h
    split at h
    · exact absurd h (by simp [scopesOfAll])
    · exact absurd h (by simp [scopesOfAll, Statement.scopes])
  | .classDecl _ | .enumDecl _ | .typeAlias _ | .variableDecl _ | .function _
  | .exportAssignment _ | .importDeclaration | .exportDeclaration | .other =>
    exact absurd h (by simp [Statement.merged, scopesOfAll, Statement.scopes])

theorem scopesOfAll_merged (statements : List Statement) (scope : Scope) (seen : List String)
    {inner : Scope} {body : List Statement}
    (h : (inner, body) ∈ scopesOfAll scope (mergedFrom seen statements)) :
    ∃ source, body = mergedFrom [] source := by
  match statements with
  | [] => exact absurd h (by simp [mergedFrom, scopesOfAll])
  | statement :: statements =>
    rw [mergedFrom, scopesOfAll_append, List.mem_append] at h
    rcases h with h | h
    · exact statement.scopes_merged scope seen statements h
    · exact scopesOfAll_merged statements scope _ h

end

/-- In a merged document no scope declares an interface twice, however deep it is. -/
theorem Document.nodup_names_merged {document : Document} {package : String} {scope : Scope}
    {statements : List Statement} (h : (scope, statements) ∈ document.merged.scopes package) :
    (interfaceNames statements).Nodup := by
  rw [Document.scopes, List.mem_cons] at h
  rcases h with h | h
  · cases h
    exact (nodup_names_mergedFrom [] document.statements).1
  · obtain ⟨source, rfl⟩ := scopesOfAll_merged document.statements _ [] h
    exact (nodup_names_mergedFrom [] source).1

/-! ## Scopes in the text

Blocks of an inner scope are not indented, so its lines stand in the text of the outer scope as they
are: one unbroken run of lines. -/

section Inside

variable {width : Nat} {inner : Scope} {body : List Statement}

theorem outlineOfAll_inside (scope : Scope) (statements : List Statement) :
    linesOfBlocks width (outlineOfAll scope statements [] statements) <:+:
      linesOfBlocks width (scopeOutline scope statements) := by
  rw [scopeOutline, linesOfBlocks_append]
  exact (List.prefix_append _ _).isInfix

mutual

/-- A scope in a statement has its lines among those of the statement. Only modules have scopes in
them, and a module has its own and those of its body. -/
theorem Statement.lines_inside (statement : Statement) (scope : Scope) (all : List Statement)
    (seen : List String) (h : (inner, body) ∈ statement.scopes scope) :
    linesOfBlocks width (scopeOutline inner body) <:+:
      linesOfBlocks width (statement.outline scope all seen) := by
  match statement with
  | .module name none modifiers => exact absurd h (by simp [Statement.scopes])
  | .module name (some statements) modifiers =>
    have package : linesOfBlocks width (scopeOutline (scope.module name) statements) <:+:
        linesOfBlocks width
          [.package (scope.module name).packageName
            (scopeOutline (scope.module name) statements)] := by
      rw [linesOfBlocks_singleton, Block.lines, braced, List.append_assoc]
      exact List.infix_append ["", _] _ _
    rw [Statement.outline_module]
    rw [Statement.scopes, List.mem_cons] at h
    rcases h with h | h
    · cases h
      exact package
    · have deeper := linesOfBlocks_inside statements (scope.module name) statements [] h
      exact (deeper.trans (outlineOfAll_inside _ _)).trans package
  | .classDecl _ | .interfaceDecl _ | .enumDecl _ | .typeAlias _ | .variableDecl _ =>
    exact absurd h (by simp [Statement.scopes])
  | .function _ | .exportAssignment _ => exact absurd h (by simp [Statement.scopes])
  | .importDeclaration | .exportDeclaration | .other =>
    exact absurd h (by simp [Statement.scopes])

theorem linesOfBlocks_inside (statements : List Statement) (scope : Scope) (all : List Statement)
    (seen : List String) (h : (inner, body) ∈ scopesOfAll scope statements) :
    linesOfBlocks width (scopeOutline inner body) <:+:
      linesOfBlocks width (outlineOfAll scope all seen statements) := by
  match statements with
  | [] => exact absurd h (by simp [scopesOfAll])
  | statement :: statements =>
    rw [outlineOfAll, linesOfBlocks_append]
    rw [scopesOfAll, List.mem_append] at h
    rcases h with h | h
    · exact (statement.lines_inside scope all seen h).trans (List.prefix_append _ _).isInfix
    · exact (linesOfBlocks_inside statements scope all _ h).trans (List.suffix_append _ _).isInfix

end

/-- The lines of every scope of a document stand in its facade. -/
theorem Emitter.lines_inside {emitter : Emitter} {document : Document}
    (h : (inner, body) ∈ document.scopes emitter.package) :
    linesOfBlocks emitter.indentWidth (scopeOutline inner body) <:+: emitter.lines document := by
  have whole : linesOfBlocks emitter.indentWidth
      (scopeOutline (.topLevel emitter.package) document.statements) <:+:
        emitter.lines document := by
    rw [Emitter.lines, braced, ← List.singleton_append, ← List.append_assoc,
      List.append_assoc _ [""], ← List.append_assoc]
    exact List.infix_append _ _ _
  rw [Document.scopes, List.mem_cons] at h
  rcases h with h | h
  · cases h
    exact whole
  · exact ((linesOfBlocks_inside document.statements _ document.statements [] h).trans
      (outlineOfAll_inside _ _)).trans whole

end Inside

/-! ## One trait for each name

Traits are counted by the name they are declared with. Blocks inside a package are not counted, they
belong to another scope. -/

/-- The name of the interface that a block is the trait of. -/
def Block.traitName? : Block → Option String
  | .trait name _ _ => some name
  | .definition _ _ _ | .package _ _ => none

def traitNames (blocks : List Block) : List String := blocks.filterMap Block.traitName?

theorem traitNames_append (bs cs : List Block) :
    traitNames (bs ++ cs) = traitNames bs ++ traitNames cs := List.filterMap_append

theorem Exports.traitNames_outline (exports : Exports) (scope : Scope) :
    traitNames (exports.outline scope) = [] := by
  unfold Exports.outline
  split <;> rfl

/-- No other statement makes a trait. The sealed trait of an enumeration is a definition here. -/
theorem Statement.traitNames_outline_other {statement : Statement} (h : statement.interface? = none)
    (scope : Scope) (all : List Statement) (seen : List String) :
    traitNames (statement.outline scope all seen) = [] := by
  cases statement with
  | interfaceDecl declaration => exact absurd h (by simp [Statement.interface?])
  | module name body modifiers => cases body <;> rfl
  | variableDecl statement =>
    rw [Statement.outline, traitNames, List.filterMap_filterMap, List.filterMap_eq_nil_iff]
    intro declaration _
    cases h : declaration.objectMembers? <;>
      simp [VariableDeclaration.outline?, h, Block.traitName?]
  | _ => rfl

/-- A name that no statement above declares has one trait if it is declared, else none. -/
theorem count_traitNames (scope : Scope) (all : List Statement) (seen : List String)
    (statements : List Statement) (name : String) :
    (traitNames (outlineOfAll scope all seen statements)).count name =
      if name ∈ interfaceNames statements ∧ name ∉ seen then 1 else 0 := by
  induction statements generalizing seen with
  | nil => simp [outlineOfAll, traitNames, interfaceNames]
  | cons statement statements ih =>
    rw [outlineOfAll, traitNames_append, List.count_append, ih]
    cases h : statement.interface? with
    | none =>
      simp [Statement.traitNames_outline_other h, interfaceNames_other h]
    | some declaration =>
      obtain rfl := Statement.eq_interfaceDecl h
      rw [Statement.outline, interfaceNames_interface, interfaceNames_interface]
      by_cases hseen : declaration.name ∈ seen
      · by_cases hname : declaration.name = name
        · subst hname
          simp [hseen, traitNames]
        · simp [hseen, traitNames, Ne.symm hname]
      · by_cases hname : declaration.name = name
        · subst hname
          simp [hseen, traitNames, InterfaceDeclaration.outline, Block.traitName?]
        · simp [hseen, traitNames, InterfaceDeclaration.outline, Block.traitName?, hname,
            Ne.symm hname]

/-- Every interface name of a scope has one trait. It stands where the name is first declared, with
the type parameters given there, and its body has the members of all declarations of the name. -/
structure OneTraitEach (scope : Scope) (statements : List Statement) : Prop where
  once : ∀ name ∈ interfaceNames statements,
    (traitNames (scopeOutline scope statements)).count name = 1
  site : ∀ (above : List Statement) (declaration : InterfaceDeclaration) (below : List Statement),
    statements = above ++ .interfaceDecl declaration :: below →
    declaration.name ∉ interfaceNames above →
    scopeOutline scope statements =
      outlineOfAll scope statements [] above
        ++ .trait declaration.name declaration.typeParameters
            ((withoutRepeated (memberTexts (membersNamed declaration.name statements)
              .interface)).flatMap MemberText.lines)
          :: (outlineOfAll scope statements (declaration.name :: interfaceNames above) below
            ++ (Exports.ofStatements scope.kind statements).outline scope)

theorem oneTraitEach (scope : Scope) (statements : List Statement) :
    OneTraitEach scope statements where
  once := by
    intro name h
    rw [scopeOutline, traitNames_append, Exports.traitNames_outline, List.append_nil,
      count_traitNames, if_pos ⟨h, List.not_mem_nil⟩]
  site := by
    intro above declaration below split first
    have body := traitLines_eq (membersNamed declaration.name statements)
    rw [scopeOutline, ← body]
    -- Only the statements gone through are split; members are still looked up in the whole scope.
    conv => lhs; arg 1; arg 4; rw [split]
    rw [outlineOfAll_append, outlineOfAll, Statement.outline, List.append_nil, if_neg first,
      InterfaceDeclaration.outline_eq]
    simp

/-- **Declaration merging is a normalisation.** A document has the facade of its merged form, in
which no scope declares an interface twice. In the text of that facade, among the lines of every
scope, each interface name has one trait, whose body lacks no member but repeated methods. -/
theorem Emitter.emit_merging (emitter : Emitter) (document : Document) :
    emitter.emit document.merged = emitter.emit document ∧
      (∀ scope statements, (scope, statements) ∈ document.merged.scopes emitter.package →
        (interfaceNames statements).Nodup) ∧
      emitter.emit document = textOfLines (emitter.lines document) ∧
      (∀ scope statements, (scope, statements) ∈ document.scopes emitter.package →
        linesOfBlocks emitter.indentWidth (scopeOutline scope statements) <:+:
            emitter.lines document ∧
          OneTraitEach scope statements) ∧
      ∀ texts : List MemberText,
        (withoutRepeated texts).filter (fun text => !text.isMethod) =
          texts.filter fun text => !text.isMethod := by
  refine ⟨?_, fun _ _ => Document.nodup_names_merged, emitter.emit_eq_textOfLines document, ?_,
    withoutRepeated_others⟩
  · rw [Emitter.emit_eq_textOfLines, Emitter.emit_eq_textOfLines, Emitter.lines, Emitter.lines,
      Document.merged, scopeOutline_merged]
  · intro scope statements h
    exact ⟨Emitter.lines_inside h, oneTraitEach scope statements⟩

/-- Two declarations of one interface in a module, with a class between them. -/
def splitInterface : List Statement :=
  [.interfaceDecl { name := "Options", members := [.property { name := "x" }] },
    .classDecl { name := some "Widget" },
    .interfaceDecl { name := "Options", members := [.method { name := "get" }] }]

theorem Emitter.emit_merging_splitInterface :
    let document : Document := { statements := [.module "ui" (some splitInterface) .none] }
    let scope := (Scope.topLevel "lib").module "ui"
    (scope, splitInterface) ∈ document.scopes "lib" ∧
      (scope, mergedFrom [] splitInterface) ∈ document.merged.scopes "lib" ∧
      (interfaceNames (mergedFrom [] splitInterface)).Nodup ∧
      (traitNames (scopeOutline scope splitInterface)).count "Options" = 1 ∧
      ∃ others, scopeOutline scope splitInterface =
        .trait "Options" [] ["var x: js.Any = js.native", "def get(): js.Any"] :: others := by
  intro document scope
  have inside : (scope, splitInterface) ∈ document.scopes "lib" := by
    simp [document, scope, Document.scopes, scopesOfAll, Statement.scopes]
  have merged : (scope, mergedFrom [] splitInterface) ∈ document.merged.scopes "lib" := by
    simp [document, scope, Document.merged, Document.scopes, mergedFrom, Statement.merged,
      scopesOfAll, Statement.scopes]
  obtain ⟨_, nodup, _, traits, _⟩ := Emitter.emit_merging { package := "lib" } document
  obtain ⟨once, site⟩ := (traits _ _ inside).2
  exact ⟨inside, merged, nodup _ _ merged, once "Options" (by simp [splitInterface]), _,
    site [] _ _ rfl (by simp)⟩

end ScalaFacade
