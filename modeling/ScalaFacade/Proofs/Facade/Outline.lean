import ScalaFacade.Facade.Emit

/-! # The outline of a facade

A facade as data: the tree of its blocks, and the lines of that tree. There is no writer here, no
level and no pending line. The outline of a scope follows the tree of its statements; the lines of a
block follow the tree of blocks; the text is those lines, joined.

`Proofs/Facade/Rendering.lean` shows that the text of the outline is the text that is emitted. From
then on a statement about emitted text is a statement about outlines, which are plain lists.

The outline is a second account of the facade. It differs from the first in three ways, and each
takes something away that a proof about the text would have to carry:

* A block has its lines, and not the steps by which they are written. That members are indented and
  nothing else is can be read off `Block.lines`.
* An interface asks whether its name is among the names above (`seen`). The emitter asks for
  declarations among the statements above; `interfacesNamed_eq_nil_iff` is the bridge.
* The empty line above a block belongs to the list of blocks. The writer leaves it out below an
  empty line, so that it is always there is a fact to be shown and not a part of this account.

Interfaces are the one place where a block depends on the whole scope: the trait has the members of
all declarations of its name and stands where the first one stands. The section about interfaces by
name has what is needed to see that first one.
-/

set_option autoImplicit false

namespace ScalaFacade

/-! ## Blocks and their lines

Three kinds of block. A package is the only one with blocks inside, and its blocks are not indented:
packages nest by name. -/

/-- A block of a facade. -/
inductive Block where
  /-- A class, an object, or the sealed trait of an enumeration. -/
  | definition (annotations : List String) (header : String) (members : List String)
  /-- The trait of an interface. -/
  | trait (name : String) (typeParameters : List TypeParameter) (members : List String)
  /-- A package with the blocks inside it. -/
  | package (name : String) (blocks : List Block)

/-- A header with an opening brace, what stands inside, and the closing brace. -/
def braced (header : String) (inside : List String) : List String :=
  (header ++ " \x7b") :: (inside ++ ["\x7d"])

/-- The lines of members, each behind one indentation of the given width. -/
def memberBody (width : Nat) (members : List String) : List String :=
  members.map fun member => String.ofList (List.replicate width ' ') ++ member

mutual

/-- The lines of a block. Only its members are indented. -/
def Block.lines (width : Nat) : Block → List String
  | .definition annotations header members =>
    annotations ++ braced header (memberBody width members)
  | .trait name typeParameters members =>
    "@js.native" ::
      braced ("trait " ++ Name.escape name ++ typeParametersText typeParameters
        ++ " extends js.Object") (memberBody width members)
  | .package name blocks => braced ("package " ++ name) (linesOfBlocks width blocks ++ [""])

/-- The lines of blocks, with one empty line above each of them. -/
def linesOfBlocks (width : Nat) : List Block → List String
  | [] => []
  | block :: blocks => "" :: (block.lines width ++ linesOfBlocks width blocks)

end

/-! ## The blocks of a declaration

One for a class, two for an enumeration, and one for a variable if it is annotated with an object
type. An interface has one for all declarations of its name. -/

/-- The block of a class. A class without a name gets one, also in its annotation. -/
def ClassDeclaration.outline (declaration : ClassDeclaration) (scope : Scope) : Block :=
  let name := declaration.name.getD anonymousClass
  let kind := if declaration.owner = .abstractClass then "abstract class " else "class "
  .definition ["@js.native", scope.globalAnnotation name]
    (kind ++ Name.escape name ++ typeParametersText declaration.typeParameters
      ++ " extends js.Object")
    (memberLines declaration.members declaration.owner)

/-- The block of an interface, from its first declaration and all statements of the scope. -/
def InterfaceDeclaration.outline (first : InterfaceDeclaration) (all : List Statement) : Block :=
  .trait first.name first.typeParameters
    (traitLines ((interfacesNamed first.name all).flatMap InterfaceDeclaration.members))

/-- The blocks of an enumeration: a type without members, and the object that holds them and finds
their names by value. -/
def EnumDeclaration.outline (declaration : EnumDeclaration) (scope : Scope) : List Block :=
  let name := Name.escape declaration.name
  [.definition ["@js.native"] ("sealed trait " ++ name ++ " extends js.Object") [],
    .definition ["@js.native", globalBinding (scope.path.qualify declaration.name)]
      ("object " ++ name ++ " extends js.Object")
      (declaration.members.map (fun member =>
          "var " ++ memberName member ++ ": " ++ name ++ nativeStub)
        ++ [bracketAccess, "def apply(value: " ++ name ++ "): String" ++ nativeStub])]

/-- The block of a variable, if it is annotated with an object type. -/
def VariableDeclaration.outline? (declaration : VariableDeclaration) (scope : Scope) :
    Option Block :=
  declaration.objectMembers?.map fun members =>
    .definition ["@js.native", scope.globalAnnotation declaration.name]
      ("object " ++ Name.escape declaration.name ++ " extends js.Object")
      (members.filterMap objectLine?)

/-- The object of a scope, if it gets one. -/
def Exports.outline (exports : Exports) (scope : Scope) : List Block :=
  if exports.hasMembers scope.kind then
    [.definition ["@js.native", scope.objectAnnotation]
      ("object " ++ scope.objectName ++ " extends js.Object")
      (exports.memberLines scope.kind).entries]
  else []

/-! ## The blocks of a scope

The statements are gone through with the names of the interfaces above. Whether those are kept in
one order or another does not matter, and repeated names do no harm. -/

/-- The names of the interfaces that are declared by statements. -/
def interfaceNames (statements : List Statement) : List String :=
  (statements.filterMap Statement.interface?).map InterfaceDeclaration.name

@[simp] theorem interfaceNames_nil : interfaceNames [] = [] := rfl

@[simp] theorem interfaceNames_interface (declaration : InterfaceDeclaration)
    (statements : List Statement) :
    interfaceNames (.interfaceDecl declaration :: statements) =
      declaration.name :: interfaceNames statements := rfl

theorem interfaceNames_other {statement : Statement} (h : statement.interface? = none)
    (statements : List Statement) :
    interfaceNames (statement :: statements) = interfaceNames statements := by
  simp [interfaceNames, h]

/-- The names of one statement in front of the others. A statement has one name or none, so this is
a case distinction that later proofs need not make. -/
theorem interfaceNames_cons (statement : Statement) (statements : List Statement) :
    interfaceNames (statement :: statements) =
      interfaceNames [statement] ++ interfaceNames statements := by
  cases h : statement.interface? <;> simp [interfaceNames, h]

mutual

/-- The blocks of a statement. `all` are the statements of its scope, `seen` the names of the
interfaces above it. -/
def Statement.outline (scope : Scope) (all : List Statement) (seen : List String) :
    Statement → List Block
  | .module _ none _ => []
  | .module name (some body) _ =>
    let inner := scope.module name
    [.package inner.packageName
      (outlineOfAll inner body [] body ++ (Exports.ofStatements inner.kind body).outline inner)]
  | .classDecl declaration => [declaration.outline scope]
  | .interfaceDecl declaration =>
    if declaration.name ∈ seen then [] else [declaration.outline all]
  | .enumDecl declaration => declaration.outline scope
  | .variableDecl statement => statement.declarations.filterMap (·.outline? scope)
  | .typeAlias _ | .function _ | .exportAssignment _ => []
  | .importDeclaration | .exportDeclaration | .other => []

/-- The blocks of the remaining statements of a scope, in their order. -/
def outlineOfAll (scope : Scope) (all : List Statement) (seen : List String) :
    List Statement → List Block
  | [] => []
  | statement :: statements =>
    statement.outline scope all seen
      ++ outlineOfAll scope all (interfaceNames [statement] ++ seen) statements

end

/-- The blocks of a scope: those of its statements, then the object. -/
def scopeOutline (scope : Scope) (statements : List Statement) : List Block :=
  outlineOfAll scope statements [] statements
    ++ (Exports.ofStatements scope.kind statements).outline scope

/-- The block of a module is its package with the outline of its body. The definition cannot say it
in this way, because the recursion would go through `scopeOutline`. -/
theorem Statement.outline_module (scope : Scope) (all : List Statement) (seen : List String)
    (name : String) (body : List Statement) (modifiers : Modifiers) :
    (Statement.module name (some body) modifiers).outline scope all seen =
      [.package (scope.module name).packageName (scopeOutline (scope.module name) body)] := by
  simp only [Statement.outline, scopeOutline]

/-- Of the names above a statement only membership counts, so it does not matter in which order they
were gathered, or how often. Both happen: behind a cut the order is another, and merged declarations
have their name once. -/
theorem outlineOfAll_congr {scope : Scope} {all statements : List Statement}
    {seen seen' : List String} (h : ∀ name, name ∈ seen ↔ name ∈ seen') :
    outlineOfAll scope all seen statements = outlineOfAll scope all seen' statements := by
  induction statements generalizing seen seen' with
  | nil => rfl
  | cons statement statements ih =>
    have next : ∀ name, name ∈ interfaceNames [statement] ++ seen ↔
        name ∈ interfaceNames [statement] ++ seen' := by
      intro name
      rw [List.mem_append, List.mem_append, h name]
    have here : statement.outline scope all seen = statement.outline scope all seen' := by
      cases statement with
      | interfaceDecl declaration => simp only [Statement.outline, h declaration.name]
      | module _ body _ => cases body <;> rfl
      | _ => rfl
    rw [outlineOfAll, outlineOfAll, here, ih next]

/-- Statements above and below a cut: those below see the names of those above. -/
theorem outlineOfAll_append (scope : Scope) (all : List Statement) (seen : List String)
    (above below : List Statement) :
    outlineOfAll scope all seen (above ++ below) =
      outlineOfAll scope all seen above
        ++ outlineOfAll scope all (interfaceNames above ++ seen) below := by
  induction above generalizing seen with
  | nil => simp [outlineOfAll, interfaceNames]
  | cons statement above ih =>
    have order : ∀ name, name ∈ interfaceNames above ++ (interfaceNames [statement] ++ seen) ↔
        name ∈ interfaceNames (statement :: above) ++ seen := by
      intro name
      rw [interfaceNames_cons statement above]
      simp only [List.mem_append]
      rw [or_left_comm, or_assoc]
    rw [List.cons_append, outlineOfAll, outlineOfAll, ih, outlineOfAll_congr order,
      List.append_assoc]

/-! ## Interfaces by name

All declarations of one name, in the order of the scope, and the first among them. -/

theorem interfacesNamed_append (name : String) (above below : List Statement) :
    interfacesNamed name (above ++ below) =
      interfacesNamed name above ++ interfacesNamed name below := by
  simp [interfacesNamed]

theorem interfacesNamed_reverse (name : String) (statements : List Statement) :
    interfacesNamed name statements.reverse = (interfacesNamed name statements).reverse := by
  simp [interfacesNamed, List.filterMap_reverse]

/-- A name that is not declared has no declarations. -/
theorem interfacesNamed_eq_nil_iff {name : String} {statements : List Statement} :
    interfacesNamed name statements = [] ↔ name ∉ interfaceNames statements := by
  simp only [interfacesNamed, interfaceNames, List.filter_eq_nil_iff, List.mem_map, not_exists,
    not_and, beq_iff_eq]

/-- The first declaration of a name is the first of its declarations. Whether a statement is that
first one is asked of the names above, while the block is made from all declarations; here the two
come together. -/
theorem interfacesNamed_first {declaration : InterfaceDeclaration} {above below : List Statement}
    (h : declaration.name ∉ interfaceNames above) :
    interfacesNamed declaration.name (above ++ .interfaceDecl declaration :: below) =
      declaration :: interfacesNamed declaration.name below := by
  rw [interfacesNamed_append, interfacesNamed_eq_nil_iff.2 h, List.nil_append]
  simp [interfacesNamed, Statement.interface?]

/-! ## The text of a facade

Imports are given from outside and may be anything, empty lines included, so the gap below them is
the one place where the line above is not known to have text on it. -/

/-- The empty line between the imports and the package. There is none if nothing is above it or if
what is above is an empty line. -/
def importGap (imports : List String) : List String :=
  match imports.getLast? with
  | some last => if last = "" then [] else [""]
  | none => []

/-- The lines of a facade: the imports, a gap, and the package of the document. -/
def Emitter.lines (emitter : Emitter) (document : Document) : List String :=
  emitter.imports ++ importGap emitter.imports
    ++ braced ("package " ++ Name.packageClause emitter.package)
      (linesOfBlocks emitter.indentWidth
        (scopeOutline (.topLevel emitter.package) document.statements) ++ [""])

/-- The text that lines amount to: each is ended. -/
def textOfLines (lines : List String) : String := "\n".intercalate lines ++ "\n"

end ScalaFacade
