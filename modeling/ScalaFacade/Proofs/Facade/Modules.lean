import ScalaFacade.Facade.Emit
import ScalaFacade.Proofs.Scala.Grammar
import ScalaFacade.Proofs.Scala.Heads
import ScalaFacade.Proofs.Text.Segments

/-! # Entering modules

A scope knows where it is by a path, which is one text: names are put behind it with a dot, and the
empty text stands for the document. As long as no name is empty, the text is as good as the list of
the names (`NamespacePath.ofSegments`), and entering modules one after the other appends to that
list.

So it makes no difference whether the modules `a.b` or `a` and then `b` are entered: the paths are
the same, and what a scope is written from is its path, its kind and the name of its object
(`scopeDirectives_of_site`). Only the package clauses around it tell the two apart.

Three conditions on names are asked for, and each has its reason:

* no name on the way is empty, because an empty path is taken for that of the document and the next
  name would have no dot in front;
* no segment of the dotted name is empty, for the same reason;
* the dotted name has no quotes in it. Quotes around a name are taken off when a module is entered,
  so with quotes it would matter whether the name is cut before or after.
-/

set_option autoImplicit false

namespace ScalaFacade

open Layout

/-! ## Paths as lists of names

Putting a name behind a path is appending it to the list. The document is the empty list. -/

namespace NamespacePath

/-- The path that leads through modules of the given names. -/
def ofSegments (segments : List String) : NamespacePath := ⟨".".intercalate segments⟩

/-- Without empty names, only the path of the document is the empty text. -/
theorem isRoot_ofSegments {segments : List String} (each : ∀ segment ∈ segments, segment ≠ "") :
    (ofSegments segments).isRoot = segments.isEmpty := by
  cases segments with
  | nil => rfl
  | cons first others =>
    have text : ".".intercalate (first :: others) ≠ "" :=
      Scala.intercalate_ne_empty (List.cons_ne_nil _ _) each
    simpa [isRoot, ofSegments] using text

/-- One name further in. The document is a case of its own, as it is in the definition: there the
name comes without a dot. -/
theorem join_ofSegments {segments : List String} (each : ∀ segment ∈ segments, segment ≠ "")
    (name : String) : (ofSegments segments).join name = ofSegments (segments ++ [name]) := by
  rw [join, isRoot_ofSegments each]
  cases segments with
  | nil => simp [ofSegments]
  | cons first others =>
    rw [ofSegments, ofSegments,
      String.intercalate_append_of_ne_nil (List.cons_ne_nil _ _) (List.cons_ne_nil _ _)]
    simp

/-- A dotted name is as good as its segments. -/
theorem ofSegments_split (segments : List String) (name : String) :
    ofSegments (segments ++ Text.split '.' name) = ofSegments (segments ++ [name]) := by
  have joined : ".".intercalate (Text.split '.' name) = name := Text.intercalate_split '.' name
  cases segments with
  | nil => simp [ofSegments, joined]
  | cons first others =>
    rw [ofSegments, ofSegments,
      String.intercalate_append_of_ne_nil (List.cons_ne_nil _ _) (Text.split_ne_nil _ _),
      String.intercalate_append_of_ne_nil (List.cons_ne_nil _ _) (List.cons_ne_nil _ _), joined]
    simp

end NamespacePath

namespace Scope

/-- The scope that is reached by entering modules one after the other. -/
def enter (scope : Scope) (names : List String) : Scope := names.foldl module scope

/-- The path behind a chain of modules, from any scope whose path is known as a list. -/
theorem path_enter {scope : Scope} {segments names : List String}
    (start : scope.path = .ofSegments segments) (each : ∀ segment ∈ segments, segment ≠ "")
    (named : ∀ name ∈ names, Name.unquote name ≠ "") :
    (scope.enter names).path = .ofSegments (segments ++ names.map Name.unquote) := by
  -- Each name moves from those to be entered to those of the path, which has to stay a list of
  -- nonempty names: an empty one in front would be taken for the document.
  induction names generalizing scope segments with
  | nil => simpa [enter] using start
  | cons name names ih =>
    have inside : (scope.module name).path = .ofSegments (segments ++ [Name.unquote name]) := by
      rw [module, start, NamespacePath.join_ofSegments each]
    have nonempty : ∀ segment ∈ segments ++ [Name.unquote name], segment ≠ "" := by
      intro segment h
      rcases List.mem_append.1 h with h | h
      · exact each segment h
      · rw [List.mem_singleton.1 h]
        exact named name List.mem_cons_self
    have rest := ih inside nonempty fun other h => named other (List.mem_cons_of_mem _ h)
    rw [List.append_assoc] at rest
    exact rest

theorem path_topLevel_enter (package : String) {names : List String}
    (named : ∀ name ∈ names, Name.unquote name ≠ "") :
    ((topLevel package).enter names).path = .ofSegments (names.map Name.unquote) :=
  @path_enter (topLevel package) [] names rfl (by simp) named

/-- The last module that is entered decides on kind and name. -/
theorem enter_concat (scope : Scope) (names : List String) (name : String) :
    scope.enter (names ++ [name]) = (scope.enter names).module name := by
  rw [enter, List.foldl_append]
  rfl

theorem kind_enter (scope : Scope) {names : List String} (some : names ≠ []) :
    (scope.enter names).kind = .module := by
  rw [← List.dropLast_concat_getLast some, enter_concat]
  rfl

/-! ## What a scope is written from

Of a scope, blocks look at the path only. Its kind and its name are for the object, and for the
package around the blocks. -/

section Path

variable {a b : Scope} (h : a.path = b.path)

include h

theorem module_of_path (name : String) : a.module name = b.module name := by
  rw [module, module, h]

theorem globalAnnotation_of_path (name : String) :
    a.globalAnnotation name = b.globalAnnotation name := by
  unfold globalAnnotation
  rw [h]

theorem block_of_path (declaration : VariableDeclaration) :
    declaration.block a = declaration.block b := by
  unfold VariableDeclaration.block
  split
  · rw [objectBlock, objectBlock, globalAnnotation_of_path h]
  · rfl

end Path

end Scope

/-- The blocks of a statement depend on the path of their scope alone; a module inside is entered
from that path. -/
theorem Statement.blocks_of_path {a b : Scope} (h : a.path = b.path) (all above : List Statement)
    (statement : Statement) : statement.blocks a all above = statement.blocks b all above := by
  cases statement with
  | module name body modifiers =>
    cases body with
    | none => rfl
    | some body => rw [Statement.blocks, Statement.blocks, Scope.module_of_path h]
  | classDecl declaration =>
    rw [Statement.blocks, Statement.blocks, ClassDeclaration.block, ClassDeclaration.block,
      Scope.globalAnnotation_of_path h]
  | enumDecl declaration =>
    rw [Statement.blocks, Statement.blocks, EnumDeclaration.blocks, EnumDeclaration.blocks, h]
  | variableDecl statement =>
    rw [Statement.blocks, Statement.blocks, funext (Scope.block_of_path h)]
  | interfaceDecl _ | typeAlias _ | function _ | exportAssignment _ => rfl
  | importDeclaration | exportDeclaration | other => rfl

/-- The blocks of a scope, by induction over its statements. Modules inside need no induction: from
equal paths they are entered as the same scope. -/
theorem blocksOfAll_of_path {a b : Scope} (h : a.path = b.path) (all above : List Statement)
    (statements : List Statement) :
    blocksOfAll a all above statements = blocksOfAll b all above statements := by
  induction statements generalizing above with
  | nil => rfl
  | cons statement statements ih =>
    rw [blocksOfAll, blocksOfAll, statement.blocks_of_path h, ih]

theorem Scope.objectAnnotation_of_site {a b : Scope} (kind : a.kind = b.kind)
    (path : a.path = b.path) : a.objectAnnotation = b.objectAnnotation := by
  rw [Scope.objectAnnotation.eq_def, Scope.objectAnnotation.eq_def, kind, path]

/-- A scope is written from its kind, its path and the name of its object. -/
theorem scopeDirectives_of_site {a b : Scope} (kind : a.kind = b.kind) (path : a.path = b.path)
    (name : a.objectName = b.objectName) (statements : List Statement) :
    scopeDirectives a statements = scopeDirectives b statements := by
  have annotation := Scope.objectAnnotation_of_site kind path
  rw [scopeDirectives, scopeDirectives, blocksOfAll_of_path path, kind, Exports.object,
    Exports.object, kind, annotation, name]

/-! ## Dotted names

A name without quotes is left alone when it is unquoted, and so is every segment of it. -/

theorem Name.unquote_of_notMem {name : String} (h : ∀ c ∈ name.toList, c ∉ quotes) :
    unquote name = name :=
  unquote_of_head fun c first => h c (List.mem_of_mem_head? first)

theorem Text.lastSegment_of_mem_split {separator : Char} {text segment : String}
    (h : segment ∈ split separator text) : lastSegment separator segment = segment := by
  rw [lastSegment, split_of_notMem (notMem_of_mem_split h)]
  rfl

section Dotted

variable {name : String} (plain : ∀ c ∈ name.toList, c ∉ Name.quotes)

include plain

theorem Name.unquote_of_mem_split {segment : String} (h : segment ∈ Text.split '.' name) :
    unquote segment = segment :=
  unquote_of_notMem fun c hc => plain c (Text.mem_of_mem_split h hc)

theorem Name.map_unquote_split : (Text.split '.' name).map unquote = Text.split '.' name :=
  (List.map_congr_left fun _ h => unquote_of_mem_split plain h).trans (List.map_id' _)

namespace Scope

/-- The object of a dotted name goes by the last segment, as it does one module at a time. -/
theorem objectName_split (scope : Scope) :
    (scope.module name).objectName = (scope.enter (Text.split '.' name)).objectName := by
  have some := Text.split_ne_nil '.' name
  have last : (Text.split '.' name).getLast some ∈ Text.split '.' name := List.getLast_mem some
  have whole : Text.lastSegment '.' name = (Text.split '.' name).getLast some := by
    rw [Text.lastSegment, List.getLastD_eq_getLast?, List.getLast?_eq_some_getLast some]
    rfl
  have steps : scope.enter (Text.split '.' name) =
      (scope.enter (Text.split '.' name).dropLast).module ((Text.split '.' name).getLast some) := by
    rw [← enter_concat, List.dropLast_concat_getLast some]
  simp only [steps, objectName, module]
  rw [Name.unquote_of_notMem plain, Name.unquote_of_mem_split plain last,
    Text.lastSegment_of_mem_split last, whole]

/-- A dotted name leads to where its segments lead. -/
theorem path_split {scope : Scope} {segments : List String}
    (start : scope.path = .ofSegments segments) (each : ∀ segment ∈ segments, segment ≠ "")
    (named : ∀ segment ∈ Text.split '.' name, segment ≠ "") :
    (scope.module name).path = (scope.enter (Text.split '.' name)).path := by
  have unquoted : ∀ segment ∈ Text.split '.' name, Name.unquote segment ≠ "" := by
    intro segment h
    rw [Name.unquote_of_mem_split plain h]
    exact named segment h
  rw [path_enter start each unquoted, Name.map_unquote_split plain, NamespacePath.ofSegments_split,
    ← NamespacePath.join_ofSegments each, ← start, module, Name.unquote_of_notMem plain]

end Scope

end Dotted

/-- **Modules by their paths.** Behind a chain of modules, the path is the dotted list of their
unquoted names, whatever the package, and annotations are made from it. There and in the document
itself, entering a dotted name and entering its segments one after the other come to the same: the
scopes agree on everything that is written from them, so every list of statements is written alike
in both. -/
theorem module_paths (package : String) (names : List String)
    (named : ∀ name ∈ names, Name.unquote name ≠ "") :
    let scope := (Scope.topLevel package).enter names
    let path := names.map Name.unquote
    (names ≠ [] →
      scope.path.text = ".".intercalate path
      ∧ (∀ declared, scope.globalAnnotation declared
          = "@JSGlobal(\"" ++ ".".intercalate (path ++ [declared]) ++ "\")")
      ∧ scope.objectAnnotation = "@JSGlobal(\"" ++ ".".intercalate path ++ "\")")
    ∧ (∀ name : String, (∀ c ∈ name.toList, c ∉ Name.quotes) →
        (∀ segment ∈ Text.split '.' name, segment ≠ "") →
        let whole := scope.module name
        let steps := scope.enter (Text.split '.' name)
        whole.kind = steps.kind ∧ whole.path = steps.path ∧ whole.objectName = steps.objectName
        ∧ whole.objectAnnotation = steps.objectAnnotation
        ∧ (∀ declared, whole.globalAnnotation declared = steps.globalAnnotation declared)
        ∧ ∀ (statements : List Statement) (writer : Writer),
            runAll (scopeDirectives whole statements) writer
              = runAll (scopeDirectives steps statements) writer) := by
  have start := Scope.path_topLevel_enter package named
  have each : ∀ segment ∈ names.map Name.unquote, segment ≠ "" := List.forall_mem_map.2 named
  dsimp only
  refine ⟨fun some => ⟨?_, ?_, ?_⟩, fun name plain segments => ?_⟩
  · rw [start]
    rfl
  · intro declared
    have inside : (NamespacePath.ofSegments (names.map Name.unquote)).isRoot = false := by
      rw [NamespacePath.isRoot_ofSegments each]
      simpa using some
    unfold Scope.globalAnnotation
    rw [start, inside, if_neg Bool.false_ne_true, NamespacePath.qualify,
      NamespacePath.join_ofSegments each]
    rfl
  · rw [Scope.objectAnnotation.eq_def, Scope.kind_enter _ some, start]
    rfl
  · have kind : (((Scope.topLevel package).enter names).module name).kind =
        (((Scope.topLevel package).enter names).enter (Text.split '.' name)).kind :=
      (Scope.kind_enter _ (Text.split_ne_nil '.' name)).symm
    have object := Scope.objectName_split plain ((Scope.topLevel package).enter names)
    have path := Scope.path_split plain start each segments
    have annotation := Scope.objectAnnotation_of_site kind path
    refine ⟨kind, path, object, annotation, Scope.globalAnnotation_of_path path, ?_⟩
    intro statements writer
    rw [scopeDirectives_of_site kind path object]

/-- A scope two modules deep, the outer one quoted. -/
def eventsInner : Scope := (Scope.topLevel "my-lib").enter ["\"events\"", "inner"]

theorem module_paths_events :
    (eventsInner.path.text = "events.inner"
      ∧ eventsInner.globalAnnotation "Emitter" = "@JSGlobal(\"events.inner.Emitter\")")
    ∧ ∀ statements writer,
        runAll (scopeDirectives (eventsInner.module "a.b.c") statements) writer
          = runAll (scopeDirectives (eventsInner.enter ["a", "b", "c"]) statements) writer := by
  have named : ∀ name ∈ ["\"events\"", "inner"], Name.unquote name ≠ "" := by decide
  have paths := module_paths "my-lib" ["\"events\"", "inner"] named
  have path : ".".intercalate (["\"events\"", "inner"].map Name.unquote) = "events.inner" := by
    decide
  have segments : Text.split '.' "a.b.c" = ["a", "b", "c"] := by decide
  have plain : "a.b.c".toList.all (!Name.quotes.contains ·) = true := by decide
  obtain ⟨text, global, -⟩ := paths.1 (by decide)
  have dotted := paths.2 "a.b.c" (fun c hc => by simpa using List.all_eq_true.1 plain c hc)
    (by decide)
  rw [segments] at dotted
  exact ⟨⟨text.trans path, (global "Emitter").trans (by decide)⟩, dotted.2.2.2.2.2⟩

end ScalaFacade
