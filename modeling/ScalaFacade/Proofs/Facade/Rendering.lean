import ScalaFacade.Proofs.Facade.Outline
import ScalaFacade.Proofs.Facade.TraitBody
import ScalaFacade.Proofs.Layout.Lines

/-! # Emitting is writing down the outline

The emitter drives one writer through all scopes of a document: it goes back to the margin for every
block, one level in for its members, and asks for an empty line before each. The outline knows
nothing of that. Here the two are shown to agree:

> the emitted text is that of the lines of the outline (`Emitter.emit_eq_textOfLines`).

The invariant that carries the argument is `Writer.Ready`: nothing pending, a text above. It holds
when a scope is entered, below the header of its package; every block keeps it, because a block ends
with its brace; and it is all that a block asks for. The level on entry plays no part, since every
block is laid out at the margin. So the directives of each declaration are shown to lay its lines at
any level (`LaysBelow`), and `LaysBelow.append` puts them together.

The induction is over the statements and, for modules, over their bodies. What is shown about
outlines when declarations are merged holds of the text by the theorem above.

Two things have to be ruled out on the way. An empty member line would not be indented, so it is
shown that there is none. And below an empty line no second one is written, so it is shown that the
line above a block is never empty: it is a header or a brace.
-/

set_option autoImplicit false

namespace ScalaFacade

open Layout

variable {style : Style} {level : Nat}

/-! ## No member line is empty

An empty line would not be indented, so this is where the lines of members and the lines of a block
meet. -/

/-- Every line of a member starts with a keyword or an annotation, so it is not empty whatever the
names in it are. -/
theorem Member.text?_lines_ne {member : Member} {owner : Owner} {text : MemberText}
    (h : member.text? owner = some text) : ∀ line ∈ text.lines, line ≠ "" := by
  intro line hline
  cases member with
  | property declared =>
    obtain rfl : _ = text := by simpa [Member.text?] using h
    simp only [MemberText.lines, List.mem_singleton] at hline
    simp [hline, Property.line]
  | method declared =>
    obtain rfl : _ = text := by simpa [Member.text?] using h
    simp only [MemberText.lines, List.mem_singleton] at hline
    simp [hline, Method.line, signature]
  | index declared =>
    obtain rfl : _ = text := by simpa [Member.text?] using h
    simp only [MemberText.lines, IndexSignature.lines] at hline
    split at hline <;> simp only [List.mem_cons, List.not_mem_nil, or_false] at hline
    · rcases hline with rfl | rfl <;> simp [bracketAccess]
    · rcases hline with rfl | rfl | rfl | rfl <;> simp [bracketAccess]
  | other => exact absurd h (by simp [Member.text?])

theorem memberLines_ne {members : List Member} {owner : Owner} :
    ∀ line ∈ memberLines members owner, line ≠ "" := by
  intro line h
  obtain ⟨text, htext, hline⟩ := List.mem_flatMap.1 h
  obtain ⟨member, _, hmember⟩ := List.mem_filterMap.1 htext
  exact Member.text?_lines_ne hmember line hline

theorem traitLines_ne {members : List Member} : ∀ line ∈ traitLines members, line ≠ "" := by
  intro line h
  rw [traitLines_eq] at h
  obtain ⟨text, htext, hline⟩ := List.mem_flatMap.1 h
  have kept : text ∈ memberTexts members .interface := (withoutRepeated_sublist _).subset htext
  obtain ⟨member, _, hmember⟩ := List.mem_filterMap.1 kept
  exact Member.text?_lines_ne hmember line hline

theorem FunctionDeclaration.line?_ne {function : FunctionDeclaration} {line : String}
    (h : function.line? = some line) : line ≠ "" := by
  obtain ⟨name, _, rfl⟩ := Option.map_eq_some_iff.1 h
  simp [signature]

/-- The lines of the object come from four sources, and each starts with a keyword. -/
theorem Exports.memberLines_ne {exports : Exports} {kind : ScopeKind} :
    ∀ line ∈ (exports.memberLines kind).entries, line ≠ "" := by
  intro line h
  simp only [Exports.memberLines, OrderedSet.mem_ofList, List.mem_append, List.mem_map,
    List.mem_filterMap] at h
  rcases h with ((⟨declaration, _, rfl⟩ | ⟨assignment, _, hline⟩) | hline) | ⟨declaration, _, rfl⟩
  · simp [TypeAliasDeclaration.line]
  · simp only [assignmentLine?, Option.bind_eq_bind, Option.bind_eq_some_iff] at hline
    obtain ⟨_, _, function, _, hfunction⟩ := hline
    exact FunctionDeclaration.line?_ne hfunction
  · cases kind with
    | topLevel => exact absurd hline (by simp)
    | module =>
      obtain ⟨function, _, hfunction⟩ := List.mem_filterMap.1 hline
      exact FunctionDeclaration.line?_ne hfunction
  · simp [VariableDeclaration.line]

/-! ## One block

A header, its members one level in, and the brace. All blocks are made in this way and differ in
what is above the header. -/

/-- Indenting a line by one level is putting the blanks in front of it, unless it is empty. Here the
hypothesis about empty lines is used, once for all blocks. -/
theorem memberBody_eq {members : List String} (h : ∀ line ∈ members, line ≠ "") :
    members.map (indented style 1) = memberBody style.indentWidth members := by
  refine List.map_congr_left fun line hline => ?_
  rw [indented_of_ne (h line hline), indent, Nat.one_mul]

/-- A block in braces at the margin. -/
theorem lays_braced {header : String} {members : List String} (h : ∀ line ∈ members, line ≠ "") :
    Lays style 0 [.block header (members.map .line)]
      (braced header (memberBody style.indentWidth members)) := by
  have body : LaysBelow style 1 (members.map .line) (members.map (indented style 1)) :=
    (lays_lines members).below
  rw [memberBody_eq h] at body
  simpa [braced] using body.block header

/-- The annotations of a block and the block itself, at the margin. -/
theorem lays_definition (annotations : List String) (header : String) {members : List String}
    (h : ∀ line ∈ members, line ≠ "") :
    Lays style 0 (annotations.map .line ++ [.block header (members.map .line)])
      ((Block.definition annotations header members).lines style.indentWidth) := by
  have lines : Lays style 0 (annotations.map .line) (annotations.map (indented style 0)) :=
    lays_lines annotations
  rw [show indented style 0 = id from funext indented_zero, List.map_id] at lines
  rw [Block.lines]
  exact lines.append (lays_braced h)

theorem Block.lines_settled (width : Nat) (block : Block) : Settled (block.lines width) := by
  cases block with
  | definition annotations header members =>
    rw [Block.lines, braced, ← List.cons_append, ← List.append_assoc]
    exact settled_concat (by simp)
  | trait name typeParameters members =>
    rw [Block.lines, braced, ← List.cons_append, ← List.cons_append]
    exact settled_concat (by simp)
  | package name blocks =>
    rw [Block.lines, braced, ← List.cons_append]
    exact settled_concat (by simp)

theorem Block.lines_ne_nil (width : Nat) (block : Block) : block.lines width ≠ [] := by
  cases block <;> simp [Block.lines, braced]

theorem linesOfBlocks_append (width : Nat) (bs cs : List Block) :
    linesOfBlocks width (bs ++ cs) = linesOfBlocks width bs ++ linesOfBlocks width cs := by
  induction bs with
  | nil => rfl
  | cons b bs ih => simp [linesOfBlocks, ih]

@[simp] theorem linesOfBlocks_singleton (width : Nat) (block : Block) :
    linesOfBlocks width [block] = "" :: block.lines width := by
  simp [linesOfBlocks]

/-- Blocks end with a brace, so the line above the next block is never empty. `Settled` is what the
next request for an empty line needs in order to write one. -/
theorem linesOfBlocks_settled (width : Nat) (blocks : List Block) :
    Settled (linesOfBlocks width blocks) := by
  induction blocks with
  | nil => exact settled_nil
  | cons block blocks ih =>
    have first : Settled ("" :: block.lines width) := by
      intro line h
      rw [List.getLast?_cons_of_ne_nil (block.lines_ne_nil width)] at h
      exact block.lines_settled width line h
    rw [linesOfBlocks, ← List.cons_append]
    exact first.append ih

/-! ## The blocks of one declaration

For each declaration: the directives of the emitter lay the lines of the outline. The level is free
throughout. -/

/-- The emitter puts the header together from two parts and the outline has it whole, so the two
spellings are brought together first. -/
theorem ClassDeclaration.block_lays (declaration : ClassDeclaration) (scope : Scope) :
    LaysBelow style level (declaration.block scope)
      (linesOfBlocks style.indentWidth [declaration.outline scope]) := by
  rw [linesOfBlocks_singleton]
  have kind : ((if declaration.owner = .abstractClass then "abstract " else "") ++ "class ") =
      if declaration.owner = .abstractClass then "abstract class " else "class " := by
    split <;> rfl
  unfold ClassDeclaration.block ClassDeclaration.outline
  simp only [kind]
  exact (lays_definition ["@js.native", _] _ memberLines_ne).separate

theorem interfaceBlock_lays (first : InterfaceDeclaration) (others : List InterfaceDeclaration) :
    LaysBelow style level (interfaceBlock (first :: others))
      ("" :: (Block.trait first.name first.typeParameters
        (traitLines ((first :: others).flatMap InterfaceDeclaration.members))).lines
          style.indentWidth) :=
  (lays_definition ["@js.native"] _ traitLines_ne).separate

/-- The two blocks of an enumeration. They share one return to the margin, where other declarations
have one for each block. -/
theorem EnumDeclaration.blocks_lay (declaration : EnumDeclaration) (scope : Scope) :
    LaysBelow style level (declaration.blocks scope)
      (linesOfBlocks style.indentWidth (declaration.outline scope)) := by
  let name := Name.escape declaration.name
  let members := declaration.members.map (fun member =>
      "var " ++ memberName member ++ ": " ++ name ++ nativeStub)
    ++ [bracketAccess, "def apply(value: " ++ name ++ "): String" ++ nativeStub]
  have lines : ∀ line ∈ members, line ≠ "" := by
    intro line h
    simp only [members, List.mem_append, List.mem_map, List.mem_cons, List.not_mem_nil,
      or_false] at h
    rcases h with ⟨_, _, rfl⟩ | rfl | rfl <;> simp [bracketAccess]
  have type : Lays style 0 _ _ :=
    lays_definition ["@js.native"] ("sealed trait " ++ name ++ " extends js.Object")
      (by simp : ∀ line ∈ [], line ≠ "")
  have object : Lays style 0 _ _ :=
    lays_definition ["@js.native", globalBinding (scope.path.qualify declaration.name)]
      ("object " ++ name ++ " extends js.Object") lines
  -- The two blocks go back to the margin together, with an ordinary blank line between them.
  have both :=
    type.append_below (Block.lines_settled _ _) (Block.lines_ne_nil _ _) object.below_blank
  have laid : LaysBelow style level (declaration.blocks scope) _ := both.separate
  rwa [EnumDeclaration.outline, linesOfBlocks, linesOfBlocks_singleton]

theorem VariableDeclaration.block_lays (declaration : VariableDeclaration) (scope : Scope) :
    LaysBelow style level (declaration.block scope)
      (linesOfBlocks style.indentWidth (declaration.outline? scope).toList) := by
  have lines (members : List Member) : ∀ line ∈ members.filterMap objectLine?, line ≠ "" := by
    intro line h
    obtain ⟨member, _, hmember⟩ := List.mem_filterMap.1 h
    cases member with
    | property declared =>
      obtain rfl : _ = line := by simpa [objectLine?] using hmember
      simp [Property.line]
    | method declared | index declared | other => exact absurd hmember (by simp [objectLine?])
  unfold VariableDeclaration.block VariableDeclaration.outline?
  cases declaration.objectMembers? with
  | none => exact lays_nil.below
  | some members =>
    simp only [Option.map_some, Option.toList_some, linesOfBlocks_singleton]
    exact (lays_definition ["@js.native", _] _ (lines members)).separate

theorem Exports.object_lays (exports : Exports) (scope : Scope) :
    LaysBelow style level (exports.object scope)
      (linesOfBlocks style.indentWidth (exports.outline scope)) := by
  unfold Exports.object Exports.outline
  split
  · rw [linesOfBlocks_singleton]
    exact (lays_definition ["@js.native", _] _ Exports.memberLines_ne).separate
  · exact lays_nil.below

/-- A package around blocks that have been laid. The body is run one level in, and its blocks go
back to the margin on their own. -/
theorem packageBlock_lays (scope : Scope) {body : List Directive} {blocks : List Block}
    (h : LaysBelow style 1 body (linesOfBlocks style.indentWidth blocks)) :
    LaysBelow style level (packageBlock scope body)
      (linesOfBlocks style.indentWidth [.package scope.packageName blocks]) := by
  have inside := h.append (linesOfBlocks_settled _ _) laysBelow_blank
  have block : Lays style 0 _ _ := inside.block ("package " ++ scope.packageName)
  rw [linesOfBlocks_singleton, Block.lines, braced, packageBlock]
  simpa using block.separate

theorem declarations_lay (declarations : List VariableDeclaration) (scope : Scope) :
    LaysBelow style level (declarations.flatMap (·.block scope))
      (linesOfBlocks style.indentWidth (declarations.filterMap (·.outline? scope))) := by
  induction declarations with
  | nil => exact lays_nil.below
  | cons declaration declarations ih =>
    have blocks : (declaration :: declarations).filterMap (·.outline? scope) =
        (declaration.outline? scope).toList ++ declarations.filterMap (·.outline? scope) := by
      cases h : declaration.outline? scope <;> simp [h]
    rw [List.flatMap_cons, blocks, linesOfBlocks_append]
    exact (declaration.block_lays scope).append (linesOfBlocks_settled _ _) ih

/-! ## The blocks of a scope

Statements and bodies of modules, by mutual recursion. The statement of a module is where it comes
back to the body with a scope of its own. -/

mutual

-- The emitter keeps the statements above in reverse order, so `above.reverse` is how they stand in
-- the scope. The level is an argument because a module body is entered at level 1 whatever its own.
theorem Statement.blocks_lay (statement : Statement) (scope : Scope) (above below : List Statement)
    (level : Nat) :
    LaysBelow style level
      (statement.blocks scope (above.reverse ++ statement :: below) above)
      (linesOfBlocks style.indentWidth
        (statement.outline scope (above.reverse ++ statement :: below)
          (interfaceNames above))) := by
  match statement with
  | .module name none modifiers => exact lays_nil.below
  | .module name (some body) modifiers =>
    rw [Statement.blocks, Statement.outline_module, scopeOutline]
    have blocks := blocksOfAll_lays body (scope.module name) [] 1
    have object : LaysBelow style 1 _ _ :=
      (Exports.ofStatements (scope.module name).kind body).object_lays (scope.module name)
    have inside := blocks.append (linesOfBlocks_settled _ _) object
    rw [← linesOfBlocks_append] at inside
    exact packageBlock_lays (scope.module name) inside
  | .classDecl declaration => exact declaration.block_lays scope
  | .interfaceDecl declaration =>
    rw [Statement.blocks, Statement.outline]
    by_cases seen : declaration.name ∈ interfaceNames above
    · have earlier : (interfacesNamed declaration.name above).isEmpty = false := by
        simpa [interfacesNamed_eq_nil_iff] using seen
      rw [earlier, if_pos seen]
      exact lays_nil.below
    · have first : (interfacesNamed declaration.name above).isEmpty = true := by
        simpa [interfacesNamed_eq_nil_iff] using seen
      have names : declaration.name ∉ interfaceNames above.reverse := by
        rwa [← interfacesNamed_eq_nil_iff, interfacesNamed_reverse, List.reverse_eq_nil_iff,
          interfacesNamed_eq_nil_iff]
      rw [first, if_pos rfl, if_neg seen, linesOfBlocks_singleton, InterfaceDeclaration.outline,
        interfacesNamed_first names]
      exact interfaceBlock_lays declaration _
  | .enumDecl declaration => exact declaration.blocks_lay scope
  | .variableDecl statement => exact declarations_lay statement.declarations scope
  | .typeAlias _ | .function _ | .exportAssignment _ => exact lays_nil.below
  | .importDeclaration | .exportDeclaration | .other => exact lays_nil.below

theorem blocksOfAll_lays (statements : List Statement) (scope : Scope) (above : List Statement)
    (level : Nat) :
    LaysBelow style level
      (blocksOfAll scope (above.reverse ++ statements) above statements)
      (linesOfBlocks style.indentWidth
        (outlineOfAll scope (above.reverse ++ statements) (interfaceNames above) statements)) := by
  match statements with
  | [] => exact lays_nil.below
  | statement :: statements =>
    have first := statement.blocks_lay scope above statements level
    have rest := blocksOfAll_lays statements scope (statement :: above) level
    rw [List.reverse_cons, List.append_assoc, List.singleton_append, interfaceNames_cons] at rest
    rw [blocksOfAll, outlineOfAll, linesOfBlocks_append]
    exact first.append (linesOfBlocks_settled _ _) rest

end

/-! ## The whole facade -/

/-- The blocks of a scope and its object behind them. -/
theorem scopeDirectives_lay (scope : Scope) (statements : List Statement) (level : Nat) :
    LaysBelow style level (scopeDirectives scope statements)
      (linesOfBlocks style.indentWidth (scopeOutline scope statements)) := by
  rw [scopeDirectives, scopeOutline, linesOfBlocks_append]
  exact (blocksOfAll_lays statements scope [] level).append (linesOfBlocks_settled _ _)
    (Exports.object_lays _ _)

/-- The imports, and the empty line below them if there is one. This is the only request for an
empty line that is not covered by `Ready`. -/
theorem runAll_imports (imports : List String) :
    runAll (imports.map .line ++ [.blank]) { style } =
      Writer.append { style } (imports ++ importGap imports) := by
  have lines : Lays style 0 (imports.map .line) (imports.map (indented style 0)) :=
    lays_lines imports
  rw [show indented style 0 = id from funext indented_zero, List.map_id] at lines
  rw [runAll_append, lines { style } rfl rfl rfl, runAll, runAll, Directive.run]
  -- Nothing is known about the line above here: there may be none, and an import may be empty.
  cases h : imports.getLast? with
  | none => simp [Writer.blankLine, Writer.finishLine, Writer.append, importGap, h]
  | some last =>
    by_cases empty : last = ""
    · simp [Writer.blankLine, Writer.finishLine, Writer.append, importGap, h, empty]
    · simp [Writer.blankLine, Writer.finishLine, Writer.append, importGap, h, empty]

/-- Imports, gap and package, from an empty writer. The package is an ordinary block at the margin
with the blocks of the document inside. -/
theorem Emitter.runAll_directives (emitter : Emitter) (document : Document) :
    runAll (emitter.directives document) { style := { indentWidth := emitter.indentWidth } } =
      Writer.append { style := { indentWidth := emitter.indentWidth } }
        (emitter.lines document) := by
  let style : Style := { indentWidth := emitter.indentWidth }
  have scope : LaysBelow style 1 _ _ :=
    scopeDirectives_lay (.topLevel emitter.package) document.statements 1
  have inside := scope.append (linesOfBlocks_settled _ _) laysBelow_blank
  have block : Lays style 0 _ _ := inside.block ("package " ++ Name.packageClause emitter.package)
  have split : emitter.directives document =
      (emitter.imports.map .line ++ [.blank]) ++
        [.block ("package " ++ Name.packageClause emitter.package)
          (scopeDirectives (.topLevel emitter.package) document.statements ++ [.blank])] := by
    simp [Emitter.directives]
  rw [split, runAll_append, runAll_imports, block _ rfl rfl rfl, Writer.append_append]
  simp [Emitter.lines, braced, style]

/-- The text of the writer is its lines, ended. The writer drops empty lines at the end of a text;
there are none, because the last line is the brace of the package. -/
theorem Emitter.emit_eq_textOfLines (emitter : Emitter) (document : Document) :
    emitter.emit document = textOfLines (emitter.lines document) := by
  have settled : Settled (emitter.lines document) := by
    rw [Emitter.lines, braced, ← List.cons_append, ← List.append_assoc]
    exact settled_concat (by simp)
  have lines : emitter.lines document ≠ [] := by simp [Emitter.lines, braced]
  have ready := Writer.ready_append
    (rfl : ({ style := { indentWidth := emitter.indentWidth } } : Writer).current = "")
    settled lines
  rw [Emitter.emit, render, Emitter.runAll_directives, ready.text]
  simp [textOfLines, Writer.append]

/-- **Emitting writes down the outline.** The text is that of the imports, the gap below them and
the package of the document with the blocks of its scope, each below one empty line; and the block
of a module, wherever it stands, is in turn its package with the blocks of its body, seen from the
scope of the module. -/
theorem Emitter.emit_rendering (emitter : Emitter) (document : Document) :
    emitter.emit document =
        textOfLines (emitter.imports ++ importGap emitter.imports
          ++ braced ("package " ++ Name.packageClause emitter.package)
            (linesOfBlocks emitter.indentWidth
              (scopeOutline (.topLevel emitter.package) document.statements) ++ [""])) ∧
      ∀ (scope : Scope) (all : List Statement) (seen : List String) (name : String)
        (body : List Statement) (modifiers : Modifiers),
        linesOfBlocks emitter.indentWidth
            ((Statement.module name (some body) modifiers).outline scope all seen) =
          "" :: braced ("package " ++ (scope.module name).packageName)
            (linesOfBlocks emitter.indentWidth (scopeOutline (scope.module name) body)
              ++ [""]) := by
  refine ⟨emitter.emit_eq_textOfLines document, ?_⟩
  intro scope all seen name body modifiers
  rw [Statement.outline_module, linesOfBlocks_singleton, Block.lines]

end ScalaFacade
