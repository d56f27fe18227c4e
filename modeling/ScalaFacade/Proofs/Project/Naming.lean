import Mathlib.Data.List.Sublists
import ScalaFacade.Project.Program
import ScalaFacade.Proofs.Project.Paths

/-! # Names of documents and of their facades

The endings of a document are dropped in a fixed order, each at most once, and dropping one can
bring another to the end. What is left is the stem: the file name is the stem and, behind it, the
endings that were dropped (`exists_dropped`). So a name that was made by putting endings behind a
base gives that base back, as long as the base has no ending of its own.

The facade goes to the stem with `.scala` behind it, in the directory of the document or in another.
No endings make up `.scala`, so the two never have the same name, and a facade never takes the place
of its document (`stem_and_output`).

Where endings can overlap the conditions are on the base. `.d.ts` ends in `.ts`, so a base that ends
in `.d` loses that as well if `.ts` is put behind it; behind such a base the shorter ending is left
out of the statement. A base may consist of dots: with an ending behind it, it is a proper name.

That a facade and its document are never one file is said in three ways, from weak to strong: the
names differ, the paths are not two ways to write one, and in no file system do they lead to one
place. The last is not a fact about texts, since `..` can lead back.
-/

set_option autoImplicit false

namespace ScalaFacade

/-! ## Endings

Dropping an ending undoes putting it behind, and does nothing to a text without it. -/

/-- A text with a given end. -/
def EndsIn (ending text : String) : Prop := ending.toList <:+ text.toList

instance (ending text : String) : Decidable (EndsIn ending text) :=
  inferInstanceAs (Decidable (ending.toList <:+ text.toList))

theorem dropEnding_of_not {ending text : String} (h : ¬EndsIn ending text) :
    dropEnding ending text = text := by
  rw [dropEnding, if_neg (mt List.isSuffixOf_iff_suffix.1 h)]

theorem dropEnding_append (text ending : String) : dropEnding ending (text ++ ending) = text := by
  have ends : ending.toList <:+ (text ++ ending).toList := by
    rw [String.toList_append]
    exact List.suffix_append _ _
  rw [dropEnding, if_pos (List.isSuffixOf_iff_suffix.2 ends), String.toList_append,
    List.length_append, Nat.add_sub_cancel, List.take_left, String.ofList_toList]

/-- Either nothing happens or the text is what is left and the ending. -/
theorem dropEnding_cases (ending text : String) :
    dropEnding ending text = text ∨ text = dropEnding ending text ++ ending := by
  by_cases ends : EndsIn ending text
  · obtain ⟨front, chars⟩ := ends
    have whole : text = String.ofList front ++ ending := by
      rw [← String.toList_inj, ← chars, String.toList_append, String.toList_ofList]
    refine .inr ?_
    rw [whole, dropEnding_append]
  · exact .inl (dropEnding_of_not ends)

/-- Two endings with different last letters: a text that ends in one does not end in the other. -/
theorem not_endsIn_append {ending tail : String} (some : tail.toList ≠ [])
    (differ : ending.toList.getLast? ≠ tail.toList.getLast?) (some' : ending.toList ≠ [])
    (text : String) : ¬EndsIn ending (text ++ tail) := by
  rintro ⟨front, chars⟩
  have ends := congrArg List.getLast? chars
  rw [String.toList_append, List.getLast?_append_of_ne_nil _ some',
    List.getLast?_append_of_ne_nil _ some] at ends
  exact differ ends

theorem endsIn_append_iff (ending text tail : String) :
    EndsIn (ending ++ tail) (text ++ tail) ↔ EndsIn ending text := by
  rw [EndsIn, EndsIn, String.toList_append, String.toList_append]
  constructor
  · rintro ⟨front, chars⟩
    rw [← List.append_assoc] at chars
    exact ⟨front, List.append_cancel_right chars⟩
  · rintro ⟨front, chars⟩
    exact ⟨front, by rw [← List.append_assoc, chars]⟩

/-! ## Stems

The endings are the three of documents, tried from the outermost in. -/

/-- What is left of a name without the endings of documents. -/
def stemOf (name : String) : String :=
  documentEndings.foldl (fun stem ending => dropEnding ending stem) name

theorem stemOf_eq (name : String) :
    stemOf name = dropEnding ".ts" (dropEnding ".d.ts" (dropEnding ".json" name)) := by
  simp only [stemOf, documentEndings, List.foldl_cons, List.foldl_nil]

theorem documentStem_of_fileName? {path : Path} {name : String} (h : path.fileName? = some name) :
    documentStem path = stemOf name := by
  rw [documentStem, h]
  rfl

/-- A name is its stem and, behind it, the endings that were dropped, last one first. -/
theorem exists_dropped (endings : List String) (name : String) :
    ∃ dropped : List String, dropped.Sublist endings ∧
      name = endings.foldl (fun stem ending => dropEnding ending stem) name
        ++ String.join dropped.reverse := by
  induction endings generalizing name with
  | nil => exact ⟨[], .slnil, by simp [String.join]⟩
  | cons ending endings ih =>
    rw [List.foldl_cons]
    obtain ⟨dropped, among, parts⟩ := ih (dropEnding ending name)
    rcases dropEnding_cases ending name with kept | ends
    · exact ⟨dropped, among.cons ending, by rwa [kept] at parts ⊢⟩
    · refine ⟨ending :: dropped, among.cons_cons ending, ?_⟩
      rw [List.reverse_cons, String.join_append, ← String.append_assoc, ← parts]
      simpa [String.join] using ends

/-- No document is called like its facade. -/
theorem ne_stemOf_append_scala (name : String) : name ≠ stemOf name ++ ".scala" := by
  obtain ⟨dropped, among, parts⟩ := exists_dropped documentEndings name
  intro same
  have ending : ".scala" = String.join dropped.reverse := by
    rw [← String.append_right_inj (stemOf name), ← same]
    exact parts
  -- The endings dropped are a sublist of three, so there are eight cases to try.
  have other : ∀ dropped ∈ documentEndings.sublists, ".scala" ≠ String.join dropped.reverse := by
    decide +kernel
  exact other dropped (List.mem_sublists.2 among) ending

/-- A stem has no slash in it, since the file name has none. -/
theorem solid_documentStem (path : Path) : '/' ∉ (documentStem path).toList := by
  cases named : path.fileName? with
  | none =>
    have empty : documentStem path = "" := by
      rw [documentStem, named]
      rfl
    simp [empty]
  | some name =>
    obtain ⟨dropped, -, parts⟩ := exists_dropped documentEndings name
    have proper := (Path.exists_parts_of_fileName? named).1
    rw [documentStem_of_fileName? named]
    intro slash
    refine proper.solid ?_
    rw [parts, String.toList_append]
    exact List.mem_append_left _ slash

/-- The name of a file without the endings of documents: it is not empty, has no slash, and does not
end like a document itself. -/
structure IsBase (base : String) : Prop where
  nonempty : base ≠ ""
  solid : '/' ∉ base.toList
  bare : ∀ ending ∈ [".json", ".d.ts", ".ts"], ¬EndsIn ending base

theorem IsBase.stemOf {base : String} (h : IsBase base) : stemOf base = base := by
  rw [stemOf_eq, dropEnding_of_not (h.bare ".json" (by simp)),
    dropEnding_of_not (h.bare ".d.ts" (by simp)), dropEnding_of_not (h.bare ".ts" (by simp))]

/-- A name that does not end in `.json` may have that behind it. -/
theorem stemOf_json {name : String} (h : ¬EndsIn ".json" name) :
    stemOf (name ++ ".json") = stemOf name := by
  rw [stemOf_eq, stemOf_eq, dropEnding_append, dropEnding_of_not h]

theorem stemOf_append_json {base ending : String} (h : ¬EndsIn ".json" (base ++ ending)) :
    stemOf (base ++ (ending ++ ".json")) = stemOf (base ++ ending) := by
  rw [← String.append_assoc, stemOf_json h]

/-- The endings that a base can always have behind it. -/
theorem IsBase.stemOf_append {base : String} (h : IsBase base) :
    ∀ ending ∈ [".json", ".d.ts", ".d.ts.json"], ScalaFacade.stemOf (base ++ ending) = base := by
  have inner : ¬EndsIn ".json" (base ++ ".d.ts") :=
    not_endsIn_append (by decide) (by decide) (by decide) base
  have declarations : ScalaFacade.stemOf (base ++ ".d.ts") = base := by
    rw [stemOf_eq, dropEnding_of_not inner, dropEnding_append,
      dropEnding_of_not (h.bare ".ts" (by simp))]
  rw [List.forall_mem_cons, List.forall_mem_cons, List.forall_mem_singleton]
  refine ⟨?_, declarations, ?_⟩
  · rw [stemOf_json (h.bare ".json" (by simp)), h.stemOf]
  · exact (stemOf_append_json inner).trans declarations

/-- The ending `.ts` is part of a longer one only behind a text that ends in `.d`. -/
theorem stemOf_source_append {base : String} (short : ¬EndsIn ".d" base) :
    ∀ ending ∈ [".ts", ".ts.json"], stemOf (base ++ ending) = base := by
  have inner : ¬EndsIn ".json" (base ++ ".ts") :=
    not_endsIn_append (by decide) (by decide) (by decide) base
  have longer : ¬EndsIn ".d.ts" (base ++ ".ts") := mt (endsIn_append_iff ".d" base ".ts").1 short
  have source : stemOf (base ++ ".ts") = base := by
    rw [stemOf_eq, dropEnding_of_not inner, dropEnding_of_not longer, dropEnding_append]
  rw [List.forall_mem_cons, List.forall_mem_singleton]
  exact ⟨source, (stemOf_append_json inner).trans source⟩

/-- A text with a long enough ending is a proper name: it is neither empty nor made of one or two
dots. -/
theorem isName_append {stem ending : String} (solid : '/' ∉ stem.toList)
    (solid' : '/' ∉ ending.toList) (long : 3 ≤ ending.length) : Path.IsName (stem ++ ending) := by
  have longer : 3 ≤ (stem ++ ending).length := by
    rw [String.length_append]
    omega
  refine ⟨?_, ?_, ?_, ?_⟩
  · rintro empty
    rw [empty] at longer
    exact absurd longer (by decide)
  · rw [String.toList_append, List.mem_append]
    exact not_or.2 ⟨solid, solid'⟩
  · intro dot
    rw [dot] at longer
    exact absurd longer (by decide)
  · intro dots
    rw [dots] at longer
    exact absurd longer (by decide)

/-- The endings that the name of a document can have. -/
def usualEndings : List String := [".json", ".d.ts", ".d.ts.json"] ++ [".ts", ".ts.json"]

theorem isName_append_ending {base ending : String} (h : IsBase base)
    (usual : ending ∈ usualEndings) : Path.IsName (base ++ ending) := by
  have proper : ∀ ending ∈ usualEndings, '/' ∉ ending.toList ∧ 3 ≤ ending.length := by decide
  exact isName_append h.solid (proper ending usual).1 (proper ending usual).2

/-- Directories do not matter for the stem. -/
theorem documentStem_lead_append {lead name : String} (h : Path.IsLead lead)
    (proper : Path.IsName name) : documentStem ⟨lead ++ name⟩ = stemOf name :=
  documentStem_of_fileName? (Path.fileName?_lead_append h proper)

/-! ## Outputs

The facade has a proper name, so its path is the output directory and one more component. -/

namespace Program

variable (program : Program) (input : Path)

/-- Where the facade of a document goes: into the output directory, or next to the document. -/
def outputDirectory : Path := program.outDir.getD (input.parent?.getD .here)

theorem isName_output : Path.IsName (documentStem input ++ ".scala") :=
  isName_append (solid_documentStem input) (by decide) (by decide)

/-- The path of a facade is its directory and its name. -/
theorem components_outputPath :
    (program.outputPath input).isAbsolute = (program.outputDirectory input).isAbsolute ∧
      (program.outputPath input).components =
        (program.outputDirectory input).components ++ [documentStem input ++ ".scala"] :=
  Path.same_join (isName_output input)

theorem exists_parent_outputPath :
    ∃ parent, (program.outputPath input).parent? = some parent ∧
      parent.Same (program.outputDirectory input) := by
  obtain ⟨start, split⟩ := program.components_outputPath input
  obtain ⟨parent, above, start', components⟩ := Path.exists_parent split
  exact ⟨parent, above, start'.trans start, components⟩

theorem fileName?_outputPath :
    (program.outputPath input).fileName? = some (documentStem input ++ ".scala") := by
  rw [Path.fileName?_eq_some_iff, (program.components_outputPath input).2]
  have proper := isName_output input
  exact ⟨⟨_, rfl⟩, proper.notDot, proper.notDots⟩

/-- The document is not called like its facade. -/
theorem fileName?_ne_output : input.fileName? ≠ some (documentStem input ++ ".scala") := by
  intro named
  have stem := documentStem_of_fileName? named
  refine ne_stemOf_append_scala (documentStem input ++ ".scala") ?_
  rw [← stem]

/-- The path of a facade is no other way to write the path of its document. -/
theorem not_same_outputPath : ¬(program.outputPath input).Same input := by
  intro same
  refine fileName?_ne_output input ?_
  rw [Path.fileName?_eq_some_iff, ← same.components, ← Path.fileName?_eq_some_iff]
  exact program.fileName?_outputPath input

/-- In no file system does a facade take the place of its document. -/
theorem locate_outputPath_ne {name : String} (named : input.fileName? = some name) (fs : FileSystem)
    {location : Location} (found : fs.locate input = some location) :
    fs.locate (program.outputPath input) ≠ some location := by
  intro meets
  obtain ⟨directory, rfl⟩ := fs.locate_child named found
  obtain ⟨other, same⟩ := fs.locate_child (program.fileName?_outputPath input) meets
  have solid := (Path.exists_parts_of_fileName? named).1.solid
  have equal := Location.name_eq_of_child_eq solid (isName_output input).solid same
  rw [equal] at named
  exact fileName?_ne_output input named

end Program

/-- **Names of documents and facades.** A base gives itself back from behind any directories, with
any of the usual endings behind it. And for every document and every choice of an output directory,
the facade goes right into that directory, or next to the document, under the stem with `.scala`
behind it; the document has another name, so it is never its own facade. -/
theorem stem_and_output :
    (∀ lead base : String, Path.IsLead lead → IsBase base →
      (base ≠ "." ∧ base ≠ ".." → documentStem ⟨lead ++ base⟩ = base) ∧
      (∀ ending ∈ [".json", ".d.ts", ".d.ts.json"],
        documentStem ⟨lead ++ (base ++ ending)⟩ = base) ∧
      (¬EndsIn ".d" base → ∀ ending ∈ [".ts", ".ts.json"],
        documentStem ⟨lead ++ (base ++ ending)⟩ = base)) ∧
    ∀ (program : Program) (input : Path),
      (∃ parent, (program.outputPath input).parent? = some parent ∧
        parent.Same (program.outDir.getD (input.parent?.getD .here))) ∧
      (program.outputPath input).fileName? = some (documentStem input ++ ".scala") ∧
      input.fileName? ≠ some (documentStem input ++ ".scala") ∧
      ¬(program.outputPath input).Same input ∧
      ∀ (fs : FileSystem) (name : String) (location : Location), input.fileName? = some name →
        fs.locate input = some location → fs.locate (program.outputPath input) ≠ some location := by
  constructor
  · intro lead base above h
    refine ⟨?_, ?_, ?_⟩
    · rintro ⟨notDot, notDots⟩
      rw [documentStem_lead_append above ⟨h.nonempty, h.solid, notDot, notDots⟩, h.stemOf]
    · intro ending member
      have proper := isName_append_ending h (List.mem_append_left _ member)
      rw [documentStem_lead_append above proper, h.stemOf_append ending member]
    · intro short ending member
      have proper := isName_append_ending h (List.mem_append_right _ member)
      rw [documentStem_lead_append above proper, stemOf_source_append short ending member]
  · intro program input
    refine ⟨program.exists_parent_outputPath input, program.fileName?_outputPath input,
      Program.fileName?_ne_output input, program.not_same_outputPath input, ?_⟩
    intro fs name location named found
    exact program.locate_outputPath_ne input named fs found

/-- A directory with one document. -/
def desk : FileSystem where
  entries := [(⟨"/w/a.scala.json"⟩, .file "[]"), (⟨"/w"⟩, .directory)]
  workingDirectory := ⟨"/w"⟩

/-- Bases that end in `.d` or consist of dots, a document without a file name whose facade goes to
an output directory that is written in a roundabout way, and a document that is called like a
facade. -/
theorem stem_and_output_overlapping :
    documentStem ⟨"lib/" ++ ("x.d" ++ ".d.ts.json")⟩ = "x.d" ∧
    documentStem ⟨"" ++ (".." ++ ".ts")⟩ = ".." ∧
    documentStem ⟨"/a/../" ++ "..."⟩ = "..." ∧
    (∃ parent : Path,
      (({ outDir := some ⟨"out/.//"⟩ } : Program).outputPath ⟨"a/.."⟩).parent? = some parent ∧
        parent.Same ⟨"out/.//"⟩) ∧
    desk.locate ⟨"./a.scala.json"⟩ = some ⟨"/w/a.scala.json"⟩ ∧
    desk.locate (({} : Program).outputPath ⟨"./a.scala.json"⟩) ≠ some ⟨"/w/a.scala.json"⟩ := by
  have ofDeclarations := stem_and_output.1 "lib/" "x.d" (.inr ⟨"lib", rfl⟩)
    ⟨by decide, by decide, by decide⟩
  have ofSource := stem_and_output.1 "" ".." (.inl rfl) ⟨by decide, by decide, by decide⟩
  have ofBase := stem_and_output.1 "/a/../" "..." (.inr ⟨"/a/..", rfl⟩)
    ⟨by decide, by decide, by decide⟩
  have named : (⟨"./a.scala.json"⟩ : Path).fileName? = some "a.scala.json" := by decide +kernel
  have found : desk.locate ⟨"./a.scala.json"⟩ = some ⟨"/w/a.scala.json"⟩ := by decide +kernel
  have output := (stem_and_output.2 {} ⟨"./a.scala.json"⟩).2.2.2.2 desk _ _ named found
  have roundabout := (stem_and_output.2 { outDir := some ⟨"out/.//"⟩ } ⟨"a/.."⟩).1
  exact ⟨ofDeclarations.2.1 ".d.ts.json" (by simp), ofSource.2.2 (by decide) ".ts" (by simp),
    ofBase.1 (by decide), roundabout, found, output⟩

end ScalaFacade
