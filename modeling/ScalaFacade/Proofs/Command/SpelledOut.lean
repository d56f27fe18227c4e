import ScalaFacade.Proofs.Command.Endings
import ScalaFacade.Proofs.Command.Order

/-! # Projects spelled out

What a project file with the default imports says can also be said on the command line: its
documents and its output directory as paths from where the project is, its options as flags. The two
command lines lead to the same run (`run_project_eq_run_flags`), with the same further flags about
the output, wherever these stand.

The order of pieces on different topics does not count, so the flags about the output may be thought
to come first. They lead to a request that says nothing about a project; the two forms then add to
it what makes the same program, and a run depends on nothing else.

The conditions are what the command line can say and a project file need not keep to:

* There is no flag for imports, so these have to be the default ones.
* Without documents in the project there would be none on the other command line either, and that
  one would look for a project of its own.
* The width of the indentation may be at most 65535 on the command line. That it is at least one is
  checked for project files as well.
* Values and files must not start with a dash.

Nothing is asked of the documents, and the run may fail: the two then fail alike.
-/

set_option autoImplicit false

namespace ScalaFacade

/-! ## Paths from the directory of a project

An empty path is refused on the command line. Paths of a project are never empty, since the
directory is not. -/

theorem Path.text_join_ne (path : Path) (h : path.text ≠ "") (next : Path) :
    (path.join next).text ≠ "" := by
  unfold join
  split
  · next absolute =>
    intro none
    simp [isAbsolute, none] at absolute
  · split <;> simp [h]

namespace Command

theorem projectDirectory_text_ne (project : Path) : (projectDirectory project).text ≠ "" := by
  unfold projectDirectory
  split
  · split
    · decide
    · next filled => simpa [Path.isEmpty] using filled
  · decide

theorem path?_eq_some {path : Path} (h : path.text ≠ "") : path? path.text = some path := by
  simp [path?, h]

/-! ## Widths of indentation

A number that is written in digits is read as that number. -/

theorem isPlain_of_digits {digits : List Char} (h : digits.all Char.isDigit = true) :
    isPlain (String.ofList digits) = true := by
  cases digits with
  | nil => rfl
  | cons c digits =>
    have digit : c.isDigit = true := by simp_all
    have : c ≠ '-' := by
      rintro rfl
      exact absurd digit (by decide)
    simpa [isPlain] using this

theorem all_isDigit_toDigits (n : Nat) : (Nat.toDigits 10 n).all Char.isDigit = true :=
  List.all_eq_true.2 fun _ member => Nat.isDigit_of_mem_toDigits (by decide) (by decide) member

theorem isPlain_digitText (n : Nat) : isPlain (Decimal.digitText n) = true :=
  isPlain_of_digits (all_isDigit_toDigits n)

/-- A width comes back from its digits. They carry no sign, and leading zeros do not come up. -/
theorem indent?_digitText {n : Nat} (positive : 1 ≤ n) (small : n ≤ maxIndent) :
    indent? (Decimal.digitText n) = some n := by
  have digits := all_isDigit_toDigits n
  have value : (Nat.toDigits 10 n).foldl (fun n c => n * 10 + (c.toNat - 48)) 0 = n := by
    have := Nat.ofDigitChars_toDigits (b := 10) (n := n) (by decide) (by decide)
    simpa [Nat.ofDigitChars, Nat.mul_comm] using this
  have filled : Nat.toDigits 10 n ≠ [] := by
    intro none
    rw [none] at value
    exact absurd value (by simp; omega)
  unfold indent? Decimal.digitText
  rw [String.toList_ofList]
  split
  · next rest signed =>
    rw [signed] at digits
    simp at digits
  · simp [filled, digits, value, positive, small]

/-! ## What the pieces add

For each sort of piece, the request with it. An option that has not been set can be set. -/

namespace Request

theorem add?_value {request : Request} {option : Valued} {text : String}
    (plain : isPlain text = true) :
    request.add? (.value option text) =
      (request.setting? text option).map fun change => change request := by
  rw [add?, change?, ofText_of_isPlain plain]

theorem addAll?_append (request : Request) (pieces others : List Piece) :
    request.addAll? (pieces ++ others) = (request.addAll? pieces).bind (·.addAll? others) := by
  rw [addAll?, List.foldlM_append]
  rfl

/-- Files are added in their order. -/
theorem addAll?_files (request : Request) {files : List Path} (named : ∀ file ∈ files, file.text ≠ "") :
    request.addAll? (files.map fun file => .file file.text) =
      some { request with files := request.files ++ files } := by
  induction files generalizing request with
  | nil => simp [addAll?]
  | cons file files ih =>
    obtain ⟨here, later⟩ := List.forall_mem_cons.1 named
    show (request.add? (.file file.text)).bind (·.addAll? _) = _
    rw [add?, change?, path?_eq_some here]
    simp only [Option.map_some, Option.bind_some]
    rw [ih _ later, List.append_assoc, List.singleton_append]

theorem add?_project {request : Request} (unset : request.project = none) {project : Path}
    (named : project.text ≠ "") (plain : isPlain project.text = true) :
    request.add? (.value .project project.text) = some { request with project := some project } := by
  rw [add?_value plain, setting?, unset, path?_eq_some named]
  rfl

theorem add?_indent {request : Request} (unset : request.indent = none) {width : Nat}
    (positive : 1 ≤ width) (small : width ≤ maxIndent) :
    request.add? (.value .indent (Decimal.digitText width)) =
      some { request with indent := some width } := by
  rw [add?_value (isPlain_digitText width), setting?, unset, indent?_digitText positive small]
  rfl

theorem addAll?_package {request : Request} (unset : request.package = none) {name? : Option String}
    (plain : ∀ name ∈ name?, isPlain name = true) :
    request.addAll? (name?.map (.value .package)).toList = some { request with package := name? } := by
  cases name? with
  | none =>
    show some request = _
    rw [← unset]
  | some name =>
    show (request.add? (.value .package name)).bind some = _
    rw [Option.bind_fun_some, add?_value (plain name rfl), setting?, unset]
    rfl

theorem addAll?_outDir {request : Request} (unset : request.outDir = none) {path? : Option Path}
    (named : ∀ path ∈ path?, path.text ≠ "") (plain : ∀ path ∈ path?, isPlain path.text = true) :
    request.addAll? (path?.map fun path => .value .outDir path.text).toList =
      some { request with outDir := path? } := by
  cases path? with
  | none =>
    show some request = _
    rw [← unset]
  | some path =>
    show (request.add? (.value .outDir path.text)).bind some = _
    rw [Option.bind_fun_some, add?_value (plain path rfl), setting?, unset,
      path?_eq_some (named path rfl)]
    rfl

/-- A request that is only about the output. -/
def AboutOutput (request : Request) : Prop :=
  request = { out := request.out, stdout := request.stdout, listFiles := request.listFiles }

end Request

/-- Where the facades go and what is listed. -/
def Topic.isAboutOutput : Topic → Bool
  | .option .out | .stdout | .listFiles => true
  | _ => false

theorem ChangeOf.aboutOutput {topic : Topic} {change : Request → Request} (h : ChangeOf topic change)
    (output : topic.isAboutOutput = true) {request : Request} (about : request.AboutOutput) :
    (change request).AboutOutput := by
  rw [about]
  cases h with
  | out | stdout | listFiles => rfl
  | files | project | outDir | package | indent => cases output

/-- Pieces about the output leave a request that is only about the output. -/
theorem aboutOutput_of_addAll? {request added : Request} (about : request.AboutOutput)
    {pieces : List Piece} (h : ∀ piece ∈ pieces, piece.topic.isAboutOutput = true)
    (add : request.addAll? pieces = some added) : added.AboutOutput := by
  induction pieces generalizing request with
  | nil =>
    cases add
    exact about
  | cons piece pieces ih =>
    obtain ⟨here, later⟩ := List.forall_mem_cons.1 h
    obtain ⟨next, first, rest⟩ := Option.bind_eq_some_iff.1 add
    obtain ⟨change, changed, rfl⟩ := Option.map_eq_some_iff.1 first
    exact ih ((changeOf_of_change? changed).aboutOutput here about) later rest

/-! ## The two forms

Both start from a request that is only about the output. -/

/-- The pieces that say what the project file in a directory says. -/
def spelledOut (config : ProjectConfig) (directory : Path) : List Piece :=
  (config.resolvedFiles directory).map (fun file => .file file.text)
    ++ [.value .indent (Decimal.digitText config.options.indentWidth)]
    ++ (config.options.packageName.map (.value .package)).toList
    ++ ((config.resolvedOutDir directory).map fun path => .value .outDir path.text).toList

namespace Request

/-- A run depends on the program and on what is said about the output. -/
theorem run_congr {request other : Request} {fs : FileSystem}
    (program : request.programOn fs = other.programOn fs) (out : request.out = other.out)
    (stdout : request.stdout = other.stdout) (listFiles : request.listFiles = other.listFiles) :
    (request.run : StateM FileSystem _).run fs = (other.run : StateM FileSystem _).run fs := by
  have deliver : request.deliver = (other.deliver : Program → StateM FileSystem Outcome) := by
    funext program
    cases request
    cases other
    subst out stdout listFiles
    rfl
  unfold programOn at program
  rw [run, StateT.run_bind, run_loadProject, run, StateT.run_bind, run_loadProject, deliver, out]
  cases here : request.projectOn fs with
  | error failure =>
    cases there : other.projectOn fs with
    | error failure' =>
      rw [here, there] at program
      cases program
      rfl
    | ok project' =>
      rw [here, there] at program
      cases program
  | ok project =>
    cases there : other.projectOn fs with
    | error failure' =>
      rw [here, there] at program
      cases program
    | ok project' =>
      rw [here, there] at program
      have same : request.program project = other.program project' := Except.ok.inj program
      show (if (request.program project).rootFiles.isEmpty then _ else _ : StateM FileSystem _).run fs = _
      rw [same]
      rfl

end Request

/-- A project that was read has a path. The empty path leads nowhere. -/
theorem text_ne_of_loadOn {fs : FileSystem} {project : Path} {config : ProjectConfig}
    (valid : ProjectConfig.loadOn fs project = .ok config) : project.text ≠ "" := by
  intro none
  have unread : fs.readText project = Option.none := by
    simp [FileSystem.readText, FileSystem.locate, Path.isEmpty, none]
  rw [ProjectConfig.loadOn, unread] at valid
  cases valid

/-- A project file with a width of zero is refused when it is read. -/
theorem one_le_of_loadOn {fs : FileSystem} {project : Path} {config : ProjectConfig}
    (valid : ProjectConfig.loadOn fs project = .ok config) : 1 ≤ config.options.indentWidth := by
  unfold ProjectConfig.loadOn ProjectConfig.ofText at valid
  split at valid
  · cases valid
  · split at valid
    · cases valid
    · split at valid
      · cases valid
      · next positive =>
        cases valid
        omega

/-- The request for a project, with what is said about the output. -/
theorem addAll?_project {request : Request} (about : request.AboutOutput) {project : Path}
    (named : project.text ≠ "") (plain : isPlain project.text = true) :
    request.addAll? [.value .project project.text] =
      some { request with project := some project } := by
  have unset : request.project = none := by rw [about]
  show (request.add? _).bind some = _
  rw [Option.bind_fun_some, Request.add?_project unset named plain]

/-- The request for a project that is spelled out, with what is said about the output. -/
theorem addAll?_spelledOut {request : Request} (about : request.AboutOutput)
    {config : ProjectConfig} {directory : Path} (directoryNamed : directory.text ≠ "")
    (positive : 1 ≤ config.options.indentWidth) (small : config.options.indentWidth ≤ maxIndent)
    (plainPackage : ∀ name ∈ config.options.packageName, isPlain name = true)
    (plainOutDir : ∀ path ∈ config.resolvedOutDir directory, isPlain path.text = true) :
    request.addAll? (spelledOut config directory) =
      some { request with
        files := config.resolvedFiles directory
        indent := some config.options.indentWidth
        package := config.options.packageName
        outDir := config.resolvedOutDir directory } := by
  have files : ∀ file ∈ config.resolvedFiles directory, file.text ≠ "" := by
    intro file member
    obtain ⟨next, -, rfl⟩ := List.mem_map.1 member
    exact directory.text_join_ne directoryNamed ⟨next⟩
  have outDir : ∀ path ∈ config.resolvedOutDir directory, path.text ≠ "" := by
    intro path member
    obtain ⟨next, -, rfl⟩ := Option.map_eq_some_iff.1 member
    exact directory.text_join_ne directoryNamed ⟨next⟩
  rw [about]
  unfold spelledOut
  rw [Request.addAll?_append, Request.addAll?_append, Request.addAll?_append,
    Request.addAll?_files _ files, Option.bind_some]
  show (((Request.add? _ _).bind some).bind _).bind _ = _
  rw [Option.bind_fun_some, Request.add?_indent rfl positive small, Option.bind_some,
    Request.addAll?_package rfl plainPackage, Option.bind_some,
    Request.addAll?_outDir rfl outDir plainOutDir]
  rfl

/-- A project that is given decides on the program. -/
theorem programOn_project {fs : FileSystem} {request : Request} {project : Path}
    {config : ProjectConfig} (valid : ProjectConfig.loadOn fs project = .ok config) :
    { request with project := some project }.programOn fs =
      .ok ({ request with project := some project }.program
        (some (config, projectDirectory project))) := by
  show Except.map _ (Except.map _ (ProjectConfig.loadOn fs project)) = _
  rw [valid]
  rfl

/-- Without a project that is given, documents keep a run from looking for one. -/
theorem programOn_files {request : Request} (unset : request.project = none)
    (files : request.files ≠ []) (fs : FileSystem) :
    request.programOn fs = .ok (request.program none) := by
  have none : request.projectFileOn fs = Option.none := by
    simp [Request.projectFileOn, unset, files]
  rw [Request.programOn, Request.projectOn, none]
  rfl

/-- What becomes of a request that was read, if it was. -/
def carryOut (request? : Option Request) (fs : FileSystem) : Outcome × FileSystem :=
  match request? with
  | some request =>
    if request.isConsistent then (request.run : StateM FileSystem _).run fs else (⟨2, "", none⟩, fs)
  | none => (⟨2, "", none⟩, fs)

/-- A command line is carried out as the request that its pieces add up to, in whatever order they
stand. -/
theorem run_commandLine {pieces others : List Piece} (same : SameByTopic pieces others)
    (plain : ∀ text, Piece.file text ∈ others → isPlain text = true) (fs : FileSystem) :
    (run (commandLine pieces) : StateM FileSystem Outcome).run fs =
      carryOut (Request.addAll? {} others) fs := by
  rw [run, ofArguments_congr same plain]
  cases Request.addAll? {} others with
  | none => rfl
  | some request =>
    rw [Reading.ofRequest?, carryOut]
    cases request.isConsistent <;> rfl

/-- Both ways lead to the same program. -/
theorem program_spelledOut {request : Request} (about : request.AboutOutput)
    {config : ProjectConfig} (imports : config.options.imports = defaultImports) (directory : Path) :
    request.program (some (config, directory)) =
      { request with
        files := config.resolvedFiles directory
        indent := some config.options.indentWidth
        package := config.options.packageName
        outDir := config.resolvedOutDir directory }.program none := by
  rw [about]
  simp [Request.program, Request.options, ← imports]

/-- **A project file and what it says, spelled out as flags, lead to the same run**: the same exit
status, output and failure, and the same file system afterwards. What is asked of the project are
the limits of the command line. `extras` are further flags about the output, the same on both sides,
and each line may have its pieces in any order that keeps those about one topic in theirs. -/
theorem run_project_eq_run_flags {fs : FileSystem} {project : Path} {config : ProjectConfig}
    (valid : ProjectConfig.loadOn fs project = .ok config) (files : config.files ≠ [])
    (imports : config.options.imports = defaultImports)
    (small : config.options.indentWidth ≤ 65535) (plain : isPlain project.text = true)
    (plainFiles : ∀ file ∈ config.resolvedFiles (projectDirectory project),
      isPlain file.text = true)
    (plainPackage : ∀ name ∈ config.options.packageName, isPlain name = true)
    (plainOutDir : ∀ path ∈ config.resolvedOutDir (projectDirectory project),
      isPlain path.text = true)
    {extras byProject byFlags : List Piece}
    (about : ∀ piece ∈ extras, piece.topic.isAboutOutput = true)
    (sayProject : SameByTopic byProject (extras ++ [.value .project project.text]))
    (sayFlags : SameByTopic byFlags (extras ++ spelledOut config (projectDirectory project))) :
    (run (commandLine byProject) : StateM FileSystem Outcome).run fs =
      (run (commandLine byFlags) : StateM FileSystem Outcome).run fs := by
  have noFile : ∀ text, Piece.file text ∉ extras := fun text member => nomatch about _ member
  have filePlain : ∀ text, Piece.file text ∈ spelledOut config (projectDirectory project) →
      isPlain text = true := by
    intro text member
    simp only [spelledOut, List.mem_append, List.mem_map, List.mem_singleton, Option.mem_toList,
      Option.map_eq_some_iff, reduceCtorEq, and_false, exists_false, or_false,
      Piece.file.injEq] at member
    obtain ⟨file, member, rfl⟩ := member
    exact plainFiles file member
  rw [run_commandLine sayProject (by simp [noFile]),
    run_commandLine sayFlags (by simpa [noFile] using filePlain), Request.addAll?_append,
    Request.addAll?_append]
  cases added : Request.addAll? {} extras with
  | none => rfl
  | some request =>
    have empty : Request.AboutOutput {} := rfl
    have output := aboutOutput_of_addAll? empty about added
    have unset : request.project = none := by rw [output]
    have given : config.resolvedFiles (projectDirectory project) ≠ [] := by
      simpa [ProjectConfig.resolvedFiles] using files
    rw [Option.bind_some, Option.bind_some,
      addAll?_project output (text_ne_of_loadOn valid) plain,
      addAll?_spelledOut output (projectDirectory_text_ne project) (one_le_of_loadOn valid) small
        plainPackage plainOutDir, carryOut, carryOut]
    -- Both requests say the same about the output, so they are consistent or not together.
    refine if_congr Iff.rfl (Request.run_congr ?_ rfl rfl rfl) rfl
    rw [programOn_project valid, programOn_files ?_ ?_]
    · exact congrArg Except.ok (program_spelledOut output imports _)
    · exact unset
    · exact given

deriving instance DecidableEq for Options, ProjectConfig

/-- A project in a directory of its own, with one document outside of it. -/
def nested : FileSystem where
  entries :=
    [(⟨"/p"⟩, .directory), (⟨"/a.json"⟩, .file "[]"), (⟨"/p/b.json"⟩, .file "[]"),
      (⟨"/p/facade.json"⟩, .file
        ("\x7b\"outDir\":\"o\",\"files\":[\"/a.json\",\"b.json\"],"
          ++ "\"options\":\x7b\"indentWidth\":4,\"packageName\":\"q\"\x7d\x7d"))]

def nestedConfig : ProjectConfig where
  options := { indentWidth := 4, packageName := some "q" }
  files := ["/a.json", "b.json"]
  outDir := some "o"

theorem run_project_eq_run_flags_nested :
    ProjectConfig.loadOn nested ⟨"p/facade.json"⟩ = .ok nestedConfig ∧
    ((run ["--list-files", "-p", "p/facade.json"] : StateM FileSystem Outcome).run nested).1.exit = 0 ∧
    (run ["--list-files", "-p", "p/facade.json"] : StateM FileSystem Outcome).run nested =
      (run ["/a.json", "--out-dir", "p/o", "--list-files", "p/b.json", "--package", "q", "--indent",
        "4"] : StateM FileSystem Outcome).run nested := by
  have valid : ProjectConfig.loadOn nested ⟨"p/facade.json"⟩ = .ok nestedConfig := by
    decide +kernel
  have about : ∀ piece ∈ [Piece.listFiles], piece.topic.isAboutOutput = true := by decide
  have sayProject : SameByTopic [.listFiles, .value .project "p/facade.json"]
      ([.listFiles] ++ [.value .project "p/facade.json"]) := fun _ => rfl
  have sayFlags : SameByTopic [.file "/a.json", .value .outDir "p/o", .listFiles, .file "p/b.json",
      .value .package "q", .value .indent "4"]
      ([.listFiles] ++ spelledOut nestedConfig (projectDirectory ⟨"p/facade.json"⟩)) := by
    intro topic
    cases topic with
    | option option => cases option <;> rfl
    | _ => rfl
  have success : ((run ["--list-files", "-p", "p/facade.json"] : StateM FileSystem Outcome).run
      nested).1.exit = 0 := by
    decide +kernel
  have same := run_project_eq_run_flags valid (by decide) rfl (by decide) (by decide) (by decide)
    (by decide) (by decide) about sayProject sayFlags
  exact ⟨valid, success, same⟩

end Command

end ScalaFacade
