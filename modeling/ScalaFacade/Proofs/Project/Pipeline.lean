import Mathlib.Data.List.Forall2
import ScalaFacade.Project.Program

/-! # From calls to facades

The documents of a program come from calls: one adds a document, another reads the root files, and
they may be made in any order and any number of times. A load that comes upon a file it cannot read
stops there and keeps what it has read before. So the documents of a program are those of its calls
in a row (`run_performAll`), whether or not some of the loads have failed.

Converting them is all or nothing (`convert_eq_ok_iff`), and what becomes of a document is decided
by the document and by the settings of the program alone (`getElem?_convert`).

The two halves are of different kinds. Reading is an effect: it looks at the file system, which it
leaves as it is, and the result is given as an equation for the whole run. Converting is a pure
function of the documents, and all that is needed of it is that it goes through them one by one:

* `convert_placed`: a document has the same facade wherever it stands among others, which covers
  another order, more documents and repeated ones at once. The hypothesis is a map of places, so
  nothing is said about permutations or sublists.

The first section is about lists in general. Other modules about whole runs use it too.
-/

set_option autoImplicit false

namespace ScalaFacade

/-! ## Lists that may fail

A list of computations succeeds if each of them does, and then has their results. Three readings of
that, and a fourth by place. -/

/-- The results belong to the items one by one, in their order. -/
theorem mapM_eq_ok_iff {ε ι α : Type} {f : ι → Except ε α} {items : List ι} {results : List α} :
    items.mapM f = .ok results ↔ List.Forall₂ (fun i a => f i = .ok a) items results := by
  induction items generalizing results with
  | nil =>
    constructor
    · intro h
      cases h
      exact .nil
    · intro h
      cases h
      rfl
  | cons i items ih =>
    rw [List.mapM_cons]
    constructor
    · intro h
      cases first : f i with
      | error e =>
        rw [first] at h
        cases h
      | ok a =>
        cases others : items.mapM f with
        | error e =>
          rw [first, others] at h
          cases h
        | ok rest =>
          rw [first, others] at h
          cases h
          exact .cons first (ih.1 others)
    · intro h
      cases h with
      | cons first rest =>
        rw [first, ih.2 rest]
        rfl

theorem exists_mapM_ok_iff {ε ι α : Type} {f : ι → Except ε α} {items : List ι} :
    (∃ results, items.mapM f = .ok results) ↔ ∀ i ∈ items, ∃ a, f i = .ok a := by
  simp only [mapM_eq_ok_iff]
  constructor
  · rintro ⟨results, each⟩ i member
    induction each with
    | nil => cases member
    | @cons j a items results here _ ih =>
      rcases List.mem_cons.1 member with rfl | member
      · exact ⟨a, here⟩
      · exact ih member
  · intro each
    induction items with
    | nil => exact ⟨[], .nil⟩
    | cons i items ih =>
      obtain ⟨a, first⟩ := each i List.mem_cons_self
      obtain ⟨results, rest⟩ := ih fun j member => each j (List.mem_cons_of_mem i member)
      exact ⟨a :: results, .cons first rest⟩

/-- A failure is that of some item. -/
theorem exists_of_mapM_error {ε ι α : Type} {f : ι → Except ε α} {items : List ι} {e : ε}
    (h : items.mapM f = .error e) : ∃ i ∈ items, f i = .error e := by
  induction items with
  | nil => cases h
  | cons i items ih =>
    rw [List.mapM_cons] at h
    cases first : f i with
    | error e' =>
      rw [first] at h
      cases h
      exact ⟨i, List.mem_cons_self, first⟩
    | ok a =>
      cases others : items.mapM f with
      | error e' =>
        rw [first, others] at h
        cases h
        obtain ⟨j, member, failed⟩ := ih others
        exact ⟨j, List.mem_cons_of_mem i member, failed⟩
      | ok rest =>
        rw [first, others] at h
        cases h

/-- Each result is that of the item at its place. -/
theorem getElem?_of_mapM_ok {ε ι α : Type} {f : ι → Except ε α} {items : List ι} {results : List α}
    (h : items.mapM f = .ok results) (i : Nat) :
    results[i]? = items[i]?.bind fun item => (f item).toOption := by
  have each := mapM_eq_ok_iff.1 h
  clear h
  induction each generalizing i with
  | nil => rfl
  | cons here _ ih =>
    cases i with
    | zero =>
      rw [List.getElem?_cons_zero, List.getElem?_cons_zero, Option.bind_some, here]
      rfl
    | succ i => exact ih i

/-! ## Reading documents

What a load adds is given without running it: the files up to the first that cannot be read, and
that file. -/

namespace FileSystem

/-- The text of a file, or the file if it cannot be read. -/
def textOf (fs : FileSystem) (path : Path) : Except Path (Path × String) :=
  match fs.readText path with
  | none => .error path
  | some text => .ok (path, text)

theorem textOf_ok {fs : FileSystem} {path : Path} {source : Path × String}
    (h : fs.textOf path = .ok source) : source.1 = path ∧ fs.readText path = some source.2 := by
  unfold textOf at h
  split at h
  · cases h
  · next text found =>
    cases h
    exact ⟨rfl, found⟩

theorem textOf_error {fs : FileSystem} {path other : Path} (h : fs.textOf path = .error other) :
    other = path ∧ fs.readText path = none := by
  unfold textOf at h
  split at h
  · next missing =>
    cases h
    exact ⟨rfl, missing⟩
  · cases h

/-- The documents in a list of files, up to the first file that cannot be read. -/
def readable (fs : FileSystem) (paths : List Path) : List (Path × String) :=
  (paths.takeWhile fun path => (fs.readText path).isSome).filterMap fun path =>
    (fs.readText path).map fun text => (path, text)

/-- The first file of a list that cannot be read. -/
def unreadable? (fs : FileSystem) (paths : List Path) : Option Path :=
  paths.find? fun path => (fs.readText path).isNone

theorem readable_cons_none {fs : FileSystem} {path : Path} (missing : fs.readText path = none)
    (paths : List Path) : fs.readable (path :: paths) = [] := by
  simp [readable, missing]

theorem readable_cons_some {fs : FileSystem} {path : Path} {text : String}
    (found : fs.readText path = some text) (paths : List Path) :
    fs.readable (path :: paths) = (path, text) :: fs.readable paths := by
  simp [readable, found]

theorem unreadable?_cons_none {fs : FileSystem} {path : Path} (missing : fs.readText path = none)
    (paths : List Path) : fs.unreadable? (path :: paths) = some path := by
  simp [unreadable?, missing]

theorem unreadable?_cons_some {fs : FileSystem} {path : Path} {text : String}
    (found : fs.readText path = some text) (paths : List Path) :
    fs.unreadable? (path :: paths) = fs.unreadable? paths := by
  simp [unreadable?, found]

theorem unreadable?_eq_none_iff {fs : FileSystem} {paths : List Path} :
    fs.unreadable? paths = none ↔ ∀ path ∈ paths, (fs.readText path).isSome = true := by
  simp [unreadable?, Option.isSome_iff_ne_none]

/-- Reading all files or naming the first that cannot be read. The loop that loads documents gives
both parts at once. -/
theorem mapM_textOf (fs : FileSystem) (paths : List Path) :
    paths.mapM fs.textOf = (fs.unreadable? paths).elim (.ok (fs.readable paths)) .error := by
  induction paths with
  | nil => rfl
  | cons path paths ih =>
    rw [List.mapM_cons, ih, textOf]
    cases found : fs.readText path with
    | none =>
      rw [unreadable?_cons_none found]
      rfl
    | some text =>
      rw [unreadable?_cons_some found, readable_cons_some found]
      cases fs.unreadable? paths <;> rfl

end FileSystem

namespace Program

/-- Reading documents adds those up to the first that cannot be read, and names that one. -/
theorem run_loadAll (fs : FileSystem) (paths : List Path) (program : Program) :
    (program.loadAll paths : StateM FileSystem _).run fs =
      (({ program with sources := program.sources ++ fs.readable paths },
        (fs.unreadable? paths).map Failure.io), fs) := by
  induction paths generalizing program with
  | nil =>
    rw [FileSystem.readable, List.takeWhile_nil, List.filterMap_nil, List.append_nil]
    rfl
  | cons path paths ih =>
    -- The disk of the model answers at once, so the step is a case distinction on the file.
    show (match fs.readText path with
      | none => _
      | some text => (program.addSource path text).loadAll paths : StateM FileSystem _).run fs = _
    cases found : fs.readText path with
    | none =>
      rw [fs.readable_cons_none found, fs.unreadable?_cons_none found, List.append_nil]
      rfl
    | some text =>
      have rest := ih (program.addSource path text)
      simp only [addSource, List.append_assoc, List.singleton_append] at rest
      rw [fs.readable_cons_some found, fs.unreadable?_cons_some found]
      exact rest

/-! ## Converting documents

A document that parses has a facade; `Gives` says which. -/

/-- A document is a declaration tree. -/
def Parses (source : Path × String) : Prop :=
  ∃ document, Document.parse source.1.text source.2 = .ok document

theorem isOk_parse_iff {source : Path × String} :
    (Document.parse source.1.text source.2).isOk = true ↔ Parses source := by
  unfold Parses
  cases Document.parse source.1.text source.2 with
  | error error => simp [Except.isOk, Except.toBool]
  | ok document => simp [Except.isOk, Except.toBool]

instance (source : Path × String) : Decidable (Parses source) :=
  decidable_of_iff _ isOk_parse_iff

/-- A facade is what a document is converted to. -/
def Gives (program : Program) (source : Path × String) (result : Converted) : Prop :=
  ∃ document, Document.parse source.1.text source.2 = .ok document ∧
    result = {
      input := source.1
      output := program.outputPath source.1
      text := (program.options.emitterFor source.1).emit document }

/-- One document: it has the facade that `Gives` says if it parses, and else none. -/
theorem convertDocument_eq_ok_iff {program : Program} {source : Path × String}
    {result : Converted} :
    program.convertDocument source.1 source.2 = .ok result ↔ program.Gives source result := by
  unfold convertDocument Gives
  cases parsed : Document.parse source.1.text source.2 with
  | error error =>
    constructor
    · intro h
      cases h
    · rintro ⟨document, found, -⟩
      cases found
  | ok document =>
    constructor
    · intro h
      exact ⟨document, rfl, (Except.ok.inj h).symm⟩
    · rintro ⟨other, found, rfl⟩
      cases found
      rfl

/-- The failure to convert a document is about its text, never about a file. -/
theorem convertDocument_error {program : Program} {path : Path} {text : String} {failure : Failure}
    (h : program.convertDocument path text = .error failure) :
    ∃ file detail span, failure = .parse file detail span := by
  unfold convertDocument at h
  split at h
  · cases h
    exact ⟨_, _, _, rfl⟩
  · cases h

/-- Where documents go and how they are converted depends on two settings of a program. -/
theorem convertDocument_congr {program other : Program} (options : other.options = program.options)
    (outDir : other.outDir = program.outDir) (path : Path) (text : String) :
    other.convertDocument path text = program.convertDocument path text := by
  simp only [convertDocument, outputPath, options, outDir]

/-- Converting gives one facade for each document, in their order. -/
theorem convert_eq_ok_iff {program : Program} {results : List Converted} :
    program.convert = .ok results ↔ List.Forall₂ program.Gives program.sources results := by
  have each : (fun source result => program.convertDocument source.1 source.2 = .ok result) =
      program.Gives := by
    funext source result
    exact propext convertDocument_eq_ok_iff
  rw [convert, mapM_eq_ok_iff, each]

/-- Converting fails only if some document is not a declaration tree. -/
theorem exists_convert_ok_iff {program : Program} :
    (∃ results, program.convert = .ok results) ↔ ∀ source ∈ program.sources, Parses source := by
  rw [convert, exists_mapM_ok_iff]
  refine forall₂_congr fun source _ => ?_
  simp only [convertDocument_eq_ok_iff]
  constructor
  · rintro ⟨_, document, parsed, -⟩
    exact ⟨document, parsed⟩
  · rintro ⟨document, parsed⟩
    exact ⟨_, document, parsed, rfl⟩

/-- The facade at each place is that of the document there. -/
theorem getElem?_convert {program : Program} {results : List Converted}
    (h : program.convert = .ok results) (i : Nat) :
    results[i]? = program.sources[i]?.bind fun source =>
      (program.convertDocument source.1 source.2).toOption :=
  getElem?_of_mapM_ok h i

/-- Documents have the same facades wherever they stand among others. -/
theorem convert_placed {program other : Program} {place : Nat → Nat}
    (options : other.options = program.options) (outDir : other.outDir = program.outDir)
    (placed : ∀ i, program.sources[i]? = other.sources[place i]?)
    (parsed : ∀ source ∈ other.sources, Parses source) :
    ∃ results results', program.convert = .ok results ∧ other.convert = .ok results' ∧
      ∀ i, results[i]? = results'[place i]? := by
  have among : ∀ source ∈ program.sources, source ∈ other.sources := by
    intro source member
    obtain ⟨i, there⟩ := List.mem_iff_getElem?.1 member
    rw [placed] at there
    exact List.mem_iff_getElem?.2 ⟨place i, there⟩
  obtain ⟨results, converted⟩ :=
    exists_convert_ok_iff.2 fun source member => parsed source (among source member)
  obtain ⟨results', converted'⟩ := exists_convert_ok_iff.2 parsed
  refine ⟨results, results', converted, converted', fun i => ?_⟩
  rw [getElem?_convert converted, getElem?_convert converted', placed]
  simp only [convertDocument_congr options outDir]

/-! ## Calls

A program under any sequence of calls. A failed load does not end the sequence, it only shows in the
list of what was reported. -/

/-- What is done to a program before it is converted. -/
inductive Call where
  | add (path : Path) (text : String)
  | load

namespace Call

variable (fs : FileSystem) (rootFiles : List Path)

/-- The documents that a call adds. -/
def documents : Call → List (Path × String)
  | .add path text => [(path, text)]
  | .load => fs.readable rootFiles

/-- The failure that a call reports. -/
def failure? : Call → Option Failure
  | .add _ _ => none
  | .load => (fs.unreadable? rootFiles).map Failure.io

theorem failure?_load_eq_none_iff :
    load.failure? fs rootFiles = none ↔ ∀ path ∈ rootFiles, (fs.readText path).isSome = true := by
  rw [failure?, Option.map_eq_none_iff, FileSystem.unreadable?_eq_none_iff]

end Call

section

variable {m : Type → Type} [Monad m] [Disk m]

/-- Makes one call. -/
def perform (program : Program) : Call → m (Program × Option Failure)
  | .add path text => return (program.addSource path text, none)
  | .load => program.load

/-- Makes calls one after the other, whether or not they fail, and lists what they reported. -/
def performAll (program : Program) : List Call → m (Program × List (Option Failure))
  | [] => return (program, [])
  | call :: calls => do
    let (next, failure) ← program.perform call
    let (last, failures) ← next.performAll calls
    return (last, failure :: failures)

end

/-- One call adds its documents and reports its failure; the file system stays as it is. -/
theorem run_perform (fs : FileSystem) (program : Program) (call : Call) :
    (program.perform call : StateM FileSystem _).run fs =
      (({ program with sources := program.sources ++ call.documents fs program.rootFiles },
        call.failure? fs program.rootFiles), fs) := by
  cases call with
  | add path text => rfl
  | load => exact run_loadAll fs program.rootFiles program

/-- The documents after several calls are those of the calls in a row. -/
theorem run_performAll (fs : FileSystem) (program : Program) (calls : List Call) :
    (program.performAll calls : StateM FileSystem _).run fs =
      (({ program with
          sources := program.sources ++ calls.flatMap (Call.documents fs program.rootFiles) },
        calls.map (Call.failure? fs program.rootFiles)), fs) := by
  induction calls generalizing program with
  | nil =>
    rw [List.flatMap_nil, List.append_nil]
    rfl
  | cons call calls ih =>
    rw [performAll, StateT.run_bind, run_perform]
    show StateT.run (performAll _ calls >>= _) fs = _
    rw [StateT.run_bind, ih, List.flatMap_cons, ← List.append_assoc]
    rfl

/-- **From calls to facades.** Whatever calls are made on a new program, its documents are those of
the calls in a row, of a load those up to the first file that cannot be read; a load fails exactly
if there is such a file. Converting them succeeds exactly if all of them are declaration trees, and
then gives the facade of each document at its place.

So facades do not depend on each other: where the documents of one program stand among those of
another with the same settings, whether these are the same in another order or more of them, there
stand their facades among those of the other. -/
theorem performAll_convert {program : Program} (new : program.sources = []) (fs : FileSystem)
    (calls : List Call) :
    ∃ loaded failures,
      (program.performAll calls : StateM FileSystem _).run fs = ((loaded, failures), fs) ∧
      loaded = { program with sources := calls.flatMap (Call.documents fs program.rootFiles) } ∧
      failures = calls.map (Call.failure? fs program.rootFiles) ∧
      (Call.load.failure? fs program.rootFiles = none ↔
        ∀ path ∈ program.rootFiles, (fs.readText path).isSome = true) ∧
      ((∃ results, loaded.convert = .ok results) ↔ ∀ source ∈ loaded.sources, Parses source) ∧
      (∀ results, loaded.convert = .ok results →
        List.Forall₂ loaded.Gives loaded.sources results) ∧
      ∀ (other : Program) (place : Nat → Nat), other.options = program.options →
        other.outDir = program.outDir → (∀ i, loaded.sources[i]? = other.sources[place i]?) →
        (∀ source ∈ other.sources, Parses source) →
        ∃ results results', loaded.convert = .ok results ∧ other.convert = .ok results' ∧
          ∀ i, results[i]? = results'[place i]? := by
  have ran := run_performAll fs program calls
  rw [new, List.nil_append] at ran
  refine ⟨_, _, ran, rfl, rfl, Call.failure?_load_eq_none_iff fs program.rootFiles,
    exists_convert_ok_iff, fun results converted => convert_eq_ok_iff.1 converted, ?_⟩
  intro other place options outDir placed parsed
  exact convert_placed options outDir placed parsed

/-- Three files of which the second is missing. -/
def interrupted : Program where
  rootFiles := [⟨"a.json"⟩, ⟨"b.json"⟩, ⟨"c.json"⟩]

def interruptedFiles : FileSystem where
  entries := [(⟨"/a.json"⟩, .file "[]"), (⟨"/c.json"⟩, .file "\x7b")]

/-- The documents of `interrupted` after some calls, in another order and with one more. -/
def interruptedOther : Program where
  sources := [(⟨"y.json"⟩, "[]"), (⟨"z.json"⟩, "[]"), (⟨"a.json"⟩, "[]"), (⟨"x.json"⟩, "[]")]

theorem performAll_convert_interrupted :
    ∃ loaded failures,
      (interrupted.performAll
        [.add ⟨"x.json"⟩ "[]", .load, .add ⟨"y.json"⟩ "[]", .load] : StateM FileSystem _).run
          interruptedFiles = ((loaded, failures), interruptedFiles) ∧
      loaded.sources = [(⟨"x.json"⟩, "[]"), (⟨"a.json"⟩, "[]"), (⟨"y.json"⟩, "[]"),
        (⟨"a.json"⟩, "[]")] ∧
      failures = [none, some (.io ⟨"b.json"⟩), none, some (.io ⟨"b.json"⟩)] ∧
      ∃ results results', loaded.convert = .ok results ∧ interruptedOther.convert = .ok results' ∧
        ∀ i, results[i]? = results'[[3, 2, 0, 2].getD i i]? := by
  obtain ⟨loaded, failures, ran, documents, reports, -, -, -, placed⟩ :=
    @performAll_convert interrupted rfl interruptedFiles
      [.add ⟨"x.json"⟩ "[]", .load, .add ⟨"y.json"⟩ "[]", .load]
  have sources : loaded.sources = [(⟨"x.json"⟩, "[]"), (⟨"a.json"⟩, "[]"), (⟨"y.json"⟩, "[]"),
      (⟨"a.json"⟩, "[]")] := by
    rw [documents]
    decide +kernel
  have reported : failures = [none, some (.io ⟨"b.json"⟩), none, some (.io ⟨"b.json"⟩)] := by
    rw [reports]
    decide +kernel
  have parsed : ∀ source ∈ interruptedOther.sources, Parses source := by decide +kernel
  refine ⟨loaded, failures, ran, sources, reported, ?_⟩
  refine placed interruptedOther (fun i => [3, 2, 0, 2].getD i i) rfl rfl (fun i => ?_) parsed
  rw [sources]
  rcases i with _ | _ | _ | _ | i <;> rfl

end Program

end ScalaFacade
