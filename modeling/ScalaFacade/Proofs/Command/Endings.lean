import ScalaFacade.Command.Run
import ScalaFacade.Proofs.Project.Pipeline

/-! # How runs end

A run on a file system has five endings, and `Request.Ends` lists them: it finds no program, it
objects to the program it found, a document of the program cannot be read or converted, the facades
are printed, or they are written. Only in the last of them does it do anything but read, and there
every document has been read and converted before the first facade is written.

What a run reads is said by plain functions of the file system (`projectOn`, `programOn`,
`facadesOn`), so that a fact about a run is a case analysis on `Request.Ends` and needs no monad.

The work is one inversion, `ends_of_run`, made once for all facts about runs. It has two parts:

* reading leaves the file system as it is, and its result is that of the plain function (`run_load`,
  `run_loadProject`);
* what is left of the run is a cascade of conditions, and each leaf is one of the endings.

The relation has an ending for a run that fails while writing, but does not say what is written by
then. For that it keeps the run of the loop, and the module about writing takes it from there.
Refused command lines and requests for help or the version do not come to this point at all.
-/

set_option autoImplicit false

namespace ScalaFacade

namespace Program

/-- The facades of the documents of a program, or why there are none. -/
def facadesOn (program : Program) (fs : FileSystem) : Except Failure (List Converted) :=
  match program.rootFiles.mapM fs.textOf with
  | .error path => .error (.io path)
  | .ok texts => texts.mapM fun source => program.convertDocument source.1 source.2

/-- A facade is what the content of a document is converted to. -/
def Makes (program : Program) (fs : FileSystem) (path : Path) (result : Converted) : Prop :=
  ∃ text document, fs.readText path = some text ∧ Document.parse path.text text = .ok document ∧
    result = {
      input := path
      output := program.outputPath path
      text := (program.options.emitterFor path).emit document }

/-- The facades belong to the documents one by one: each is made from what its file holds. -/
theorem facadesOn_ok {program : Program} {fs : FileSystem} {results : List Converted}
    (h : program.facadesOn fs = .ok results) :
    List.Forall₂ (program.Makes fs) program.rootFiles results := by
  unfold facadesOn at h
  split at h
  · cases h
  · next texts read =>
    have made := mapM_eq_ok_iff.1 h
    have found := mapM_eq_ok_iff.1 read
    clear h read
    generalize program.rootFiles = paths at found ⊢
    -- Reading and converting are two passes; they are gone through side by side, by the files.
    induction found generalizing results with
    | nil =>
      cases made
      exact .nil
    | cons here _ ih =>
      cases made with
      | cons first rest =>
        obtain ⟨rfl, found⟩ := FileSystem.textOf_ok here
        obtain ⟨document, parsed, same⟩ := convertDocument_eq_ok_iff.1 first
        exact .cons ⟨_, document, found, parsed, same⟩ (ih rest)

/-- All documents of a program with facades can be read and converted. -/
theorem documents_of_facadesOn {program : Program} {fs : FileSystem} {results : List Converted}
    (converted : program.facadesOn fs = .ok results) :
    ∀ path ∈ program.rootFiles, ∃ text document, fs.readText path = some text ∧
      Document.parse path.text text = .ok document := by
  have made := facadesOn_ok converted
  clear converted
  generalize program.rootFiles = paths at made
  induction made with
  | nil => simp
  | cons here _ ih =>
    obtain ⟨text, document, found, parsed, -⟩ := here
    exact List.forall_mem_cons.2 ⟨⟨text, document, found, parsed⟩, ih⟩

/-- Without facades, some document cannot be read or is not a declaration tree. -/
theorem facadesOn_error {program : Program} {fs : FileSystem} {failure : Failure}
    (h : program.facadesOn fs = .error failure) :
    (∃ path ∈ program.rootFiles, failure = .io path ∧ fs.readText path = none) ∨
      ∃ file detail span, failure = .parse file detail span := by
  unfold facadesOn at h
  split at h
  · next path missing =>
    cases h
    obtain ⟨next, member, failed⟩ := exists_of_mapM_error missing
    obtain ⟨rfl, unread⟩ := FileSystem.textOf_error failed
    exact .inl ⟨_, member, rfl, unread⟩
  · obtain ⟨source, -, failed⟩ := exists_of_mapM_error h
    exact .inr (convertDocument_error failed)

end Program

/-- The configuration in a project file on a file system. -/
def ProjectConfig.loadOn (fs : FileSystem) (path : Path) : Except Failure ProjectConfig :=
  match fs.readText path with
  | none => .error (.io path)
  | some text => ofText path text

/-- Reading a project file changes nothing. -/
theorem ProjectConfig.run_load (fs : FileSystem) (path : Path) :
    (ProjectConfig.load path : StateM FileSystem _).run fs = (loadOn fs path, fs) := by
  unfold loadOn
  show (match fs.readText path with
    | none => _
    | some text => _ : StateM FileSystem _).run fs = _
  cases fs.readText path <;> rfl

namespace Command.Request

/-! ## The program of a request

The project file that is asked for, or the default one if no documents are given and it is there. -/

/-- The project file of a request on a file system. -/
def projectFileOn (request : Request) (fs : FileSystem) : Option Path :=
  match request.project with
  | some path => some path
  | none =>
    if request.files.isEmpty && fs.isPresent defaultProject then some defaultProject else none

/-- The project of a request on a file system, if it has one. -/
def projectOn (request : Request) (fs : FileSystem) :
    Except Failure (Option (ProjectConfig × Path)) :=
  match request.projectFileOn fs with
  | none => .ok none
  | some path =>
    (ProjectConfig.loadOn fs path).map fun config => some (config, projectDirectory path)

/-- The program of a request on a file system. -/
def programOn (request : Request) (fs : FileSystem) : Except Failure Program :=
  (request.projectOn fs).map request.program

theorem run_projectFile (request : Request) (fs : FileSystem) :
    (request.projectFile : StateM FileSystem _).run fs = (request.projectFileOn fs, fs) := by
  unfold projectFile projectFileOn
  cases request.project with
  | some path => rfl
  | none =>
    cases request.files.isEmpty with
    | false => rfl
    | true =>
      show (if fs.isPresent defaultProject then _ else _ : StateM FileSystem _).run fs = _
      cases fs.isPresent defaultProject <;> rfl

/-- Finding and reading the project changes nothing, and the result is that of the plain
function. -/
theorem run_loadProject (request : Request) (fs : FileSystem) :
    (request.loadProject : StateM FileSystem _).run fs = (request.projectOn fs, fs) := by
  rw [loadProject, StateT.run_bind, run_projectFile, projectOn]
  cases request.projectFileOn fs with
  | none => rfl
  | some path =>
    show (ProjectConfig.load path >>= _ : StateM FileSystem _).run fs =
      ((ProjectConfig.loadOn fs path).map _, fs)
    rw [StateT.run_bind, ProjectConfig.run_load]
    cases ProjectConfig.loadOn fs path <;> rfl

/-! ## The endings

Each ending has as its fields the reasons for it, so that a case analysis has everything at hand
that the run has found out by then. -/

/-- Why a program is not carried out. -/
def objection? (request : Request) (program : Program) : Option Failure :=
  if program.rootFiles.isEmpty then some .noInput
  else if request.out.isSome && decide (1 < program.rootFiles.length) then some .severalInputs
  else none

/-- How a request ends on a file system, and the file system afterwards. -/
inductive Ends (request : Request) (fs : FileSystem) : Outcome → FileSystem → Prop where
  /-- There is no program. -/
  | withoutProgram {failure : Failure} (missing : request.programOn fs = .error failure) :
      Ends request fs ⟨1, "", some failure⟩ fs
  /-- The program and the options do not go together. -/
  | objected {program : Program} {failure : Failure} (found : request.programOn fs = .ok program)
      (objection : request.objection? program = some failure) :
      Ends request fs ⟨1, "", some failure⟩ fs
  /-- A document cannot be read or converted. -/
  | unconverted {program : Program} {failure : Failure} (found : request.programOn fs = .ok program)
      (fitting : request.objection? program = none)
      (failed : program.facadesOn fs = .error failure) :
      Ends request fs ⟨1, request.listing program, some failure⟩ fs
  /-- The facades are printed. -/
  | printed {program : Program} {results : List Converted}
      (found : request.programOn fs = .ok program) (fitting : request.objection? program = none)
      (converted : program.facadesOn fs = .ok results) (stdout : request.stdout = true) :
      Ends request fs
        ⟨0, request.listing program ++ String.join (results.map Converted.text), none⟩ fs
  /-- The facades are written, or writing them has failed. -/
  | written {program : Program} {results : List Converted} {failure : Option Failure}
      {after : FileSystem} (found : request.programOn fs = .ok program)
      (fitting : request.objection? program = none)
      (converted : program.facadesOn fs = .ok results) (stdout : request.stdout = false)
      (wrote : (writeOutputs (request.redirect results) : StateM FileSystem _).run fs =
        (failure, after)) :
      Ends request fs ⟨if failure.isSome then 1 else 0, request.listing program, failure⟩ after

/-- A fresh program has read nothing. -/
theorem sources_program (request : Request) (project : Option (ProjectConfig × Path)) :
    (request.program project).sources = [] := by
  cases project <;> rfl

/-- Delivering a program has the last three endings. -/
theorem ends_of_deliver {request : Request} {fs after : FileSystem} {program : Program}
    {outcome : Outcome} (found : request.programOn fs = .ok program)
    (fresh : program.sources = []) (fitting : request.objection? program = none)
    (ran : (request.deliver program : StateM FileSystem _).run fs = (outcome, after)) :
    request.Ends fs outcome after := by
  rw [deliver, Program.load, StateT.run_bind, Program.run_loadAll] at ran
  have read := fs.mapM_textOf program.rootFiles
  cases missing : fs.unreadable? program.rootFiles with
  | some path =>
    rw [missing] at ran read
    cases ran
    refine .unconverted found fitting ?_
    rw [Program.facadesOn, read]
    rfl
  | none =>
    rw [missing] at ran read
    -- A program that has read its files, and nothing else before, converts what is in them.
    have same : ({ program with sources := fs.readable program.rootFiles } : Program).convert =
        program.facadesOn fs := by
      rw [Program.facadesOn, read]
      rfl
    rw [fresh, List.nil_append, Option.map_none] at ran
    change StateT.run _ fs = _ at ran
    simp only [same] at ran
    cases converted : program.facadesOn fs with
    | error failure =>
      rw [converted] at ran
      cases ran
      exact .unconverted found fitting converted
    | ok results =>
      rw [converted] at ran
      cases stdout : request.stdout with
      | true =>
        simp only [stdout] at ran
        cases ran
        exact .printed found fitting converted stdout
      | false =>
        simp only [stdout] at ran
        cases wrote : (writeOutputs (request.redirect results) : StateM FileSystem _).run fs with
        | mk failure written =>
          change (writeOutputs (request.redirect results) >>= _ : StateM FileSystem _).run fs = _ at ran
          rw [StateT.run_bind, wrote] at ran
          have ending := Ends.written found fitting converted stdout wrote
          cases failure <;> cases ran <;> exact ending

/-- Carrying out a request ends in one of the five ways. -/
theorem ends_of_run {request : Request} {fs after : FileSystem} {outcome : Outcome}
    (ran : (request.run : StateM FileSystem _).run fs = (outcome, after)) :
    request.Ends fs outcome after := by
  rw [run, StateT.run_bind, run_loadProject] at ran
  cases loaded : request.projectOn fs with
  | error failure =>
    rw [loaded] at ran
    cases ran
    refine .withoutProgram ?_
    rw [programOn, loaded]
    rfl
  | ok project =>
    have found : request.programOn fs = .ok (request.program project) := by
      rw [programOn, loaded]
      rfl
    rw [loaded] at ran
    change (if (request.program project).rootFiles.isEmpty then _ else _ : StateM FileSystem _).run
      fs = _ at ran
    cases empty : (request.program project).rootFiles.isEmpty with
    | true =>
      rw [if_pos empty] at ran
      cases ran
      exact .objected found (by rw [objection?, if_pos empty])
    | false =>
      rw [empty, if_neg Bool.false_ne_true] at ran
      cases several : request.out.isSome && decide (1 < (request.program project).rootFiles.length)
      with
      | true =>
        rw [if_pos several] at ran
        cases ran
        exact .objected found (by rw [objection?, empty, if_neg Bool.false_ne_true, if_pos several])
      | false =>
        rw [several, if_neg Bool.false_ne_true] at ran
        refine ends_of_deliver found (sources_program request project) ?_ ran
        rw [objection?, empty, if_neg Bool.false_ne_true, several, if_neg Bool.false_ne_true]

end Command.Request
end ScalaFacade
