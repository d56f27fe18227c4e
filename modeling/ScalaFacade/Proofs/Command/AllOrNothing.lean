import ScalaFacade.Proofs.Command.Endings
import ScalaFacade.Proofs.Project.Writing

/-! # All or nothing

A run that fails before it comes to writing leaves the file system exactly as it was, and so does
one that only prints (`run_all_or_nothing`). Whether a failure to access a file belongs to reading
can be seen from the file system before the run: the file is the project file or a document, and it
cannot be read there. Every other failure comes after all documents have been read and parsed.

Both reading and writing fail with the same sort of failure, which only names a path. So the failure
alone does not tell how far a run has come, and `FailsEarly` looks at the file system as well. That
the two do not overlap is `not_failsEarly_of_writesAll`: once a run writes, its project file and all
of its documents have been read, so none of them is unreadable.

Nothing is said here about the files after a run that has failed while writing. It may have written
some facades; which ones is said by `writeOutputs_outcome` for the loop.
-/

set_option autoImplicit false

namespace ScalaFacade.Command

namespace Request

/-- The failures of a run that has not come to writing. -/
inductive FailsEarly (request : Request) (fs : FileSystem) : Failure → Prop where
  | noInput : FailsEarly request fs .noInput
  | usage (detail : String) : FailsEarly request fs (.usage detail)
  | config (path : Path) (detail : String) : FailsEarly request fs (.config path detail)
  | parse (file detail : String) (span : Span) : FailsEarly request fs (.parse file detail span)
  | project {path : Path} (asked : request.projectFileOn fs = some path)
      (unread : fs.readText path = none) : FailsEarly request fs (.io path)
  | document {path : Path} {program : Program} (found : request.programOn fs = .ok program)
      (asked : path ∈ program.rootFiles) (unread : fs.readText path = none) :
      FailsEarly request fs (.io path)

/-- Nothing stands against writing: there is a program, and each of its documents is read and is a
declaration tree. -/
def ComesToWriting (request : Request) (fs : FileSystem) : Prop :=
  request.stdout = false ∧ ∃ program, request.programOn fs = .ok program ∧
    ∀ path ∈ program.rootFiles, ∃ text document, fs.readText path = some text ∧
      Document.parse path.text text = .ok document

/-- What a request prints before its documents are read: the list of them, if it is asked for and
nothing speaks against the program. -/
def announcement (request : Request) (fs : FileSystem) : String :=
  match request.programOn fs with
  | .error _ => ""
  | .ok program =>
    if request.listFiles ∧ program.rootFiles ≠ [] ∧
        (request.out.isSome → program.rootFiles.length = 1) then
      String.join (program.rootFiles.map fun file => file.text ++ "\n")
    else ""

variable {request : Request} {fs after : FileSystem} {program : Program} {outcome : Outcome}

/-! ## What speaks against a program

A program without documents, or several documents for one output file. -/

theorem objection?_eq_none_iff :
    request.objection? program = none ↔
      program.rootFiles ≠ [] ∧ (request.out.isSome → program.rootFiles.length = 1) := by
  unfold objection?
  cases program.rootFiles with
  | nil => simp
  | cons file files =>
    cases request.out with
    | none => simp
    | some out => simp

theorem announcement_of_objection {failure : Failure} (found : request.programOn fs = .ok program)
    (objection : request.objection? program = some failure) : request.announcement fs = "" := by
  have unfit : ¬(program.rootFiles ≠ [] ∧ (request.out.isSome → program.rootFiles.length = 1)) := by
    rw [← objection?_eq_none_iff, objection]
    simp
  rw [announcement, found]
  exact if_neg fun h => unfit h.2

/-- A program without objections is listed, if the list is asked for. -/
theorem announcement_of_fitting (found : request.programOn fs = .ok program)
    (fitting : request.objection? program = none) :
    request.announcement fs = request.listing program := by
  have fits := objection?_eq_none_iff.1 fitting
  rw [announcement, found, listing]
  exact if_congr (and_iff_left fits) rfl rfl

/-! ## Programs that were found -/

/-- The project file of a program that was found can be read. -/
theorem readText_project {path : Path} (found : request.programOn fs = .ok program)
    (asked : request.projectFileOn fs = some path) : fs.readText path ≠ none := by
  intro unread
  rw [programOn, projectOn, asked] at found
  simp [ProjectConfig.loadOn, unread, Except.map] at found

/-! ## Early failures

One lemma for each of the endings in which a run fails before it writes. -/

/-- Whatever is wrong with the content of a project file is a failure of its own sort, with the path
of the file. -/
theorem ofText_error {path : Path} {text : String} {failure : Failure}
    (h : ProjectConfig.ofText path text = .error failure) :
    ∃ detail, failure = .config path detail := by
  unfold ProjectConfig.ofText at h
  split at h
  · cases h
    exact ⟨_, rfl⟩
  · split at h
    · cases h
      exact ⟨_, rfl⟩
    · cases h

/-- Without a program, the project file cannot be read or has the wrong content. -/
theorem failsEarly_of_programOn {failure : Failure}
    (missing : request.programOn fs = .error failure) : request.FailsEarly fs failure := by
  rw [programOn, projectOn] at missing
  cases asked : request.projectFileOn fs with
  | none =>
    rw [asked] at missing
    cases missing
  | some path =>
    simp only [asked] at missing
    cases loaded : ProjectConfig.loadOn fs path with
    | ok config =>
      rw [loaded] at missing
      cases missing
    | error reason =>
      rw [loaded] at missing
      cases missing
      cases text : fs.readText path with
      | none =>
        rw [ProjectConfig.loadOn, text] at loaded
        cases loaded
        exact .project asked text
      | some content =>
        rw [ProjectConfig.loadOn, text] at loaded
        obtain ⟨detail, rfl⟩ := ofText_error loaded
        exact .config path detail

theorem failsEarly_of_objection {failure : Failure}
    (objection : request.objection? program = some failure) : request.FailsEarly fs failure := by
  unfold objection? at objection
  split at objection
  · cases objection
    exact .noInput
  · split at objection
    · cases objection
      exact .usage _
    · cases objection

theorem failsEarly_of_facadesOn {failure : Failure} (found : request.programOn fs = .ok program)
    (failed : program.facadesOn fs = .error failure) : request.FailsEarly fs failure := by
  rcases Program.facadesOn_error failed with ⟨path, asked, rfl, unread⟩ | ⟨file, detail, span, rfl⟩
  · exact .document found asked unread
  · exact .parse file detail span

/-- No failure to write is one of the early ones. -/
theorem not_failsEarly_of_writesAll {results : List Converted} {failure : Failure}
    (found : request.programOn fs = .ok program) (converted : program.facadesOn fs = .ok results)
    (wrote : WritesAll (request.redirect results) fs (some failure) after) :
    ¬request.FailsEarly fs failure := by
  obtain ⟨path, rfl⟩ := wrote.failure
  rintro (_ | _ | _ | _ | ⟨asked, unread⟩ | ⟨same, asked, unread⟩)
  · exact readText_project found asked unread
  · obtain rfl := Except.ok.inj (found.symm.trans same)
    obtain ⟨text, -, there, -⟩ := Program.documents_of_facadesOn converted path asked
    rw [unread] at there
    cases there

end Request

/-- **A run writes nothing unless it has read and parsed everything.** An accepted command line that
fails for want of input, through its options, its project file or a document, or because one of
these cannot be read, leaves the file system as it was and has printed at most the list of
documents; a run that prints its facades leaves the file system as it was, too. A run that fails
otherwise, or that changes the file system, has read and parsed all documents. -/
theorem run_all_or_nothing {arguments : List String} {request : Request} {fs after : FileSystem}
    {outcome : Outcome} (accepted : Reading.ofArguments arguments = .run request)
    (ran : (run arguments : StateM FileSystem _).run fs = (outcome, after)) :
    (∀ failure, outcome.failure = some failure → request.FailsEarly fs failure →
      after = fs ∧ outcome.exit = 1 ∧ outcome.output = request.announcement fs) ∧
    (outcome.failure = none → request.stdout = true → after = fs) ∧
    (∀ failure, outcome.failure = some failure →
      request.FailsEarly fs failure ∨ request.ComesToWriting fs) ∧
    (after ≠ fs → request.ComesToWriting fs) := by
  rw [run, accepted] at ran
  cases Request.ends_of_run ran with
  | withoutProgram missing =>
    have silent : request.announcement fs = "" := by rw [Request.announcement, missing]
    refine ⟨fun _ _ _ => ⟨rfl, rfl, silent.symm⟩, fun _ _ => rfl, ?_,
      fun changed => absurd rfl changed⟩
    rintro _ ⟨⟩
    exact .inl (Request.failsEarly_of_programOn missing)
  | objected found objection =>
    have silent := Request.announcement_of_objection found objection
    refine ⟨fun _ _ _ => ⟨rfl, rfl, silent.symm⟩, fun _ _ => rfl, ?_,
      fun changed => absurd rfl changed⟩
    rintro _ ⟨⟩
    exact .inl (Request.failsEarly_of_objection objection)
  | unconverted found fitting failed =>
    have listed := Request.announcement_of_fitting found fitting
    refine ⟨fun _ _ _ => ⟨rfl, rfl, listed.symm⟩, fun _ _ => rfl, ?_,
      fun changed => absurd rfl changed⟩
    rintro _ ⟨⟩
    exact .inl (Request.failsEarly_of_facadesOn found failed)
  -- A run that prints has no failure, so only the file system is left to look at.
  | printed =>
    exact ⟨fun _ failed _ => (nomatch failed), fun _ _ => rfl, fun _ failed => (nomatch failed),
      fun changed => absurd rfl changed⟩
  | @written program results stopped after found fitting converted stdout wrote =>
    have comes : request.ComesToWriting fs :=
      ⟨stdout, program, found, Program.documents_of_facadesOn converted⟩
    refine ⟨fun failure failed early => ?_, fun _ print => ?_, fun _ _ => .inr comes, fun _ => comes⟩
    · obtain rfl : stopped = some failure := failed
      have all := writesAll_of_writeOutputs wrote
      exact absurd early (Request.not_failsEarly_of_writesAll found converted all)
    · rw [stdout] at print
      cases print

/-- A directory with one of two documents in it. -/
def halfThere : FileSystem where
  entries := [(⟨"/w/a.json"⟩, .file "[]"), (⟨"/w"⟩, .directory)]
  workingDirectory := ⟨"/w"⟩

theorem run_all_or_nothing_halfThere :
    ∃ outcome after,
      (run ["a.json", "b.json", "--list-files"] : StateM FileSystem _).run halfThere =
        (outcome, after) ∧
      outcome.failure = some (.io ⟨"b.json"⟩) ∧ after = halfThere ∧ outcome.exit = 1 ∧
        outcome.output = "a.json\nb.json\n" := by
  have accepted : Reading.ofArguments ["a.json", "b.json", "--list-files"] =
    .run { files := [⟨"a.json"⟩, ⟨"b.json"⟩], listFiles := true } := by decide
  have ran : (run ["a.json", "b.json", "--list-files"] : StateM FileSystem _).run halfThere =
    (⟨1, "a.json\nb.json\n", some (.io ⟨"b.json"⟩)⟩, halfThere) := rfl
  have missing : halfThere.readText ⟨"b.json"⟩ = none := by decide
  refine ⟨_, _, ran, rfl, ?_⟩
  exact (run_all_or_nothing accepted ran).1 _ rfl
    (.document rfl (List.mem_cons_of_mem _ List.mem_cons_self) missing)

end ScalaFacade.Command
