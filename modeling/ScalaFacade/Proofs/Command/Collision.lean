import ScalaFacade.Proofs.Command.Endings
import ScalaFacade.Proofs.Project.Writing

/-! # Facades that meet in one file

The name of a facade is made from the name of its document, and several documents can lead to the
same name; also, one document can have the name that the facade of another gets. A run does not look
for this: the facade that is written last is the one that is found afterwards, and the run succeeds
(`run_loses_output`). Nothing is lost exactly if whatever meets in one file is the same text
(`run_keeps_all_iff`), in particular if nothing meets.

Meeting is a matter of locations, not of paths: two paths can lead to one file. Where the facades
went is asked of the file system after the run, since their directories may not have been there
before. Where the documents are is asked of the file system before it; they were read there, and are
there still.

The condition is about the texts that meet and not about their order. Which facade is the last
matters for what is found, but whether anything is lost does not depend on it.
-/

set_option autoImplicit false

namespace ScalaFacade

/-! ## The last facade at a place

What is found at a location comes from some facade that went there. Which one it is need not be
known here. -/

section Content

variable {place : Path → Option Location} {results : List Converted} {location : Location}

/-- What is found at a place is the text of a facade that went there, or what was there before. -/
theorem contentAfter_cases (before : Option String) :
    contentAfter place results location before = before ∨
      ∃ result ∈ results, place result.output = some location ∧
        contentAfter place results location before = some result.text := by
  induction results generalizing before with
  | nil => exact .inl rfl
  | cons result results ih =>
    rw [contentAfter, List.foldl_cons, ← contentAfter]
    by_cases here : place result.output = some location
    · rw [if_pos here]
      rcases ih (some result.text) with same | ⟨last, member, there, content⟩
      · exact .inr ⟨result, List.mem_cons_self, here, same⟩
      · exact .inr ⟨last, List.mem_cons_of_mem _ member, there, content⟩
    · rw [if_neg here]
      rcases ih before with same | ⟨last, member, there, content⟩
      · exact .inl same
      · exact .inr ⟨last, List.mem_cons_of_mem _ member, there, content⟩

/-- Once a facade has gone to a place, it is a facade that is found there. -/
theorem contentAfter_of_mem {result : Converted} (member : result ∈ results)
    (there : place result.output = some location) (before : Option String) :
    ∃ last ∈ results, place last.output = some location ∧
      contentAfter place results location before = some last.text := by
  obtain ⟨earlier, later, rfl⟩ := List.append_of_mem member
  have split : contentAfter place (earlier ++ result :: later) location before =
      contentAfter place later location (some result.text) := by
    rw [contentAfter, List.foldl_append, List.foldl_cons, if_pos there, contentAfter]
  rw [split]
  rcases contentAfter_cases (some result.text) with same | ⟨last, among, meets, content⟩
  · exact ⟨result, member, there, same⟩
  · refine ⟨last, ?_, meets, content⟩
    exact List.mem_append_right earlier (List.mem_cons_of_mem result among)

end Content

/-! ## What is found after a run

Kept on one side, agreeing on the other, for runs that have written everything. -/

/-- Every facade is found where it went, and every document has the content that it had. -/
structure KeptAll (fs after : FileSystem) (paths : List Path) (results : List Converted) : Prop where
  outputs : ∀ result ∈ results, after.readText result.output = some result.text
  inputs : ∀ path ∈ paths, after.readText path = fs.readText path

/-- Facades that meet in one file have the same text, and so do a facade and a document. -/
structure Agreeing (fs after : FileSystem) (paths : List Path) (results : List Converted) : Prop where
  outputs : ∀ result ∈ results, ∀ other ∈ results,
    after.locate result.output = after.locate other.output → result.text = other.text
  inputs : ∀ path ∈ paths, ∀ result ∈ results,
    after.locate result.output = fs.locate path → fs.readText path = some result.text

/-- **Nothing is lost exactly if what meets agrees.** If all is kept, two texts at one location are
what is found there, so they are the same. If all that meet agree, the last one has the text of
each. -/
theorem WritesAll.keptAll_iff {fs after : FileSystem} {paths : List Path} {results : List Converted}
    (wrote : WritesAll results fs none after)
    (readable : ∀ path ∈ paths, fs.readText path ≠ none) :
    KeptAll fs after paths results ↔ Agreeing fs after paths results := by
  obtain ⟨keeps, placed, content⟩ := wrote.content
  -- A document is still where it was, so both texts are those of one location.
  have stays : ∀ path ∈ paths, ∃ location, fs.locate path = some location ∧
      after.locate path = some location := by
    intro path member
    cases found : fs.locate path with
    | none =>
      refine absurd ?_ (readable path member)
      rw [fs.readText_eq_fileAt, found]
      rfl
    | some location => exact ⟨location, rfl, keeps.locate found⟩
  constructor
  · intro kept
    refine ⟨fun result member other among meets => ?_, fun path member result among meets => ?_⟩
    · have here := kept.outputs result member
      rw [after.readText_eq_fileAt, meets, ← after.readText_eq_fileAt, kept.outputs other among] at here
      exact (Option.some.inj here).symm
    · obtain ⟨location, before, found⟩ := stays path member
      rw [before, ← found] at meets
      rw [← kept.inputs path member, after.readText_eq_fileAt, ← meets, ← after.readText_eq_fileAt,
        kept.outputs result among]
  · intro agree
    refine ⟨fun result member => ?_, fun path member => ?_⟩
    · obtain ⟨location, found⟩ := Option.isSome_iff_exists.1 (placed result member)
      obtain ⟨last, among, there, text⟩ := contentAfter_of_mem member found (fs.fileAt location)
      have same := agree.outputs result member last among (found.trans there.symm)
      rw [after.readText_eq_fileAt, found, Option.bind_some, content, text, same]
    · obtain ⟨location, before, found⟩ := stays path member
      rw [after.readText_eq_fileAt, found, Option.bind_some, content]
      rcases contentAfter_cases (fs.fileAt location) with same | ⟨last, among, there, text⟩
      · rw [same, fs.readText_eq_fileAt, before, Option.bind_some]
      · rw [text, agree.inputs path member last among (there.trans before.symm)]

namespace Command

/-- **What is lost in a run.** After a run that has written its facades, every facade is found in its
file and every document is what it was, exactly if facades with different texts have different files
and no facade goes to the file of a document with another text. -/
theorem run_keeps_all_iff {arguments : List String} {request : Request} {fs after : FileSystem}
    {outcome : Outcome} (accepted : Reading.ofArguments arguments = .run request)
    (writing : request.stdout = false)
    (ran : (run arguments : StateM FileSystem _).run fs = (outcome, after))
    (success : outcome.failure = none) :
    ∃ program results, request.programOn fs = .ok program ∧
      List.Forall₂ (program.Makes fs) program.rootFiles results ∧
      (KeptAll fs after program.rootFiles (request.redirect results) ↔
        Agreeing fs after program.rootFiles (request.redirect results)) := by
  rw [run, accepted] at ran
  cases Request.ends_of_run ran with
  | withoutProgram => cases success
  | objected => cases success
  | unconverted => cases success
  | printed found fitting converted print =>
    rw [writing] at print
    cases print
  | @written program results stopped after found fitting converted stdout wrote =>
    obtain rfl : stopped = none := success
    refine ⟨program, results, found, Program.facadesOn_ok converted, ?_⟩
    refine (writesAll_of_writeOutputs wrote).keptAll_iff fun path member unread => ?_
    obtain ⟨text, -, there, -⟩ := Program.documents_of_facadesOn converted path member
    rw [unread] at there
    cases there

/-- Two documents of different content whose names differ only by an ending. -/
def sameStem : FileSystem where
  entries :=
    [(⟨"/w/a.d.ts.json"⟩, .file "[\x7b\"kind\":\"ClassDeclaration\",\"name\":\"A\"\x7d]"),
      (⟨"/w/a.json"⟩, .file "[]"), (⟨"/w"⟩, .directory)]
  workingDirectory := ⟨"/w"⟩

theorem run_keeps_all_iff_sameStem :
    ∃ request outcome after, Reading.ofArguments ["a.d.ts.json", "a.json"] = .run request ∧
      request.stdout = false ∧
      (run ["a.d.ts.json", "a.json"] : StateM FileSystem _).run sameStem = (outcome, after) ∧
      outcome.failure = none ∧
      ∃ program results, request.programOn sameStem = .ok program ∧
        List.Forall₂ (program.Makes sameStem) program.rootFiles results ∧
        (KeptAll sameStem after program.rootFiles (request.redirect results) ↔
          Agreeing sameStem after program.rootFiles (request.redirect results)) := by
  have accepted : Reading.ofArguments ["a.d.ts.json", "a.json"] =
    .run { files := [⟨"a.d.ts.json"⟩, ⟨"a.json"⟩] } := by decide
  have success :
      ((run ["a.d.ts.json", "a.json"] : StateM FileSystem _).run sameStem).1.failure = none := by
    decide +kernel
  cases ran : (run ["a.d.ts.json", "a.json"] : StateM FileSystem _).run sameStem with
  | mk outcome after =>
    rw [ran] at success
    exact ⟨_, outcome, after, accepted, rfl, rfl, success, run_keeps_all_iff accepted rfl ran success⟩

/-- **A run can lose a facade and succeed.** The facades of both documents go to `a.scala`, so that of
the first one is gone. -/
theorem run_loses_output :
    sameStem.locate ⟨"a.d.ts.json"⟩ ≠ sameStem.locate ⟨"a.json"⟩ ∧
    ((run ["a.d.ts.json", "a.json"] : StateM FileSystem _).run sameStem).1.exit = 0 ∧
    ({} : Program).outputPath ⟨"a.d.ts.json"⟩ = ⟨"a.scala"⟩ ∧
    ((run ["a.d.ts.json", "a.json"] : StateM FileSystem _).run sameStem).2.readText ⟨"a.scala"⟩ ≠
      (({} : Program).convertDocument ⟨"a.d.ts.json"⟩
        ((sameStem.readText ⟨"a.d.ts.json"⟩).getD "")).toOption.map Converted.text := by
  decide +kernel

end Command

end ScalaFacade
