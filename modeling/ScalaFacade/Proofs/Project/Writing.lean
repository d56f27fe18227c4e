import ScalaFacade.Project.Program

/-! # What writing does to a file system

Writing a facade makes the directories above it and then puts one file in its place; no directory
ever goes away. So a path that leads somewhere leads there for the rest of the run, and after all
facades have been written every file holds the text of the last one that went there
(`WritesAll.content`).

`Converted.Writes` lists what can become of one facade, and `WritesAll` does so for the loop. They
are what the rest of the development knows about writing: a run is turned into one of them once
(`writesAll_of_writeOutputs`), and every fact about files is then an induction over it, without a
monad.

Two relations between file systems carry the facts:

* `Keeps`: the directories are still there. This is what lets a path lead to where it led before,
  and it holds of everything that a run does.
* `Extends`: on top of that, only directories are new. It holds of making directories, also of an
  attempt that fails on the way, and it keeps the content of all files.

Nothing is assumed about paths. Two facades may go to one file under different paths, so statements
about files are about locations and not about paths.
-/

set_option autoImplicit false

namespace ScalaFacade

namespace FileSystem

/-! ## Entries

Looking up behind `put`. The root is not an entry and always a directory, so it is a case of its own
throughout. -/

theorem lookup_filter_ne {location other : Location} (distinct : other ≠ location)
    (entries : List (Location × Entry)) :
    (entries.filter fun e => e.1 != location).lookup other = entries.lookup other := by
  induction entries with
  | nil => rfl
  | cons e entries ih =>
    obtain ⟨place, entry⟩ := e
    by_cases here : place = location
    · subst here
      have skipped : (other == place) = false := beq_eq_false_iff_ne.2 distinct
      simpa [List.lookup_cons, skipped] using ih
    · simp [List.lookup_cons, here, ih]

/-- An entry that was put is found, and others are as they were. -/
theorem entry?_put (fs : FileSystem) (location : Location) (entry : Entry) {other : Location}
    (below : other ≠ .root) :
    FileSystem.entry? (fs.put location entry) other =
      if other = location then some entry else fs.entry? other := by
  unfold entry? put
  rw [if_neg below, if_neg below, List.lookup_cons]
  by_cases here : other = location
  · simp [here]
  · have skipped : (other == location) = false := beq_eq_false_iff_ne.2 here
    simp [here, skipped, lookup_filter_ne here]

theorem entry?_root (fs : FileSystem) : fs.entry? .root = some .directory := if_pos rfl

theorem isDirectory_iff {fs : FileSystem} {location : Location} :
    fs.isDirectory location = true ↔ fs.entry? location = some .directory := by
  rw [isDirectory, beq_iff_eq]

/-- The text of the file at a location. -/
def fileAt (fs : FileSystem) (location : Location) : Option String :=
  match fs.entry? location with
  | some (.file text) => some text
  | _ => none

/-- Reading is looking up where the path leads. -/
theorem readText_eq_fileAt (fs : FileSystem) (path : Path) :
    fs.readText path = (fs.locate path).bind fs.fileAt := by
  unfold readText
  cases fs.locate path with
  | none => rfl
  | some location =>
    simp only [Option.bind_eq_bind, Option.bind_some]
    unfold fileAt
    cases fs.entry? location with
    | none => rfl
    | some entry => cases entry <;> rfl

/-! ## Directories that stay

A path is followed through directories, so it leads to the same place as long as they stay. -/

/-- All directories are still there, and paths start from the same place. -/
structure Keeps (fs after : FileSystem) : Prop where
  workingDirectory : after.workingDirectory = fs.workingDirectory
  directories : ∀ location, fs.isDirectory location = true → after.isDirectory location = true

theorem Keeps.refl (fs : FileSystem) : fs.Keeps fs := ⟨rfl, fun _ h => h⟩

theorem Keeps.trans {fs middle after : FileSystem} (first : fs.Keeps middle)
    (second : middle.Keeps after) : fs.Keeps after :=
  ⟨second.workingDirectory.trans first.workingDirectory,
    fun location h => second.directories location (first.directories location h)⟩

/-- A part of the path is followed only from a directory, and those are still there. What the parts
mean does not depend on the file system. -/
theorem Keeps.follow {fs after : FileSystem} (keeps : fs.Keeps after) {start location : Location}
    {parts : List String} (h : fs.follow start parts = some location) :
    after.follow start parts = some location := by
  induction parts generalizing start with
  | nil => exact h
  | cons part parts ih =>
    unfold FileSystem.follow at h ⊢
    split at h
    · next directory =>
      rw [if_pos (keeps.directories start directory)]
      repeat' split at h
      all_goals simp_all
    · cases h

/-- A path that leads somewhere leads there for good. -/
theorem Keeps.locate {fs after : FileSystem} (keeps : fs.Keeps after) {path : Path}
    {location : Location} (h : fs.locate path = some location) :
    after.locate path = some location := by
  unfold FileSystem.locate at h ⊢
  split at h
  · cases h
  · next admissible =>
    rw [if_neg admissible, startOf, keeps.workingDirectory]
    exact keeps.follow h

/-- Only directories are new. -/
structure Extends (fs after : FileSystem) : Prop where
  workingDirectory : after.workingDirectory = fs.workingDirectory
  entries : ∀ location, after.entry? location = fs.entry? location ∨
    fs.entry? location = none ∧ after.entry? location = some .directory

theorem Extends.refl (fs : FileSystem) : fs.Extends fs := ⟨rfl, fun _ => .inl rfl⟩

theorem Extends.trans {fs middle after : FileSystem} (first : fs.Extends middle)
    (second : middle.Extends after) : fs.Extends after := by
  refine ⟨second.workingDirectory.trans first.workingDirectory, fun location => ?_⟩
  rcases second.entries location with same | ⟨missing, made⟩
  · rw [same]
    exact first.entries location
  · rcases first.entries location with before | ⟨_, directory⟩
    · exact .inr ⟨before ▸ missing, made⟩
    · rw [directory] at missing
      cases missing

/-- What only gains directories keeps those it had. -/
theorem Extends.keeps {fs after : FileSystem} (h : fs.Extends after) : fs.Keeps after := by
  refine ⟨h.workingDirectory, fun location directory => ?_⟩
  rw [isDirectory_iff] at directory ⊢
  rcases h.entries location with same | ⟨missing, _⟩
  · rw [same, directory]
  · rw [directory] at missing
    cases missing

theorem Extends.fileAt {fs after : FileSystem} (h : fs.Extends after) (location : Location) :
    after.fileAt location = fs.fileAt location := by
  unfold FileSystem.fileAt
  rcases h.entries location with same | ⟨missing, made⟩
  · rw [same]
  · rw [missing, made]

theorem extends_put_directory {fs : FileSystem} {location : Location}
    (missing : fs.entry? location = none) : fs.Extends (fs.put location .directory) := by
  refine ⟨rfl, fun other => ?_⟩
  by_cases top : other = .root
  · exact .inl (by rw [top, entry?_root, entry?_root])
  · rw [entry?_put fs location _ top]
    by_cases here : other = location
    · exact .inr ⟨here ▸ missing, if_pos here⟩
    · exact .inl (if_neg here)

/-- Making directories along a path only adds directories, wherever it stops. The induction follows
the function; one case of seven puts anything. -/
theorem extends_makeAlong (fs : FileSystem) (location : Location) (parts : List String) :
    fs.Extends (fs.makeAlong location parts).1 := by
  fun_induction makeAlong fs location parts with
  | case1 fs location => exact .refl fs
  | case2 fs location part parts nothing ih => exact ih
  | case3 fs location parts _ ih => exact ih
  | case4 fs location part parts => exact .refl fs
  | case5 fs location part parts _ _ _ there ih => exact ih
  | case6 fs location part parts => exact .refl fs
  | case7 fs location part parts _ _ _ missing ih => exact (extends_put_directory missing).trans ih

theorem extends_makeDirectories (fs : FileSystem) (path : Path) :
    fs.Extends (fs.makeDirectories path).1 := by
  unfold makeDirectories
  split
  · exact extends_makeAlong fs _ _
  · exact .refl fs

/-- Writing a file puts it where its path leads, and nowhere else. -/
theorem of_writeText? {fs after : FileSystem} {path : Path} {text : String}
    (h : fs.writeText? path text = some after) :
    ∃ location, fs.locate path = some location ∧ fs.Keeps after ∧
      ∀ other, after.fileAt other = if other = location then some text else fs.fileAt other := by
  unfold writeText? at h
  cases found : fs.locate path with
  | none =>
    rw [found] at h
    cases h
  | some location =>
    rw [found] at h
    change (if fs.isDirectory location then none else some (fs.put location (.file text))) = _ at h
    split at h
    · cases h
    next free =>
      have below : location ≠ .root := by
        rintro rfl
        exact free (isDirectory_iff.2 (entry?_root fs))
      cases h
      refine ⟨location, rfl, ⟨rfl, fun other directory => ?_⟩, fun other => ?_⟩
      · by_cases top : other = .root
        · rw [top, isDirectory_iff, entry?_root]
        · have elsewhere : other ≠ location := by
            rintro rfl
            exact free directory
          rw [isDirectory_iff, entry?_put fs location _ top, if_neg elsewhere]
          exact isDirectory_iff.1 directory
      · by_cases top : other = .root
        · rw [if_neg (top ▸ below.symm), fileAt, fileAt, top, entry?_root, entry?_root]
        · rw [fileAt, entry?_put fs location _ top]
          by_cases here : other = location
          · rw [if_pos here, if_pos here]
          · rw [if_neg here, if_neg here, fileAt]

end FileSystem

/-! ## One facade

`Prepares` is making room for a file. A file directly in the working directory needs none. -/

/-- The directories above a path are made, as far as it has any. -/
inductive FileSystem.Prepares (fs : FileSystem) (path : Path) : FileSystem → Prop where
  | free (h : ∀ parent, path.parent? = some parent → parent.isEmpty = true) : Prepares fs path fs
  | made {parent : Path} {ready : FileSystem} (h : path.parent? = some parent)
      (made : fs.makeDirectories parent = (ready, true)) : Prepares fs path ready

theorem FileSystem.Prepares.extends {fs ready : FileSystem} {path : Path}
    (h : fs.Prepares path ready) : fs.Extends ready := by
  cases h with
  | free => exact .refl fs
  | @made parent ready _ made =>
    have extended := fs.extends_makeDirectories parent
    rwa [made] at extended

namespace Converted

/-- What becomes of a facade that is written. -/
inductive Writes (result : Converted) (fs : FileSystem) : Option Failure → FileSystem → Prop where
  /-- The directory that it goes into cannot be made. -/
  | noRoom {parent : Path} {after : FileSystem} (above : result.output.parent? = some parent)
      (stuck : fs.makeDirectories parent = (after, false)) :
      Writes result fs (some (.io parent)) after
  /-- The directory is there, but the file cannot be written. -/
  | refused {ready : FileSystem} (room : fs.Prepares result.output ready)
      (refused : ready.writeText? result.output result.text = none) :
      Writes result fs (some (.io result.output)) ready
  | done {ready after : FileSystem} (room : fs.Prepares result.output ready)
      (wrote : ready.writeText? result.output result.text = some after) :
      Writes result fs none after

/-- Making room either works or names the directory that cannot be made. -/
theorem makeDirectoryOf_cases {path : Path} {fs after : FileSystem} {failure : Option Failure}
    (h : (makeDirectoryOf path : StateM FileSystem _).run fs = (failure, after)) :
    failure = none ∧ fs.Prepares path after ∨
      ∃ parent, path.parent? = some parent ∧ failure = some (.io parent) ∧
        fs.makeDirectories parent = (after, false) := by
  unfold makeDirectoryOf at h
  cases above : path.parent? with
  | none =>
    rw [above] at h
    cases h
    exact .inl ⟨rfl, .free (by simp [above])⟩
  | some parent =>
    rw [above] at h
    cases empty : parent.isEmpty with
    | true =>
      simp only [empty] at h
      cases h
      exact .inl ⟨rfl, .free (by simp [above, empty])⟩
    | false =>
      simp only [empty] at h
      change (if (fs.makeDirectories parent).2 then _ else _ : StateM FileSystem _).run
        (fs.makeDirectories parent).1 = _ at h
      cases made : fs.makeDirectories parent with
      | mk ready done =>
        rw [made] at h
        cases done with
        | true =>
          cases h
          exact .inl ⟨rfl, .made above made⟩
        | false =>
          cases h
          exact .inr ⟨parent, rfl, rfl, made⟩

theorem FileSystem.run_writeText_none {fs : FileSystem} {path : Path} {text : String}
    (h : fs.writeText? path text = none) :
    (Disk.writeText path text : StateM FileSystem _).run fs = (false, fs) := by
  simp only [Disk.writeText, bind_pure_comp, StateT.run_bind, StateT.run_get, pure_bind, h]
  rfl

theorem FileSystem.run_writeText_some {fs after : FileSystem} {path : Path} {text : String}
    (h : fs.writeText? path text = some after) :
    (Disk.writeText path text : StateM FileSystem _).run fs = (true, after) := by
  simp only [Disk.writeText, bind_pure_comp, StateT.run_bind, StateT.run_get, pure_bind, h]
  rfl

/-- **One facade, as a relation.** Every way a write can go is one of the three that `Writes`
lists. -/
theorem writes_of_write {result : Converted} {fs after : FileSystem} {failure : Option Failure}
    (h : (result.write : StateM FileSystem _).run fs = (failure, after)) :
    result.Writes fs failure after := by
  rw [write, StateT.run_bind] at h
  cases prepared : (makeDirectoryOf result.output : StateM FileSystem _).run fs with
  | mk stuck ready =>
    rw [prepared] at h
    rcases makeDirectoryOf_cases prepared with ⟨rfl, room⟩ | ⟨parent, above, rfl, stuck⟩
    · change (Disk.writeText result.output result.text >>= _ : StateM FileSystem _).run ready = _ at h
      rw [StateT.run_bind] at h
      cases wrote : ready.writeText? result.output result.text with
      | none =>
        rw [FileSystem.run_writeText_none wrote] at h
        cases h
        exact .refused room wrote
      | some done =>
        rw [FileSystem.run_writeText_some wrote] at h
        cases h
        exact .done room wrote
    · cases h
      exact .noRoom above stuck

/-- A facade that is written is found at its place, and no other file has changed. -/
theorem Writes.content {result : Converted} {fs after : FileSystem}
    (h : result.Writes fs none after) :
    ∃ location, after.locate result.output = some location ∧ fs.Keeps after ∧
      ∀ other, after.fileAt other = if other = location then some result.text else fs.fileAt other := by
  cases h with
  | done room wrote =>
    obtain ⟨location, found, keeps, files⟩ := FileSystem.of_writeText? wrote
    refine ⟨location, keeps.locate found, room.extends.keeps.trans keeps, fun other => ?_⟩
    rw [files, room.extends.fileAt]

end Converted

/-! ## All facades

The loop stops at the first facade that cannot be written. -/

/-- What becomes of facades that are written one after the other. -/
inductive WritesAll : List Converted → FileSystem → Option Failure → FileSystem → Prop where
  | nil {fs : FileSystem} : WritesAll [] fs none fs
  | stop {result : Converted} {results : List Converted} {fs after : FileSystem} {failure : Failure}
      (here : result.Writes fs (some failure) after) :
      WritesAll (result :: results) fs (some failure) after
  | cons {result : Converted} {results : List Converted} {fs middle after : FileSystem}
      {failure : Option Failure} (here : result.Writes fs none middle)
      (rest : WritesAll results middle failure after) :
      WritesAll (result :: results) fs failure after

/-- A run of the loop is one of those that `WritesAll` describes. -/
theorem writesAll_of_writeOutputs {results : List Converted} {fs after : FileSystem}
    {failure : Option Failure}
    (h : (writeOutputs results : StateM FileSystem _).run fs = (failure, after)) :
    WritesAll results fs failure after := by
  induction results generalizing fs with
  | nil =>
    cases h
    exact .nil
  | cons result results ih =>
    rw [writeOutputs, StateT.run_bind] at h
    cases wrote : (result.write : StateM FileSystem _).run fs with
    | mk stopped middle =>
      have here := Converted.writes_of_write wrote
      rw [wrote] at h
      cases stopped with
      | none => exact .cons here (ih h)
      | some reason =>
        cases h
        exact .stop here

/-- All failures to write are about a path. -/
theorem WritesAll.failure {results : List Converted} {fs after : FileSystem} {failure : Failure}
    (h : WritesAll results fs (some failure) after) : ∃ path, failure = .io path := by
  generalize stated : some failure = stopped at h
  induction h with
  | nil => cases stated
  | stop here =>
    cases stated
    cases here with
    | noRoom => exact ⟨_, rfl⟩
    | refused => exact ⟨_, rfl⟩
  | cons here rest ih => exact ih stated

/-- What a location holds after the facades have gone to their places: the text of the last one that
went there, or what it held before. -/
def contentAfter (place : Path → Option Location) (results : List Converted) (location : Location)
    (before : Option String) : Option String :=
  results.foldl (fun content result =>
    if place result.output = some location then some result.text else content) before

/-- **The last facade wins.** Every facade that has been written has a place, and every file holds the
text of the last facade that went there. -/
theorem WritesAll.content {results : List Converted} {fs after : FileSystem}
    (h : WritesAll results fs none after) :
    fs.Keeps after ∧ (∀ result ∈ results, (after.locate result.output).isSome = true) ∧
      ∀ location, after.fileAt location =
        contentAfter after.locate results location (fs.fileAt location) := by
  generalize finished : (none : Option Failure) = failure at h
  induction h with
  | nil => exact ⟨.refl _, by simp, fun _ => rfl⟩
  | stop => cases finished
  | @cons result results fs middle after failure here rest ih =>
    subst finished
    obtain ⟨later, placed, files⟩ := ih rfl
    obtain ⟨location, found, keeps, content⟩ := here.content
    have there := later.locate found
    refine ⟨keeps.trans later, ?_, fun other => ?_⟩
    · rw [List.forall_mem_cons]
      exact ⟨by rw [there]; rfl, placed⟩
    · rw [files, content, contentAfter, contentAfter, List.foldl_cons, there]
      simp [eq_comm]

end ScalaFacade
