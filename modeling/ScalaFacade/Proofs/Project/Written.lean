import ScalaFacade.Proofs.Project.Writing

/-! # What has been written when writing ends

Facades are written one after the other until one cannot be written. Facades may share a file, also
under different paths, and the directory of one may run through the file of another. However that
is, `Written` says all there is to say about the files afterwards:

* a file to which facades went holds the text of the last of them;
* every other file is what it was.

If all goes well, this holds for all facades. If the run stops at one of them, it holds for those
before it, and the failure names the path of that one or the directory it is in
(`writeOutputs_outcome`). What a failing attempt leaves behind are directories at most, and
`Written` does not notice these (`Written.extended`).

"The last of them" is stated by a split of the list: a facade, and behind it none that goes to the
same location. Locations are those of the file system at the end. That is no loss, since a path that
led to a place on the way still leads there.
-/

set_option autoImplicit false

namespace ScalaFacade

/-! ## The last facade at a place

The content of a location is a fold over the facades. Here it is read off: the last facade that goes
there decides, and if none does nothing changes. -/

section Content

variable {place : Path → Option Location} {location : Location}

theorem contentAfter_of_forall_ne {results : List Converted} (before : Option String)
    (elsewhere : ∀ result ∈ results, place result.output ≠ some location) :
    contentAfter place results location before = before := by
  induction results with
  | nil => rfl
  | cons result results ih =>
    rw [List.forall_mem_cons] at elsewhere
    rw [contentAfter, List.foldl_cons, if_neg elsewhere.1]
    exact ih elsewhere.2

/-- A facade that goes to a location and is followed by none that does leaves its text there. -/
theorem contentAfter_append_cons {earlier later : List Converted} {result : Converted}
    (before : Option String) (here : place result.output = some location)
    (elsewhere : ∀ other ∈ later, place other.output ≠ some location) :
    contentAfter place (earlier ++ result :: later) location before = some result.text := by
  rw [contentAfter, List.foldl_append, List.foldl_cons, if_pos here]
  exact contentAfter_of_forall_ne _ elsewhere

end Content

/-! ## Facades that have been written

The three fields answer three questions: where the facades are, what their files hold, and what the
other files hold. -/

/-- The facades are in their files, each file has the text of the last one that went there, and no
other file has changed. -/
structure Written (fs : FileSystem) (results : List Converted) (after : FileSystem) : Prop where
  placed : ∀ result ∈ results, ∃ location, after.locate result.output = some location
  last : ∀ earlier result later location, results = earlier ++ result :: later →
    after.locate result.output = some location →
    (∀ other ∈ later, after.locate other.output ≠ some location) →
    after.fileAt location = some result.text
  others : ∀ location, (∀ result ∈ results, after.locate result.output ≠ some location) →
    after.fileAt location = fs.fileAt location

/-- A run of the loop that ends well has written all facades. -/
theorem WritesAll.written {results : List Converted} {fs after : FileSystem}
    (h : WritesAll results fs none after) : Written fs results after := by
  obtain ⟨-, placed, content⟩ := h.content
  refine ⟨?_, ?_, ?_⟩
  · intro result member
    exact Option.isSome_iff_exists.1 (placed result member)
  · intro earlier result later location split here elsewhere
    rw [content, split, contentAfter_append_cons _ here elsewhere]
  · intro location elsewhere
    rw [content, contentAfter_of_forall_ne _ elsewhere]

/-- Directories that are made later do not matter. -/
theorem Written.extended {results : List Converted} {fs middle after : FileSystem}
    (h : Written fs results middle) (more : middle.Extends after) : Written fs results after := by
  -- A path that has led to a file still leads there, so it leads to no other.
  have stays : ∀ result ∈ results, after.locate result.output = middle.locate result.output := by
    intro result member
    obtain ⟨location, found⟩ := h.placed result member
    rw [found, more.keeps.locate found]
  refine ⟨?_, ?_, ?_⟩
  · intro result member
    rw [stays result member]
    exact h.placed result member
  · intro earlier result later location split here elsewhere
    have among : result ∈ results := by simp [split]
    rw [more.fileAt]
    rw [stays result among] at here
    refine h.last earlier result later location split here fun other member => ?_
    rw [← stays other (by simp [split, member])]
    exact elsewhere other member
  · intro location elsewhere
    rw [more.fileAt]
    refine h.others location fun result member => ?_
    rw [← stays result member]
    exact elsewhere result member

/-! ## Where a run stops

A run that fails is a run without failure over the facades before, and one failed attempt. -/

/-- A facade that cannot be written leaves directories at most, and the failure is about its path or
the directory it is in. -/
theorem Converted.Writes.of_failure {result : Converted} {fs after : FileSystem} {reason : Failure}
    (h : result.Writes fs (some reason) after) :
    fs.Extends after ∧
      ∃ path, reason = .io path ∧ (path = result.output ∨ result.output.parent? = some path) := by
  cases h with
  | @noRoom parent after above stuck =>
    have extended := fs.extends_makeDirectories parent
    rw [stuck] at extended
    exact ⟨extended, parent, rfl, Or.inr above⟩
  | refused room _ => exact ⟨room.extends, result.output, rfl, Or.inl rfl⟩

section Run

variable {result : Converted} {results : List Converted} {fs middle after : FileSystem}
  {reason : Failure}

theorem run_writeOutputs_cons_none
    (wrote : (result.write : StateM FileSystem _).run fs = (none, middle)) :
    (writeOutputs (result :: results) : StateM FileSystem _).run fs =
      (writeOutputs results : StateM FileSystem _).run middle := by
  rw [writeOutputs, StateT.run_bind, wrote]
  rfl

theorem run_writeOutputs_cons_some
    (wrote : (result.write : StateM FileSystem _).run fs = (some reason, middle)) :
    (writeOutputs (result :: results) : StateM FileSystem _).run fs = (some reason, middle) := by
  rw [writeOutputs, StateT.run_bind, wrote]
  rfl

/-- A run that fails has written some facades and stops at the next one. -/
theorem writeOutputs_stopped
    (ran : (writeOutputs results : StateM FileSystem _).run fs = (some reason, after)) :
    ∃ done result rest middle, results = done ++ result :: rest ∧
      (writeOutputs done : StateM FileSystem _).run fs = (none, middle) ∧
      (result.write : StateM FileSystem _).run middle = (some reason, after) := by
  induction results generalizing fs with
  | nil => cases ran
  | cons result results ih =>
    cases wrote : (result.write : StateM FileSystem _).run fs with
    | mk stopped middle =>
      cases stopped with
      | some failure =>
        rw [run_writeOutputs_cons_some wrote] at ran
        cases ran
        exact ⟨[], result, results, fs, rfl, rfl, wrote⟩
      | none =>
        rw [run_writeOutputs_cons_none wrote] at ran
        obtain ⟨done, last, rest, stop, rfl, before, here⟩ := ih ran
        refine ⟨result :: done, last, rest, stop, rfl, ?_, here⟩
        rw [run_writeOutputs_cons_none wrote, before]

end Run

/-- **How writing ends.** If there is no failure, all facades have been written. If there is one, it
comes from the first facade that could not be written: those before it have been written, no other
file has changed, and the failure names the path of that facade or the directory it is in. -/
theorem writeOutputs_outcome {results : List Converted} {fs after : FileSystem}
    {failure : Option Failure}
    (ran : (writeOutputs results : StateM FileSystem _).run fs = (failure, after)) :
    (failure = none → Written fs results after) ∧
      ∀ reason, failure = some reason →
        ∃ done result rest middle, results = done ++ result :: rest ∧
          (writeOutputs done : StateM FileSystem _).run fs = (none, middle) ∧
          (result.write : StateM FileSystem _).run middle = (some reason, after) ∧
          Written fs done after ∧
          ∃ path, reason = .io path ∧
            (path = result.output ∨ result.output.parent? = some path) := by
  constructor
  · rintro rfl
    exact (writesAll_of_writeOutputs ran).written
  · rintro reason rfl
    obtain ⟨done, result, rest, middle, split, before, here⟩ := writeOutputs_stopped ran
    obtain ⟨more, named⟩ := (Converted.writes_of_write here).of_failure
    have written := (writesAll_of_writeOutputs before).written
    exact ⟨done, result, rest, middle, split, before, here, written.extended more, named⟩

/-- Two facades that go to the file `a.scala` under different paths, one whose directory would be
that file, and another one. -/
def crossing : List Converted :=
  [⟨⟨"a.json"⟩, ⟨"a.scala"⟩, "first"⟩, ⟨⟨"b.json"⟩, ⟨"d/../a.scala"⟩, "second"⟩,
    ⟨⟨"c.json"⟩, ⟨"a.scala/c.scala"⟩, "third"⟩, ⟨⟨"d.json"⟩, ⟨"d.scala"⟩, "fourth"⟩]

/-- A directory with an older `a.scala`. -/
def shelf : FileSystem where
  entries := [(⟨"/w/a.scala"⟩, .file "old"), (⟨"/w/notes"⟩, .file "kept"), (⟨"/w"⟩, .directory)]
  workingDirectory := ⟨"/w"⟩

theorem writeOutputs_outcome_crossing :
    ∃ after, (writeOutputs crossing : StateM FileSystem _).run shelf =
        (some (.io ⟨"a.scala"⟩), after) ∧
      ∃ done result rest middle, crossing = done ++ result :: rest ∧
        (writeOutputs done : StateM FileSystem _).run shelf = (none, middle) ∧
        (result.write : StateM FileSystem _).run middle = (some (.io ⟨"a.scala"⟩), after) ∧
        Written shelf done after ∧
        ∃ path, Failure.io ⟨"a.scala"⟩ = .io path ∧
          (path = result.output ∨ result.output.parent? = some path) := by
  have stopped : ((writeOutputs crossing : StateM FileSystem _).run shelf).1 =
      some (.io ⟨"a.scala"⟩) := by
    decide +kernel
  cases ran : (writeOutputs crossing : StateM FileSystem _).run shelf with
  | mk failure after =>
    rw [ran] at stopped
    cases stopped
    exact ⟨after, rfl, (writeOutputs_outcome ran).2 _ rfl⟩

end ScalaFacade
