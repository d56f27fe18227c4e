import ScalaFacade.Project.FileSystem
import ScalaFacade.Proofs.Text.Segments

/-! # Paths as lists of components

A path is a text, and one place can be written in many ways: `a/b`, `a//b/` and `a/./b` have the
same components. What matters of a path is where it starts and this list (`Path.Same`):

* the name of a file is the last component, unless that is a dot or two dots
  (`Path.fileName?_eq_some_iff`);
* the parent of a path has all components but the last (`Path.exists_parent`);
* a proper name that is put behind a path is one more component (`Path.same_join`).

A path with a file name leads to a place of that name in some directory (`FileSystem.locate_child`),
whatever stands before it and however many slashes and dots come after it.

The operations on paths work on parts, which is what stands between slashes, and keep the rest of
the text as it is written. The step from parts to components is `LastComponent`: the parts before
the last component, and what the operations see there. It is found by one induction
(`lastComponent_or_idle`), and the facts above are read off it.

A dot at the very start of a relative path is a component, any other is not. That is the reason for
the argument `first` everywhere below. Two dots are a component and are not resolved: without a file
system it is not known where they lead.
-/

set_option autoImplicit false

namespace ScalaFacade

namespace Path

/-! ## Components

Empty parts and dots are passed over, except for the dot at the start. -/

/-- The components among the parts of a path; `first` says that a dot still is one. -/
def componentsOf (first : Bool) : List String → List String
  | [] => []
  | part :: parts =>
    if part = "" ∨ (part = "." ∧ !first) then componentsOf false parts
    else part :: componentsOf false parts

/-- The components of a path. -/
def components (path : Path) : List String := componentsOf (!path.isAbsolute) path.parts

/-- Two ways to write one path. -/
structure Same (path other : Path) : Prop where
  isAbsolute : path.isAbsolute = other.isAbsolute
  components : path.components = other.components

/-- A text that can be the name of something in a directory. -/
structure IsName (name : String) : Prop where
  nonempty : name ≠ ""
  solid : '/' ∉ name.toList
  notDot : name ≠ "."
  notDots : name ≠ ".."

/-- A proper name behind parts is one more component, also where nothing stands before it. -/
theorem componentsOf_concat {name : String} (some : name ≠ "") (notDot : name ≠ ".") (first : Bool)
    (parts : List String) :
    componentsOf first (parts ++ [name]) = componentsOf first parts ++ [name] := by
  induction parts generalizing first with
  | nil => simp [componentsOf, some, notDot]
  | cons part parts ih =>
    rw [List.cons_append, componentsOf, componentsOf, ih]
    split <;> rfl

theorem componentsOf_concat_empty (first : Bool) (parts : List String) :
    componentsOf first (parts ++ [""]) = componentsOf first parts := by
  induction parts generalizing first with
  | nil => rfl
  | cons part parts ih =>
    rw [List.cons_append, componentsOf, componentsOf, ih]

/-- The last component is `name`, and `front` are the parts before it. -/
structure LastComponent (first : Bool) (parts front : List String) (name : String) : Prop where
  split : ∃ back, parts = front ++ name :: back ∧ ∀ part ∈ back, part = "" ∨ part = "."
  nonempty : name ≠ ""
  components : componentsOf first parts = componentsOf first front ++ [name]
  upTo : componentsOf first (front ++ [name]) = componentsOf first front ++ [name]
  stops : ∀ taken, stops first taken parts =
    stops first taken front ++ [taken.reverse ++ (front ++ [name])]

/-- There is a last component, or the parts mean nothing at all. -/
theorem lastComponent_or_idle (first : Bool) (parts : List String) :
    (∃ front name, LastComponent first parts front name) ∨
      (∀ part ∈ parts, part = "" ∨ part = ".") ∧ componentsOf first parts = [] ∧
        ∀ taken, stops first taken parts = [] := by
  induction parts generalizing first with
  | nil => exact .inr ⟨by simp, rfl, fun _ => rfl⟩
  | cons part parts ih =>
    by_cases idle : part = "" ∨ (part = "." ∧ (!first) = true)
    · rcases ih false with ⟨front, name, last⟩ | ⟨nothing, none, never⟩
      · obtain ⟨back, rfl, rest⟩ := last.split
        refine .inl ⟨part :: front, name, ⟨back, rfl, rest⟩, last.nonempty, ?_, ?_, fun taken => ?_⟩
        · simpa only [componentsOf, if_pos idle] using last.components
        · simpa only [componentsOf, List.cons_append, if_pos idle] using last.upTo
        · simp only [Path.stops, if_pos idle, last.stops]
          simp
      · refine .inr ⟨?_, ?_, fun taken => ?_⟩
        · rw [List.forall_mem_cons]
          exact ⟨idle.imp_right And.left, nothing⟩
        · simpa only [componentsOf, if_pos idle] using none
        · simpa only [Path.stops, if_pos idle] using never (part :: taken)
    · rcases ih false with ⟨front, name, last⟩ | ⟨nothing, none, never⟩
      · obtain ⟨back, rfl, rest⟩ := last.split
        refine .inl ⟨part :: front, name, ⟨back, rfl, rest⟩, last.nonempty, ?_, ?_, fun taken => ?_⟩
        · simp only [componentsOf, if_neg idle, last.components, List.cons_append]
        · simp only [componentsOf, List.cons_append, if_neg idle, last.upTo]
        · simp only [Path.stops, if_neg idle, last.stops]
          simp
      · refine .inl ⟨[], part, ⟨parts, rfl, nothing⟩, fun empty => idle (.inl empty), ?_, ?_,
          fun taken => ?_⟩
        · simp only [componentsOf, if_neg idle, none, List.nil_append]
        · simp only [componentsOf, List.nil_append, if_neg idle]
        · simp only [Path.stops, if_neg idle, never]
          simp

/-! ## Parts of a text

Parts have no slashes in them, so joining and cutting undo each other. -/

theorem solid_of_mem_parts {path : Path} {part : String} (h : part ∈ path.parts) :
    '/' ∉ part.toList :=
  Text.notMem_of_mem_split h

theorem parts_ofParts {parts : List String} (some : parts ≠ [])
    (each : ∀ part ∈ parts, '/' ∉ part.toList) : (ofParts parts).parts = parts :=
  Text.split_intercalate some each

/-- A path starts at the root if nothing stands before its first slash. -/
theorem isAbsolute_iff {path : Path} :
    path.isAbsolute = true ↔ ∃ next rest, path.parts = "" :: next :: rest := by
  unfold isAbsolute parts Text.split
  cases path.text.toList with
  | nil => simp [Text.segments]
  | cons c cs =>
    cases found : Text.segments '/' cs with
    | nil => exact absurd found (Text.segments_ne_nil _ _)
    | cons first others =>
      by_cases slash : c = '/'
      · simp [Text.segments, slash, found]
      · simp [Text.segments, slash, found]

section UpTo

variable {path : Path} {front back : List String} {name : String}

theorem parts_upTo (split : path.parts = front ++ name :: back) :
    (ofParts (front ++ [name])).parts = front ++ [name] := by
  refine parts_ofParts (by simp) fun part member => ?_
  have inside : part ∈ path.parts := by
    rw [split]
    simp only [List.mem_append, List.mem_cons, List.not_mem_nil, or_false] at member ⊢
    exact member.imp_right .inl
  exact solid_of_mem_parts inside

/-- The path up to a component starts where the whole path does. -/
theorem isAbsolute_upTo (split : path.parts = front ++ name :: back) (some : name ≠ "") :
    (ofParts (front ++ [name])).isAbsolute = path.isAbsolute := by
  rw [Bool.eq_iff_iff, isAbsolute_iff, isAbsolute_iff, parts_upTo split, split]
  cases front with
  | nil => simp [some]
  | cons part front => cases front <;> simp

end UpTo

/-! ## File names and parents

Both look at the last component: one takes it, the other leaves it off. -/

section Last

variable {path : Path} {front : List String} {name : String}

/-- The last component as it is found among the parts. -/
theorem exists_lastComponent (h : path.components = front ++ [name]) :
    ∃ above, LastComponent (!path.isAbsolute) path.parts above name ∧
      componentsOf (!path.isAbsolute) above = front := by
  rcases lastComponent_or_idle (!path.isAbsolute) path.parts with
    ⟨above, last, found⟩ | ⟨-, none, -⟩
  · rw [components, found.components] at h
    obtain ⟨same, names⟩ := List.append_inj' h rfl
    obtain rfl := List.singleton_inj.1 names
    exact ⟨above, found, same⟩
  · rw [components, none] at h
    exact absurd h (by simp)

theorem ancestors_of_last (last : LastComponent (!path.isAbsolute) path.parts front name) :
    path.ancestors =
      (stops (!path.isAbsolute) [] front).map ofParts ++ [ofParts (front ++ [name])] := by
  rw [ancestors, last.stops []]
  simp

/-- A path with components has its last one for a name, unless that is a dot or two. -/
theorem fileName?_of_components (h : path.components = front ++ [name]) :
    path.fileName? = if name = "." ∨ name = ".." then none else some name := by
  obtain ⟨above, last, -⟩ := exists_lastComponent h
  obtain ⟨back, split, -⟩ := last.split
  rw [fileName?, ancestors_of_last last, List.getLast?_concat]
  dsimp only
  rw [parts_upTo split, List.getLast?_concat]

theorem fileName?_of_components_nil (h : path.components = []) : path.fileName? = none := by
  rcases lastComponent_or_idle (!path.isAbsolute) path.parts with
    ⟨above, last, found⟩ | ⟨-, -, never⟩
  · rw [components, found.components] at h
    exact absurd h (by simp)
  · rw [fileName?, ancestors, never]
    rfl

/-- The name of a file is its last component, if that is a proper name. -/
theorem fileName?_eq_some_iff :
    path.fileName? = some name ↔
      (∃ front, path.components = front ++ [name]) ∧ name ≠ "." ∧ name ≠ ".." := by
  constructor
  · intro named
    rcases List.eq_nil_or_concat path.components with none | ⟨front, last, split⟩
    · rw [fileName?_of_components_nil none] at named
      cases named
    · rw [List.concat_eq_append] at split
      rw [fileName?_of_components split] at named
      split at named
      · cases named
      · next proper =>
        obtain rfl := Option.some_inj.1 named
        exact ⟨⟨front, split⟩, not_or.1 proper⟩
  · rintro ⟨⟨front, split⟩, proper⟩
    rw [fileName?_of_components split, if_neg (not_or.2 proper)]

/-- The part with the name of a file is a proper name, and what comes after it means nothing. -/
theorem exists_parts_of_fileName? (h : path.fileName? = some name) :
    IsName name ∧ ∃ front back, path.parts = front ++ name :: back ∧
      ∀ part ∈ back, part = "" ∨ part = "." := by
  obtain ⟨⟨above, components⟩, notDot, notDots⟩ := fileName?_eq_some_iff.1 h
  obtain ⟨front, last, -⟩ := exists_lastComponent components
  obtain ⟨back, split, idle⟩ := last.split
  have inside : name ∈ path.parts := by simp [split]
  exact ⟨⟨last.nonempty, solid_of_mem_parts inside, notDot, notDots⟩, front, back, split, idle⟩

/-- The parent of a path has all components but the last. -/
theorem exists_parent (h : path.components = front ++ [name]) :
    ∃ parent, path.parent? = some parent ∧ parent.isAbsolute = path.isAbsolute ∧
      parent.components = front := by
  obtain ⟨above, last, rfl⟩ := exists_lastComponent h
  obtain ⟨back, split, -⟩ := last.split
  have backwards : path.ancestors.reverse = ofParts (above ++ [name]) ::
      ((stops (!path.isAbsolute) [] above).map ofParts).reverse := by
    rw [ancestors_of_last last, List.reverse_append, List.reverse_singleton, List.singleton_append]
  -- The parent is the path up to the last component above, or the start if there is none.
  rcases lastComponent_or_idle (!path.isAbsolute) above with
    ⟨higher, next, outer⟩ | ⟨-, none, never⟩
  · obtain ⟨between, cut, -⟩ := outer.split
    have whole : path.parts = higher ++ next :: (between ++ name :: back) := by
      rw [split, cut, List.append_assoc, List.cons_append]
    refine ⟨ofParts (higher ++ [next]), ?_, isAbsolute_upTo whole outer.nonempty, ?_⟩
    · rw [parent?, backwards, outer.stops]
      simp
    · rw [components, isAbsolute_upTo whole outer.nonempty, parts_upTo whole, outer.upTo,
        outer.components]
  · rw [never, List.map_nil, List.reverse_nil] at backwards
    rw [parent?, backwards, none]
    cases path.isAbsolute with
    | true => exact ⟨⟨"/"⟩, rfl, rfl, rfl⟩
    | false => exact ⟨⟨""⟩, rfl, rfl, rfl⟩

end Last

/-! ## Names behind a path

Joining puts a slash between two texts if there is none. With a proper name behind, that is all
there is to see. -/

theorem isAbsolute_name {name : String} (solid : '/' ∉ name.toList) :
    (⟨name⟩ : Path).isAbsolute = false := by
  unfold isAbsolute
  cases chars : name.toList with
  | nil => rfl
  | cons c cs =>
    refine beq_eq_false_iff_ne.2 ?_
    rintro rfl
    exact solid (by simp [chars])

/-- A text that starts a path: nothing, or something that ends with a slash. -/
def IsLead (text : String) : Prop := text = "" ∨ ∃ above, text = above ++ "/"

/-- A text that starts a path has the same parts in front whether a name follows or nothing. -/
theorem exists_parts_lead {lead : String} (h : IsLead lead) :
    ∃ front, (⟨lead⟩ : Path).parts = front ++ [""] ∧
      ∀ name : String, '/' ∉ name.toList → (⟨lead ++ name⟩ : Path).parts = front ++ [name] := by
  rcases h with rfl | ⟨above, rfl⟩
  · refine ⟨[], rfl, fun name solid => ?_⟩
    rw [String.empty_append]
    exact Text.split_of_notMem solid
  · refine ⟨Text.split '/' above, ?_, fun name solid => ?_⟩
    · have cut := Text.split_append_append '/' above ""
      rwa [String.append_empty] at cut
    · rw [← Text.split_of_notMem solid]
      exact Text.split_append_append '/' above name

/-- What starts a path decides where it starts, whatever name follows. -/
theorem same_lead_append {lead name : String} (h : IsLead lead) (proper : IsName name) :
    (⟨lead ++ name⟩ : Path).isAbsolute = (⟨lead⟩ : Path).isAbsolute ∧
      (⟨lead ++ name⟩ : Path).components = (⟨lead⟩ : Path).components ++ [name] := by
  obtain ⟨front, before, behind⟩ := exists_parts_lead h
  have start : (⟨lead ++ name⟩ : Path).isAbsolute = (⟨lead⟩ : Path).isAbsolute := by
    rw [Bool.eq_iff_iff, isAbsolute_iff, isAbsolute_iff, before, behind name proper.solid]
    cases front with
    | nil => simp [proper.nonempty]
    | cons part front => cases front <;> simp
  refine ⟨start, ?_⟩
  rw [components, components, start, before, behind name proper.solid, componentsOf_concat_empty,
    componentsOf_concat proper.nonempty proper.notDot]

theorem fileName?_lead_append {lead name : String} (h : IsLead lead) (proper : IsName name) :
    (⟨lead ++ name⟩ : Path).fileName? = some name := by
  rw [fileName?_eq_some_iff, (same_lead_append h proper).2]
  exact ⟨⟨_, rfl⟩, proper.notDot, proper.notDots⟩

/-- A slash at the end of a path means nothing, except that it makes the empty path the root. -/
theorem same_append_slash {path : Path} (some : path.text ≠ "") :
    (⟨path.text ++ "/"⟩ : Path).Same path := by
  have cut : (⟨path.text ++ "/"⟩ : Path).parts = path.parts ++ [""] := by
    have cut := Text.split_append_append '/' path.text ""
    rwa [String.append_empty] at cut
  have start : (⟨path.text ++ "/"⟩ : Path).isAbsolute = path.isAbsolute := by
    rw [isAbsolute, isAbsolute, String.toList_append]
    cases chars : path.text.toList with
    | nil => exact absurd (String.toList_eq_nil_iff.1 chars) some
    | cons c cs => rfl
  refine ⟨start, ?_⟩
  rw [components, start, cut, componentsOf_concat_empty]
  rfl

/-- A proper name behind a path is one more component. -/
theorem same_join {path : Path} {name : String} (proper : IsName name) :
    (path.join ⟨name⟩).isAbsolute = path.isAbsolute ∧
      (path.join ⟨name⟩).components = path.components ++ [name] := by
  rw [join, isAbsolute_name proper.solid]
  simp only [Bool.false_eq_true, if_false]
  split
  · next ready =>
    have lead : IsLead path.text := by
      rcases ready with empty | slash
      · exact .inl (String.isEmpty_iff.1 empty)
      · obtain ⟨above, chars⟩ := List.getLast?_eq_some_iff.1 slash
        refine .inr ⟨String.ofList above, ?_⟩
        rw [← String.toList_inj, chars, String.toList_append, String.toList_ofList]
        rfl
    exact same_lead_append lead proper
  · next unready =>
    have some : path.text ≠ "" := fun empty => unready (.inl (by simp [isEmpty, empty]))
    have same := same_append_slash some
    have longer := same_lead_append (.inr ⟨path.text, rfl⟩) proper
    rwa [same.isAbsolute, same.components] at longer

end Path

/-! ## Places of files

A path is followed part by part; what stands behind the name leads nowhere else. -/

/-- A place knows its name: it is what stands behind the last slash. -/
theorem Location.name_eq_of_child_eq {above other : Location} {name name' : String}
    (solid : '/' ∉ name.toList) (solid' : '/' ∉ name'.toList)
    (same : above.child name = other.child name') : name = name' := by
  have texts : above.text ++ String.singleton '/' ++ name =
      other.text ++ String.singleton '/' ++ name' :=
    congrArg Location.text same
  have cut := congrArg (Text.split '/') texts
  rw [Text.split_append_append, Text.split_append_append, Text.split_of_notMem solid,
    Text.split_of_notMem solid'] at cut
  exact List.singleton_inj.1 (List.append_inj' cut rfl).2

namespace FileSystem

variable {fs : FileSystem}

/-- A path may be followed in two legs. -/
theorem follow_append (start : Location) (parts more : List String) :
    fs.follow start (parts ++ more) =
      (fs.follow start parts).bind fun place => fs.follow place more := by
  induction parts generalizing start with
  | nil => rfl
  | cons part parts ih =>
    rw [List.cons_append, follow, follow]
    split
    · split
      · exact ih start
      split
      · exact ih start.parent
      split
      · rfl
      · exact ih (start.child part)
    · rfl

/-- Parts that mean nothing lead nowhere else. They have to be followed all the same, from a
directory. -/
theorem follow_idle {start location : Location} {parts : List String}
    (idle : ∀ part ∈ parts, part = "" ∨ part = ".") (h : fs.follow start parts = some location) :
    location = start := by
  induction parts with
  | nil => exact (Option.some_inj.1 h).symm
  | cons part parts ih =>
    rw [List.forall_mem_cons] at idle
    rw [follow, if_pos idle.1] at h
    split at h
    · exact ih idle.2 h
    · cases h

theorem follow_name {start location : Location} {name : String} {parts : List String}
    (proper : Path.IsName name) (h : fs.follow start (name :: parts) = some location) :
    fs.follow (start.child name) parts = some location := by
  have plain : ¬(name = "" ∨ name = ".") := not_or.2 ⟨proper.nonempty, proper.notDot⟩
  rw [follow, if_neg plain, if_neg proper.notDots] at h
  split at h
  · split at h
    · cases h
    · exact h
  · cases h

/-- A path with a file name leads to something of that name. -/
theorem locate_child {path : Path} {name : String} {location : Location}
    (named : path.fileName? = some name) (found : fs.locate path = some location) :
    ∃ directory : Location, location = directory.child name := by
  obtain ⟨proper, front, back, split, idle⟩ := Path.exists_parts_of_fileName? named
  unfold locate at found
  split at found
  · cases found
  · rw [split, follow_append] at found
    obtain ⟨directory, -, rest⟩ := Option.bind_eq_some_iff.1 found
    exact ⟨directory, follow_idle idle (follow_name proper rest)⟩

end FileSystem

end ScalaFacade
