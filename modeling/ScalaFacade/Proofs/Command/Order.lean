import ScalaFacade.Command.Run

/-! # Command lines in pieces

A command line is made of pieces: a file, an option with its value, a flag. Each piece is about one
topic, and what a command line asks for depends only on the order of the pieces about each topic
(`ofArguments_congr`): options may stand anywhere among the files.

Arguments are read one by one, with an option whose value is due in between. The first half shows
that pieces are read as a whole (`readArguments_piece`), so that reading a command line is adding
its pieces to a request, one after the other. The second half is about adding:

* what a piece may do, and whether it is refused, depends on what was said about its topic only
  (`ChangeOf.change?_eq`);
* changes about different topics can be made in either order (`ChangeOf.comm`).

So two neighbours about different topics may change places, and the first piece about a topic may be
taken to the front. Refusals are included: the two orders refuse together, though perhaps at another
piece, which a reading does not tell.

Only one way to write each option is covered, with its value as the next argument. Attached values
and `--` are not pieces. A file that starts with a dash would be taken for an option, so files have
to be plain.
-/

set_option autoImplicit false

namespace ScalaFacade.Command

/-- A piece of a command line. -/
inductive Piece where
  | file (text : String)
  | value (option : Valued) (text : String)
  | stdout
  | listFiles

/-- What a piece is about. -/
inductive Topic where
  | files
  | option (option : Valued)
  | stdout
  | listFiles
deriving DecidableEq

def Piece.topic : Piece → Topic
  | .file _ => .files
  | .value option _ => .option option
  | .stdout => .stdout
  | .listFiles => .listFiles

/-- The name that an option is given by. -/
def Valued.name : Valued → String
  | .project => "-p"
  | .out => "--out"
  | .outDir => "--out-dir"
  | .package => "--package"
  | .indent => "--indent"

def Piece.arguments : Piece → List String
  | .file text => [text]
  | .value option text => [option.name, text]
  | .stdout => ["--stdout"]
  | .listFiles => ["--list-files"]

/-- The arguments of pieces one after the other. -/
def commandLine (pieces : List Piece) : List String := pieces.flatMap Piece.arguments

/-- Whether a text is not taken for an option. -/
def isPlain (text : String) : Bool := text.toList.head? != some '-'

theorem ofText_of_isPlain {text : String} (h : isPlain text = true) :
    Argument.ofText text = .positional text := by
  unfold isPlain at h
  unfold Argument.ofText
  split <;> simp_all

/-! ## What a piece adds

The change is a function of its own, apart from the request that decides whether it is possible.
Changes can then be compared without the requests they came from. -/

namespace Request

/-- How an option with a value changes a request that it is given in, if that is possible. -/
def setting? (request : Request) (text : String) : Valued → Option (Request → Request)
  | .project => (setOnce request.project (path? text)).map fun v r => { r with project := v }
  | .out => (setOnce request.out (path? text)).map fun v r => { r with out := v }
  | .outDir => (setOnce request.outDir (path? text)).map fun v r => { r with outDir := v }
  | .package => (setOnce request.package (some text)).map fun v r => { r with package := v }
  | .indent => (setOnce request.indent (indent? text)).map fun v r => { r with indent := v }

/-- How a piece changes a request that it is added to, if that is possible. -/
def change? (request : Request) : Piece → Option (Request → Request)
  | .file text => (path? text).map fun file r => { r with files := r.files ++ [file] }
  | .value option text =>
    match Argument.ofText text with
    | .positional value => request.setting? value option
    | _ => none
  | .stdout => if request.stdout then none else some fun r => { r with stdout := true }
  | .listFiles => if request.listFiles then none else some fun r => { r with listFiles := true }

/-- The request after one more piece. -/
def add? (request : Request) (piece : Piece) : Option Request :=
  (request.change? piece).map fun change => change request

/-- The request after all pieces. -/
def addAll? (request : Request) (pieces : List Piece) : Option Request := pieces.foldlM add? request

theorem addFile?_eq (request : Request) (text : String) :
    request.addFile? text = request.add? (.file text) := by
  show (path? text).bind _ = ((path? text).map _).map _
  cases path? text <;> rfl

/-- Setting a value is making the change. -/
theorem setValue?_eq (request : Request) (option : Valued) (text : String) :
    request.setValue? option text =
      (request.setting? text option).map fun change => change request := by
  cases option <;> (rw [setting?, Option.map_map]; rfl)

end Request

/-- Going on after a piece, or refusing it. -/
def goOn (request? : Option Request) (texts : List String) : Reading :=
  match request? with
  | some request => readArguments request none texts
  | none => .refused

theorem ofText_name (option : Valued) : Argument.ofText option.name = .valued option none := by
  cases option <;> decide

theorem ofText_stdout : Argument.ofText "--stdout" = .flag .stdout := by decide

theorem ofText_listFiles : Argument.ofText "--list-files" = .flag .listFiles := by decide

/-- A piece is read as a whole, whatever follows it. -/
theorem readArguments_piece {piece : Piece} (plain : ∀ text, piece = .file text → isPlain text = true)
    (request : Request) (texts : List String) :
    readArguments request none (piece.arguments ++ texts) = goOn (request.add? piece) texts := by
  cases piece with
  | file text =>
    rw [Piece.arguments, List.singleton_append, readArguments.eq_def]
    simp only [ofText_of_isPlain (plain text rfl), Request.addFile?_eq]
    rfl
  | value option text =>
    rw [Piece.arguments, List.cons_append, List.singleton_append, readArguments.eq_def]
    simp only [ofText_name]
    rw [readArguments.eq_def, Request.add?, Request.change?]
    cases kind : Argument.ofText text with
    | positional value =>
      simp only [kind, Request.setValue?_eq]
      rfl
    | _ => simp only [kind]; rfl
  | stdout =>
    rw [Piece.arguments, List.singleton_append, readArguments.eq_def]
    simp only [ofText_stdout, Request.add?, Request.change?]
    cases request.stdout <;> rfl
  | listFiles =>
    rw [Piece.arguments, List.singleton_append, readArguments.eq_def]
    simp only [ofText_listFiles, Request.add?, Request.change?]
    cases request.listFiles <;> rfl

/-- **Reading is adding pieces.** By induction over the pieces, from any request: the first one is
read as a whole, and if it is refused, so is the command line, whatever follows. Files have to be
plain, since one that starts with a dash would not be read as a file. -/
theorem readArguments_pieces {pieces : List Piece}
    (plain : ∀ text, Piece.file text ∈ pieces → isPlain text = true) (request : Request) :
    readArguments request none (commandLine pieces) = Reading.ofRequest? (request.addAll? pieces) := by
  induction pieces generalizing request with
  | nil => rfl
  | cons piece pieces ih =>
    have here := fun text (same : piece = .file text) => plain text (same ▸ List.mem_cons_self)
    have later := fun text member => plain text (List.mem_cons_of_mem piece member)
    rw [commandLine, List.flatMap_cons, readArguments_piece here, Request.addAll?, List.foldlM_cons]
    cases request.add? piece with
    | none => rfl
    | some next => exact ih later next

/-! ## The order of pieces

Sorting by topic without a sort: the lines agree if for each topic the pieces about it are the same
list. -/

/-- The pieces about each topic are the same, in the same order. -/
def SameByTopic (pieces others : List Piece) : Prop :=
  ∀ topic, pieces.filter (·.topic = topic) = others.filter (·.topic = topic)

theorem SameByTopic.mem_iff {pieces others : List Piece} (h : SameByTopic pieces others) {piece : Piece} :
    piece ∈ pieces ↔ piece ∈ others := by
  have mem (line : List Piece) : piece ∈ line ↔ piece ∈ line.filter (·.topic = piece.topic) := by
    simp
  rw [mem pieces, mem others, h]

/-- A change of what a request says about one topic. -/
inductive ChangeOf : Topic → (Request → Request) → Prop where
  | files (file : Path) : ChangeOf .files fun r => { r with files := r.files ++ [file] }
  | project (v : Option Path) : ChangeOf (.option .project) fun r => { r with project := v }
  | out (v : Option Path) : ChangeOf (.option .out) fun r => { r with out := v }
  | outDir (v : Option Path) : ChangeOf (.option .outDir) fun r => { r with outDir := v }
  | package (v : Option String) : ChangeOf (.option .package) fun r => { r with package := v }
  | indent (v : Option Nat) : ChangeOf (.option .indent) fun r => { r with indent := v }
  | stdout : ChangeOf .stdout fun r => { r with stdout := true }
  | listFiles : ChangeOf .listFiles fun r => { r with listFiles := true }

theorem changeOf_of_setting? {request : Request} {option : Valued} {text : String}
    {change : Request → Request} (h : request.setting? text option = some change) :
    ChangeOf (.option option) change := by
  cases option <;> obtain ⟨v, -, rfl⟩ := Option.map_eq_some_iff.1 h
  · exact .project v
  · exact .out v
  · exact .outDir v
  · exact .package v
  · exact .indent v

/-- The change that a piece makes is about its topic. -/
theorem changeOf_of_change? {request : Request} {piece : Piece} {change : Request → Request}
    (h : request.change? piece = some change) : ChangeOf piece.topic change := by
  cases piece with
  | file text =>
    obtain ⟨file, -, rfl⟩ := Option.map_eq_some_iff.1 h
    exact .files file
  | value option text =>
    rw [Request.change?] at h
    cases kind : Argument.ofText text with
    | positional value =>
      rw [kind] at h
      exact changeOf_of_setting? h
    | _ =>
      rw [kind] at h
      cases h
  | stdout =>
    rw [Request.change?, Option.ite_none_left_eq_some] at h
    cases h.2
    exact .stdout
  | listFiles =>
    rw [Request.change?, Option.ite_none_left_eq_some] at h
    cases h.2
    exact .listFiles

/-- What a piece may do does not depend on what was said about other topics. -/
theorem ChangeOf.change?_eq {topic : Topic} {change : Request → Request} (h : ChangeOf topic change)
    {piece : Piece} (different : topic ≠ piece.topic) (request : Request) :
    (change request).change? piece = request.change? piece := by
  cases piece with
  | value option text => cases h <;> cases option <;> first | rfl | exact absurd rfl different
  | _ => cases h <;> first | rfl | exact absurd rfl different

/-- Changes about different topics are of different fields. -/
theorem ChangeOf.comm {topic other : Topic} {change second : Request → Request}
    (h : ChangeOf topic change) (h' : ChangeOf other second) (different : topic ≠ other)
    (request : Request) : second (change request) = change (second request) := by
  cases h <;> cases h' <;> first | rfl | exact absurd rfl different

/-- Pieces about different topics may change places. -/
theorem Request.add?_comm (request : Request) {piece other : Piece}
    (different : piece.topic ≠ other.topic) :
    (request.add? piece).bind (·.add? other) = (request.add? other).bind (·.add? piece) := by
  unfold add?
  -- Each piece is possible or not, and the other one does not change that.
  cases first : request.change? piece with
  | none =>
    cases second : request.change? other with
    | none => rfl
    | some change' =>
      have same := (changeOf_of_change? second).change?_eq different.symm request
      simp [same, first]
  | some change =>
    have here := changeOf_of_change? first
    have same := here.change?_eq different request
    cases second : request.change? other with
    | none => simp [same, second]
    | some change' =>
      have there := changeOf_of_change? second
      have back := there.change?_eq different.symm request
      simp [same, second, back, first, here.comm there different request]

/-- A piece may be added before pieces that are about other topics. -/
theorem Request.addAll?_front {piece : Piece} {front : List Piece}
    (others : ∀ other ∈ front, other.topic ≠ piece.topic) (request : Request) (rest : List Piece) :
    request.addAll? (front ++ piece :: rest) = request.addAll? (piece :: (front ++ rest)) := by
  induction front generalizing request with
  | nil => rfl
  | cons other front ih =>
    have later := fun o member => others o (List.mem_cons_of_mem other member)
    have swap := request.add?_comm (others other List.mem_cons_self)
    calc request.addAll? (other :: (front ++ piece :: rest))
        = (request.add? other).bind (·.addAll? (front ++ piece :: rest)) := rfl
      _ = (request.add? other).bind fun r => (r.add? piece).bind (·.addAll? (front ++ rest)) := by
        congr 1
        funext r
        exact ih later r
      _ = ((request.add? piece).bind (·.add? other)).bind (·.addAll? (front ++ rest)) := by
        rw [← swap, Option.bind_assoc]
      _ = request.addAll? (piece :: other :: (front ++ rest)) := by
        rw [Option.bind_assoc]
        rfl

/-- **Only the order within a topic counts.** By induction over the one line. Its first piece is
also the first about its topic in the other line, and there it is taken to the front past pieces
about other topics; what is left of the two lines agrees by topic again. A refusal is a result like
any other here. -/
theorem SameByTopic.addAll?_eq {pieces others : List Piece} (same : SameByTopic pieces others)
    (request : Request) : request.addAll? pieces = request.addAll? others := by
  induction pieces generalizing others request with
  | nil =>
    cases others with
    | nil => rfl
    | cons other others =>
      have none := same other.topic
      simp at none
  | cons piece pieces ih =>
    -- The first piece is also the first about its topic in the other line.
    have here := same piece.topic
    rw [List.filter_cons_of_pos (by simp)] at here
    obtain ⟨front, rest, rfl, before, -, after⟩ := List.filter_eq_cons_iff.1 here.symm
    have elsewhere : ∀ other ∈ front, other.topic ≠ piece.topic := by simpa using before
    rw [Request.addAll?_front elsewhere]
    have later : SameByTopic pieces (front ++ rest) := by
      intro topic
      have all := same topic
      by_cases about : piece.topic = topic
      · subst about
        have none : front.filter (·.topic = piece.topic) = [] :=
          List.filter_eq_nil_iff.2 (by simpa using elsewhere)
        rw [List.filter_append, none, List.nil_append]
        exact after.symm
      · simpa [List.filter_append, List.filter_cons, about] using all
    show (request.add? piece).bind _ = (request.add? piece).bind _
    congr 1
    funext r
    exact ih later r

/-- What a command line asks for depends only on the pieces about each topic. -/
theorem ofArguments_congr {pieces others : List Piece} (same : SameByTopic pieces others)
    (plain : ∀ text, Piece.file text ∈ others → isPlain text = true) :
    Reading.ofArguments (commandLine pieces) = Reading.ofRequest? (Request.addAll? {} others) := by
  have plain' := fun text member => plain text (same.mem_iff.1 member)
  rw [Reading.ofArguments, readArguments_pieces plain', same.addAll?_eq]

end ScalaFacade.Command
