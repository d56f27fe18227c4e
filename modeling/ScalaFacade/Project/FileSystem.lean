import ScalaFacade.Project.Path

/-! # File systems

A run reads and writes files through the operations of a disk. The file system of this module is
the disk on which runs can be reasoned about: a tree of directories and text files, without links
and without permissions. A location in it is known by the names that lead to it from the root.
-/

set_option autoImplicit false

namespace ScalaFacade

/-- What a run asks of the disk. -/
class Disk (m : Type → Type) where
  /-- The content of a text file; nothing if there is no such file. -/
  readText : Path → m (Option String)
  /-- Whether there is anything at a path. -/
  isPresent : Path → m Bool
  /-- Makes a directory and all directories above it; whether it is there afterwards. -/
  makeDirectories : Path → m Bool
  /-- Writes a text file in an existing directory; whether that was possible. -/
  writeText : Path → String → m Bool

/-- A place in a file system: the names that lead to it from the root, each after a slash. -/
structure Location where
  text : String
deriving DecidableEq, Repr

namespace Location

/-- The directory that everything is in. -/
def root : Location := ⟨""⟩

/-- The place of a name in a directory. -/
def child (location : Location) (name : String) : Location := ⟨location.text ++ "/" ++ name⟩

/-- The directory that a place is in; that of the root is the root itself. -/
def parent (location : Location) : Location :=
  ⟨"/".intercalate (Text.split '/' location.text).dropLast⟩

/-- The path that leads from a directory down to a place, if the place is below it. -/
def pathFrom? (location directory : Location) : Option Path :=
  let above := (directory.text ++ "/").toList
  if above.isPrefixOf location.text.toList then
    some ⟨String.ofList (location.text.toList.drop above.length)⟩
  else none

end Location

/-- What can be at a location. -/
inductive Entry where
  | file (text : String)
  | directory
deriving DecidableEq, Repr

/-- A tree of directories and files, and the directory that relative paths start from. -/
structure FileSystem where
  entries : List (Location × Entry) := []
  workingDirectory : Location := .root

namespace FileSystem

/-- What is at a location. The root is always a directory. -/
def entry? (fs : FileSystem) (location : Location) : Option Entry :=
  if location = .root then some .directory else fs.entries.lookup location

/-- Whether a location is a directory. -/
def isDirectory (fs : FileSystem) (location : Location) : Bool :=
  fs.entry? location == some .directory

/-- Puts an entry at a location, in place of what was there. -/
def put (fs : FileSystem) (location : Location) (entry : Entry) : FileSystem :=
  { fs with entries := (location, entry) :: fs.entries.filter fun e => e.1 != location }

/-- Follows the parts of a path from a location. Everything but the last place has to be an
existing directory, and no directory holds a name that is too long. -/
def follow (fs : FileSystem) : Location → List String → Option Location
  | location, [] => some location
  | location, part :: parts =>
    if fs.isDirectory location then
      if part = "" ∨ part = "." then fs.follow location parts
      else if part = ".." then fs.follow location.parent parts
      else if Path.maxNameBytes < part.utf8ByteSize then none
      else fs.follow (location.child part) parts
    else none

/-- The location that a path starts from. -/
def startOf (fs : FileSystem) (path : Path) : Location :=
  if path.isAbsolute then .root else fs.workingDirectory

/-- The location that a path leads to. The empty path leads nowhere, and neither does one that
cannot be looked up. -/
def locate (fs : FileSystem) (path : Path) : Option Location :=
  if path.isEmpty || !path.isAdmissible then none
  else fs.follow (fs.startOf path) path.parts

/-- The content of the text file at a path. -/
def readText (fs : FileSystem) (path : Path) : Option String := do
  match ← fs.entry? (← fs.locate path) with
  | .file text => some text
  | .directory => none

/-- Whether there is anything at a path. -/
def isPresent (fs : FileSystem) (path : Path) : Bool :=
  ((fs.locate path).bind fs.entry?).isSome

/-- Makes the directories that lead from a location along the parts of a path, as far as they are
not there; the second part of the result tells whether all of them are. Those made before a failure
stay. -/
def makeAlong (fs : FileSystem) : Location → List String → FileSystem × Bool
  | _, [] => (fs, true)
  | location, part :: parts =>
    if part = "" ∨ part = "." then fs.makeAlong location parts
    else if part = ".." then fs.makeAlong location.parent parts
    else if Path.maxNameBytes < part.utf8ByteSize then (fs, false)
    else
      match fs.entry? (location.child part) with
      | some .directory => fs.makeAlong (location.child part) parts
      | some (.file _) => (fs, false)
      | none => (fs.put (location.child part) .directory).makeAlong (location.child part) parts

/-- Makes a directory and all directories above it. Nothing is made for a path that cannot be looked
up, even if some directory above it could be. -/
def makeDirectories (fs : FileSystem) (path : Path) : FileSystem × Bool :=
  if path.isAdmissible then fs.makeAlong (fs.startOf path) path.parts else (fs, false)

/-- Writes a text file; nothing if its directory is not there or it is a directory itself. -/
def writeText? (fs : FileSystem) (path : Path) (text : String) : Option FileSystem := do
  let location ← fs.locate path
  if fs.isDirectory location then none else some (fs.put location (.file text))

/-- A file system that holds the given files in its working directory. -/
def ofFiles (workingDirectory : Path) (files : List (Path × String)) : FileSystem :=
  let made := (makeDirectories {} workingDirectory).1
  let start := { made with workingDirectory := (made.locate workingDirectory).getD .root }
  files.foldl (fun fs (path, text) =>
    let fs := (fs.makeDirectories (path.parent?.getD .here)).1
    (fs.writeText? path text).getD fs) start

/-- The text files in the working directory and below, by their relative paths. -/
def files (fs : FileSystem) : List (Path × String) :=
  fs.entries.filterMap fun (location, entry) =>
    match entry with
    | .file text => (location.pathFrom? fs.workingDirectory).map fun path => (path, text)
    | .directory => none

/-- The text files that are new in `fs` or have another content than in `before`. -/
def changesSince (fs before : FileSystem) : List (Path × String) :=
  fs.files.filter fun file => decide (file ∉ before.files)

end FileSystem

instance : Disk (StateM FileSystem) where
  readText path := do return (← get).readText path
  isPresent path := do return (← get).isPresent path
  makeDirectories path := do
    let (fs, done) := (← get).makeDirectories path
    set fs
    return done
  writeText path text := do
    match (← get).writeText? path text with
    | some fs => set fs; return true
    | none => return false

end ScalaFacade
