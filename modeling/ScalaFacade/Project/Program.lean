import ScalaFacade.Declaration.Parse
import ScalaFacade.Project.Config

/-! # Programs

A program is a run in the making: options, the documents to read and those read so far. Converting
it turns every document into a facade, or fails at the first that cannot be read; nothing is written
before that.
-/

set_option autoImplicit false

namespace ScalaFacade

/-- The facade of one document and where it goes. -/
structure Converted where
  input : Path
  output : Path
  text : String
deriving DecidableEq, Repr

/-- A run in the making. -/
structure Program where
  options : Options := {}
  rootFiles : List Path := []
  outDir : Option Path := none
  sources : List (Path × String) := []

namespace Program

/-- The program of a project in a directory. -/
def ofProject (config : ProjectConfig) (directory : Path) : Program where
  options := config.options
  rootFiles := config.resolvedFiles directory
  outDir := config.resolvedOutDir directory

/-- Adds a document. -/
def addSource (program : Program) (path : Path) (text : String) : Program :=
  { program with sources := program.sources ++ [(path, text)] }

/-- Where the facade of a document goes: next to it, or into the output directory. -/
def outputPath (program : Program) (input : Path) : Path :=
  (program.outDir.getD (input.parent?.getD .here)).join ⟨documentStem input ++ ".scala"⟩

/-- The facade of one document. -/
def convertDocument (program : Program) (path : Path) (text : String) : Except Failure Converted :=
  match Document.parse path.text text with
  | .error error => .error (.ofError path.text text error)
  | .ok document =>
    .ok {
      input := path
      output := program.outputPath path
      text := (program.options.emitterFor path).emit document }

/-- The facades of all documents, in their order, or the failure of the first that cannot be read.

The documents do not depend on each other and may be converted side by side. Which failure is found
first is then open when several documents have one; the one reported here is the first in the order
of the documents, which is one of those that may be found. Facades and success are the same in every
order. -/
def convert (program : Program) : Except Failure (List Converted) :=
  program.sources.mapM fun (path, text) => program.convertDocument path text

section

variable {m : Type → Type} [Monad m] [Disk m]

/-- Reads documents and adds them, up to the first that cannot be read. -/
def loadAll (program : Program) : List Path → m (Program × Option Failure)
  | [] => return (program, none)
  | path :: paths => do
    match ← Disk.readText path with
    | none => return (program, some (.io path))
    | some text => (program.addSource path text).loadAll paths

/-- Reads the documents that the program was given as files. -/
def load (program : Program) : m (Program × Option Failure) := program.loadAll program.rootFiles

end

end Program

/-- Makes the directory that a file is in. Nothing is to be done for a file without one. -/
def makeDirectoryOf {m : Type → Type} [Monad m] [Disk m] (path : Path) : m (Option Failure) :=
  match path.parent? with
  | none => return none
  | some parent =>
    if parent.isEmpty then return none
    else do
      if ← Disk.makeDirectories parent then return none else return some (.io parent)

/-- Writes one facade. -/
def Converted.write {m : Type → Type} [Monad m] [Disk m] (result : Converted) :
    m (Option Failure) := do
  match ← makeDirectoryOf result.output with
  | some failure => return some failure
  | none =>
    if ← Disk.writeText result.output result.text then return none
    else return some (.io result.output)

/-- Writes facades one after the other, up to the first that cannot be written. -/
def writeOutputs {m : Type → Type} [Monad m] [Disk m] : List Converted → m (Option Failure)
  | [] => return none
  | result :: results => do
    match ← result.write with
    | some failure => return some failure
    | none => writeOutputs results

end ScalaFacade
