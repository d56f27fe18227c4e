import ScalaFacade.Command.Request
import ScalaFacade.Project.Program

/-! # Runs

A run gathers a program from its request and from the project file, reads all documents, converts
them and only then writes anything. What is given on the command line comes before what the project
file says.
-/

set_option autoImplicit false

namespace ScalaFacade.Command

/-- How a run ends: its exit status, what it prints and why it failed. -/
structure Outcome where
  exit : Nat
  output : String := ""
  failure : Option Failure := none

/-- The project file that is looked for when no documents are given. -/
def defaultProject : Path := ⟨"facade.json"⟩

/-- What is printed when the version is asked for. -/
def versionText : String := "tsfacade 0.1.0\n"

/-- What is printed when help is asked for. A usage line of its own stands for the help that is
generated from the options, which describes every option in a paragraph: the wording of that page is
not modelled, only that a page is printed and that the run ends well. -/
def helpText : String :=
  "Usage: tsfacade [-p FILE] [-o FILE] [--out-dir DIR] [--package NAME] [--indent N] [--stdout] "
    ++ "[--list-files] [FILE]...\n"

/-- The directory that the paths of a project file are relative to. -/
def projectDirectory (project : Path) : Path :=
  match project.parent? with
  | some parent => if parent.isEmpty then .here else parent
  | none => .here

namespace Request

/-- The options of a request over those of a project. -/
def options (request : Request) (options : Options) : Options :=
  { options with
    packageName := request.package <|> options.packageName
    indentWidth := request.indent.getD options.indentWidth }

/-- The program that a request amounts to, with the configuration of its project and the directory
of that. -/
def program (request : Request) : Option (ProjectConfig × Path) → Program
  | none =>
    { options := request.options {}
      rootFiles := request.files
      outDir := request.outDir }
  | some (config, directory) =>
    { options := request.options config.options
      rootFiles :=
        if request.files.isEmpty then config.resolvedFiles directory else request.files
      outDir := request.outDir <|> config.resolvedOutDir directory }

/-- What a run prints before it reads any document. -/
def listing (request : Request) (program : Program) : String :=
  if request.listFiles then String.join (program.rootFiles.map fun file => file.text ++ "\n") else ""

/-- The facades with the first one redirected to the output file of the request. -/
def redirect (request : Request) : List Converted → List Converted
  | [] => []
  | first :: others => { first with output := request.out.getD first.output } :: others

section

variable {m : Type → Type} [Monad m] [Disk m]

/-- The project file of a request. -/
def projectFile (request : Request) : m (Option Path) :=
  match request.project with
  | some path => return some path
  | none => do
    if request.files.isEmpty && (← Disk.isPresent defaultProject) then return some defaultProject
    else return none

/-- Reads the project of a request, if it has one. -/
def loadProject (request : Request) : m (Except Failure (Option (ProjectConfig × Path))) := do
  match ← request.projectFile with
  | none => return .ok none
  | some path =>
    match ← ProjectConfig.load path with
    | .error failure => return .error failure
    | .ok config => return .ok (some (config, projectDirectory path))

/-- Reads and converts the documents of a program and delivers the facades. -/
def deliver (request : Request) (program : Program) : m Outcome := do
  let listing := request.listing program
  match ← program.load with
  | (_, some failure) => return ⟨1, listing, some failure⟩
  | (program, none) =>
    match program.convert with
    | .error failure => return ⟨1, listing, some failure⟩
    | .ok results =>
      if request.stdout then
        return ⟨0, listing ++ String.join (results.map Converted.text), none⟩
      else
        match ← writeOutputs (request.redirect results) with
        | some failure => return ⟨1, listing, some failure⟩
        | none => return ⟨0, listing, none⟩

/-- Carries out a request. -/
def run (request : Request) : m Outcome := do
  match ← request.loadProject with
  | .error failure => return ⟨1, "", some failure⟩
  | .ok project =>
    let program := request.program project
    if program.rootFiles.isEmpty then return ⟨1, "", some .noInput⟩
    else if request.out.isSome && decide (1 < program.rootFiles.length) then
      return ⟨1, "", some .severalInputs⟩
    else request.deliver program

end

end Request

/-- Runs a command line. -/
def run {m : Type → Type} [Monad m] [Disk m] (arguments : List String) : m Outcome :=
  match Reading.ofArguments arguments with
  | .refused => return ⟨2, "", none⟩
  | .version => return ⟨0, versionText, none⟩
  | .help => return ⟨0, helpText, none⟩
  | .run request => request.run

end ScalaFacade.Command
