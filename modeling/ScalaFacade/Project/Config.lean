import ScalaFacade.Project.Failure
import ScalaFacade.Project.FileSystem
import ScalaFacade.Project.Options

/-! # Project files

A project file lists documents, says where their facades go and sets options. The paths in it are
relative to the directory of the project.
-/

set_option autoImplicit false

namespace ScalaFacade

/-- The content of a project file. -/
structure ProjectConfig where
  options : Options := {}
  files : List String := []
  outDir : Option String := none

namespace ProjectConfig

/-- The JSON of a project file. -/
def format : Json.Format ProjectConfig :=
  .record "ProjectConfig"
    (.optional "options" Options.format {} <|
      .optional "files" (.list .string) [] <|
      .field "outDir" (.option .string) (.optionalKey none) .done)
    fun (options, files, outDir, ()) => { options, files, outDir }

/-- The documents of a project in a directory. -/
def resolvedFiles (config : ProjectConfig) (directory : Path) : List Path :=
  config.files.map fun file => directory.join ⟨file⟩

/-- The output directory of a project in a directory. -/
def resolvedOutDir (config : ProjectConfig) (directory : Path) : Option Path :=
  config.outDir.map fun outDir => directory.join ⟨outDir⟩

/-- The configuration that is the content of a project file. -/
def ofText (path : Path) (text : String) : Except Failure ProjectConfig :=
  match format.parse text with
  | .error error => .error (.config path error.message)
  | .ok config =>
    if config.options.indentWidth = 0 then
      .error (.config path "`indentWidth` must be at least 1")
    else .ok config

/-- Reads a project file. -/
def load {m : Type → Type} [Monad m] [Disk m] (path : Path) : m (Except Failure ProjectConfig) := do
  match ← Disk.readText path with
  | none => return .error (.io path)
  | some text => return ofText path text

end ProjectConfig

end ScalaFacade
