import ScalaFacade.Facade.Emit
import ScalaFacade.Json.Read
import ScalaFacade.Project.Path

/-! # Options

What can be chosen about a facade: its package, its indentation and its imports. A document that is
not given a package is put into one that is named after its file.
-/

set_option autoImplicit false

namespace ScalaFacade

/-- The options of a run. -/
structure Options where
  packageName : Option String := none
  indentWidth : Nat := 2
  imports : List String := defaultImports

/-- The options in a project file. -/
def Options.format : Json.Format Options :=
  .record "FacadeOptions"
    (.optional "packageName" (.option .string) none <|
      .optional "indentWidth" .natural 2 <|
      .optional "imports" (.list .string) defaultImports .done)
    fun (packageName, indentWidth, imports, ()) => { packageName, indentWidth, imports }

/-- A text without the given ending, if it has it. -/
def dropEnding (ending text : String) : String :=
  if ending.toList.isSuffixOf text.toList then
    String.ofList (text.toList.take (text.toList.length - ending.toList.length))
  else text

/-- The endings of the names of documents, in the order in which they are dropped. -/
def documentEndings : List String := [".json", ".d.ts", ".ts"]

/-- The name of a document: that of its file without the endings of documents, each dropped at most
once. -/
def documentStem (path : Path) : String :=
  documentEndings.foldl (fun stem ending => dropEnding ending stem) (path.fileName?.getD "")

/-- The package of a document. -/
def Options.packageFor (options : Options) (file : Path) : String :=
  options.packageName.getD (documentStem file)

/-- The emitter for a document. Lines in a block are indented by at least one blank. -/
def Options.emitterFor (options : Options) (file : Path) : Emitter where
  package := options.packageFor file
  indentWidth := max options.indentWidth 1
  imports := options.imports

end ScalaFacade
