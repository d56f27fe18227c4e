import ScalaFacade.Facade.Block

/-! # Facades

The Scala source that stands for a document: the imports, then one package with everything that the
document declares.
-/

set_option autoImplicit false

namespace ScalaFacade

open Layout

/-- The import lines of a facade unless others are given. -/
def defaultImports : List String :=
  ["import scala.scalajs.js", "import js.annotation._", "import js.|"]

/-- What a facade looks like apart from its document. -/
structure Emitter where
  package : String
  indentWidth : Nat := 2
  imports : List String := defaultImports

/-- The directives that a facade is made of. -/
def Emitter.directives (emitter : Emitter) (document : Document) : List Directive :=
  emitter.imports.map .line
    ++ [.blank,
      .block ("package " ++ Name.packageClause emitter.package)
        (scopeDirectives (.topLevel emitter.package) document.statements ++ [.blank])]

/-- The facade of a document. -/
def Emitter.emit (emitter : Emitter) (document : Document) : String :=
  render { indentWidth := emitter.indentWidth } (emitter.directives document)

/-- The facade of a document in a package. -/
def Document.facade (document : Document) (package : String) : String :=
  Emitter.emit { package } document

end ScalaFacade
