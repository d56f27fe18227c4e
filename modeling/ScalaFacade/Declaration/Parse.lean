import ScalaFacade.Declaration.Schema
import ScalaFacade.Json.Read
import ScalaFacade.Text.Blank

/-! # Reading declaration documents

A document is written as an object or as the bare list of its statements; which of the two is
decided by the first character that is not white space. A document without a name of its own takes
that of the file it was read from.
-/

set_option autoImplicit false

namespace ScalaFacade

open Json

/-- Whether a text is to be read as a list of statements. -/
def isStatementList (text : List Char) : Bool :=
  match Text.trimStart text with
  | c :: _ => c == '['
  | [] => false

/-- The document, named after `file` if it has no name. -/
def Document.namedAfter (document : Document) (file : String) : Document :=
  if document.fileName.isEmpty then { document with fileName := file } else document

/-- Reads the document written in `text`, the content of `file`. -/
def Document.parse (file text : String) : Except Json.Error Document :=
  if isStatementList text.toList then
    ((Format.list Statement.format).parse text).map fun statements =>
      { fileName := file, statements }
  else (Document.format.parse text).map (·.namedAfter file)

end ScalaFacade
