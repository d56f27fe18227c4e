import ScalaFacade.Json.Fault
import ScalaFacade.Project.Path

/-! # Failures

The ways in which a run can fail, with their messages, their codes and what could be done about
them. A document that cannot be read also has a span in its text to point at: one byte at the place
of the error, or none at the end of the text.
-/

set_option autoImplicit false

namespace ScalaFacade

/-- A part of a text, in bytes. -/
structure Span where
  offset : Nat
  length : Nat
deriving DecidableEq, Repr

/-- A failure of a run. -/
inductive Failure where
  /-- A document is not a declaration tree. -/
  | parse (file : String) (detail : String) (span : Span)
  /-- A file cannot be read or written. -/
  | io (path : Path)
  /-- A project file is not a configuration. -/
  | config (path : Path) (detail : String)
  /-- The arguments do not go together. -/
  | usage (detail : String)
  /-- There is nothing to do. -/
  | noInput
deriving DecidableEq, Repr

namespace Failure

/-- The failure to read the document `text` of a file. -/
def ofError (file text : String) (error : Json.Error) : Failure :=
  let chars := text.toList
  let position := error.position.getD ⟨0, 0⟩
  let offset := Text.offsetOf chars position.line position.column
  .parse file error.message ⟨offset, if offset < Text.byteLength chars then 1 else 0⟩

/-- The failure of an output file given for several inputs. -/
def severalInputs : Failure := .usage "`--out` can only be used with a single input file"

/-- The message of a failure. -/
def message : Failure → String
  | .parse file detail _ => "failed to parse declaration tree `" ++ file ++ "`: " ++ detail
  | .io path => "failed to access `" ++ path.text ++ "`"
  | .config path detail => "invalid project configuration `" ++ path.text ++ "`: " ++ detail
  | .usage detail => detail
  | .noInput => "no input files"

/-- The code of a failure. -/
def code : Failure → String
  | .parse _ _ _ => "tsfacade::parse"
  | .io _ => "tsfacade::io"
  | .config _ _ => "tsfacade::config"
  | .usage _ => "tsfacade::usage"
  | .noInput => "tsfacade::no_input"

/-- What could be done about a failure. -/
def help? : Failure → Option String
  | .parse _ _ _ => some "the input must be a JSON declaration tree with a `statements` array"
  | .noInput =>
    some ("pass declaration trees on the command line or list them under `files` in the "
      ++ "project file")
  | .io _ | .config _ _ | .usage _ => none

end Failure

end ScalaFacade
