import ScalaFacade.Command.Run

/-! # The command

The disk of the machine, and the entry point that runs a command line on it.
-/

set_option autoImplicit false

namespace ScalaFacade

/-- Whether an action succeeds. -/
def succeeds (action : IO Unit) : IO Bool := do
  try
    action
    return true
  catch _ => return false

instance : Disk IO where
  readText path := do
    try return some (← IO.FS.readFile path.text)
    catch _ => return none
  isPresent path := succeeds do
    let _ ← IO.FS.Handle.mk path.text .read
  makeDirectories path := succeeds (IO.FS.createDirAll path.text)
  writeText path text := succeeds (IO.FS.writeFile path.text text)

end ScalaFacade

/-- Runs the command line, prints its output and reports its failure. A command line that is refused
gets the usage as its report. -/
def main (arguments : List String) : IO UInt32 := do
  let outcome ← ScalaFacade.Command.run arguments
  IO.print outcome.output
  match outcome.failure with
  | some failure => IO.eprintln (failure.code ++ ": " ++ failure.message)
  | none => if outcome.exit ≠ 0 then IO.eprint ScalaFacade.Command.helpText
  return outcome.exit.toUInt32
