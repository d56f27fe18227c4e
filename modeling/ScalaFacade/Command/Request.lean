import ScalaFacade.Project.Path

/-! # Command lines

Arguments are gone through from left to right. Options may stand anywhere among the files, each at
most once; their values are attached (`--out=x`, `-ox`, `-o=x`) or the next argument. After `--`
everything is a file. Asking for the version or for help ends the reading at once, so only what
stands before it can be refused.
-/

set_option autoImplicit false

namespace ScalaFacade.Command

/-- What a run is asked to do. -/
structure Request where
  files : List Path := []
  project : Option Path := none
  out : Option Path := none
  outDir : Option Path := none
  package : Option String := none
  indent : Option Nat := none
  stdout : Bool := false
  listFiles : Bool := false
deriving DecidableEq, Repr

/-- What the arguments amount to. -/
inductive Reading where
  | refused
  | version
  | help
  | run (request : Request)
deriving DecidableEq, Repr

/-- The options that take a value. -/
inductive Valued where
  | project
  | out
  | outDir
  | package
  | indent
deriving DecidableEq, Repr

/-- The options that take none. -/
inductive Flag where
  | stdout
  | listFiles
  | version
  | help
deriving DecidableEq, Repr

/-- An option. -/
inductive Switch where
  | valued (option : Valued)
  | flag (flag : Flag)
deriving DecidableEq, Repr

/-- The option of a long name. -/
def Switch.ofLong? (name : String) : Option Switch :=
  match name with
  | "project" => some (.valued .project)
  | "out" => some (.valued .out)
  | "out-dir" => some (.valued .outDir)
  | "package" => some (.valued .package)
  | "indent" => some (.valued .indent)
  | "stdout" => some (.flag .stdout)
  | "list-files" => some (.flag .listFiles)
  | "version" => some (.flag .version)
  | "help" => some (.flag .help)
  | _ => none

/-- The option of a letter. -/
def Switch.ofShort? (letter : Char) : Option Switch :=
  match letter with
  | 'p' => some (.valued .project)
  | 'o' => some (.valued .out)
  | 'V' => some (.flag .version)
  | 'h' => some (.flag .help)
  | _ => none

/-- A path, which may not be empty. -/
def path? (text : String) : Option Path := if text.isEmpty then none else some ⟨text⟩

/-- The largest indentation that can be asked for. -/
def maxIndent : Nat := 65535

/-- A width of indentation: a number from one, which may carry a plus sign. -/
def indent? (text : String) : Option Nat :=
  let digits :=
    match text.toList with
    | '+' :: digits => digits
    | digits => digits
  if digits.isEmpty || !digits.all Char.isDigit then none
  else
    let width := digits.foldl (fun n c => n * 10 + (c.toNat - '0'.toNat)) 0
    if 1 ≤ width ∧ width ≤ maxIndent then some width else none

/-- Sets something that has not been set. -/
def setOnce {α : Type} (old new : Option α) : Option (Option α) :=
  match old, new with
  | none, some a => some (some a)
  | _, _ => none

namespace Request

/-- Adds a file. -/
def addFile? (request : Request) (text : String) : Option Request := do
  let file ← path? text
  return { request with files := request.files ++ [file] }

/-- Gives an option its value, unless it has one or the value is not for it. -/
def setValue? (request : Request) (option : Valued) (text : String) : Option Request :=
  match option with
  | .project => (setOnce request.project (path? text)).map ({ request with project := · })
  | .out => (setOnce request.out (path? text)).map ({ request with out := · })
  | .outDir => (setOnce request.outDir (path? text)).map ({ request with outDir := · })
  | .package => (setOnce request.package (some text)).map ({ request with package := · })
  | .indent => (setOnce request.indent (indent? text)).map ({ request with indent := · })

/-- Whether the options go together. -/
def isConsistent (request : Request) : Bool := !(request.out.isSome && request.stdout)

end Request

/-- What one argument asks for. -/
inductive Argument where
  /-- Everything after it is a file. -/
  | separator
  | positional (text : String)
  | valued (option : Valued) (attached : Option String)
  | flag (flag : Flag)
  | unknown
deriving DecidableEq, Repr

/-- A long option, with the value attached to it. -/
def Argument.ofLong (text : List Char) : Argument :=
  let name := String.ofList (text.takeWhile (· != '='))
  let attached :=
    match text.dropWhile (· != '=') with
    | _ :: value => some (String.ofList value)
    | [] => none
  match Switch.ofLong? name, attached with
  | some (.valued option), attached => .valued option attached
  | some (.flag mark), none => .flag mark
  | _, _ => .unknown

/-- A short option and the text attached to it. What follows the letter of a flag does not matter,
since these flags end the reading. -/
def Argument.ofShort (letter : Char) (attached : List Char) : Argument :=
  match Switch.ofShort? letter with
  | some (.valued option) =>
    match attached with
    | [] => .valued option none
    | '=' :: value => .valued option (some (String.ofList value))
    | value => .valued option (some (String.ofList value))
  | some (.flag mark) => .flag mark
  | none => .unknown

/-- What one argument asks for. A single dash is a file. -/
def Argument.ofText (text : String) : Argument :=
  match text.toList with
  | ['-', '-'] => .separator
  | '-' :: '-' :: long => .ofLong long
  | '-' :: letter :: attached => .ofShort letter attached
  | _ => .positional text

/-- Reads arguments that are all files. -/
def readFiles (request : Request) : List String → Option Request
  | [] => some request
  | text :: texts => (request.addFile? text).bind fun request => readFiles request texts

/-- The reading of a complete request. -/
def Reading.ofRequest? : Option Request → Reading
  | some request => if request.isConsistent then .run request else .refused
  | none => .refused

/-- Reads arguments; `pending` is the option whose value is due. -/
def readArguments (request : Request) (pending : Option Valued) : List String → Reading
  | [] => Reading.ofRequest? (if pending.isSome then none else some request)
  | text :: texts =>
    match Argument.ofText text, pending with
    | .positional value, some option =>
      match request.setValue? option value with
      | some request => readArguments request none texts
      | none => .refused
    | _, some _ => .refused
    | .positional value, none =>
      match request.addFile? value with
      | some request => readArguments request none texts
      | none => .refused
    | .separator, none => Reading.ofRequest? (readFiles request texts)
    | .valued option none, none => readArguments request (some option) texts
    | .valued option (some value), none =>
      match request.setValue? option value with
      | some request => readArguments request none texts
      | none => .refused
    | .flag .stdout, none =>
      if request.stdout then .refused
      else readArguments { request with stdout := true } none texts
    | .flag .listFiles, none =>
      if request.listFiles then .refused
      else readArguments { request with listFiles := true } none texts
    | .flag .version, none => .version
    | .flag .help, none => .help
    | .unknown, none => .refused

/-- What the arguments of a command line amount to. -/
def Reading.ofArguments (arguments : List String) : Reading := readArguments {} none arguments

end ScalaFacade.Command
