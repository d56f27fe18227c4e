import ScalaFacade.Text.IdentifierChar
import ScalaFacade.Text.Uppercase

/-! # Names in Scala

A source name is written plainly if Scala reads it back as that name, and between backticks if it is
a reserved word or no identifier. The same quoting serves declarations, members and parameters; a
package clause is stricter about which names are plain. Names that the source itself wrote in
quotes lose them first.
-/

set_option autoImplicit false

namespace ScalaFacade.Name

/-- The reserved words of Scala. -/
def reservedWords : List String :=
  ["abstract", "case", "catch", "class", "def", "do", "else", "extends", "false", "final",
    "finally", "for", "forSome", "if", "implicit", "import", "lazy", "macro", "match", "new",
    "null", "object", "override", "package", "private", "protected", "return", "sealed", "super",
    "then", "this", "throw", "trait", "try", "true", "type", "val", "var", "while", "with", "yield"]

/-- Whether a name is a reserved word. -/
def isReserved (name : String) : Bool := decide (name ∈ reservedWords)

/-- Whether a name is an identifier, which may have a dollar sign anywhere. -/
def isIdentifier (name : String) : Bool :=
  match name.toList with
  | [] => false
  | c :: cs =>
    (c == '_' || c == '$' || Text.isIdentifierStart c)
      && cs.all fun c => c == '$' || Text.isIdentifierContinue c

/-- A name between backticks. -/
def quote (name : String) : String := "`" ++ name ++ "`"

/-- A name as it is written in a declaration. -/
def escape (name : String) : String :=
  if isReserved name || !isIdentifier name then quote name else name

/-- Whether `c` is a letter of the English alphabet. -/
def isLetter (c : Char) : Bool := c.isUpper || c.isLower

/-- Whether a name consists of English letters, digits and underscores and does not start with a
digit. -/
def isPlainPackage (name : String) : Bool :=
  match name.toList with
  | [] => false
  | c :: cs => (c == '_' || isLetter c) && cs.all fun c => c == '_' || isLetter c || c.isDigit

/-- A name as it is written in a package clause. -/
def packageClause (name : String) : String :=
  if !isPlainPackage name || isReserved name then quote name else name

/-- A name with its first character in upper case. -/
def capitalize (name : String) : String :=
  match name.toList with
  | [] => ""
  | c :: cs => String.ofList (Text.uppercase c ++ cs)

/-- The characters that a name may be quoted with. -/
def quotes : List Char := ['"', '\'', '`']

/-- A name without its quotes, if it starts and ends with the same one. -/
def unquote (name : String) : String :=
  match name.toList with
  | [] => name
  | c :: cs =>
    if c ∈ quotes ∧ cs.getLast? = some c then String.ofList cs.dropLast else name

end ScalaFacade.Name
