import ScalaFacade.Decimal.FloatText
import ScalaFacade.Json.Value
import ScalaFacade.Text.Quoted

/-! # Why a JSON text is refused

A cause says what is wrong, independent of where. Three categories of causes exist: the text ends
too early, the text is not JSON, and the text is JSON but does not have the expected shape. The
wording of all messages is in this module and nowhere else.
-/

set_option autoImplicit false

namespace ScalaFacade.Json

/-- What would have been accepted in place of what was found. -/
inductive Expectation where
  | string
  | boolean
  | sequence
  | natural
  | unit
  | stringOrMap
  | singleKey
  | tag
  | record (name : String)
  | node (name : String)
  | recordOf (name : String) (count : Nat)
  | elements (count : Nat)

/-- A reason to refuse a text. -/
inductive Cause where
  | eofList
  | eofObject
  | eofString
  | eofValue
  | expectedColon
  | expectedListCommaOrEnd
  | expectedObjectCommaOrEnd
  | expectedWord
  | expectedValue
  | invalidEscape
  | invalidNumber
  | numberOutOfRange
  | loneSurrogate
  | unfinishedSurrogate
  | controlCharacter
  | keyNotString
  | trailingComma
  | trailingCharacters
  | nestedTooDeep
  | invalidType (found : Found) (expected : Expectation)
  | invalidValue (found : Found) (expected : Expectation)
  | invalidLength (length : Nat) (expected : Expectation)
  | missingField (name : String)
  | duplicateField (name : String)

/-- The kinds of causes. -/
inductive Category where
  | malformed
  | data
  | eof
deriving DecidableEq, Repr

/-- The kind of a cause. -/
def Cause.category : Cause → Category
  | .eofList | .eofObject | .eofString | .eofValue => .eof
  | .invalidType _ _ | .invalidValue _ _ | .invalidLength _ _ => .data
  | .missingField _ | .duplicateField _ => .data
  | _ => .malformed

/-- The name of what was found. -/
def Found.text : Found → String
  | .null => "null"
  | .boolean b => "boolean `" ++ (if b then "true" else "false") ++ "`"
  | .integer i => "integer `" ++ (if i < 0 then "-" else "") ++ Decimal.digitText i.natAbs ++ "`"
  | .float x => "floating point `" ++ Decimal.messageStyle.text x ++ "`"
  | .string s => "string " ++ Text.quoted s
  | .sequence => "sequence"
  | .map => "map"

/-- A number of elements in words. -/
def countedElements (count : Nat) : String :=
  if count = 1 then "1 element" else Decimal.digitText count ++ " elements"

/-- The name of what was expected. -/
def Expectation.text : Expectation → String
  | .string => "a string"
  | .boolean => "a boolean"
  | .sequence => "a sequence"
  | .natural => "usize"
  | .unit => "unit"
  | .stringOrMap => "string or map"
  | .singleKey => "map with a single key"
  | .tag => "variant identifier"
  | .record name => "struct " ++ name
  | .node name => "internally tagged enum " ++ name
  | .recordOf name count => "struct " ++ name ++ " with " ++ countedElements count
  | .elements count => countedElements count ++ " in sequence"

/-- The message of a cause. -/
def Cause.message : Cause → String
  | .eofList => "EOF while parsing a list"
  | .eofObject => "EOF while parsing an object"
  | .eofString => "EOF while parsing a string"
  | .eofValue => "EOF while parsing a value"
  | .expectedColon => "expected `:`"
  | .expectedListCommaOrEnd => "expected `,` or `]`"
  | .expectedObjectCommaOrEnd => "expected `,` or `\x7d`"
  | .expectedWord => "expected ident"
  | .expectedValue => "expected value"
  | .invalidEscape => "invalid escape"
  | .invalidNumber => "invalid number"
  | .numberOutOfRange => "number out of range"
  | .loneSurrogate => "lone leading surrogate in hex escape"
  | .unfinishedSurrogate => "unexpected end of hex escape"
  | .controlCharacter => "control character (\\u0000-\\u001F) found while parsing a string"
  | .keyNotString => "key must be a string"
  | .trailingComma => "trailing comma"
  | .trailingCharacters => "trailing characters"
  | .nestedTooDeep => "recursion limit exceeded"
  | .invalidType found expected => "invalid type: " ++ found.text ++ ", expected " ++ expected.text
  | .invalidValue found expected => "invalid value: " ++ found.text ++ ", expected " ++ expected.text
  | .invalidLength length expected =>
    "invalid length " ++ Decimal.digitText length ++ ", expected " ++ expected.text
  | .missingField name => "missing field `" ++ name ++ "`"
  | .duplicateField name => "duplicate field `" ++ name ++ "`"

end ScalaFacade.Json
