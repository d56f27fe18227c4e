/-! # JSON values

A value keeps everything that a later decision can depend on: the entries of an object stay in the
order of the text, repeated keys included, and a number is an integer exactly if it was written as
one and fits in 64 bits.
-/

set_option autoImplicit false

namespace ScalaFacade.Json

/-- A number. -/
inductive Number where
  | integer (value : Int)
  | float (value : Float)

/-- A JSON value. -/
inductive Value where
  | null
  | boolean (value : Bool)
  | number (value : Number)
  | string (value : String)
  | array (elements : List Value)
  | object (entries : List (String × Value))

/-- What a value is, as a message about it says. -/
inductive Found where
  | null
  | boolean (value : Bool)
  | integer (value : Int)
  | float (value : Float)
  | string (value : String)
  | sequence
  | map

/-- What a message says that `v` is. -/
def Value.found : Value → Found
  | .null => .null
  | .boolean b => .boolean b
  | .number (.integer i) => .integer i
  | .number (.float x) => .float x
  | .string s => .string s
  | .array _ => .sequence
  | .object _ => .map

end ScalaFacade.Json
