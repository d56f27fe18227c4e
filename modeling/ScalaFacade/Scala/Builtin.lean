import ScalaFacade.Declaration.Tree

/-! # Built-in types

The Scala.js counterparts of the types that the source language has built in: its keywords, its
literals, and the global names that go by another name in Scala.js.
-/

set_option autoImplicit false

namespace ScalaFacade

namespace Scala

/-- The type of everything, which also stands for all that has no counterpart. -/
def any : String := "js.Any"

/-- The type without information. -/
def unit : String := "Unit"

/-- The type of strings. -/
def string : String := "String"

/-- The type of the null reference. -/
def null : String := "Null"

/-- The global names that have another name in Scala.js. -/
def renamedGlobals : List (String × String) :=
  [("null", "Null"),
    ("undefined", "Unit"),
    ("Float32Array", "js.typedarray.Float32Array"),
    ("Float64Array", "js.typedarray.Float64Array"),
    ("Uint8Array", "js.typedarray.Uint8Array"),
    ("Uint16Array", "js.typedarray.Uint16Array"),
    ("Uint32Array", "js.typedarray.Uint32Array"),
    ("Int8Array", "js.typedarray.Int8Array"),
    ("Int16Array", "js.typedarray.Int16Array"),
    ("Int32Array", "js.typedarray.Int32Array"),
    ("Uint8ClampedArray", "js.typedarray.Uint8ClampedArray"),
    ("ArrayBuffer", "js.typedarray.ArrayBuffer"),
    ("ArrayBufferView", "js.typedarray.ArrayBufferView"),
    ("DataView", "js.typedarray.DataView"),
    ("PromiseLike", "js.Thenable")]

/-- The name of a global type in Scala.js, if it is another one. -/
def renamed? (name : String) : Option String := renamedGlobals.lookup name

end Scala

/-- The type that stands for a keyword. -/
def Keyword.scala : Keyword → String
  | .string => Scala.string
  | .number => "Double"
  | .boolean => "Boolean"
  | .void | .undefined => Scala.unit
  | .any => Scala.any
  | .object => "js.Object"
  | .never => "Nothing"
  | .this => "this.type"
  | .null => Scala.null
  | .unknown | .symbol | .bigint | .other => Scala.any

/-- Whether the text of a literal has a decimal point. -/
def Literal.hasPoint (literal : Literal) : Bool := decide ('.' ∈ literal.text.toList)

/-- The type that stands for a literal: numbers with a point are fractional, all others integral. -/
def Literal.scala (literal : Literal) : String :=
  match literal.kind with
  | .string => Scala.string
  | .boolean => "Boolean"
  | .number => if literal.hasPoint then "Double" else "Int"
  | .other => Scala.any

/-- The type that stands for an operator applied to whatever type. -/
def TypeOperator.scala : TypeOperator → String
  | .keyof => Scala.string
  | .readonly | .unique | .other => Scala.any

end ScalaFacade
