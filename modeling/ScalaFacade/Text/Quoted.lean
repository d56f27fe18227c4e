import ScalaFacade.Text.Printable

/-! # Text quoted in messages

A text that a message cites stands between double quotes. The quote, the backslash and a few
control characters are written with a backslash, and so is, by its code point in hexadecimal, every
character that would not show on its own.
-/

set_option autoImplicit false

namespace ScalaFacade.Text

/-- A character by its code point. -/
def codePointText (c : Char) : String :=
  "\\u\x7b" ++ String.ofList (Nat.toDigits 16 c.toNat) ++ "\x7d"

/-- One character of a quoted text. -/
def quotedChar (c : Char) : String :=
  if c = '\x00' then "\\0"
  else if c = '\t' then "\\t"
  else if c = '\r' then "\\r"
  else if c = '\n' then "\\n"
  else if c = '"' then "\\\""
  else if c = '\\' then "\\\\"
  else if standsAlone c then c.toString
  else codePointText c

/-- A text as a message cites it. -/
def quoted (text : String) : String :=
  "\"" ++ text.foldl (fun written c => written ++ quotedChar c) "" ++ "\""

end ScalaFacade.Text
