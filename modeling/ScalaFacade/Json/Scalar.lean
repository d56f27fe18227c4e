import ScalaFacade.Json.Fault

/-! # Scalars

Reading of words, strings and numbers. Every function takes the rest of the text and gives back
what it leaves, so that the place of a fault is a matter of how much is left. A fault at a wrong
character is placed after the first byte of that character.
-/

set_option autoImplicit false

namespace ScalaFacade.Json

/-- The white space that may stand between the parts of a JSON text. -/
def isSpace (c : Char) : Bool := c == ' ' || c == '\n' || c == '\t' || c == '\r'

/-- The text without leading white space. -/
def skipSpace (s : List Char) : List Char := s.dropWhile isSpace

/-! ## Words -/

/-- Reads exactly the characters of `word`. -/
def readWord : (word : List Char) → List Char → Except Fault (List Char)
  | [], s => .ok s
  | _ :: _, [] => .error (.before .eofValue [])
  | w :: word, c :: s => if c = w then readWord word s else .error (.past .expectedWord (c :: s))

/-! ## Strings -/

/-- The value of a hexadecimal digit. -/
def hexDigit? (c : Char) : Option Nat :=
  if '0' ≤ c ∧ c ≤ '9' then some (c.toNat - '0'.toNat)
  else if 'a' ≤ c ∧ c ≤ 'f' then some (c.toNat - 'a'.toNat + 10)
  else if 'A' ≤ c ∧ c ≤ 'F' then some (c.toNat - 'A'.toNat + 10)
  else none

/-- The number written by four hexadecimal digits. -/
def hexQuad? (a b c d : Char) : Option Nat := do
  return (((← hexDigit? a) * 16 + (← hexDigit? b)) * 16 + (← hexDigit? c)) * 16 + (← hexDigit? d)

/-- The fault of a code-point escape whose four bytes, at the start of `s`, are not all digits. -/
def hexFault (s : List Char) : Fault :=
  if Text.byteLength s < 4 then .placed .eofString 0
  else .placed .invalidEscape (Text.byteLength s - 4)

/-- The character that a backslash and a letter stand for. -/
def simpleEscape? (c : Char) : Option Char :=
  if c = '"' then some '"'
  else if c = '\\' then some '\\'
  else if c = '/' then some '/'
  else if c = 'b' then some '\x08'
  else if c = 'f' then some '\x0c'
  else if c = 'n' then some '\n'
  else if c = 'r' then some '\r'
  else if c = 't' then some '\t'
  else none

/-- Whether `n` is the first half of a character beyond the basic plane. -/
def isLeading (n : Nat) : Bool := decide (0xD800 ≤ n) && decide (n ≤ 0xDBFF)

/-- Whether `n` is the second half of a character beyond the basic plane. -/
def isTrailing (n : Nat) : Bool := decide (0xDC00 ≤ n) && decide (n ≤ 0xDFFF)

/-- The fault where the second half of a character should follow in `s`. -/
def unfinishedFault (s : List Char) : Fault :=
  if s.isEmpty then .before .eofString [] else .past .unfinishedSurrogate s

/-- Reads a string up to its closing quote; `taken` holds its characters so far, last one first. -/
def readString (taken : List Char) : List Char → Outcome String
  | [] => .error (.before .eofString [])
  | c :: s =>
    if c = '"' then .ok (String.ofList taken.reverse, s)
    else if c = '\\' then
      match s with
      | [] => .error (.before .eofString [])
      | e :: s =>
        if e = 'u' then
          match s with
          | h₁ :: h₂ :: h₃ :: h₄ :: t =>
            match hexQuad? h₁ h₂ h₃ h₄ with
            | none => .error (hexFault s)
            | some n =>
              if isTrailing n then .error (.before .loneSurrogate t)
              else if isLeading n then
                match t with
                | [] => .error (unfinishedFault [])
                | b :: t =>
                  if b = '\\' then
                    match t with
                    | [] => .error (unfinishedFault [])
                    | u :: t =>
                      if u = 'u' then
                        match t with
                        | l₁ :: l₂ :: l₃ :: l₄ :: r =>
                          match hexQuad? l₁ l₂ l₃ l₄ with
                          | none => .error (hexFault t)
                          | some m =>
                            if isTrailing m then
                              readString
                                (Char.ofNat ((n - 0xD800) * 0x400 + (m - 0xDC00) + 0x10000) :: taken) r
                            else .error (.before .loneSurrogate r)
                        | _ => .error (hexFault t)
                      else .error (unfinishedFault (u :: t))
                  else .error (unfinishedFault (b :: t))
              else readString (Char.ofNat n :: taken) t
          | _ => .error (hexFault s)
        else
          match simpleEscape? e with
          | some escaped => readString (escaped :: taken) s
          | none => .error (.past .invalidEscape (e :: s))
    else if c.toNat < 0x20 then .error (.past .controlCharacter (c :: s))
    else readString (c :: taken) s

/-! ## Numbers -/

/-- The value of a decimal digit. -/
def digitValue (c : Char) : Nat := c.toNat - '0'.toNat

/-- The largest significand that is kept exactly. -/
def significandLimit : Nat := Nat.pow 2 64 - 1

/-- The largest written exponent that is taken as it is. -/
def exponentLimit : Nat := Nat.pow 2 31 - 1

/-- Appends digits to a significand until the next one would take it over the limit; the second
part of the result is the number of digits left out. -/
def appendDigits (significand : Nat) : List Char → Nat × Nat
  | [] => (significand, 0)
  | c :: digits =>
    let next := significand * 10 + digitValue c
    if next ≤ significandLimit then appendDigits next digits
    else (significand, digits.length + 1)

/-- `10 ^ n` as a floating-point number. -/
def powerOfTen (n : Nat) : Float := Float.ofScientific 1 false n

/-- Divides by `10 ^ exponent`, in steps that a floating-point number can hold. -/
def scaleDown (x : Float) (exponent : Nat) : Float :=
  if exponent ≤ 308 then x / powerOfTen exponent
  else if x == 0.0 then x
  else scaleDown (x / powerOfTen 308) (exponent - 308)
termination_by exponent

/-- `significand * 10 ^ exponent` in floating point: one conversion and one multiplication or
division by a power of ten, each rounded. Nothing if the result is too large. -/
def scale (significand : Nat) (exponent : Int) : Option Float :=
  let x := significand.toUInt64.toFloat
  if exponent < 0 then some (scaleDown x (-exponent).toNat)
  else if 308 < exponent then if x == 0.0 then some x else none
  else
    let scaled := x * powerOfTen exponent.toNat
    if scaled.isInf then none else some scaled

/-- The floating-point number `± significand * 10 ^ exponent`, read in front of `rest`. -/
def floatNumber (negative : Bool) (significand : Nat) (exponent : Int) (rest : List Char) :
    Outcome Number :=
  match scale significand exponent with
  | none => .error (.before .numberOutOfRange rest)
  | some x => .ok (.float (if negative then -x else x), rest)

/-- Reads the digits of an exponent; `reached` is the exponent so far. An exponent beyond the limit
makes the number zero or too large, whatever digits follow. -/
def readExponentDigits (negative down : Bool) (significand : Nat) (start : Int) (reached : Nat) :
    List Char → Outcome Number
  | [] => floatNumber negative significand (if down then start - reached else start + reached) []
  | c :: s =>
    if c.isDigit then
      let next := reached * 10 + digitValue c
      if next ≤ exponentLimit then readExponentDigits negative down significand start next s
      else if significand ≠ 0 ∧ !down then .error (.before .numberOutOfRange s)
      else .ok (.float (if negative then -0.0 else 0.0), s.dropWhile Char.isDigit)
    else floatNumber negative significand (if down then start - reached else start + reached) (c :: s)

/-- Reads what follows the letter of an exponent. -/
def readExponent (negative : Bool) (significand : Nat) (start : Int) (s : List Char) :
    Outcome Number :=
  let (down, s) :=
    match s with
    | '+' :: s => (false, s)
    | '-' :: s => (true, s)
    | s => (false, s)
  match s with
  | [] => .error (.before .eofValue [])
  | c :: _ =>
    if c.isDigit then readExponentDigits negative down significand start 0 s
    else .error (.past .invalidNumber s)

/-- Whether `c` opens an exponent. -/
def isExponentMark (c : Char) : Bool := c == 'e' || c == 'E'

/-- Reads what follows a decimal point. -/
def readFraction (negative : Bool) (significand leftOut : Nat) (s : List Char) : Outcome Number :=
  let digits := s.takeWhile Char.isDigit
  let rest := s.dropWhile Char.isDigit
  if digits.isEmpty then
    .error (.past (if rest.isEmpty then .eofValue else .invalidNumber) rest)
  else
    let (significand, ignored) := appendDigits significand digits
    let exponent : Int := Int.ofNat leftOut - Int.ofNat (digits.length - ignored)
    match rest with
    | c :: s =>
      if isExponentMark c then readExponent negative significand exponent s
      else floatNumber negative significand exponent (c :: s)
    | [] => floatNumber negative significand exponent []

/-- The integer `± significand`, or the floating-point number nearest to it where that is no
64-bit integer. Minus zero is a floating-point number. -/
def integerNumber (negative : Bool) (significand : Nat) : Number :=
  if !negative then .integer significand
  else if significand = 0 ∨ Nat.pow 2 63 < significand then .float (-significand.toUInt64.toFloat)
  else .integer (-Int.ofNat significand)

/-- Reads what follows the integer part of a number. -/
def readAfterInteger (negative : Bool) (significand leftOut : Nat) (s : List Char) :
    Outcome Number :=
  match s with
  | c :: rest =>
    if c = '.' then readFraction negative significand leftOut rest
    else if isExponentMark c then readExponent negative significand leftOut rest
    else if leftOut = 0 then .ok (integerNumber negative significand, s)
    else floatNumber negative significand leftOut s
  | [] =>
    if leftOut = 0 then .ok (integerNumber negative significand, [])
    else floatNumber negative significand leftOut []

/-- Reads a number, its sign apart. -/
def readNumber (negative : Bool) (s : List Char) : Outcome Number :=
  match s with
  | [] => .error (.before .eofValue [])
  | c :: rest =>
    if c = '0' then
      match rest with
      | d :: _ =>
        if d.isDigit then .error (.past .invalidNumber rest)
        else readAfterInteger negative 0 0 rest
      | [] => readAfterInteger negative 0 0 []
    else if c.isDigit then
      let (significand, leftOut) := appendDigits 0 (s.takeWhile Char.isDigit)
      readAfterInteger negative significand leftOut (s.dropWhile Char.isDigit)
    else .error (.past .invalidNumber s)

/-! ## All scalars -/

/-- Gives the rest of the text back together with `v`. -/
def constant (v : Value) (s : Except Fault (List Char)) : Outcome Value := s.map fun s => (v, s)

/-- Reads a value that is neither an array nor an object; nothing if `s` does not start with one. -/
def readScalar? : List Char → Option (Outcome Value)
  | [] => none
  | c :: s =>
    if c = 'n' then some (constant .null (readWord ['u', 'l', 'l'] s))
    else if c = 't' then some (constant (.boolean true) (readWord ['r', 'u', 'e'] s))
    else if c = 'f' then some (constant (.boolean false) (readWord ['a', 'l', 's', 'e'] s))
    else if c = '"' then some ((readString [] s).map fun (t, s) => (.string t, s))
    else if c = '-' then some ((readNumber true s).map fun (n, s) => (.number n, s))
    else if c.isDigit then some ((readNumber false (c :: s)).map fun (n, s) => (.number n, s))
    else none

/-- The fault of a value that starts `s` where something else is expected. A scalar is read first;
of an array or object nothing is. -/
def mismatch (expected : Expectation) (s : List Char) : Fault :=
  match readScalar? s with
  | some (.ok (v, rest)) => .before (.invalidType v.found expected) rest
  | some (.error fault) => fault
  | none =>
    match s with
    | '[' :: _ => .before (.invalidType .sequence expected) s
    | '{' :: _ => .before (.invalidType .map expected) s
    | _ => .past .expectedValue s

end ScalaFacade.Json
