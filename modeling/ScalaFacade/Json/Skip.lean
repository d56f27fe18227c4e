import ScalaFacade.Json.Container

/-! # Values that nobody asks for

The value of an unknown key is passed over without being built. It only has to be well bracketed
and made of well-formed scalars: it may be nested to any depth, its numbers may be too large and its
escapes may be halves of characters. The open brackets are kept as a list, innermost first.
-/

set_option autoImplicit false

namespace ScalaFacade.Json

/-- An array or object whose end has not been reached. -/
inductive Bracket where
  | array
  | object
deriving DecidableEq

/-- The character that closes a bracket. -/
def Bracket.closing : Bracket → Char
  | .array => ']'
  | .object => '}'

/-- The cause of a text that ends inside a bracket. -/
def Bracket.eof : Bracket → Cause
  | .array => .eofList
  | .object => .eofObject

/-- The cause of a missing comma inside a bracket. -/
def Bracket.expectedComma : Bracket → Cause
  | .array => .expectedListCommaOrEnd
  | .object => .expectedObjectCommaOrEnd

/-! ## Scalars -/

/-- Passes over a string up to its closing quote. -/
def skipString : List Char → Except Fault (List Char)
  | [] => .error (.before .eofString [])
  | c :: s =>
    if c = '"' then .ok s
    else if c = '\\' then
      match s with
      | [] => .error (.before .eofString [])
      | e :: s =>
        if e = 'u' then
          match s with
          | h₁ :: h₂ :: h₃ :: h₄ :: t =>
            match hexQuad? h₁ h₂ h₃ h₄ with
            | none => .error (hexFault s)
            | some _ => skipString t
          | _ => .error (hexFault s)
        else if (simpleEscape? e).isSome then skipString s
        else .error (.past .invalidEscape (e :: s))
    else if c.toNat < 0x20 then .error (.before .controlCharacter (c :: s))
    else skipString s

/-- Passes over what follows the letter of an exponent. -/
def skipExponent (s : List Char) : Except Fault (List Char) :=
  let s :=
    match s with
    | '+' :: s => s
    | '-' :: s => s
    | s => s
  match s with
  | [] => .error (.past .invalidNumber [])
  | c :: rest =>
    if c.isDigit then .ok (rest.dropWhile Char.isDigit) else .error (.past .invalidNumber s)

/-- Passes over what follows a decimal point. -/
def skipFraction (s : List Char) : Except Fault (List Char) :=
  if (s.takeWhile Char.isDigit).isEmpty then .error (.past .invalidNumber s)
  else
    match s.dropWhile Char.isDigit with
    | [] => .ok []
    | c :: rest => if isExponentMark c then skipExponent rest else .ok (c :: rest)

/-- Passes over what follows the integer part of a number. -/
def skipAfterInteger (s : List Char) : Except Fault (List Char) :=
  match s with
  | [] => .ok []
  | c :: rest =>
    if c = '.' then skipFraction rest
    else if isExponentMark c then skipExponent rest
    else .ok s

/-- Passes over a number, its sign apart. -/
def skipNumber (s : List Char) : Except Fault (List Char) :=
  match s with
  | [] => .error (.past .invalidNumber [])
  | c :: rest =>
    if c = '0' then
      match rest with
      | [] => .ok []
      | d :: _ => if d.isDigit then .error (.past .invalidNumber rest) else skipAfterInteger rest
    else if c.isDigit then skipAfterInteger (s.dropWhile Char.isDigit)
    else .error (.past .invalidNumber s)

/-- Passes over a scalar; nothing if `s` does not start with one. -/
def skipScalar? : List Char → Option (Except Fault (List Char))
  | [] => none
  | c :: s =>
    if c = 'n' then some (readWord ['u', 'l', 'l'] s)
    else if c = 't' then some (readWord ['r', 'u', 'e'] s)
    else if c = 'f' then some (readWord ['a', 'l', 's', 'e'] s)
    else if c = '"' then some (skipString s)
    else if c = '-' then some (skipNumber s)
    else if c.isDigit then some (skipNumber (c :: s))
    else none

/-! ## Brackets -/

/-- What comes next after a value or an opening bracket. -/
inductive Onward where
  /-- All brackets are closed. -/
  | done (rest : List Char)
  /-- Another value follows inside these brackets. -/
  | more (brackets : List Bracket) (rest : List Char)

/-- Passes over a key and its colon if the innermost bracket is that of an object. -/
def skipKey (brackets : List Bracket) (s : List Char) : Except Fault Onward :=
  match brackets with
  | .object :: _ =>
    match skipSpace s with
    | [] => .error (.past .eofObject [])
    | c :: s =>
      if c = '"' then do
        let s ← readColon (← skipString s)
        return .more brackets s
      else .error (.past .keyNotString (c :: s))
  | _ => .ok (.more brackets s)

/-- Goes on after a value: closes brackets as far as the text does, up to the next comma. -/
def afterValue : (brackets : List Bracket) → List Char → Except Fault Onward
  | [], s => .ok (.done s)
  | bracket :: outer, s =>
    match skipSpace s with
    | [] => .error (.past bracket.eof [])
    | c :: s =>
      if c = ',' then skipKey (bracket :: outer) s
      else if c = bracket.closing then afterValue outer s
      else .error (.past bracket.expectedComma (c :: s))

/-- Goes on after an opening bracket, which may be closed at once. -/
def afterOpening (bracket : Bracket) (outer : List Bracket) (s : List Char) : Except Fault Onward :=
  match skipSpace s with
  | [] => .error (.past bracket.eof [])
  | c :: s =>
    if c = bracket.closing then afterValue outer s else skipKey (bracket :: outer) (c :: s)

/-- Passes over the values that are due inside `brackets`, at most `bound` of them. -/
def skipValues : (bound : Nat) → (brackets : List Bracket) → List Char → Except Fault (List Char)
  | 0, _, s => .error (.past .eofValue s)
  | bound + 1, brackets, s =>
    let s := skipSpace s
    let onward : Except Fault Onward :=
      match skipScalar? s with
      | some outcome => outcome.bind (afterValue brackets)
      | none =>
        match s with
        | [] => .error (.past .eofValue [])
        | c :: rest =>
          if c = '[' then afterOpening .array brackets rest
          else if c = '{' then afterOpening .object brackets rest
          else .error (.past .expectedValue s)
    match onward with
    | .error fault => .error fault
    | .ok (.done s) => .ok s
    | .ok (.more brackets s) => skipValues bound brackets s

/-- Passes over one value. -/
def skipValue (bound : Nat) (s : List Char) : Except Fault (List Char) := skipValues bound [] s

end ScalaFacade.Json
