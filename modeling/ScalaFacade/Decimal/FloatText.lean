import ScalaFacade.Decimal.Shortest

/-! # How a floating-point number is written

The digits are the shortest that read back; this module decides where they go. Numbers of ordinary
size are written positionally and always with a point, all others with an exponent that carries its
sign.
-/

set_option autoImplicit false

namespace ScalaFacade.Decimal

/-- The range of decimal exponents that are written positionally. -/
structure FloatStyle where
  lowestPlain : Int
  highestPlain : Int

/-- The style of numbers quoted in messages. -/
def messageStyle : FloatStyle := ⟨-5, 15⟩

/-- `count` zeros. -/
def zeros (count : Nat) : String := String.ofList (List.replicate count '0')

/-- The decimal digits of a natural number. -/
def digitText (n : Nat) : String := String.ofList (Nat.toDigits 10 n)

/-- An exponent with its sign. -/
def exponentText (exponent : Int) : String :=
  (if exponent < 0 then "-" else "+") ++ digitText exponent.natAbs

/-- The text of a positive decimal. -/
def FloatStyle.decimalText (style : FloatStyle) (d : Scientific) : String :=
  let digits := Nat.toDigits 10 d.digits
  let leading : Int := d.exponent + digits.length - 1
  if style.lowestPlain ≤ leading ∧ leading ≤ style.highestPlain then
    if 0 ≤ d.exponent then String.ofList digits ++ zeros d.exponent.toNat ++ ".0"
    else if 0 ≤ leading then
      let whole := (leading + 1).toNat
      String.ofList (digits.take whole) ++ "." ++ String.ofList (digits.drop whole)
    else "0." ++ zeros (-leading - 1).toNat ++ String.ofList digits
  else
    let point := if digits.length = 1 then "" else "."
    String.ofList (digits.take 1) ++ point ++ String.ofList (digits.drop 1)
      ++ "e" ++ exponentText leading

/-- The text of a finite number. Zero keeps its sign. -/
def FloatStyle.text (style : FloatStyle) (x : Float) : String :=
  let sign := if x.toBits.toNat < Nat.pow 2 63 then "" else "-"
  let magnitude := x.abs
  if magnitude == 0.0 then sign ++ "0.0"
  else sign ++ style.decimalText (Binary.ofFloat magnitude).shortest

end ScalaFacade.Decimal
