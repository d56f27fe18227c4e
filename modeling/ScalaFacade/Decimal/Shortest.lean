/-! # The shortest decimal of a binary number

A binary floating-point number stands for a whole interval of reals, those that round to it. Among
the decimals of that interval the one with the fewest digits is the one to print, and of two such
the nearer. Everything here is exact arithmetic on natural numbers: a candidate is tested against
the ends of the interval, on grids of powers of ten from coarse to fine.
-/

set_option autoImplicit false

namespace ScalaFacade.Decimal

/-- A positive binary number `significand * 2 ^ exponent`. When `atEdge` holds, the number below it
is only half a unit away, so its interval is shorter on that side. -/
structure Binary where
  significand : Nat
  exponent : Int
  atEdge : Bool

/-- The parts of a positive finite number, read off its 64 bits. -/
def Binary.ofFloat (x : Float) : Binary :=
  let bits : Nat := x.toBits.toNat
  let fraction : Nat := bits % Nat.pow 2 52
  let biased : Nat := bits / Nat.pow 2 52 % Nat.pow 2 11
  if biased = 0 then ⟨fraction, -1074, false⟩
  else ⟨fraction + Nat.pow 2 52, Int.ofNat biased - 1075, fraction == 0 && decide (1 < biased)⟩

/-- A decimal `digits * 10 ^ exponent`. -/
structure Scientific where
  digits : Nat
  exponent : Int
deriving DecidableEq, Repr

/-- The multiple of `10 ^ grid` that stands for `b`: one of its two neighbours on the grid, if that
lies in the interval of `b`; the nearer one if both do, the even one if they are equally near. -/
def Binary.onGrid (b : Binary) (grid : Int) : Option Scientific :=
  -- In quarters of a unit of `b`, the interval reaches two up and one or two down.
  let value := 4 * b.significand
  let low := value - (if b.atEdge then 1 else 2)
  let high := value + 2
  let unit := b.exponent - 2
  let num := Nat.pow 2 unit.toNat * Nat.pow 10 (-grid).toNat
  let den := Nat.pow 2 (-unit).toNat * Nat.pow 10 grid.toNat
  let inside (n : Nat) : Bool :=
    if b.significand % 2 = 0 then decide (low * num ≤ n * den) && decide (n * den ≤ high * num)
    else decide (low * num < n * den) && decide (n * den < high * num)
  let below := value * num / den
  let above := below + 1
  match inside below, inside above with
  | false, false => none
  | true, false => some ⟨below, grid⟩
  | false, true => some ⟨above, grid⟩
  | true, true =>
    let twice := 2 * value * num
    let middle := (2 * below + 1) * den
    if twice < middle then some ⟨below, grid⟩
    else if middle < twice then some ⟨above, grid⟩
    else if below % 2 = 0 then some ⟨below, grid⟩
    else some ⟨above, grid⟩

/-- The first hit on the grids `grid`, `grid - 1`, … of which `steps` are tried. -/
def Binary.search (b : Binary) : (steps : Nat) → (grid : Int) → Scientific
  | 0, grid => ⟨0, grid⟩
  | steps + 1, grid =>
    match b.onGrid grid with
    | some decimal => decimal
    | none => b.search steps (grid - 1)

/-- The shortest decimal of `b`. The largest number is below `10 ^ 309`, and seventeen digits
always suffice, so the search over all grids down to that of the smallest number ends with a hit. -/
def Binary.shortest (b : Binary) : Scientific := b.search 660 309

end ScalaFacade.Decimal
