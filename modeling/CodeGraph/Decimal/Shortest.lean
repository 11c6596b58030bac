/-!
# The shortest decimal of a floating-point number

A finite double is `m * 2^q`.  All reals closer to it than to another double read back as it, and
so do the two midpoints when `m` is even.  Of the decimals in that interval the shortest is chosen,
and of several with as many digits the nearest.
-/

set_option autoImplicit false

namespace CodeGraph.Decimal

/-- A positive binary number `significand * 2^exponent`. -/
structure Binary where
  significand : Nat
  exponent : Int

/-- A decimal number `significand * 10^exponent`. -/
structure Numeral where
  significand : Nat
  exponent : Int

/-- The leading bit of a significand, which the bits of a double leave out. -/
def hiddenBit : Nat := 4503599627370496

def Binary.ofBits (bits : UInt64) : Binary :=
  let fraction : Nat := bits.toNat % hiddenBit
  let biased : Nat := bits.toNat / hiddenBit % 2048
  if biased = 0 then ⟨fraction, -1074⟩ else ⟨fraction + hiddenBit, biased - 1075⟩

/-- The interval of the reals that read back as a double, and the double itself, in units of a
fixed real: each bound is a multiple of the unit, and `closed` says whether the bounds belong. -/
structure Interval where
  lower : Nat
  value : Nat
  upper : Nat
  closed : Bool

/-- The interval around a binary number in quarters of its last place.  Below a power of two the
neighbour is half as far away as above it. -/
def Binary.interval (b : Binary) : Interval :=
  let atPower := b.significand = hiddenBit ∧ b.exponent ≠ -1074
  ⟨4 * b.significand - (if atPower then 1 else 2), 4 * b.significand, 4 * b.significand + 2,
    b.significand % 2 = 0⟩

def Interval.holds (i : Interval) (position scale : Nat) : Bool :=
  if i.closed then
    i.lower * scale ≤ position && position ≤ i.upper * scale
  else
    i.lower * scale < position && position < i.upper * scale

/-- The point of the grid of multiples of `10^grid` that lies in the interval, the nearer one if
both neighbours of the value do. -/
def Binary.onGrid? (b : Binary) (grid : Int) : Option Nat :=
  let quarter := b.exponent - 2
  let scale := Nat.pow 2 quarter.toNat * Nat.pow 10 (-grid).toNat
  let unit := Nat.pow 2 (-quarter).toNat * Nat.pow 10 grid.toNat
  let i := b.interval
  let below := i.value * scale / unit
  let above := below + 1
  match i.holds (below * unit) scale && 0 < below, i.holds (above * unit) scale with
  | true, true =>
      let gapBelow := i.value * scale - below * unit
      let gapAbove := above * unit - i.value * scale
      some (if gapBelow < gapAbove ∨ (gapBelow = gapAbove ∧ below % 2 = 0) then below else above)
  | true, false => some below
  | false, true => some above
  | false, false => none

/-- Tries ever finer grids, beginning with the multiples of `10^grid`. -/
def Binary.shortestFrom (b : Binary) : Nat → Int → Numeral
  | 0, grid => ⟨0, grid⟩
  | attempts + 1, grid =>
      match b.onGrid? grid with
      | some significand => ⟨significand, grid⟩
      | none => b.shortestFrom attempts (grid - 1)

/-- The shortest decimal that reads back as a positive double.  The coarsest grid tried is beyond
the largest double, and the finest has the smallest one on it. -/
def Binary.shortest (b : Binary) : Numeral :=
  b.shortestFrom 650 310

structure Layout where
  /-- The least exponent of the leading digit that is written without an exponent. -/
  leastPositional : Int
  /-- The greatest exponent of the leading digit that is written without an exponent. -/
  greatestPositional : Int

/-- Numbers of a JSON text: positional from `0.00001` up to sixteen digits before the point. -/
def Layout.json : Layout := ⟨-5, 15⟩

/-- The text of digits with the exponent of the leading one: with a point and at least one digit
on both sides of it, or with a signed exponent. -/
def Layout.render (layout : Layout) (digits : List Char) (leading : Int) : List Char :=
  if layout.leastPositional ≤ leading ∧ leading ≤ layout.greatestPositional then
    if leading < 0 then
      ['0', '.'] ++ List.replicate (-leading - 1).toNat '0' ++ digits
    else
      let whole := leading.toNat + 1
      let fraction := digits.drop whole
      digits.take whole ++ List.replicate (whole - digits.length) '0' ++ ['.']
        ++ (if fraction.isEmpty then ['0'] else fraction)
  else
    let mantissa := match digits with
      | [] => []
      | [digit] => [digit]
      | digit :: fraction => digit :: '.' :: fraction
    mantissa ++ ['e', if leading < 0 then '-' else '+'] ++ Nat.toDigits 10 leading.natAbs

def significantDigits (n : Nat) : List Char :=
  ((Nat.toDigits 10 n).reverse.dropWhile (· = '0')).reverse

def Layout.text (layout : Layout) (number : Float) : List Char :=
  let bits := number.toBits
  let b := Binary.ofBits bits
  let sign := if UInt64.size / 2 ≤ bits.toNat then ['-'] else []
  if b.significand = 0 then
    sign ++ ['0', '.', '0']
  else
    let d := b.shortest
    let leading := d.exponent + (Nat.toDigits 10 d.significand).length - 1
    sign ++ layout.render (significantDigits d.significand) leading

end CodeGraph.Decimal
