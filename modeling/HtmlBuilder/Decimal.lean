/-!
The shortest decimal text of a floating-point number: the fewest digits that
read back as the same number, and of those the ones nearest to it. The number is
taken apart into a whole number times a power of two, so that all comparisons
are exact.
-/

namespace HtmlBuilder.Decimal

/-- A positive number as a fraction, with the ends of the interval of all
numbers that are rounded to it, over the same denominator. -/
structure Interval where
  value : Nat
  low : Nat
  high : Nat
  denominator : Nat
  /-- Whether the ends themselves are rounded to the number. -/
  closed : Bool

/-- The interval around `mantissa` times two to the power `exponent - 1075`; at
a power of two the numbers below are closer together than the ones above. -/
def Interval.of (mantissa exponent : Nat) : Interval :=
  let nearBelow := mantissa == Nat.pow 2 52 && exponent > 1
  let scale := Nat.pow 2 exponent
  ⟨4 * mantissa * scale, (4 * mantissa - if nearBelow then 1 else 2) * scale,
    (4 * mantissa + 2) * scale, Nat.pow 2 1077, mantissa % 2 == 0⟩

/-- Whether the decimal number `digits` times ten to the power `power` is
rounded to the number. -/
def Interval.contains (interval : Interval) (digits : Nat)
    (power : Int) : Bool :=
  let scaled := digits * Nat.pow 10 power.toNat * interval.denominator
  let below := interval.low * Nat.pow 10 (-power).toNat
  let above := interval.high * Nat.pow 10 (-power).toNat
  if interval.closed then decide (below ≤ scaled) && decide (scaled ≤ above)
  else decide (below < scaled) && decide (scaled < above)

/-- The power of ten of the leading digit, found by at most `steps` steps from
`power` upwards. -/
def Interval.leadingFrom (interval : Interval) (power : Int) : Nat → Int
  | 0 => power
  | steps + 1 =>
    if interval.denominator * Nat.pow 10 (power + 1).toNat ≤
        interval.value * Nat.pow 10 (-(power + 1)).toNat then
      interval.leadingFrom (power + 1) steps
    else power

def Interval.leading (interval : Interval) : Int :=
  interval.leadingFrom (-330) 660

/-- The decimal number with the last digit at a given power of ten that is
rounded to the number, if there is one: of two the nearer one, and the greater
one of two that are equally near. -/
def Interval.onGrid? (interval : Interval) (power : Int) : Option Nat :=
  let numerator := interval.value * Nat.pow 10 (-power).toNat
  let unit := interval.denominator * Nat.pow 10 power.toNat
  let below := numerator / unit
  let above := below + 1
  let aboveIsNearer := unit ≤ 2 * (numerator - below * unit)
  match interval.contains below power, interval.contains above power with
  | true, true => some (if aboveIsNearer then above else below)
  | true, false => some below
  | false, true => some above
  | false, false => none

/-- The first of the grids from `count` digits on that has such a number. -/
def Interval.shortestFrom (interval : Interval) (leading : Int) (count : Nat) :
    Nat → Nat × Int
  | 0 => (0, 0)
  | steps + 1 =>
    let power := leading - count + 1
    match interval.onGrid? power with
    | some digits => (digits, power)
    | none => interval.shortestFrom leading (count + 1) steps

def Interval.shortest (interval : Interval) : Nat × Int :=
  interval.shortestFrom interval.leading 1 17

def positional (digits : Nat) (power : Int) : String :=
  let text := toString digits
  if power ≥ 0 then text ++ String.ofList (List.replicate power.toNat '0')
  else
    let places := (-power).toNat
    let padded := List.replicate (places + 1 - text.length) '0' ++ text.toList
    let whole := padded.take (padded.length - places)
    let fraction :=
      (padded.drop (padded.length - places)).reverse.dropWhile (· == '0')
    if fraction.isEmpty then String.ofList whole
    else String.ofList (whole ++ '.' :: fraction.reverse)

/-- The text of a number: never with an exponent, and a whole number without a
point. -/
def text (number : Float) : String :=
  let bits := number.toBits.toNat
  let sign := if bits ≥ Nat.pow 2 63 then "-" else ""
  let exponent := bits / Nat.pow 2 52 % 2048
  let fraction := bits % Nat.pow 2 52
  if exponent == 2047 then if fraction == 0 then sign ++ "inf" else "NaN"
  else if exponent == 0 && fraction == 0 then sign ++ "0"
  else
    let interval :=
      if exponent == 0 then Interval.of fraction 1
      else Interval.of (Nat.pow 2 52 + fraction) exponent
    let (digits, power) := interval.shortest
    sign ++ positional digits power

end HtmlBuilder.Decimal
