import HtmlBuilder.Toml.Text

/-!
Numbers. Integers are written in base ten, or without a sign in base sixteen,
eight or two, and have 64 bits. Floating-point numbers have a fraction or an
exponent. Underscores may stand between digits. A number too large for a
floating-point number is refused, unless it is negative.
-/

namespace HtmlBuilder.Toml

/-- Reads digits with underscores between them; `done` holds the digits read,
newest first. -/
def readDigitsFrom (isDigit : Char → Bool) (done : List Char) :
    List Char → Option (List Char × List Char)
  | '_' :: c :: rest =>
    if isDigit c then readDigitsFrom isDigit (c :: done) rest else none
  | c :: rest =>
    if isDigit c then readDigitsFrom isDigit (c :: done) rest
    else some (done.reverse, c :: rest)
  | [] => some (done.reverse, [])

/-- Reads at least one digit, with underscores between digits. -/
def readDigits (isDigit : Char → Bool) (input : List Char) :
    Option (List Char × List Char) :=
  match input with
  | c :: rest => if isDigit c then readDigitsFrom isDigit [c] rest else none
  | [] => none

/-- Reads digits in base ten that do not begin with a superfluous zero. -/
def readWhole (input : List Char) : Option (List Char × List Char) :=
  match input with
  | '0' :: rest => some (['0'], rest)
  | input => readDigits Char.isDigit input

/-- An integer, if it has 64 bits. -/
def integer? (negative : Bool) (n : Nat) : Option Value :=
  if negative then if n ≤ Nat.pow 2 63 then some (.integer (-n)) else none
  else if n < Nat.pow 2 63 then some (.integer n) else none

/-- The largest power of ten that is told apart from infinity. -/
def maxExponent : Nat := 400

/-- The number with the given digits times a power of ten, rounded to the
nearest one that can be represented. -/
def floatOf (digits : List Char) (power : Int) : Float :=
  let n := numberOf 10 digits
  let size := (toString n).length
  if n == 0 then 0
  else if power + size > maxExponent then 1 / 0
  else if power + size < -(maxExponent : Int) then 0
  else Float.ofScientific n (decide (power < 0)) power.natAbs

def float? (negative : Bool) (number : Float) : Option Value :=
  if negative then some (.float (-number))
  else if number.isInf then none
  else some (.float number)

def readExponent (input : List Char) : Option (Int × List Char) :=
  match input with
  | '-' :: rest =>
    (readDigits Char.isDigit rest).map fun (digits, rest) =>
      (-(numberOf 10 digits : Int), rest)
  | '+' :: rest =>
    (readDigits Char.isDigit rest).map fun (digits, rest) =>
      ((numberOf 10 digits : Int), rest)
  | rest =>
    (readDigits Char.isDigit rest).map fun (digits, rest) =>
      ((numberOf 10 digits : Int), rest)

def readScaled (negative : Bool) (whole fraction : List Char)
    (input : List Char) : Option (Value × List Char) :=
  let finish := fun (exponent : Int) (rest : List Char) =>
    (float? negative
      (floatOf (whole ++ fraction) (exponent - fraction.length))).map (·, rest)
  match input with
  | 'e' :: rest | 'E' :: rest => do
    let (exponent, rest) ← readExponent rest
    finish exponent rest
  | rest => finish 0 rest

def readUnsigned (negative : Bool) (input : List Char) :
    Option (Value × List Char) :=
  match input with
  | 'i' :: 'n' :: 'f' :: rest =>
    some (.float (if negative then -(1 / 0) else 1 / 0), rest)
  | 'n' :: 'a' :: 'n' :: rest => some (.float (0 / 0), rest)
  | input => do
    let (whole, rest) ← readWhole input
    match rest with
    | '.' :: rest => do
      let (fraction, rest) ← readDigits Char.isDigit rest
      readScaled negative whole fraction rest
    | 'e' :: _ | 'E' :: _ => readScaled negative whole [] rest
    | rest => (integer? negative (numberOf 10 whole)).map (·, rest)

def readBased (base : Nat) (isDigit : Char → Bool) (input : List Char) :
    Option (Value × List Char) := do
  let (digits, rest) ← readDigits isDigit input
  let value ← integer? false (numberOf base digits)
  some (value, rest)

def readNumber (input : List Char) : Option (Value × List Char) :=
  match input with
  | '+' :: rest => readUnsigned false rest
  | '-' :: rest => readUnsigned true rest
  | '0' :: 'x' :: rest => readBased 16 isHexDigit rest
  | '0' :: 'o' :: rest => readBased 8 (fun c => '0' ≤ c && c ≤ '7') rest
  | '0' :: 'b' :: rest => readBased 2 (fun c => c == '0' || c == '1') rest
  | input => readUnsigned false input

end HtmlBuilder.Toml
