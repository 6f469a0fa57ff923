import HtmlBuilder.Toml.Text

/-!
Dates and times. A date must exist in the calendar; a time may have a fraction
of a second, of which nine digits count, and behind a date an offset. The text
of a moment is a normal form of what is written.
-/

namespace HtmlBuilder.Toml

/-- A number of exactly two digits, within bounds. -/
def twoDigits? (low high : Nat) (input : List Char) :
    Option (Nat × List Char) :=
  match input with
  | a :: b :: rest =>
    let n := numberOf 10 [a, b]
    if a.isDigit && b.isDigit && low ≤ n && n ≤ high then
      some (n, rest)
    else none
  | _ => none

def expect? (c : Char) (input : List Char) : Option (List Char) :=
  match input with
  | d :: rest => if d == c then some rest else none
  | [] => none

def padded (width n : Nat) : String :=
  let digits := toString n
  String.ofList (List.replicate (width - digits.length) '0') ++ digits

def isLeapYear (year : Nat) : Bool :=
  year % 4 == 0 && (year % 100 != 0 || year % 400 == 0)

def daysIn (year month : Nat) : Nat :=
  match month with
  | 2 => if isLeapYear year then 29 else 28
  | 4 | 6 | 9 | 11 => 30
  | _ => 31

def readDate (input : List Char) : Option (String × List Char) :=
  match input with
  | a :: b :: c :: d :: rest => do
    if !([a, b, c, d].all Char.isDigit) then none
    let year := numberOf 10 [a, b, c, d]
    let (month, rest) ← twoDigits? 1 12 (← expect? '-' rest)
    let (day, rest) ← twoDigits? 1 (daysIn year month) (← expect? '-' rest)
    some (padded 4 year ++ "-" ++ padded 2 month ++ "-" ++ padded 2 day, rest)
  | _ => none

/-- The text of a fraction of a second: nine digits count and zeros at the end
do not. -/
def fractionText (digits : List Char) : String :=
  match (digits.take 9).reverse.dropWhile (· == '0') with
  | [] => ""
  | kept => String.ofList ('.' :: kept.reverse)

def readTime (input : List Char) : Option (String × List Char) := do
  let (hour, rest) ← twoDigits? 0 23 input
  let (minute, rest) ← twoDigits? 0 59 (← expect? ':' rest)
  let (second, rest) ← twoDigits? 0 60 (← expect? ':' rest)
  let text := padded 2 hour ++ ":" ++ padded 2 minute ++ ":" ++ padded 2 second
  match rest with
  | '.' :: fraction =>
    match fraction.takeWhile Char.isDigit with
    | [] => none
    | digits =>
      some (text ++ fractionText digits, fraction.dropWhile Char.isDigit)
  | rest => some (text, rest)

/-- Reads the offset of a time, which may be missing, and gives its text. -/
def readOffset (input : List Char) : Option (String × List Char) :=
  let signed := fun (sign : String) (rest : List Char) => do
    let (hour, rest) ← twoDigits? 0 23 rest
    let (minute, rest) ← twoDigits? 0 59 (← expect? ':' rest)
    let sign := if hour == 0 && minute == 0 then "+" else sign
    some (sign ++ padded 2 hour ++ ":" ++ padded 2 minute, rest)
  match input with
  | 'Z' :: rest | 'z' :: rest => some ("Z", rest)
  | '+' :: rest => signed "+" rest
  | '-' :: rest => signed "-" rest
  | rest => some ("", rest)

def readDateEnd (date : String) (input : List Char) :
    Option (String × List Char) :=
  match input with
  | c :: rest =>
    if c == 'T' || c == 't' || c == ' ' then
      match readTime rest with
      | some (time, rest) => do
        let (offset, rest) ← readOffset rest
        some (date ++ "T" ++ time ++ offset, rest)
      | none => some (date, input)
    else some (date, input)
  | [] => some (date, [])

def readMoment (input : List Char) : Option (String × List Char) :=
  match readDate input with
  | some (date, rest) => readDateEnd date rest
  | none => readTime input

end HtmlBuilder.Toml
