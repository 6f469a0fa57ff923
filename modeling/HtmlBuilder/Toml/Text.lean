import HtmlBuilder.Toml.Value

/-!
Strings and keys. A string stands in double quotes, with escapes, or in single
quotes, without; in three quotes of either kind it may span lines. A key is a
string or a bare word, and dots make a path of keys.
-/

namespace HtmlBuilder.Toml

def isHexDigit (c : Char) : Bool :=
  c.isDigit || ('a' ≤ c && c ≤ 'f') || ('A' ≤ c && c ≤ 'F')

def digitValue (c : Char) : Nat :=
  if c.isDigit then c.toNat - '0'.toNat else c.toLower.toNat - 'a'.toNat + 10

def numberOf (base : Nat) (digits : List Char) : Nat :=
  digits.foldl (fun n c => n * base + digitValue c) 0

def escapedNumber? (digits : List Char) : Option Char :=
  let n := numberOf 16 digits
  if digits.all isHexDigit && n.isValidChar then some (Char.ofNat n) else none

def escapedLetter? (c : Char) : Option Char :=
  match c with
  | 'b' => some '\x08'
  | 't' => some '\t'
  | 'n' => some '\n'
  | 'f' => some '\x0c'
  | 'r' => some '\r'
  | '"' => some '"'
  | '\\' => some '\\'
  | _ => none

/-- Reads a string on one line behind its opening double quote. -/
def readBasic (done : List Char) : List Char → Option (List Char × List Char)
  | '"' :: rest => some (done.reverse, rest)
  | '\\' :: 'u' :: a :: b :: c :: d :: rest =>
    match escapedNumber? [a, b, c, d] with
    | some char => readBasic (char :: done) rest
    | none => none
  | '\\' :: 'U' :: a :: b :: c :: d :: e :: f :: g :: h :: rest =>
    match escapedNumber? [a, b, c, d, e, f, g, h] with
    | some char => readBasic (char :: done) rest
    | none => none
  | '\\' :: letter :: rest =>
    match escapedLetter? letter with
    | some char => readBasic (char :: done) rest
    | none => none
  | c :: rest =>
    if isPrintable c && c != '\\' then readBasic (c :: done) rest else none
  | [] => none

def readLiteral (done : List Char) : List Char → Option (List Char × List Char)
  | '\'' :: rest => some (done.reverse, rest)
  | c :: rest => if isPrintable c then readLiteral (c :: done) rest else none
  | [] => none

/-- Whether nothing but space stands before the next line break. -/
def isLineLeft (input : List Char) : Bool :=
  (lineBreak? (skipSpace input)).isSome

/-- Reads a string of several lines behind its opening double quotes. A
backslash at the end of a line takes away all space up to the next character, as
`trim` tells. Up to two quotes may stand before the closing ones. -/
def readLongBasic (trim : Bool) (done : List Char) :
    List Char → Option (List Char × List Char)
  | '\n' :: rest =>
    readLongBasic trim (if trim then done else '\n' :: done) rest
  | '\r' :: '\n' :: rest =>
    readLongBasic trim (if trim then done else '\n' :: done) rest
  | '"' :: '"' :: '"' :: '"' :: '"' :: rest =>
    some (('"' :: '"' :: done).reverse, rest)
  | '"' :: '"' :: '"' :: '"' :: rest => some (('"' :: done).reverse, rest)
  | '"' :: '"' :: '"' :: rest => some (done.reverse, rest)
  | '\\' :: 'u' :: a :: b :: c :: d :: rest =>
    match escapedNumber? [a, b, c, d] with
    | some char => readLongBasic false (char :: done) rest
    | none => none
  | '\\' :: 'U' :: a :: b :: c :: d :: e :: f :: g :: h :: rest =>
    match escapedNumber? [a, b, c, d, e, f, g, h] with
    | some char => readLongBasic false (char :: done) rest
    | none => none
  | '\\' :: letter :: rest =>
    if isLineLeft (letter :: rest) then readLongBasic true done rest
    else match escapedLetter? letter with
      | some char => readLongBasic false (char :: done) rest
      | none => none
  | c :: rest =>
    if trim && isSpace c then readLongBasic true done rest
    else if isPrintable c && c != '\\' then readLongBasic false (c :: done) rest
    else none
  | [] => none

def readLongLiteral (done : List Char) :
    List Char → Option (List Char × List Char)
  | '\n' :: rest => readLongLiteral ('\n' :: done) rest
  | '\r' :: '\n' :: rest => readLongLiteral ('\n' :: done) rest
  | '\'' :: '\'' :: '\'' :: '\'' :: '\'' :: rest =>
    some (('\'' :: '\'' :: done).reverse, rest)
  | '\'' :: '\'' :: '\'' :: '\'' :: rest => some (('\'' :: done).reverse, rest)
  | '\'' :: '\'' :: '\'' :: rest => some (done.reverse, rest)
  | c :: rest =>
    if isPrintable c then readLongLiteral (c :: done) rest else none
  | [] => none

/-- Reads a string of any kind. A line break at the start of a string of several
lines does not count. -/
def readString (input : List Char) : Option (List Char × List Char) :=
  match input with
  | '"' :: '"' :: '"' :: rest =>
    readLongBasic false [] ((lineBreak? rest).getD rest)
  | '\'' :: '\'' :: '\'' :: rest =>
    readLongLiteral [] ((lineBreak? rest).getD rest)
  | '"' :: rest => readBasic [] rest
  | '\'' :: rest => readLiteral [] rest
  | _ => none

def isBareKey (c : Char) : Bool :=
  c.isAlphanum || c == '_' || c == '-'

def readKey (input : List Char) : Option (String × List Char) :=
  match input with
  | '"' :: rest => (readBasic [] rest).map fun (key, rest) =>
    (String.ofList key, rest)
  | '\'' :: rest => (readLiteral [] rest).map fun (key, rest) =>
    (String.ofList key, rest)
  | input =>
    match input.takeWhile isBareKey with
    | [] => none
    | key => some (String.ofList key, input.dropWhile isBareKey)

/-- No path has more keys than this. -/
def maxDepth : Nat := 79

/-- Reads a path of at most `count` more keys, with space around each of
them. -/
def readPath (count : Nat) (input : List Char) :
    Option (List String × List Char) :=
  match count with
  | 0 => none
  | count + 1 =>
    match readKey (skipSpace input) with
    | none => none
    | some (key, rest) =>
      match skipSpace rest with
      | '.' :: rest => (readPath count rest).map fun (path, rest) =>
        (key :: path, rest)
      | rest => some ([key], rest)

end HtmlBuilder.Toml
