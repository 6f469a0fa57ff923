/-!
Values of a TOML document. Tables keep their keys in the order in which they are
written; dates and times are kept as their text.
-/

namespace HtmlBuilder.Toml

inductive Value where
  | string (text : String)
  | integer (n : Int)
  | float (number : Float)
  | boolean (b : Bool)
  | moment (text : String)
  | array (items : List Value)
  | table (entries : List (String × Value))
deriving Inhabited

abbrev Entries := List (String × Value)

def isSpace (c : Char) : Bool :=
  c == ' ' || c == '\t'

def skipSpace (input : List Char) : List Char :=
  input.dropWhile isSpace

/-- The characters that a comment may contain: all but control characters, and
tabs. -/
def isPrintable (c : Char) : Bool :=
  c == '\t' || (0x20 ≤ c.val && c.val ≤ 0x7E) || 0x80 ≤ c.val

def lineBreak? (input : List Char) : Option (List Char) :=
  match input with
  | '\n' :: rest => some rest
  | '\r' :: '\n' :: rest => some rest
  | _ => none

/-- The text behind the end of a line, which may have a comment. -/
def lineEnd? (input : List Char) : Option (List Char) :=
  let rest :=
    match skipSpace input with
    | '#' :: comment => comment.dropWhile isPrintable
    | rest => rest
  match rest with
  | [] => some []
  | rest => lineBreak? rest

/-- Skips space, line breaks and comments; nothing is left of a comment with a
control character. -/
def skipLines (inComment : Bool) : List Char → Option (List Char)
  | [] => some []
  | '\n' :: rest => skipLines false rest
  | '\r' :: '\n' :: rest => skipLines false rest
  | c :: rest =>
    if inComment then if isPrintable c then skipLines true rest else none
    else if isSpace c then skipLines false rest
    else if c == '#' then skipLines true rest
    else some (c :: rest)

end HtmlBuilder.Toml
