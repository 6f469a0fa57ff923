import HtmlBuilder.Options
import HtmlBuilder.Settings.Value
import HtmlBuilder.Text.Displayed

/-!
What can be wrong with settings: a value of another type than its setting has, a
section that is no section, a source that cannot be read, or a layout that
cannot be used. Each cause has one wording.
-/

namespace HtmlBuilder.Settings

inductive Found where
  | string (text : String)
  | integer (n : Int)
  | nothing
  | array
  | table

inductive Wanted where
  | string
  | boolean
  /-- A whole number. -/
  | integer
  /-- A whole number that is not negative. -/
  | natural
deriving DecidableEq

inductive Section where
  | formatter
  | conversion
deriving DecidableEq

inductive Error where
  /-- The value of a key is of another type; `origin?` is the file it was
  written in. -/
  | wrongType (found : Found) (wanted : Wanted) (key : String)
      (origin? : Option String)
  /-- A value without parts stands in place of a section. -/
  | notASection (found : Scalar) (expected : Section)
  /-- A section that is written as a list has too few items. -/
  | tooShort (size : Nat) (expected : Section)
  | missingField (field : String)
  /-- No file stands at a path. -/
  | notFound (path : String)
  | notUnicode
  /-- A file is not a well-formed document. -/
  | malformed (file : String)
  | formatter (error : FormatterError)

namespace Section

def name : Section → String
  | .formatter => "FormatterSection"
  | .conversion => "ConversionSection"

def fields : Section → List String
  | .formatter => ["indent", "line_break", "base_indent_depth"]
  | .conversion => ["href_to_direct_link", "only_when_html"]

end Section

inductive IntegerType where
  | signed64
  | unsigned64
  | signed128
  | unsigned128
deriving DecidableEq

namespace IntegerType

def ofInt (n : Int) : IntegerType :=
  let half := Int.ofNat (Nat.pow 2 63)
  if -half ≤ n ∧ n < half then .signed64
  else if 0 ≤ n ∧ n < Int.ofNat UInt64.size then .unsigned64
  else if n < Int.ofNat (Nat.pow 2 127) then .signed128
  else .unsigned128

def text : IntegerType → String
  | signed64 => "64-bit integer"
  | unsigned64 => "64-bit unsigned integer"
  | signed128 => "128-bit integer"
  | unsigned128 => "128-bit unsigned integer"

def mark : IntegerType → String
  | signed64 | unsigned64 => ""
  | signed128 => " as i128"
  | unsigned128 => " as u128"

end IntegerType

def Found.text : Found → String
  | .string text => "string " ++ Text.displayed text
  | .integer n => (IntegerType.ofInt n).text ++ " `" ++ toString n ++ "`"
  | .nothing => "unit value"
  | .array => "sequence"
  | .table => "map"

def Wanted.text : Wanted → String
  | .string => "a string"
  | .boolean => "a boolean"
  | .integer => "an integer"
  | .natural => "an unsigned 64 bit or less integer"

def pointedText (number : Float) : String :=
  let text := Decimal.text number
  if text.contains '.' || !number.isFinite then text else text ++ ".0"

def Scalar.text : Scalar → String
  | .nothing => "unit value"
  | .boolean b => "boolean `" ++ (if b then "true" else "false") ++ "`"
  | .integer n =>
    "integer `" ++ toString n ++ "`" ++ (IntegerType.ofInt n).mark
  | .float number => "floating point `" ++ pointedText number ++ "`"
  | .string text => "string " ++ Text.displayed text

/-- The wording of an error; malformed documents have none. -/
def Error.message : Error → Option String
  | .wrongType found wanted key origin? =>
    some ("invalid type: " ++ found.text ++ ", expected " ++ wanted.text ++
      " for key `" ++ key ++ "`" ++
      match origin? with
      | some origin => " in " ++ origin
      | none => "")
  | .notASection found expected =>
    some ("invalid type: " ++ found.text ++ ", expected struct " ++
      expected.name)
  | .tooShort size expected =>
    some ("invalid length " ++ toString size ++ ", expected struct " ++
      expected.name ++
      " with " ++ toString expected.fields.length ++ " elements")
  | .missingField field => some ("missing field `" ++ field ++ "`")
  | .notFound path => some ("configuration file \"" ++ path ++ "\" not found")
  | .notUnicode => some "stream did not contain valid UTF-8"
  | .malformed _ => none
  | .formatter error => some error.message

end HtmlBuilder.Settings
