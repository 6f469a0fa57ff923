/-!
The inside of a double-quoted literal. Three characters are special there: the
quote ends the literal, the dollar sign starts an interpolation and the
backslash takes the next character as it is. Escaping puts a backslash before
each of them and changes nothing else.
-/

namespace HtmlBuilder.Text

/-- The characters that cannot stand for themselves inside a literal. -/
def isSpecial (c : Char) : Bool :=
  c == '\\' || c == '"' || c == '$'

def escape (text : List Char) : List Char :=
  text.flatMap fun c => if isSpecial c then ['\\', c] else [c]

@[simp] theorem escape_nil : escape [] = [] := rfl

theorem escape_cons (c : Char) (text : List Char) :
    escape (c :: text) = (if isSpecial c then ['\\', c] else [c]) ++
      escape text := rfl

def quoted (text : String) : String :=
  "\"" ++ String.ofList (escape text.toList) ++ "\""

end HtmlBuilder.Text
