/-!
White space in texts. A character is blank when it has the Unicode property
White_Space; control characters outside that property, zero-width spaces and
byte order marks are not blank. Trimming removes blank characters from both ends
and keeps everything between them.
-/

namespace HtmlBuilder.Text

/-- The twenty-five characters with the property White_Space. -/
def isBlank (c : Char) : Bool :=
  let n := c.val
  n == 0x20 || (0x09 ≤ n && n ≤ 0x0D) || n == 0x85 || n == 0xA0 || n == 0x1680
    || (0x2000 ≤ n && n ≤ 0x200A) || n == 0x2028 || n == 0x2029 || n == 0x202F
    || n == 0x205F || n == 0x3000

def trim (text : List Char) : List Char :=
  ((text.dropWhile isBlank).reverse.dropWhile isBlank).reverse

@[simp] theorem trim_nil : trim [] = [] := rfl

end HtmlBuilder.Text
