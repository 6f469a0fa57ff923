import HtmlBuilder.Text.Blank

/-!
Splitting a text into lines. A text is trimmed as a whole, cut at the leftmost,
non-overlapping occurrences of the line break, and every piece is trimmed on its
own. A blank text has no lines at all, while blank lines inside a text are kept.
-/

namespace HtmlBuilder.Text

/-- The pieces of a text between the leftmost, non-overlapping occurrences of a
separator; `piece` holds the characters read since the last occurrence, newest
first. -/
def splitFrom (separator piece : List Char) : List Char → List (List Char)
  | [] => [piece.reverse]
  | c :: rest =>
    if separator.isPrefixOf (c :: rest) then
      piece.reverse :: splitFrom separator [] (rest.drop (separator.length - 1))
    else
      splitFrom separator (c :: piece) rest
termination_by text => text.length
decreasing_by
  all_goals simp only [List.length_drop, List.length_cons]; omega

def split (separator text : List Char) : List (List Char) :=
  splitFrom separator [] text

/-- The trimmed lines of a trimmed text; a blank text has none. -/
def trimLines (lineBreak text : List Char) : List (List Char) :=
  match trim text with
  | [] => []
  | trimmed => (split lineBreak trimmed).map trim

end HtmlBuilder.Text
