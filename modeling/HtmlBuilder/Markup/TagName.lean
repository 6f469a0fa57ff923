/-!
Names of elements in markup. A tag name begins with an ASCII letter; in HTML its
other characters are arbitrary, except that ASCII letters are in lower case.
-/

namespace HtmlBuilder.Markup

def isSpace (c : Char) : Bool :=
  c == ' ' || c == '\n' || c == '\t' || c == '\x0c'

def startsWithLetter (text : List Char) : Bool :=
  match text with
  | c :: _ => c.isAlpha
  | [] => false

structure TagName where
  text : String
  starts : startsWithLetter text.toList = true
deriving DecidableEq

namespace TagName

instance : Inhabited TagName := ⟨⟨"html", by decide⟩⟩

def html : TagName := ⟨"html", by decide⟩
def head : TagName := ⟨"head", by decide⟩
def body : TagName := ⟨"body", by decide⟩
def p : TagName := ⟨"p", by decide⟩
def br : TagName := ⟨"br", by decide⟩
def img : TagName := ⟨"img", by decide⟩
def colgroup : TagName := ⟨"colgroup", by decide⟩
def tbody : TagName := ⟨"tbody", by decide⟩
def tr : TagName := ⟨"tr", by decide⟩

def ofText? (text : String) : Option TagName :=
  if h : startsWithLetter text.toList = true then some ⟨text, h⟩ else none

end TagName

theorem isAlpha_toLower {c : Char} (h : c.isAlpha = true) :
    c.toLower.isAlpha = true := by
  delta Char.isAlpha Char.isUpper Char.isLower at h ⊢
  delta Char.toLower
  simp only [Bool.or_eq_true, decide_eq_true_eq] at h ⊢
  split
  · next hu =>
    right
    simp only [ge_iff_le, UInt32.le_iff_toNat_le, UInt32.toNat_add] at hu ⊢
    simp at hu ⊢
    omega
  · exact h

theorem toLower_eq_self {c : Char} (h : c.isUpper = false) : c.toLower = c := by
  delta Char.isUpper at h
  delta Char.toLower
  exact dif_neg (of_decide_eq_false h)

/-- A character of a tag name or an attribute key as it is kept: letters in
lower case, and the replacement character for the null character. -/
def nameCharacter (c : Char) : Char :=
  if c = '\x00' then '\ufffd' else c.toLower

theorem nameCharacter_of_isAlpha {c : Char} (h : c.isAlpha = true) :
    (nameCharacter c).isAlpha = true := by
  unfold nameCharacter
  split
  · next h0 => subst h0; cases h
  · exact isAlpha_toLower h

def TagName.read (c : Char) (h : c.isAlpha = true)
    (rest : List Char) : TagName :=
  ⟨String.ofList (nameCharacter c :: rest.map nameCharacter), by
    simp [startsWithLetter, nameCharacter_of_isAlpha h]⟩

end HtmlBuilder.Markup
