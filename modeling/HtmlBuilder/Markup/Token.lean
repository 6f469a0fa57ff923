import HtmlBuilder.Markup.Comment
import HtmlBuilder.Markup.Doctype
import HtmlBuilder.Markup.RawText

/-!
The tokens of a markup text. How a text goes on depends on the element that is
open: in most of them tags, comments and references are recognised, in some only
references and the end tag, in others the end tag alone. Every reading step
takes at least one character.
-/

namespace HtmlBuilder.Markup

inductive Token where
  | character (c : Char)
  | startTag (tag : Tag)
  | endTag (name : TagName)
  | comment (text : String)
  | doctype (declaration : Doctype)
  /-- Malformed markup that stands for nothing. -/
  | fault
  | finish
deriving DecidableEq

inductive ContentMode where
  /-- Ordinary content; inside foreign elements, sections of plain characters
  are recognised. -/
  | markup (foreign : Bool)
  /-- References and the end tag of the named element are recognised. -/
  | escapable (name : TagName)
  /-- The end tag of the named element is recognised. -/
  | raw (name : TagName)
  | script
  /-- Nothing is recognised up to the end of the text. -/
  | plain
deriving DecidableEq

namespace Token

def readReferenceTokens (rest : List Char) : List Token × List Char :=
  match readReference false rest with
  | none => ([.character '&'], rest)
  | some r =>
    let text := r.text.map Token.character
    (if r.closed then text else .fault :: text, r.rest)

/-- A tag that is left open takes the rest of the text with it. -/
def readStartTag (c : Char) (h : c.isAlpha = true) (rest : List Char) :
    List Token × List Char :=
  match readTag c h rest with
  | none => ([], [])
  | some (tag, after) => ([.startTag tag], after)

/-- An end tag is its name alone; what else is written in it does not count. -/
def readEndTag (c : Char) (h : c.isAlpha = true) (rest : List Char) :
    List Token × List Char :=
  match readTag c h rest with
  | none => ([], [])
  | some (tag, after) => ([.endTag tag.name], after)

def readMalformed (input : List Char) : List Token × List Char :=
  let (text, rest) := readBogusComment input
  ([.comment text], rest)

def readSectionFrom (done : List Char) : List Char → List Char × List Char
  | [] => (done.reverse, [])
  | ']' :: ']' :: '>' :: rest => (done.reverse, rest)
  | c :: rest => readSectionFrom (c :: done) rest

def readDeclaration (foreign : Bool) (input : List Char) :
    List Token × List Char :=
  if "--".toList.isPrefixOf input then
    let (text, rest) := readComment (input.drop 2)
    ([.comment text], rest)
  else if startsWithKeyword "doctype".toList input then
    let (declaration, rest) := readDoctype (input.drop 7)
    ([.doctype declaration], rest)
  else if foreign && "[CDATA[".toList.isPrefixOf input then
    let (text, rest) := readSectionFrom [] (input.drop 7)
    (text.map Token.character, rest)
  else readMalformed input

def readClosing (input : List Char) : List Token × List Char :=
  match input with
  | [] => ([.character '<', .character '/'], [])
  | '>' :: rest => ([.fault], rest)
  | c :: rest =>
    if h : c.isAlpha = true then readEndTag c h rest
    else readMalformed (c :: rest)

def readBracket (foreign : Bool) (input : List Char) : List Token × List Char :=
  match input with
  | '!' :: rest => readDeclaration foreign rest
  | '/' :: rest => readClosing rest
  | '?' :: rest => readMalformed ('?' :: rest)
  | c :: rest =>
    if h : c.isAlpha = true then readStartTag c h rest
    else ([.character '<'], c :: rest)
  | [] => ([.character '<'], [])

def readRawEnd (input : List Char) : List Token × List Char :=
  match input with
  | '/' :: c :: rest =>
    if h : c.isAlpha = true then readEndTag c h rest
    else ([.character '<'], input)
  | _ => ([.character '<'], input)

def rawCharacter (c : Char) : Token :=
  .character (if c = '\x00' then replacement else c)

/-- Reads the tokens that the next character of a text begins. -/
def read (mode : ContentMode) (c : Char) (rest : List Char) :
    List Token × List Char :=
  match mode with
  | .markup foreign =>
    if c = '<' then readBracket foreign rest
    else if c = '&' then readReferenceTokens rest
    else ([.character c], rest)
  | .escapable name =>
    if c = '<' && startsEndTag name.text.toList rest then readRawEnd rest
    else if c = '&' then readReferenceTokens rest
    else ([rawCharacter c], rest)
  | .raw name =>
    if c = '<' && startsEndTag name.text.toList rest then readRawEnd rest
    else ([rawCharacter c], rest)
  | .script =>
    if c = '<' && startsEndTag scriptName rest then readRawEnd rest
    else
      let (text, after) :=
        readScriptFrom (ScriptState.next .plain c rest) [] rest
      (rawCharacter c :: text.map Token.character, after)
  | .plain => ([rawCharacter c], rest)

section Length

theorem readReferenceTokens_length (rest : List Char) :
    (readReferenceTokens rest).2.length ≤ rest.length := by
  unfold readReferenceTokens
  split
  · exact Nat.le_refl _
  · next h => exact readReference_length h

theorem readStartTag_length (c : Char) (h : c.isAlpha = true)
    (rest : List Char) : (readStartTag c h rest).2.length ≤ rest.length := by
  unfold readStartTag
  split
  · exact Nat.zero_le _
  · next h => exact readTag_length h

theorem readEndTag_length (c : Char) (h : c.isAlpha = true) (rest : List Char) :
    (readEndTag c h rest).2.length ≤ rest.length := by
  unfold readEndTag
  split
  · exact Nat.zero_le _
  · next h => exact readTag_length h

theorem readMalformed_length (input : List Char) :
    (readMalformed input).2.length ≤ input.length :=
  readBogusComment_length input

theorem readSectionFrom_length (done input : List Char) :
    (readSectionFrom done input).2.length ≤ input.length := by
  fun_induction readSectionFrom done input with
  | case1 => exact Nat.le_refl _
  | case2 => simp only [List.length_cons]; omega
  | case3 _ _ _ _ ih => exact Nat.le_succ_of_le ih

theorem readDeclaration_length (foreign : Bool) (input : List Char) :
    (readDeclaration foreign input).2.length ≤ input.length := by
  unfold readDeclaration
  split
  · exact Nat.le_trans (readComment_length _) (length_drop_le _ _)
  · split
    · exact Nat.le_trans (readDoctype_length _) (length_drop_le _ _)
    · split
      · exact Nat.le_trans (readSectionFrom_length _ _) (length_drop_le _ _)
      · exact readMalformed_length _

theorem readClosing_length (input : List Char) :
    (readClosing input).2.length ≤ input.length := by
  unfold readClosing
  split
  · exact Nat.le_refl _
  · exact Nat.le_succ _
  · split
    · exact Nat.le_succ_of_le (readEndTag_length _ _ _)
    · exact readMalformed_length _

theorem readBracket_length (foreign : Bool) (input : List Char) :
    (readBracket foreign input).2.length ≤ input.length := by
  unfold readBracket
  split
  · exact Nat.le_succ_of_le (readDeclaration_length _ _)
  · exact Nat.le_succ_of_le (readClosing_length _)
  · exact readMalformed_length _
  · split
    · exact Nat.le_succ_of_le (readStartTag_length _ _ _)
    · exact Nat.le_refl _
  · exact Nat.le_refl _

theorem readRawEnd_length (input : List Char) :
    (readRawEnd input).2.length ≤ input.length := by
  unfold readRawEnd
  split
  · split
    · exact Nat.le_succ_of_le (Nat.le_succ_of_le (readEndTag_length _ _ _))
    · exact Nat.le_refl _
  · exact Nat.le_refl _

/-- Reading takes at least the character it begins with. -/
theorem read_length (mode : ContentMode) (c : Char) (rest : List Char) :
    (read mode c rest).2.length ≤ rest.length := by
  unfold read
  split
  · split
    · exact readBracket_length _ _
    · split
      · exact readReferenceTokens_length _
      · exact Nat.le_refl _
  · split
    · exact readRawEnd_length _
    · split
      · exact readReferenceTokens_length _
      · exact Nat.le_refl _
  · split
    · exact readRawEnd_length _
    · exact Nat.le_refl _
  · split
    · exact readRawEnd_length _
    · have := readScriptFrom_length (ScriptState.next .plain c rest) [] rest
      simp only [List.length_nil, Nat.add_zero] at this
      simp only
      omega
  · exact Nat.le_refl _

end Length

end Token

/-- A text as it is read: without a byte order mark at its start, and with every
line break written as a line feed. -/
def normalizeFrom (done : List Char) : List Char → List Char
  | [] => done.reverse
  | '\r' :: '\n' :: rest => normalizeFrom ('\n' :: done) rest
  | '\r' :: rest => normalizeFrom ('\n' :: done) rest
  | c :: rest => normalizeFrom (c :: done) rest

def normalize (text : List Char) : List Char :=
  match text with
  | '\ufeff' :: rest => normalizeFrom [] rest
  | text => normalizeFrom [] text

end HtmlBuilder.Markup
