import HtmlBuilder.Markup.Reference

/-!
Reading comments. A comment ends at two hyphens and a closing bracket, with an
exclamation mark between them if need be, or at once when a bracket follows its
opening. What looks like markup but is none is a comment too, up to the next
bracket. A comment that the text ends in ends there.
-/

namespace HtmlBuilder.Markup

/-- How much of the end of a comment has been read. -/
inductive CommentState where
  /-- Nothing of the comment has been read. -/
  | start
  /-- One hyphen and nothing else has been read. -/
  | startDash
  | text
  | dash
  | dashes
  | bang
deriving DecidableEq

def commentCharacter (c : Char) : Char :=
  if c = '\x00' then replacement else c

/-- Reads a comment after its opening; `done` holds its text, newest first. -/
def readCommentFrom (state : CommentState) (done : List Char) :
    List Char → List Char × List Char
  | [] => (done.reverse, [])
  | c :: rest =>
    match state with
    | .start =>
      if c = '-' then readCommentFrom .startDash done rest
      else if c = '>' then (done.reverse, rest)
      else readCommentFrom .text (commentCharacter c :: done) rest
    | .startDash =>
      if c = '-' then readCommentFrom .dashes done rest
      else if c = '>' then (done.reverse, rest)
      else readCommentFrom .text (commentCharacter c :: '-' :: done) rest
    | .text =>
      if c = '-' then readCommentFrom .dash done rest
      else readCommentFrom .text (commentCharacter c :: done) rest
    | .dash =>
      if c = '-' then readCommentFrom .dashes done rest
      else readCommentFrom .text (commentCharacter c :: '-' :: done) rest
    | .dashes =>
      if c = '>' then (done.reverse, rest)
      else if c = '!' then readCommentFrom .bang done rest
      else if c = '-' then readCommentFrom .dashes ('-' :: done) rest
      else readCommentFrom .text (commentCharacter c :: '-' :: '-' :: done) rest
    | .bang =>
      if c = '>' then (done.reverse, rest)
      else if c = '-' then
        readCommentFrom .dash ('!' :: '-' :: '-' :: done) rest
      else readCommentFrom .text
        (commentCharacter c :: '!' :: '-' :: '-' :: done) rest

def readComment (input : List Char) : String × List Char :=
  let (text, rest) := readCommentFrom .start [] input
  (String.ofList text, rest)

/-- Malformed markup, read as a comment up to the next bracket. -/
def readBogusComment (input : List Char) : String × List Char :=
  (String.ofList ((input.takeWhile (· != '>')).map commentCharacter),
    (input.dropWhile (· != '>')).drop 1)

theorem readCommentFrom_length (state : CommentState) (done input : List Char) :
    (readCommentFrom state done input).2.length ≤ input.length := by
  induction input generalizing state done with
  | nil => simp [readCommentFrom]
  | cons c rest ih =>
    have step (s : CommentState) (d : List Char) :
        (readCommentFrom s d rest).2.length ≤ (c :: rest).length :=
      Nat.le_succ_of_le (ih s d)
    cases state <;> simp only [readCommentFrom] <;> (repeat' split) <;>
      first
        | exact step _ _
        | exact Nat.le_succ _

theorem readComment_length (input : List Char) :
    (readComment input).2.length ≤ input.length :=
  readCommentFrom_length _ _ _

theorem readBogusComment_length (input : List Char) :
    (readBogusComment input).2.length ≤ input.length := by
  have := (input.dropWhile_suffix (· != '>')).length_le
  simp only [readBogusComment, List.length_drop]
  omega

end HtmlBuilder.Markup
