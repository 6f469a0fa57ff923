import HtmlBuilder.Markup.Tag

/-!
Text in which markup is not recognised. Inside a script, a style sheet and some
other elements the text goes on up to the end tag of that element. A script may
hide end tags: behind the opening of a comment, a start tag of a script inside
it makes the next end tag belong to that one.
-/

namespace HtmlBuilder.Markup

/-- Whether a text goes on with a name, in letters of either case, and with the
end of that name. -/
def continuesWithName (name input : List Char) : Bool :=
  name == (input.take name.length).map Char.toLower &&
    match input.drop name.length with
    | c :: _ => endsName c
    | [] => false

def startsEndTag (name input : List Char) : Bool :=
  match input with
  | '/' :: rest => continuesWithName name rest
  | _ => false

/-- How far a script has gone into hiding its end tags. -/
inductive ScriptState where
  | plain
  /-- Inside a comment; the number counts the hyphens just read, up to two. -/
  | escaped (hyphens : Nat)
  /-- Inside a script inside a comment. -/
  | nested (hyphens : Nat)
deriving DecidableEq

def scriptName : List Char := "script".toList

/-- The state behind a character; `rest` is the text that follows it. -/
def ScriptState.next (state : ScriptState) (c : Char) (rest : List Char) :
    ScriptState :=
  match state with
  | .plain =>
    if c = '<' && "!--".toList.isPrefixOf rest then .escaped 0 else .plain
  | .escaped hyphens =>
    if c = '-' then .escaped (min 2 (hyphens + 1))
    else if c = '>' && hyphens == 2 then .plain
    else if c = '<' && continuesWithName scriptName rest then .nested 0
    else .escaped 0
  | .nested hyphens =>
    if c = '-' then .nested (min 2 (hyphens + 1))
    else if c = '>' && hyphens == 2 then .plain
    else if c = '<' && startsEndTag scriptName rest then .escaped 0
    else .nested 0

def ScriptState.isOpen : ScriptState → Bool
  | .plain | .escaped _ => true
  | .nested _ => false

/-- The text of a script up to the end tag that ends it; `done` holds its text,
newest first. -/
def readScriptFrom (state : ScriptState) (done : List Char) :
    List Char → List Char × List Char
  | [] => (done.reverse, [])
  | c :: rest =>
    if c = '<' && state.isOpen && startsEndTag scriptName rest then
      (done.reverse, c :: rest)
    else
      readScriptFrom (state.next c rest)
        ((if c = '\x00' then replacement else c) :: done) rest

theorem readScriptFrom_length (state : ScriptState) (done input : List Char) :
    (readScriptFrom state done input).2.length +
      (readScriptFrom state done input).1.length =
      input.length + done.length := by
  induction input generalizing state done with
  | nil => simp [readScriptFrom]
  | cons c rest ih =>
    simp only [readScriptFrom]
    split
    · simp
    · rw [ih]
      simp only [List.length_cons]
      omega

end HtmlBuilder.Markup
