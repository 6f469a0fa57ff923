import HtmlBuilder.Markup.Construction.Foreign

/-!
The rules for a whole document: what is expected before the head, in the head,
behind the body and in sets of frames; the choice of a rule by the mode; and the
loop that reads tokens and handles them until the text ends.
-/

namespace HtmlBuilder.Markup

namespace Construction

/-- The end tags that count in front of the body. -/
def countsBeforeBody (name : TagName) : Bool :=
  ["head", "body", "html", "br"].contains name.text

def inInitial (s : Construction) (token : Token) : Outcome :=
  let leave := { s with quirks := true }.again .beforeHtml
  match token with
  | .character c => if isSeparator c then s.done else leave
  | .comment text => (s.insertCommentInside 0 text).done
  | .doctype declaration =>
    let arena := (s.arena.create .doctype).append 0 s.arena.next
    { s with arena, quirks := declaration.quirks, mode := .beforeHtml }.done
  | .fault => s.done
  | .startTag _ | .endTag _ | .finish => leave

def openRoot (s : Construction) (attributes : List (String × String)) :
    Construction :=
  let (created, element) := s.createElement .html .html attributes
  { created with arena := created.arena.append 0 element.id }.push element

def inBeforeHtml (s : Construction) (token : Token) : Outcome :=
  let leave := (s.openRoot []).again .beforeHead
  match token with
  | .character c => if isSeparator c then s.done else leave
  | .comment text => (s.insertCommentInside 0 text).done
  | .startTag tag =>
    if tag.name.text == "html" then
      { s.openRoot tag.attributes with mode := .beforeHead }.done
    else leave
  | .endTag name => if countsBeforeBody name then leave else s.done
  | .finish => leave
  | .doctype _ | .fault => s.done

def openHead (s : Construction) (attributes : List (String × String)) :
    Construction :=
  let s := s.openHtml .head attributes
  { s with head? := s.current?, mode := .inHead }

def inBeforeHead (s : Construction) (token : Token) : Outcome :=
  let leave := (s.openHead []).again .inHead
  match token with
  | .character c => if isSeparator c then s.done else leave
  | .comment text => (s.insertComment text).done
  | .startTag tag =>
    match tag.name.text with
    | "html" => (s.startHtml tag).done
    | "head" => (s.openHead tag.attributes).done
    | _ => leave
  | .endTag name => if countsBeforeBody name then leave else s.done
  | .finish => leave
  | .doctype _ | .fault => s.done

def inHead (s : Construction) (token : Token) : Outcome :=
  let leave := s.pop.again .afterHead
  match token with
  | .character c => if isSeparator c then (s.insertCharacter c).done else leave
  | .comment text => (s.insertComment text).done
  | .startTag tag =>
    match tag.name.text with
    | "html" => (s.startHtml tag).done
    | "head" => s.done
    | "noscript" => (s.startHeadContent tag).done
    | name =>
      if headContentNames.contains name then
        (s.startHeadContent tag).done
      else leave
  | .endTag name =>
    match name.text with
    | "head" => { s.pop with mode := .afterHead }.done
    | "body" | "html" | "br" => leave
    | "template" => s.closeTemplate.done
    | _ => s.done
  | .finish => leave
  | .doctype _ | .fault => s.done

/-- Handles head content that stands behind the head: it is put into the head
all the same. -/
def startLateHeadContent (s : Construction) (tag : Tag) : Construction :=
  match s.head? with
  | some head => ((s.push head).startHeadContent tag).removeOpen head.id
  | none => s

def inAfterHead (s : Construction) (token : Token) : Outcome :=
  let leave := (s.openHtml .body []).again .inBody
  match token with
  | .character c => if isSeparator c then (s.insertCharacter c).done else leave
  | .comment text => (s.insertComment text).done
  | .startTag tag =>
    match tag.name.text with
    | "html" => (s.startHtml tag).done
    | "body" => { (s.openTag tag).forbidFrameset with mode := .inBody }.done
    | "frameset" => { s.openTag tag with mode := .inFrameset }.done
    | "head" => s.done
    | name =>
      if headContentNames.contains name then
        (s.startLateHeadContent tag).done
      else leave
  | .endTag name =>
    match name.text with
    | "body" | "html" | "br" => leave
    | "template" => s.closeTemplate.done
    | _ => s.done
  | .finish => leave
  | .doctype _ | .fault => s.done

def inText (s : Construction) (token : Token) : Outcome :=
  let closed := { s.pop with raw? := none }
  match token with
  | .character c => (s.insertCharacter c).done
  | .endTag _ => { closed with mode := s.returnMode }.done
  | .finish => closed.again s.returnMode
  | .startTag _ | .comment _ | .doctype _ | .fault => s.done

def inTemplate (s : Construction) (token : Token) : Outcome :=
  match token with
  | .startTag tag =>
    match tag.name.text with
    | "caption" | "colgroup" | "tbody" | "tfoot" | "thead" =>
      s.switchTemplate .inTable
    | "col" => s.switchTemplate .inColumnGroup
    | "tr" => s.switchTemplate .inTableBody
    | "td" | "th" => s.switchTemplate .inRow
    | name =>
      if headContentNames.contains name then (s.startHeadContent tag).done
      else s.switchTemplate .inBody
  | .endTag name =>
    if name.text == "template" then s.closeTemplate.done else s.done
  | .finish => s.finishTemplate
  | _ => s.inBody token

def inAfterBody (s : Construction) (token : Token) : Outcome :=
  let leave := s.again .inBody
  match token with
  | .character c => if isSeparator c then s.inBody token else leave
  | .comment text =>
    match s.stack.getLast? with
    | some outermost => (s.insertCommentInside outermost.id text).done
    | none => s.done
  | .startTag tag =>
    if tag.name.text == "html" then (s.startHtml tag).done else leave
  | .endTag name =>
    if name.text == "html" then
      if s.fragment then s.done else { s with mode := .afterAfterBody }.done
    else leave
  | .doctype _ | .fault | .finish => s.done

def inFrameset (s : Construction) (token : Token) : Outcome :=
  match token with
  | .character c => if isSeparator c then (s.insertCharacter c).done else s.done
  | .comment text => (s.insertComment text).done
  | .startTag tag =>
    match tag.name.text with
    | "html" => (s.startHtml tag).done
    | "frameset" => (s.openTag tag).done
    | "frame" => (s.insertTag tag).done
    | "noframes" => (s.startHeadContent tag).done
    | _ => s.done
  | .endTag name =>
    if name.text == "frameset" && s.stack.length > 1 then
      let s := s.pop
      if !s.fragment && !s.currentIs (·.isNamed "frameset") then
        { s with mode := .afterFrameset }.done
      else s.done
    else s.done
  | .doctype _ | .fault | .finish => s.done

def inAfterFrameset (s : Construction) (token : Token) : Outcome :=
  match token with
  | .character c => if isSeparator c then (s.insertCharacter c).done else s.done
  | .comment text => (s.insertComment text).done
  | .startTag tag =>
    match tag.name.text with
    | "html" => (s.startHtml tag).done
    | "noframes" => (s.startHeadContent tag).done
    | _ => s.done
  | .endTag name =>
    if name.text == "html" then { s with mode := .afterAfterFrameset }.done
    else s.done
  | .doctype _ | .fault | .finish => s.done

def inAfterAfterBody (s : Construction) (token : Token) : Outcome :=
  let leave := s.again .inBody
  match token with
  | .character c => if isSeparator c then s.inBody token else leave
  | .comment text => (s.insertCommentInside 0 text).done
  | .startTag tag =>
    if tag.name.text == "html" then (s.startHtml tag).done else leave
  | .endTag _ => leave
  | .doctype _ | .fault | .finish => s.done

def inAfterAfterFrameset (s : Construction) (token : Token) : Outcome :=
  match token with
  | .character c => if isSeparator c then s.inBody token else s.done
  | .comment text => (s.insertCommentInside 0 text).done
  | .startTag tag =>
    match tag.name.text with
    | "html" => (s.startHtml tag).done
    | "noframes" => (s.startHeadContent tag).done
    | _ => s.done
  | .endTag _ | .doctype _ | .fault | .finish => s.done

def step (s : Construction) (token : Token) : Outcome :=
  match s.mode with
  | .initial => s.inInitial token
  | .beforeHtml => s.inBeforeHtml token
  | .beforeHead => s.inBeforeHead token
  | .inHead => s.inHead token
  | .afterHead => s.inAfterHead token
  | .inBody => s.inBody token
  | .text => s.inText token
  | .inTable => s.inTable token
  | .inTableText => s.inTableText token
  | .inCaption => s.inCaption token
  | .inColumnGroup => s.inColumnGroup token
  | .inTableBody => s.inTableBody token
  | .inRow => s.inRow token
  | .inCell => s.inCell token
  | .inSelect => s.inSelect token
  | .inSelectInTable => s.inSelectInTable token
  | .inTemplate => s.inTemplate token
  | .afterBody => s.inAfterBody token
  | .inFrameset => s.inFrameset token
  | .afterFrameset => s.inAfterFrameset token
  | .afterAfterBody => s.inAfterAfterBody token
  | .afterAfterFrameset => s.inAfterAfterFrameset token

def stepForeign (s : Construction) (token : Token) : Outcome :=
  match token with
  | .character c =>
    if c = '\x00' then (s.insertCharacter replacement).done
    else
      let inserted := s.insertCharacter c
      (if isSeparator c then inserted else inserted.forbidFrameset).done
  | .comment text => (s.insertComment text).done
  | .startTag tag =>
    if endsForeign tag then s.leaveForeign.step token
    else (s.startForeign tag).done
  | .endTag name =>
    if name.text == "br" || name.text == "p" then s.leaveForeign.step token
    else match foreignEnd name true s.stack with
      | .close outer => { s with stack := outer }.done
      | .ordinary => s.step token
      | .nothing => s.done
  | .doctype _ | .fault | .finish => s.done

/-- Handles a token, again and again as long as the rules ask for it, at most a
given number of times. -/
def handleTimes (s : Construction) (token : Token) : Nat → Construction
  | 0 => s
  | times + 1 =>
    let outcome :=
      if s.isForeign token then s.stepForeign token else s.step token
    if outcome.again then outcome.state.handleTimes token times
    else outcome.state

/-- The number of times that a token is handled at most: every time but a few
closes an element. -/
def maxTimes (s : Construction) : Nat :=
  4 * (s.stack.length + s.templateModes.length) + 16

/-- Handles a token. A line feed at the very start of some elements is
dropped. -/
def handle (s : Construction) (token : Token) : Construction :=
  let skips := s.skipLineFeed
  let s := { s with skipLineFeed := false }
  match token with
  | .fault => s
  | .doctype _ => if s.mode == .initial then (s.step token).state else s
  | .character c =>
    if skips && c == '\n' then s else s.handleTimes token s.maxTimes
  | _ => s.handleTimes token s.maxTimes

def contentMode (s : Construction) : ContentMode :=
  match s.raw? with
  | some raw => raw
  | none => .markup (s.current?.any fun element => !element.isHtml)

def run (s : Construction) (text : List Char) : Construction :=
  match text with
  | [] => s.handle .finish
  | c :: rest =>
    let read := Token.read s.contentMode c rest
    have := Token.read_length s.contentMode c rest
    run (read.1.foldl handle s) read.2
termination_by text.length
decreasing_by
  simp only [List.length_cons]
  omega

def startDocument : Construction := {}

def startFragment : Construction :=
  { Construction.openRoot {} [] with mode := .inBody, fragment := true }

end Construction

def Dom.parseFragment (text : String) : List Dom :=
  let final := Construction.startFragment.run (normalize text.toList)
  match final.arena.childTrees 0 with
  | root :: _ => root.childrenOf
  | [] => []

def Dom.parseDocument (text : String) : List Dom :=
  (Construction.startDocument.run (normalize text.toList)).arena.childTrees 0

end HtmlBuilder.Markup
