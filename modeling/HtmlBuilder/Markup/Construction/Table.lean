import HtmlBuilder.Markup.Construction.Body

/-!
The content of tables and of selections. What does not belong between the parts
of a table is put in front of it; text between them is collected first, because
white space alone may stay. The parts of a table open the parts they need around
them and close the ones they end.
-/

namespace HtmlBuilder.Markup

namespace Construction

def inBody (s : Construction) (token : Token) : Outcome :=
  match token with
  | .character c => (s.bodyCharacter c).done
  | .startTag tag => (s.bodyStart tag).done
  | .endTag name => s.bodyEnd name
  | .comment text => (s.insertComment text).done
  | .finish => if s.templateModes.isEmpty then s.done else s.finishTemplate
  | .doctype _ | .fault => s.done

/-- Handles a token that does not belong into a table as if it stood in the
body, and puts what it inserts in front of the table. -/
def inBodyFostered (s : Construction) (token : Token) : Outcome :=
  let outcome := { s with fostering := true }.inBody token
  { outcome with state := { outcome.state with fostering := false } }

/-- The boundaries that the rows of a table are opened in. -/
def isBodyContext (element : OpenElement) : Bool :=
  element.isOneOf ["tbody", "tfoot", "thead", "template", "html"]

/-- The boundaries that the cells of a table are opened in. -/
def isRowContext (element : OpenElement) : Bool :=
  element.isOneOf ["tr", "template", "html"]

def clearToTable (s : Construction) : Construction :=
  s.popUntil OpenElement.boundsTableScope

def tableStart (s : Construction) (tag : Tag) : Outcome :=
  match tag.name.text with
  | "caption" =>
    { s.clearToTable.markFormatting.openTag tag with mode := .inCaption }.done
  | "colgroup" =>
    { s.clearToTable.openTag tag with mode := .inColumnGroup }.done
  | "col" => (s.clearToTable.openHtml .colgroup []).again .inColumnGroup
  | "tbody" | "tfoot" | "thead" =>
    { s.clearToTable.openTag tag with mode := .inTableBody }.done
  | "td" | "th" | "tr" => (s.clearToTable.openHtml .tbody []).again .inTableBody
  | "table" =>
    if s.inTableScope (·.isNamed "table") then
      let s := resetMode (s.popThrough (·.isNamed "table"))
      s.again s.mode
    else s.done
  | "style" | "script" | "template" => (s.startHeadContent tag).done
  | "input" =>
    if tag.isHidden then (s.insertTag tag).done
    else s.inBodyFostered (.startTag tag)
  | "form" =>
    if s.hasOpen "template" || s.form?.isSome then s.done
    else
      let (inserted, element) := s.insertElement .html tag.name tag.attributes
      { inserted with form? := some element }.done
  | _ => s.inBodyFostered (.startTag tag)

def tableEnd (s : Construction) (name : TagName) : Outcome :=
  match name.text with
  | "table" =>
    if s.inTableScope (·.isNamed "table") then
      (resetMode (s.popThrough (·.isNamed "table"))).done
    else s.done
  | "body" | "caption" | "col" | "colgroup" | "html" | "tbody" | "td" | "tfoot"
  | "th" | "thead" | "tr" => s.done
  | "template" => s.closeTemplate.done
  | _ => s.inBodyFostered (.endTag name)

def inTable (s : Construction) (token : Token) : Outcome :=
  match token with
  | .character _ =>
    if s.currentIs (·.isOneOf ["table", "tbody", "tfoot", "thead", "tr"]) then
      { s with returnMode := s.mode, tableText := [] }.again .inTableText
    else s.inBodyFostered token
  | .startTag tag => s.tableStart tag
  | .endTag name => s.tableEnd name
  | .comment text => (s.insertComment text).done
  | .finish => s.inBody token
  | .doctype _ | .fault => s.done

/-- Inserts the collected text of a table: in front of the table if it is more
than white space. -/
def flushTableText (s : Construction) : Construction :=
  let text := s.tableText.reverse
  let s := { s with tableText := [] }
  if text.all isSeparator then text.foldl insertCharacter s
  else text.foldl (fun s c => (s.inBodyFostered (.character c)).state) s

def inTableText (s : Construction) (token : Token) : Outcome :=
  match token with
  | .character c =>
    if c = '\x00' then s.done else { s with tableText := c :: s.tableText }.done
  | _ => s.flushTableText.again s.returnMode

def closeCaption (s : Construction) : Construction :=
  (s.closeImplied.popThrough (·.isNamed "caption")).clearFormatting

def inCaption (s : Construction) (token : Token) : Outcome :=
  let leave :=
    if s.inTableScope (·.isNamed "caption") then
      s.closeCaption.again .inTable
    else s.done
  match token with
  | .startTag tag =>
    if ["caption", "col", "colgroup", "tbody", "td", "tfoot", "th", "thead",
      "tr"].contains tag.name.text then leave
    else s.inBody token
  | .endTag name =>
    match name.text with
    | "caption" =>
      if s.inTableScope (·.isNamed "caption") then
        { s.closeCaption with mode := .inTable }.done
      else s.done
    | "table" => leave
    | "body" | "col" | "colgroup" | "html" | "tbody" | "td" | "tfoot"
    | "th" | "thead" | "tr" => s.done
    | _ => s.inBody token
  | _ => s.inBody token

def inColumnGroup (s : Construction) (token : Token) : Outcome :=
  let isGroup := s.currentIs (·.isNamed "colgroup")
  let leave := if isGroup then s.pop.again .inTable else s.done
  match token with
  | .character c => if isSeparator c then (s.insertCharacter c).done else leave
  | .comment text => (s.insertComment text).done
  | .startTag tag =>
    match tag.name.text with
    | "html" => (s.startHtml tag).done
    | "col" => (s.insertTag tag).done
    | "template" => (s.openTemplate tag).done
    | _ => leave
  | .endTag name =>
    match name.text with
    | "colgroup" =>
      if isGroup then { s.pop with mode := .inTable }.done else s.done
    | "col" => s.done
    | "template" => s.closeTemplate.done
    | _ => leave
  | .finish => s.inBody token
  | .doctype _ | .fault => s.done

def closeTableBody (s : Construction) : Construction :=
  (s.popUntil isBodyContext).pop

def inTableBody (s : Construction) (token : Token) : Outcome :=
  let leave :=
    if s.inTableScope (·.isOneOf ["table", "tbody", "tfoot"]) then
      s.closeTableBody.again .inTable
    else s.done
  match token with
  | .startTag tag =>
    match tag.name.text with
    | "tr" =>
      { (s.popUntil isBodyContext).openTag tag with mode := .inRow }.done
    | "th" | "td" => ((s.popUntil isBodyContext).openHtml .tr []).again .inRow
    | "caption" | "col" | "colgroup" | "tbody" | "tfoot" | "thead" => leave
    | _ => s.inTable token
  | .endTag name =>
    match name.text with
    | "tbody" | "tfoot" | "thead" =>
      if s.inTableScope (·.isNamed name.text) then
        { s.closeTableBody with mode := .inTable }.done
      else s.done
    | "table" => leave
    | "body" | "caption" | "col" | "colgroup" | "html" | "td" | "th"
    | "tr" => s.done
    | _ => s.inTable token
  | _ => s.inTable token

def closeRow (s : Construction) : Construction :=
  (s.popUntil isRowContext).pop

def inRow (s : Construction) (token : Token) : Outcome :=
  let leave :=
    if s.inTableScope (·.isNamed "tr") then s.closeRow.again .inTableBody
    else s.done
  match token with
  | .startTag tag =>
    match tag.name.text with
    | "th" | "td" =>
      { ((s.popUntil isRowContext).openTag tag).markFormatting with
        mode := .inCell }.done
    | "caption" | "col" | "colgroup" | "tbody" | "tfoot" | "thead"
    | "tr" => leave
    | _ => s.inTable token
  | .endTag name =>
    match name.text with
    | "tr" =>
      if s.inTableScope (·.isNamed "tr") then
        { s.closeRow with mode := .inTableBody }.done
      else s.done
    | "table" => leave
    | "tbody" | "tfoot" | "thead" =>
      if s.inTableScope (·.isNamed name.text) then leave else s.done
    | "body" | "caption" | "col" | "colgroup" | "html" | "td" | "th" => s.done
    | _ => s.inTable token
  | _ => s.inTable token

def closeCell (s : Construction) : Construction :=
  (s.closeImplied.popThrough OpenElement.isCell).clearFormatting

def inCell (s : Construction) (token : Token) : Outcome :=
  match token with
  | .startTag tag =>
    if ["caption", "col", "colgroup", "tbody", "td", "tfoot", "th", "thead",
      "tr"].contains tag.name.text then
      if s.inTableScope OpenElement.isCell then
        s.closeCell.again .inRow
      else s.done
    else s.inBody token
  | .endTag name =>
    match name.text with
    | "td" | "th" =>
      if s.inTableScope (·.isNamed name.text) then
        { (s.closeImplied.popThrough (·.isNamed name.text)).clearFormatting with
          mode := .inRow }.done
      else s.done
    | "body" | "caption" | "col" | "colgroup" | "html" => s.done
    | "table" | "tbody" | "tfoot" | "thead" | "tr" =>
      if s.inTableScope (·.isNamed name.text) then
        s.closeCell.again .inRow
      else s.done
    | _ => s.inBody token
  | _ => s.inBody token

def closeSelect (s : Construction) : Construction :=
  resetMode (s.popThrough (·.isNamed "select"))

def closeOption (s : Construction) (withGroup : Bool) : Construction :=
  let s := if s.currentIs (·.isNamed "option") then s.pop else s
  if withGroup && s.currentIs (·.isNamed "optgroup") then s.pop else s

def selectStart (s : Construction) (tag : Tag) : Outcome :=
  match tag.name.text with
  | "html" => (s.startHtml tag).done
  | "option" => ((s.closeOption false).openTag tag).done
  | "optgroup" => ((s.closeOption true).openTag tag).done
  | "hr" => ((s.closeOption true).insertTag tag).done
  | "select" => if s.inSelectScope "select" then s.closeSelect.done else s.done
  | "input" | "keygen" | "textarea" =>
    if s.inSelectScope "select" then
      let s := s.closeSelect
      s.again s.mode
    else s.done
  | "script" | "template" => (s.startHeadContent tag).done
  | _ => s.done

def selectEnd (s : Construction) (name : TagName) : Outcome :=
  match name.text with
  | "optgroup" =>
    let s :=
      match s.stack with
      | inner :: outer :: _ =>
        if inner.isNamed "option" && outer.isNamed "optgroup" then s.pop else s
      | _ => s
    (if s.currentIs (·.isNamed "optgroup") then s.pop else s).done
  | "option" => (s.closeOption false).done
  | "select" => if s.inSelectScope "select" then s.closeSelect.done else s.done
  | "template" => s.closeTemplate.done
  | _ => s.done

def inSelect (s : Construction) (token : Token) : Outcome :=
  match token with
  | .character c => if c = '\x00' then s.done else (s.insertCharacter c).done
  | .comment text => (s.insertComment text).done
  | .startTag tag => s.selectStart tag
  | .endTag name => s.selectEnd name
  | .finish => s.inBody token
  | .doctype _ | .fault => s.done

/-- The parts of a table that end a selection inside it. -/
def tableNames : List String :=
  ["caption", "table", "tbody", "tfoot", "thead", "tr", "td", "th"]

def inSelectInTable (s : Construction) (token : Token) : Outcome :=
  let leave :=
    let s := s.closeSelect
    s.again s.mode
  match token with
  | .startTag tag =>
    if tableNames.contains tag.name.text then leave else s.inSelect token
  | .endTag name =>
    if tableNames.contains name.text then
      if s.inTableScope (·.isNamed name.text) then leave else s.done
    else s.inSelect token
  | _ => s.inSelect token

end Construction

end HtmlBuilder.Markup
