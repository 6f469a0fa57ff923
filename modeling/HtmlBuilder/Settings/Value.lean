import HtmlBuilder.Decimal
import HtmlBuilder.Entries
import HtmlBuilder.Text.Lowercase
import HtmlBuilder.Toml.Value

/-!
Values of settings before they are given their types. Every value knows the file
it was written in; tables that come from merging several sources belong to none
of them. Keys do not depend on letter case.
-/

namespace HtmlBuilder.Settings

inductive Scalar where
  | nothing
  | boolean (b : Bool)
  | integer (n : Int)
  | float (number : Float)
  | string (text : String)
deriving Inhabited

inductive Value where
  | scalar (origin? : Option String) (content : Scalar)
  | array (origin? : Option String) (items : List Value)
  | table (origin? : Option String) (entries : List (String × Value))
deriving Inhabited

namespace Value

def emptyTable : Value := .table none []

/-- The value that a missing one counts as. -/
def nothing : Value := .scalar none .nothing

def origin? (value : Value) : Option String :=
  match value with
  | .scalar origin? _ | .array origin? _ | .table origin? _ => origin?

mutual

def ofToml (origin? : Option String) (value : Toml.Value) : Value :=
  match value with
  | .string text | .moment text => .scalar origin? (.string text)
  | .integer n => .scalar origin? (.integer n)
  | .float number => .scalar origin? (.float number)
  | .boolean b => .scalar origin? (.boolean b)
  | .array items => .array origin? (ofTomlItems origin? items)
  | .table entries => .table origin? (ofTomlEntries origin? entries)

def ofTomlItems (origin? : Option String) (items : List Toml.Value) :
    List Value :=
  match items with
  | [] => []
  | item :: rest => ofToml origin? item :: ofTomlItems origin? rest

def ofTomlEntries (origin? : Option String)
    (entries : List (String × Toml.Value)) : List (String × Value) :=
  match entries with
  | [] => []
  | (key, value) :: rest =>
    (key, ofToml origin? value) :: ofTomlEntries origin? rest

end

/-- The value itself if it is a table, else an empty table in its place. -/
def asTable (value : Value) : Value :=
  match value with
  | .table origin? entries => .table origin? entries
  | _ => emptyTable

/-- The entries of a table; a value of another kind has none. -/
def entries (value : Value) : List (String × Value) :=
  match value with
  | .table _ entries => entries
  | _ => []

def get? (value : Value) (key : String) : Option Value :=
  value.entries.lookup key

/-- Changes the value of a key, in lower case, in a table; what is no table
becomes one. -/
def update (root : Value) (key : String)
    (change : Option Value → Value) : Value :=
  match root.asTable with
  | .table origin? entries =>
    .table origin? (updateEntry entries (Text.lowercase key) change)
  | other => other

mutual

/-- Puts a value under a key. The entries of a table are merged one by one into
the table that is there; any other value takes the place of what is there. -/
def put (root : Value) (key : String) (value : Value) : Value :=
  match value with
  | .table _ entries => root.update key fun old? =>
    putAll (old?.getD emptyTable) entries
  | .scalar origin? content => root.update key fun _ => .scalar origin? content
  | .array origin? items => root.update key fun _ => .array origin? items

def putAll (root : Value) (entries : List (String × Value)) : Value :=
  match entries with
  | [] => root
  | (key, value) :: rest => putAll (root.put key value) rest

end

end Value

end HtmlBuilder.Settings
