import HtmlBuilder.Entries
import HtmlBuilder.Options
import HtmlBuilder.Text.Literal

/-!
Rules that turn an attribute into an argument of a builder call. A rule has a
filter, which says the keys it applies to, and a replacement, which writes the
argument from the value.
-/

namespace HtmlBuilder

/-- The keys that a rule applies to. Keys are compared exactly. -/
inductive Filter where
  | key (name : String)
  | keys (names : List String)
  | predicate (holds : String → Options → Bool)

def Filter.accepts (filter : Filter) (key : String)
    (options : Options) : Bool :=
  match filter with
  | .key name => key == name
  | .keys names => names.contains key
  | .predicate holds => holds key options

structure Rule where
  filter : Filter
  /-- The whole argument, name and value, for an attribute value. -/
  replacement : String → Options → String

namespace Rule

def quotedArgument (argument value : String) : String :=
  argument ++ " = " ++ Text.quoted value

/-- The rule that writes the value of one key as a quoted literal under another
name. -/
def renamed (key argument : String) : Rule :=
  ⟨.key key, fun value _ => quotedArgument argument value⟩

/-- The class names in an attribute value: its non-empty parts between
spaces. -/
def classNames (value : List Char) : List (List Char) :=
  (value.splitOn ' ').filter fun name => !name.isEmpty

def classIdentifier (name : List Char) : List Char :=
  name.map fun c => if c == '-' then '_' else c

def classSum (value : String) : String :=
  " + ".intercalate ((classNames value.toList).map fun name =>
    String.ofList (classIdentifier name))

def classes : Rule :=
  ⟨.key "class", fun value _ => "c = " ++ classSum value⟩

def inputType : Rule :=
  ⟨.key "type", fun value _ => "inputType = InputType." ++ value⟩

/-- The target of a link becomes a direct link or a plain literal, as the
options say. -/
def link : Rule :=
  ⟨.key "href", fun value options =>
    if options.directLinks then "href = DirectLink(" ++ Text.quoted value ++ ")"
    else quotedArgument "href" value⟩

def labelTarget : Rule :=
  renamed "for" "forId"

def standard : List Rule :=
  [classes, inputType, link, labelTarget]

end Rule

/-- The rules of a converter: the ones added under a name, which come first, and
the standard ones. Names stand in the order in which they were first used. -/
structure Rules where
  custom : List (String × Rule) := []

namespace Rules

/-- Puts a rule under a name: in place of the rule with that name if there is
one, else last. -/
def add (rules : Rules) (name : String) (rule : Rule) : Rules :=
  ⟨putEntry rules.custom name rule⟩

def inOrder (rules : Rules) : List Rule :=
  rules.custom.map Prod.snd ++ Rule.standard

def forKey? (rules : Rules) (key : String) (options : Options) : Option Rule :=
  rules.inOrder.find? fun rule => rule.filter.accepts key options

/-- The argument for an attribute; without a rule it is a literal under the key
itself. -/
def argument (rules : Rules) (options : Options)
    (key value : String) : String :=
  match rules.forKey? key options with
  | some rule => rule.replacement value options
  | none => Rule.quotedArgument key value

def arguments (rules : Rules) (options : Options)
    (attributes : List (String × String)) : String :=
  ", ".intercalate (attributes.map fun (key, value) =>
    rules.argument options key value)

end Rules

end HtmlBuilder
