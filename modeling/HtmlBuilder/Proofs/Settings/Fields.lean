import HtmlBuilder.Proofs.Settings.Steps

/-!
Single settings. Each field has a section, a name in it and a type of contents;
files give contents to fields by their names and overrides by their keys. What
counts of a sequence of steps is told field by field, without regard to how
tables are merged.
-/

namespace HtmlBuilder.Settings

def Section.key : Section → String
  | .formatter => "formatter"
  | .conversion => "conversion"

def Section.all : List Section :=
  [.formatter, .conversion]

def entries? : Toml.Value → Option Toml.Entries
  | .table entries => some entries
  | _ => none

inductive Field where
  | indent
  | lineBreak
  | baseDepth
  | directLinks
  | onlyMarkup
deriving DecidableEq

namespace Field

def all : List Field :=
  [.indent, .lineBreak, .baseDepth, .directLinks, .onlyMarkup]

def home : Field → Section
  | .indent | .lineBreak | .baseDepth => .formatter
  | .directLinks | .onlyMarkup => .conversion

def name : Field → String
  | .indent => "indent"
  | .lineBreak => "line_break"
  | .baseDepth => "base_indent_depth"
  | .directLinks => "href_to_direct_link"
  | .onlyMarkup => "only_when_html"

def key (field : Field) : String :=
  field.home.key ++ "." ++ field.name

def Content : Field → Type
  | .indent | .lineBreak => String
  | .baseDepth => UInt64
  | .directLinks | .onlyMarkup => Bool

instance (field : Field) : DecidableEq field.Content :=
  match field with
  | .indent | .lineBreak => inferInstanceAs (DecidableEq String)
  | .baseDepth => inferInstanceAs (DecidableEq UInt64)
  | .directLinks | .onlyMarkup => inferInstanceAs (DecidableEq Bool)

def of (settings : Settings) : (field : Field) → field.Content
  | .indent => settings.formatter.indent
  | .lineBreak => settings.formatter.lineBreak
  | .baseDepth => .ofNatLT settings.formatter.baseDepth settings.baseDepth_lt
  | .directLinks => settings.options.directLinks
  | .onlyMarkup => settings.onlyMarkup

def scalar : (field : Field) → field.Content → Scalar
  | .indent, text | .lineBreak, text => .string text
  | .baseDepth, n => .integer (Int.ofNat n.toNat)
  | .directLinks, b | .onlyMarkup, b => .boolean b

def content? : (field : Field) → Scalar → Option field.Content
  | .indent, .string text | .lineBreak, .string text => some text
  | .baseDepth, .integer n => word? n
  | .directLinks, .boolean b | .onlyMarkup, .boolean b => some b
  | _, _ => none

def toml : (field : Field) → field.Content → Toml.Value
  | .indent, text | .lineBreak, text => .string text
  | .baseDepth, n => .integer (Int.ofNat n.toNat)
  | .directLinks, b | .onlyMarkup, b => .boolean b

def ofToml? : (field : Field) → Toml.Value → Option field.Content
  | .indent, .string text | .lineBreak, .string text => some text
  | .baseDepth, .integer n => word? n
  | .directLinks, .boolean b | .onlyMarkup, .boolean b => some b
  | _, _ => none

def ofValue? (field : Field) : Value → Option field.Content
  | .scalar _ content => field.content? content
  | _ => none

def overriddenBy? (field : Field) (override : String × Value) :
    Option field.Content :=
  if override.1 = field.key then field.ofValue? override.2 else none

/-- The content that the entries of a section give a field; of several the last
one counts. -/
def givenBy? (field : Field) (entries : Toml.Entries) : Option field.Content :=
  entries.reverse.findSome? fun entry =>
    if entry.1 = field.name then field.ofToml? entry.2 else none

def givenIn? (field : Field) (document : Toml.Entries) : Option field.Content :=
  document.reverse.findSome? fun entry =>
    if entry.1 = field.home.key then (entries? entry.2).bind field.givenBy?
    else none

end Field

def document? (files : FileTree) (path : String) : Option Toml.Entries :=
  match findSource files path with
  | some (_, content) => (FileTree.decode content).toOption.bind Toml.parse?
  | none => none

/-- Whether an entry of a section is a field of it with a content of its
type. -/
def IsFieldOf (part : Section) (entry : String × Toml.Value) : Prop :=
  ∃ field ∈ Field.all, field.home = part ∧ field.name = entry.1 ∧
    (field.ofToml? entry.2).isSome = true

instance (part : Section) (entry : String × Toml.Value) :
    Decidable (IsFieldOf part entry) :=
  inferInstanceAs (Decidable (∃ field ∈ Field.all, _))

/-- Whether an entry of a document is a section with nothing but fields of
it. -/
def IsSection (entry : String × Toml.Value) : Prop :=
  ∃ part ∈ Section.all, part.key = entry.1 ∧
    ∃ entries ∈ entries? entry.2, ∀ entry ∈ entries, IsFieldOf part entry

instance (entry : String × Toml.Value) : Decidable (IsSection entry) :=
  inferInstanceAs (Decidable (∃ part ∈ Section.all, _))

/-- Whether a file of settings is well-formed and well-typed, or may be missing
and is. -/
def HoldsSettings (files : FileTree) (source : Source) : Prop :=
  (source.isRequired = false ∧ (findSource files source.path).isNone = true) ∨
    ∃ document ∈ document? files source.path, ∀ entry ∈ document,
      IsSection entry

instance (files : FileTree) (source : Source) :
    Decidable (HoldsSettings files source) :=
  inferInstanceAs (Decidable (_ ∨ _))

/-- Whether an override gives a field a content of its type. -/
def OverridesField (override : String × Value) : Prop :=
  ∃ (field : Field) (content : field.Content),
    override = (field.key, .scalar none (field.scalar content))

def lastOverride? (steps : List Step) (field : Field) : Option field.Content :=
  (steps.filterMap Step.override?).reverse.findSome? field.overriddenBy?

def lastInFiles? (files : FileTree) (steps : List Step) (field : Field) :
    Option field.Content :=
  (steps.filterMap Step.source?).reverse.findSome? fun source =>
    (document? files source.path).bind field.givenIn?

/-- The content of a field that counts: of its last override, else of the last
file that gives it, else the built-in one. -/
def effective (files : FileTree) (steps : List Step) (field : Field) :
    field.Content :=
  ((lastOverride? steps field).or (lastInFiles? files steps field)).getD
    (field.of defaults)

/-! Names, keys and contents. -/

namespace Field

theorem name_injective {field other : Field} (h : field.name = other.name) :
    field = other := by
  revert h
  cases field <;> cases other <;> decide

theorem key_injective {field other : Field} (h : field.key = other.key) :
    field = other := by
  revert h
  cases field <;> cases other <;> decide

theorem ofValue?_scalar (field : Field) (content : field.Content)
    (origin? : Option String) :
    field.ofValue? (.scalar origin? (field.scalar content)) = some content := by
  cases field with
  | baseDepth => exact word?_toNat content
  | indent | lineBreak | directLinks | onlyMarkup => rfl

theorem eq_toml_of_ofToml? {field : Field} {value : Toml.Value}
    {content : field.Content}
    (h : field.ofToml? value = some content) : value = field.toml content := by
  cases field with
  | baseDepth =>
    cases value with
    | integer n => exact congrArg _ (eq_of_word?_eq_some h)
    | _ => cases h
  | indent | lineBreak =>
    cases value with
    | string text => cases h; rfl
    | _ => cases h
  | directLinks | onlyMarkup =>
    cases value with
    | boolean b => cases h; rfl
    | _ => cases h

theorem ofToml?_toml (field : Field) (content : field.Content) :
    field.ofToml? (field.toml content) = some content := by
  cases field with
  | baseDepth => exact word?_toNat content
  | indent | lineBreak | directLinks | onlyMarkup => rfl

theorem ofToml_toml (field : Field) (content : field.Content)
    (origin? : Option String) :
    Value.ofToml origin? (field.toml content) =
      .scalar origin? (field.scalar content) := by
  cases field <;> rfl

theorem lowercase_name (field : Field) :
    Text.lowercase field.name = field.name := by
  cases field <;> decide

theorem dottedNames_key (field : Field) :
    dottedNames field.key = [field.home.key, field.name] := by
  cases field <;> decide

theorem dottedKey_key (field : Field) :
    dottedKey field.key = ⟨field.home.key, [.name field.name]⟩ := by
  rw [dottedKey, dottedNames_key]
  rfl

theorem isDotted_key (field : Field) : IsDotted field.key := by
  cases field <;> decide

end Field

theorem Section.key_injective {part other : Section}
    (h : part.key = other.key) : part = other := by
  revert h
  cases part <;> cases other <;> decide

theorem Section.lowercase_key (part : Section) :
    Text.lowercase part.key = part.key := by
  cases part <;> decide

end HtmlBuilder.Settings
