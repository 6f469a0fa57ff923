import HtmlBuilder.Settings.Error

/-!
From values to settings. A value is taken as another type where it can be:
numbers and truth values become text, numbers and some words become truth
values, and so on. A section is a table, or a list of the values of its fields
in order.
-/

namespace HtmlBuilder

structure Settings where
  formatter : Formatter := default
  options : Options := {}
  /-- Whether a text without markup is left as it is. -/
  onlyMarkup : Bool := true
  baseDepth_lt : formatter.baseDepth < UInt64.size := by decide
deriving DecidableEq

namespace Settings

abbrev Mismatch := Found × Wanted

def Value.toText (value : Value) : Except Mismatch String :=
  match value with
  | .scalar _ (.string text) => .ok text
  | .scalar _ (.boolean b) => .ok (if b then "true" else "false")
  | .scalar _ (.integer n) => .ok (toString n)
  | .scalar _ (.float number) => .ok (Decimal.text number)
  | .scalar _ .nothing => .error (.nothing, .string)
  | .array _ _ => .error (.array, .string)
  | .table _ _ => .error (.table, .string)

def Value.toTruth (value : Value) : Except Mismatch Bool :=
  match value with
  | .scalar _ (.boolean b) => .ok b
  | .scalar _ (.integer n) => .ok (n != 0)
  | .scalar _ (.float number) => .ok (number != 0)
  | .scalar _ (.string text) =>
    let lower := Text.lowercase text
    if ["1", "true", "on", "yes"].contains lower then .ok true
    else if ["0", "false", "off", "no"].contains lower then .ok false
    else .error (.string lower, .boolean)
  | .scalar _ .nothing => .error (.nothing, .boolean)
  | .array _ _ => .error (.array, .boolean)
  | .table _ _ => .error (.table, .boolean)

/-- The number that a text writes: digits with perhaps a plus sign before
them. -/
def parseNatural? (text : String) : Option UInt64 :=
  let digits :=
    match text.toList with
    | '+' :: digits => digits
    | digits => digits
  let n := digits.foldl (fun n c => n * 10 + (c.toNat - '0'.toNat)) 0
  if digits.isEmpty || !digits.all Char.isDigit || n ≥ UInt64.size then none
  else some n.toUInt64

/-- A whole number as one of 64 bits without a sign. -/
def word? : Int → Option UInt64
  | .ofNat n => if h : n < UInt64.size then some (.ofNatLT n h) else none
  | .negSucc _ => none

theorem word?_toNat (n : UInt64) : word? (Int.ofNat n.toNat) = some n :=
  dif_pos n.toNat_lt

theorem eq_of_word?_eq_some {n : Int} {word : UInt64}
    (h : word? n = some word) : n = Int.ofNat word.toNat := by
  unfold word? at h
  split at h
  · split at h <;> cases h
    rfl
  · cases h

def Value.toNatural (value : Value) : Except Mismatch UInt64 :=
  match value with
  | .scalar _ (.integer n) =>
    match word? n with
    | some word => .ok word
    | none => .error (.integer n, .natural)
  | .scalar _ (.boolean b) => .ok (if b then 1 else 0)
  | .scalar _ (.float number) => .ok number.round.toUInt64
  | .scalar _ (.string text) =>
    let lower := Text.lowercase text
    if ["true", "on", "yes"].contains lower then .ok 1
    else if ["false", "off", "no"].contains lower then .ok 0
    else match parseNatural? text with
      | some n => .ok n
      | none => .error (.string text, .integer)
  | .scalar _ .nothing => .error (.nothing, .integer)
  | .array _ _ => .error (.array, .integer)
  | .table _ _ => .error (.table, .integer)

/-- Takes the value of a field as a type; `key` names the field in an error. -/
def typed {α : Type} (convert : Value → Except Mismatch α) (key : String)
    (value : Value) : Except Error α :=
  match convert value with
  | .ok result => .ok result
  | .error (found, wanted) => .error (.wrongType found wanted key value.origin?)

def typed? {α : Type} (convert : Value → Except Mismatch α) (key : String)
    (value? : Option Value) : Except Error (Option α) :=
  match value? with
  | some value => (typed convert key value).map some
  | none => .ok none

def required {α : Type} (field : String) (value? : Option α) : Except Error α :=
  match value? with
  | some value => .ok value
  | none => .error (.missingField field)

/-- The values of the fields of a section, with the names they have in errors:
by their keys in a table and by their positions in a list. -/
def fieldsOf (expected : Section) (key : String) (value : Value) :
    Except Error (List (String × Option Value)) :=
  match value with
  | .table _ _ =>
    .ok (expected.fields.map fun field =>
      (key ++ "." ++ field, value.get? field))
  | .array _ items =>
    .ok ((List.range expected.fields.length).map fun n =>
      (key ++ "[" ++ toString n ++ "]", items[n]?))
  | .scalar _ content => .error (.notASection content expected)

def lacking (expected : Section) (field : String) (value : Value) : Error :=
  match value with
  | .array _ items => .tooShort items.length expected
  | _ => .missingField field

def formatterSection (value : Value) :
    Except Error (String × String × UInt64) := do
  match ← fieldsOf .formatter "formatter" value with
  | [(indentKey, indent?), (lineBreakKey, lineBreak?), (baseKey, base?)] =>
    let indent? ← typed? Value.toText indentKey indent?
    let lineBreak? ← typed? Value.toText lineBreakKey lineBreak?
    let base? ← typed? Value.toNatural baseKey base?
    match indent?, lineBreak?, base? with
    | some indent, some lineBreak, some base => .ok (indent, lineBreak, base)
    | none, _, _ => .error (lacking .formatter "indent" value)
    | _, none, _ => .error (lacking .formatter "line_break" value)
    | _, _, none => .error (lacking .formatter "base_indent_depth" value)
  | _ => .error (.missingField "formatter")

def conversionSection (value : Value) : Except Error (Bool × Bool) := do
  match ← fieldsOf .conversion "conversion" value with
  | [(linksKey, links?), (onlyKey, only?)] =>
    let links? ← typed? Value.toTruth linksKey links?
    let only? ← typed? Value.toTruth onlyKey only?
    match links?, only? with
    | some links, some only => .ok (links, only)
    | none, _ => .error (lacking .conversion "href_to_direct_link" value)
    | _, none => .error (lacking .conversion "only_when_html" value)
  | _ => .error (.missingField "conversion")

/-- Settings of given parts; their layout has to be usable. -/
def make (indent lineBreak : String) (baseDepth : UInt64)
    (directLinks onlyMarkup : Bool) : Except Error Settings :=
  match h : Formatter.make indent lineBreak baseDepth.toNat with
  | .ok formatter =>
    .ok { formatter, options := ⟨directLinks⟩, onlyMarkup,
          baseDepth_lt := Formatter.baseDepth_of_make h ▸ baseDepth.toNat_lt }
  | .error error => .error (.formatter error)

def ofValue (root : Value) : Except Error Settings := do
  let formatter? ← match root.get? "formatter" with
    | some value => (formatterSection value).map some
    | none => .ok none
  let conversion? ← match root.get? "conversion" with
    | some value => (conversionSection value).map some
    | none => .ok none
  let (indent, lineBreak, baseDepth) ← required "formatter" formatter?
  let (directLinks, onlyMarkup) ← required "conversion" conversion?
  make indent lineBreak baseDepth directLinks onlyMarkup

end Settings

end HtmlBuilder
