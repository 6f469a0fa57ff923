import HtmlBuilder.Proofs.Files
import HtmlBuilder.Proofs.Settings.Fields

/-!
Documents up to one field. What a document gives a field can be taken out of it,
whatever kind of value it is and however the keys that lead to it are written;
documents of which the same is left differ in nothing but that field. Values of
documents can be compared, so this can be decided.
-/

namespace HtmlBuilder

/-! Equality of values of documents. -/

namespace Toml.Value

mutual

def same : Value → Value → Bool
  | .string text, .string other | .moment text, .moment other => text == other
  | .integer n, .integer other => n == other
  | .float number, .float other => decide (number = other)
  | .boolean b, .boolean other => b == other
  | .array items, .array others => sameItems items others
  | .table entries, .table others => sameEntries entries others
  | _, _ => false

def sameItems : List Value → List Value → Bool
  | [], [] => true
  | item :: items, other :: others => item.same other && sameItems items others
  | _, _ => false

def sameEntries : List (String × Value) → List (String × Value) → Bool
  | [], [] => true
  | (key, value) :: entries, (key', value') :: others =>
    key == key' && value.same value' && sameEntries entries others
  | _, _ => false

end

mutual

theorem same_iff : (value other : Value) →
    (value.same other = true ↔ value = other)
  | .string _, other => by cases other <;> simp [same]
  | .integer _, other => by cases other <;> simp [same]
  | .float _, other => by cases other <;> simp [same]
  | .boolean _, other => by cases other <;> simp [same]
  | .moment _, other => by cases other <;> simp [same]
  | .array items, other => by cases other <;> simp [same, sameItems_iff items]
  | .table entries, other => by cases other <;>
      simp [same, sameEntries_iff entries]

theorem sameItems_iff : (items others : List Value) →
    (sameItems items others = true ↔ items = others)
  | [], others => by cases others <;> simp [sameItems]
  | item :: items, others => by
    cases others <;> simp [sameItems, same_iff item, sameItems_iff items]

theorem sameEntries_iff : (entries others : List (String × Value)) →
    (sameEntries entries others = true ↔ entries = others)
  | [], others => by cases others <;> simp [sameEntries]
  | (_, value) :: entries, others => by
    cases others <;>
      simp [sameEntries, same_iff value, sameEntries_iff entries, Prod.ext_iff]

end

instance : DecidableEq Value :=
  fun value other => decidable_of_iff _ (same_iff value other)

end Toml.Value

namespace Settings

/-! Documents without a field. -/

/-- The key that an entry of a document is put under: the one that its text
writes, or else the text as a name. -/
def entryKey (text : String) : Key :=
  (Key.parse? text).getD ⟨text, []⟩

def documentOf? (content : ByteArray) : Option Toml.Entries :=
  (FileTree.decode content).toOption.bind Toml.parse?

namespace Field

/-- A value that is put at the section of a field, without the field; a value
that is no table is as it is. -/
def outOfSection (field : Field) : Toml.Value → Toml.Value
  | .table entries => .table (entries.filter (Text.lowercase ·.1 != field.name))
  | value => value

/-- An entry of a document without a field; nothing is left of one that is put
at the field or below it. -/
def outOfEntry? (field : Field) (entry : String × Toml.Value) :
    Option (String × Toml.Value) :=
  let key := entryKey entry.1
  if Text.lowercase key.first = field.home.key then
    match key.steps with
    | [] => some (entry.1, field.outOfSection entry.2)
    | .name name :: _ =>
      if Text.lowercase name = field.name then none else some entry
    | .position _ :: _ => some entry
  else some entry

def outOf (field : Field) (document : Toml.Entries) : Toml.Entries :=
  document.filterMap field.outOfEntry?

/-- Whether two files are equal, or hold documents that differ in nothing but a
field. -/
def EqualBut (field : Field) (content other : ByteArray) : Prop :=
  content = other ∨ ∃ document ∈ documentOf? content,
    ∃ document' ∈ documentOf? other,
    field.outOf document = field.outOf document'

instance (field : Field) (content other : ByteArray) :
    Decidable (field.EqualBut content other) :=
  inferInstanceAs (Decidable (_ ∨ _))

end Field

/-- What is read of one source in two trees: the same error, or documents that
differ in nothing but a field. -/
inductive ReadAlike (field : Field) :
    Except Error (List (String × Value)) →
    Except Error (List (String × Value)) → Prop
  | error (error : Error) : ReadAlike field (.error error) (.error error)
  | ok (origin? : Option String) {document document' : Toml.Entries}
      (h : field.outOf document = field.outOf document') :
      ReadAlike field (.ok (Value.ofTomlEntries origin? document))
        (.ok (Value.ofTomlEntries origin? document'))

theorem exists_of_documentOf? {content : ByteArray} {document : Toml.Entries}
    (h : documentOf? content = some document) :
    ∃ text, FileTree.decode content = .ok text ∧
    Toml.parse? text = some document := by
  unfold documentOf? at h
  cases hdecode : FileTree.decode content with
  | error error =>
    rw [hdecode] at h
    cases h
  | ok text =>
    rw [hdecode] at h
    exact ⟨text, rfl, h⟩

theorem ReadAlike.nil (field : Field) : ReadAlike field (.ok []) (.ok []) :=
  .ok none (rfl : field.outOf [] = field.outOf [])

theorem findSource_alike {r : ByteArray → ByteArray → Prop}
    {files files' : FileTree}
    (h : FileTree.Alike r files files') (path : String) :
    Option.Rel (fun found found' => found.1 = found'.1 ∧ r found.2 found'.2)
      (findSource files path) (findSource files' path) := by
  have hbytes := h.bytes? path
  unfold findSource
  rw [h.absoluteNames_eq]
  generalize files.bytes? path = found, files'.bytes? path = found' at hbytes ⊢
  cases hbytes with
  | some hcontent => exact .some ⟨rfl, hcontent⟩
  | none =>
    dsimp only
    split
    · exact .none
    · next last before hnames =>
      split
      · exact .none
      · have hfollow := h.follow (before.reverse ++ [last ++ ".toml"])
        generalize files.follow _ = found, files'.follow _ = found' at hfollow ⊢
        cases hfollow with
        | none => exact .none
        | @some found found' hplace =>
          obtain ⟨place, entry⟩ := found
          obtain ⟨place', entry'⟩ := found'
          cases hplace.2 with
          | file hcontent => exact .some ⟨rfl, hcontent⟩
          | directory | vacant => exact .none

/-- In trees that differ in nothing but a field of their files every source
reads alike. -/
theorem readSource_alike {field : Field} {files files' : FileTree}
    (h : FileTree.Alike field.EqualBut files files') (source : Source) :
    ReadAlike field (readSource files source) (readSource files' source) := by
  have hfound := findSource_alike h source.path
  unfold readSource
  generalize findSource files source.path = found,
    findSource files' source.path = found' at hfound ⊢
  cases hfound with
  | none =>
    dsimp only
    split
    · exact .error _
    · exact .nil field
  | @some found found' hfound =>
    obtain ⟨names, content⟩ := found
    obtain ⟨names', content'⟩ := found'
    obtain ⟨rfl, hcontent⟩ := hfound
    rcases hcontent
      with rfl | ⟨document, hdocument, document', hdocument', hsame⟩
    · -- A file that both trees have is read as it is in both.
      rw [h.working_eq]
      dsimp only
      split
      · split
        · exact .error _
        · exact .nil field
      · split
        · exact .error _
        · exact .ok _ rfl
    · obtain ⟨text, hdecode, hparse⟩ := exists_of_documentOf? hdocument
      obtain ⟨text', hdecode', hparse'⟩ := exists_of_documentOf? hdocument'
      simp only [hdecode, hparse, hdecode', hparse', h.working_eq]
      exact .ok _ hsame

end Settings

end HtmlBuilder
