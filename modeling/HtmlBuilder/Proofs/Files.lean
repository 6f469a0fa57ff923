import HtmlBuilder.FileTree
import HtmlBuilder.Proofs.Entries
import Mathlib.Data.List.Forall2
import Mathlib.Data.Option.Basic

/-!
Files that are written and read. Where a path leads to does not depend on what
files hold, so a text that has been written to a path is what the path gives,
and nothing else changes; and in two trees with files at the same places a path
leads to the same place.
-/

namespace HtmlBuilder

namespace FileTree

theorem decode_toUTF8 (text : String) : decode text.toUTF8 = .ok text := by
  have hvalid : ByteArray.IsValidUTF8 text.toUTF8 := text.isValidUTF8
  rw [decode, String.fromUTF8?, dif_pos hvalid]
  rfl

theorem enter_withFiles (tree : FileTree) (files : List (Path × ByteArray))
    (directory : Path) (names : List String) :
    { tree with files }.enter directory names = tree.enter directory names := by
  fun_induction tree.enter directory names <;> simp_all [enter, isDirectory]

/-- Names that lead to a place other than a directory lead to it whatever files
there are. -/
theorem follow_withFiles {tree : FileTree} {names : List String} {place : Path}
    {entry : Entry} (files : List (Path × ByteArray))
    (h : tree.follow names = some (place, entry))
    (hentry : entry ≠ .directory) :
    { tree with files }.follow names =
      some (place, { tree with files }.entryAt place) := by
  unfold follow at h ⊢
  split at h
  · cases h
    exact absurd rfl hentry
  · split at h
    · obtain ⟨directory, -, hplace⟩ := Option.map_eq_some_iff.1 h
      cases hplace
      exact absurd rfl hentry
    · next hlast =>
      obtain ⟨directory, hdirectory, hplace⟩ := Option.map_eq_some_iff.1 h
      cases hplace
      simp only [hlast, Bool.false_eq_true, if_false, enter_withFiles,
        hdirectory, Option.map_some]

theorem locate_withFiles {tree : FileTree} {path : String} {place : Path}
    {entry : Entry} (files : List (Path × ByteArray))
    (h : tree.locate path = some (place, entry)) (hentry : entry ≠ .directory) :
    { tree with files }.locate path =
      some (place, { tree with files }.entryAt place) := by
  unfold locate at h ⊢
  split at h
  · cases h
  · next hpath =>
    rw [if_neg hpath]
    split at h
    · obtain ⟨directory, -, hplace⟩ := Option.map_eq_some_iff.1 h
      cases hplace
      exact absurd rfl hentry
    · next hslash =>
      rw [if_neg hslash]
      exact follow_withFiles files h hentry

theorem read_of_write? {tree after : FileTree} {path text : String}
    (h : tree.write? path text = some after) : after.read path = .ok text := by
  have hread (place : Path) (entry : Entry)
      (hplace : tree.locate path = some (place, entry))
      (hentry : entry ≠ .directory) :
      { tree with files := putEntry tree.files place text.toUTF8 }.read path =
        .ok text := by
    rw [read, bytes?, locate_withFiles _ hplace hentry, entryAt,
      lookup_putEntry, if_pos rfl]
    exact decode_toUTF8 text
  unfold write? at h
  split at h
  · next hplace =>
    cases h
    exact hread _ _ hplace nofun
  · next hplace =>
    cases h
    exact hread _ _ hplace nofun
  · cases h

/-- Whether a path leads to a file, or to a place where one can be put. -/
def IsWritable (tree : FileTree) (path : String) : Prop :=
  ∃ place entry, tree.locate path = some (place, entry) ∧ entry ≠ .directory

/-- A path that can be written to takes every text, and nothing but what stands
there changes. -/
theorem exists_write?_eq {tree : FileTree} {path : String}
    (h : tree.IsWritable path) :
    ∃ place entry, tree.locate path = some (place, entry) ∧ ∀ text, ∃ after,
      tree.write? path text = some after ∧ after.read path = .ok text ∧
        after.entryAt place = .file text.toUTF8 ∧
        ∀ other, other ≠ place → after.entryAt other = tree.entryAt other := by
  obtain ⟨place, entry, hplace, hentry⟩ := h
  refine ⟨place, entry, hplace, fun text => ?_⟩
  have hwrite : tree.write? path text =
      some { tree with files := putEntry tree.files place text.toUTF8 } := by
    rw [write?, hplace]
    cases entry with
    | file | vacant => rfl
    | directory => exact absurd rfl hentry
  refine ⟨_, hwrite, read_of_write? hwrite, ?_, fun other hother => ?_⟩
  · rw [entryAt, lookup_putEntry, if_pos rfl]
  · rw [entryAt, entryAt, lookup_putEntry, if_neg hother]
    rfl

end FileTree

/-! Trees with files at the same places. -/

/-- What stands at a place in two trees: files that are related, or the same. -/
inductive Entry.Alike (r : ByteArray → ByteArray → Prop) : Entry → Entry → Prop
  | file {content other : ByteArray} (h : r content other) :
      Alike r (.file content) (.file other)
  | directory : Alike r .directory .directory
  | vacant : Alike r .vacant .vacant

namespace FileTree

/-- Two trees with the same directories and with files at the same places,
related place by place. -/
structure Alike (r : ByteArray → ByteArray → Prop)
    (tree other : FileTree) : Prop where
  working_eq : tree.working = other.working
  directories_eq : tree.directories = other.directories
  lookup : ∀ place,
    Option.Rel r (tree.files.lookup place) (other.files.lookup place)

variable {r : ByteArray → ByteArray → Prop} {tree other : FileTree}

theorem Alike.of_forall₂ {working : Path} {directories : List Path}
    {files others : List (Path × ByteArray)}
    (h : List.Forall₂ (fun file other => file.1 = other.1 ∧ r file.2 other.2)
      files others) :
    Alike r ⟨working, directories, files⟩ ⟨working, directories, others⟩ := by
  refine ⟨rfl, rfl, fun place => ?_⟩
  induction h with
  | nil => exact .none
  | @cons file other files others hfile _ ih =>
    show Option.Rel r ((file :: files).lookup place)
      ((other :: others).lookup place)
    rw [List.lookup_cons, List.lookup_cons, hfile.1]
    cases place == other.1 with
    | true => exact .some hfile.2
    | false => exact ih

theorem Alike.isDirectory_eq (h : Alike r tree other) (path : Path) :
    tree.isDirectory path = other.isDirectory path := by
  rw [isDirectory, isDirectory, h.working_eq, h.directories_eq]

theorem Alike.enter_eq (h : Alike r tree other) (directory : Path)
    (names : List String) :
    tree.enter directory names = other.enter directory names := by
  fun_induction tree.enter directory names <;>
    simp_all [enter, h.isDirectory_eq]

theorem Alike.entryAt (h : Alike r tree other) (path : Path) :
    (tree.entryAt path).Alike r (other.entryAt path) := by
  have hlookup := h.lookup path
  rw [FileTree.entryAt, FileTree.entryAt, h.isDirectory_eq]
  generalize tree.files.lookup path = found,
    other.files.lookup path = found' at hlookup ⊢
  cases hlookup with
  | some hcontent => exact .file hcontent
  | none =>
    cases other.isDirectory path with
    | true => exact .directory
    | false => exact .vacant

def SamePlace (r : ByteArray → ByteArray → Prop)
    (found found' : Path × Entry) : Prop :=
  found.1 = found'.1 ∧ found.2.Alike r found'.2

theorem Alike.map_directory (h : Alike r tree other) (names : List String) :
    Option.Rel (SamePlace r) ((tree.enter [] names).map (·, .directory))
      ((other.enter [] names).map (·, .directory)) := by
  rw [h.enter_eq]
  cases other.enter [] names with
  | none => exact .none
  | some place => exact .some ⟨rfl, .directory⟩

theorem Alike.follow (h : Alike r tree other) (names : List String) :
    Option.Rel (SamePlace r) (tree.follow names) (other.follow names) := by
  unfold FileTree.follow
  cases names.reverse with
  | nil => exact .some ⟨rfl, .directory⟩
  | cons last before =>
    dsimp only
    split
    · exact h.map_directory names
    · rw [h.enter_eq]
      cases other.enter [] before.reverse with
      | none => exact .none
      | some directory => exact .some ⟨rfl, h.entryAt _⟩

theorem Alike.absoluteNames_eq (h : Alike r tree other) (path : String) :
    tree.absoluteNames path = other.absoluteNames path := by
  rw [absoluteNames, absoluteNames, h.working_eq]

theorem Alike.locate (h : Alike r tree other) (path : String) :
    Option.Rel (SamePlace r) (tree.locate path) (other.locate path) := by
  unfold FileTree.locate
  rw [h.absoluteNames_eq]
  split
  · exact .none
  · split
    · exact h.map_directory _
    · exact h.follow _

theorem Alike.bytes? (h : Alike r tree other) (path : String) :
    Option.Rel r (tree.bytes? path) (other.bytes? path) := by
  have hplace := h.locate path
  unfold FileTree.bytes?
  generalize tree.locate path = found, other.locate path = found' at hplace ⊢
  cases hplace with
  | none => exact .none
  | @some found found' hplace =>
    obtain ⟨place, entry⟩ := found
    obtain ⟨place', entry'⟩ := found'
    cases hplace.2 with
    | file hcontent => exact .some hcontent
    | directory | vacant => exact .none

end FileTree

end HtmlBuilder
