import HtmlBuilder.Proofs.Command.Check
import HtmlBuilder.Proofs.Settings.Masking

/-!
Flags that set a field. Each is the last override of its field, so the settings
of a run do not depend on what files give that field, and two runs over files
that differ in nothing but that field end in the same way when they find the
same input.
-/

namespace HtmlBuilder

namespace FileTree

def putting (tree : FileTree) (written? : Option (Path × ByteArray)) :
    FileTree :=
  match written? with
  | some (place, content) =>
    { tree with files := putEntry tree.files place content }
  | none => tree

/-- A path in two trees with files at the same places can be written to in both
or in none of them. -/
theorem Alike.write? {r : ByteArray → ByteArray → Prop} {tree other : FileTree}
    (h : Alike r tree other) (path text : String) :
    (tree.write? path text = none ∧ other.write? path text = none) ∨
      ∃ place, tree.write? path text =
        some (tree.putting (some (place, text.toUTF8))) ∧
        other.write? path text =
          some (other.putting (some (place, text.toUTF8))) := by
  have hplace := h.locate path
  unfold FileTree.write?
  generalize tree.locate path = found, other.locate path = found' at hplace ⊢
  cases hplace with
  | none => exact .inl ⟨rfl, rfl⟩
  | @some found found' hplace =>
    obtain ⟨place, entry⟩ := found
    obtain ⟨place', entry'⟩ := found'
    obtain ⟨rfl, hentry⟩ := hplace
    cases hentry with
    | file | vacant => exact .inr ⟨place, rfl, rfl⟩
    | directory => exact .inl ⟨rfl, rfl⟩

end FileTree

namespace Command

open Settings

namespace Invocation

def given? (invocation : Invocation) : (field : Field) → Option field.Content
  | .indent => invocation.indentWidth?.map fun width =>
    String.ofList (List.replicate width.toNat ' ')
  | .lineBreak => none
  | .baseDepth => invocation.baseDepth?.map UInt16.toUInt64
  | .directLinks => if invocation.directLinks then some true else none
  | .onlyMarkup => if invocation.force then some false else none

def override? (invocation : Invocation) (field : Field) :
    Option (Key × Value) :=
  (invocation.given? field).map fun content =>
    (dottedKey field.key, .scalar none (field.scalar content))

theorem overrides_loader (invocation : Invocation) :
    invocation.loader.overrides = Field.all.filterMap invocation.override? := by
  unfold override?
  simp only [Field.dottedKey_key]
  obtain ⟨input?, output?, config?, width?, depth?, directLinks, force, check,
    verbosity⟩ := invocation
  cases config? <;> cases width? <;> cases depth? <;> cases directLinks <;>
    cases force <;> rfl

theorem sets_loader {invocation : Invocation} {field : Field}
    {content : field.Content}
    (hgiven : invocation.given? field = some content) :
    invocation.loader.Sets field content := by
  have hmem : field ∈ Field.all := by cases field <;> decide
  have hnodup : Field.all.Nodup := by decide
  obtain ⟨before, after, hall⟩ := List.append_of_mem hmem
  have hoverride : invocation.override? field =
      some (dottedKey field.key, .scalar none (field.scalar content)) := by
    rw [override?, hgiven, Option.map_some]
  refine ⟨before.filterMap invocation.override?,
    after.filterMap invocation.override?, ?_, ?_⟩
  · rw [overrides_loader, hall, List.filterMap_append,
      List.filterMap_cons_some hoverride]
  · intro override hafter
    obtain ⟨other, hother, hvalue⟩ := List.mem_filterMap.1 hafter
    obtain ⟨content', -, rfl⟩ := Option.map_eq_some_iff.1 hvalue
    refine ⟨other, ?_, content', rfl⟩
    rintro rfl
    rw [hall] at hnodup
    exact (List.nodup_cons.1 (List.nodup_append.1 hnodup).2.1).1 hother

end Invocation

/-! Whole processes. -/

/-- Two endings that look the same, of processes that have written at most one
file, the same in both. -/
structure EndAlike (files files' : FileTree) (ending ending' : Ending) :
    Prop where
  exitCode_eq : ending.exitCode = ending'.exitCode
  stdout_eq : ending.stdout = ending'.stdout
  failure?_eq : ending.failure? = ending'.failure?
  files_eq : ∃ written?, ending.files = files.putting written? ∧
    ending'.files = files'.putting written?

theorem EndAlike.of_failure (files files' : FileTree) (failure : Failure) :
    EndAlike files files' ⟨failure.exitCode, "", failure.message, files⟩
      ⟨failure.exitCode, "", failure.message, files'⟩ :=
  ⟨rfl, rfl, rfl, none, rfl, rfl⟩

/-- Over files that differ in nothing but a field that a flag sets, two
processes end alike if they find the same input. -/
theorem endAlike_of_alike {arguments : List String} {invocation : Invocation}
    {field : Field}
    {content : field.Content} {stdin : ByteArray} {files files' : FileTree}
    (hparse : Invocation.parse arguments = .ok invocation)
    (hcheck : invocation.check = false)
    (hgiven : invocation.given? field = some content)
    (hfiles : FileTree.Alike field.EqualBut files files')
    (hinput : readInput invocation stdin files =
      readInput invocation stdin files') :
    EndAlike files files' (runProcess arguments stdin files)
      (runProcess arguments stdin files') := by
  have hbuild := Loader.build_eq_of_alike (Invocation.sets_loader hgiven) hfiles
  rw [runProcess_eq, runProcess_eq, run, run, hparse]
  simp only [execute, ← hinput, ← hbuild, hcheck]
  cases readInput invocation stdin files with
  | error failure => exact .of_failure files files' failure
  | ok input =>
    simp only [bind, Except.bind, Bool.false_eq_true, if_false]
    cases invocation.loader.build files with
    | error error => exact .of_failure files files' .settings
    | ok settings =>
      simp only [writeResult]
      cases invocation.output? with
      | none => exact ⟨rfl, rfl, rfl, none, rfl, rfl⟩
      | some path =>
        rcases hfiles.write? path (resultOf settings input) with
          ⟨hwrite, hwrite'⟩ | ⟨place, hwrite, hwrite'⟩
        · simp only [hwrite, hwrite']
          exact .of_failure files files' (.output path)
        · simp only [hwrite, hwrite']
          exact ⟨rfl, rfl, rfl, some (place, _), rfl, rfl⟩

/-- A flag makes what files give its field irrelevant. Over two trees of files
that differ in nothing but the values that documents give the field, of any kind
and in any number of files, a command line with the flag that is no check loads
the same settings or fails to load them for the same reason; in settings that
are loaded the field has the content of the flag, and they are what a result is
made with. If the input is the same in both trees, as it is unless it is one of
the files that differ, both processes end with the same exit code and the same
output, and write the same file or none. -/
theorem flag_hides_files {arguments : List String} {invocation : Invocation}
    {field : Field}
    {content : field.Content} (stdin : ByteArray) {files files' : FileTree}
    (hparse : Invocation.parse arguments = .ok invocation)
    (hcheck : invocation.check = false)
    (hgiven : invocation.given? field = some content)
    (hfiles : FileTree.Alike field.EqualBut files files') :
    invocation.loader.build files = invocation.loader.build files' ∧
      (∀ settings, invocation.loader.build files = .ok settings →
        field.of settings = content ∧ ∀ tree ∈ [files, files'], ∀ input,
          readInput invocation stdin tree = .ok input →
          run arguments stdin tree =
            writeResult invocation tree (resultOf settings input)) ∧
      (readInput invocation stdin files = readInput invocation stdin files' →
        EndAlike files files' (runProcess arguments stdin files)
          (runProcess arguments stdin files')) := by
  have hsets := Invocation.sets_loader hgiven
  have hbuild := Loader.build_eq_of_alike hsets hfiles
  refine ⟨hbuild, fun settings hsettings =>
    ⟨Loader.of_eq_of_build hsets hsettings, ?_⟩,
    endAlike_of_alike hparse hcheck hgiven hfiles⟩
  intro tree htree input hinput
  refine run_eq_writeResult hparse hcheck hinput ?_
  rcases List.mem_pair.1 htree with rfl | rfl
  · exact hsettings
  · rw [← hbuild, hsettings]

theorem exitCode_eq_zero_of_stdout_ne {arguments : List String}
    {stdin : ByteArray} {files : FileTree}
    (h : (runProcess arguments stdin files).stdout ≠ "") :
    (runProcess arguments stdin files).exitCode = 0 := by
  rw [runProcess_eq] at h ⊢
  cases hrun : run arguments stdin files with
  | ok success => rfl
  | error failure =>
    rw [hrun] at h
    exact absurd rfl h

/-- Two layers that give the indent numbers, a list and a table, in other places
of their sections, on a command line that gives it too. -/
theorem flag_hides_files_indent :
    let files : FileTree :=
      { files := [(["page.html"], "<p>a</p>".toUTF8),
          (["html2kara.toml"], "formatter.indent = 3".toUTF8),
          (["site.toml"],
            "[formatter]\nindent = 1.5\nbase_indent_depth = 1".toUTF8)] }
    let files' : FileTree :=
      { files := [(["page.html"], "<p>a</p>".toUTF8),
          (["html2kara.toml"], "formatter.indent = [\"x\"]".toUTF8),
          (["site.toml"],
            "[formatter]\nbase_indent_depth = 1\n[formatter.Indent]\nwidth = 2".toUTF8)] }
    let arguments := ["--indent-width=2", "--config=site.toml", "page.html"]
    FileTree.Alike (Field.EqualBut .indent) files files' ∧
      (runProcess arguments .empty files').exitCode = 0 ∧
      (runProcess arguments .empty files').stdout =
        "  p \x7b\n    +\"a\"\n  \x7d\n" := by
  intro files files' arguments
  have hparse : Invocation.parse arguments =
      .ok { input? := "page.html", config? := "site.toml",
            indentWidth? := some 2 } := by
    decide +kernel
  have hfiles : FileTree.Alike (Field.EqualBut .indent) files files' :=
    .of_forall₂ (.cons ⟨rfl, .inl rfl⟩ (.cons ⟨rfl, by decide +kernel⟩
      (.cons ⟨rfl, by decide +kernel⟩ .nil)))
  have hstdout : (runProcess arguments .empty files).stdout =
      "  p \x7b\n    +\"a\"\n  \x7d\n" := by decide +kernel
  have hends := (flag_hides_files .empty hparse rfl rfl hfiles).2.2 rfl
  rw [hends.stdout_eq] at hstdout
  exact ⟨hfiles, exitCode_eq_zero_of_stdout_ne (by rw [hstdout]; decide),
    hstdout⟩

/-- A file of settings that is the input as well shows what it gives the field,
whatever the flag says. -/
theorem flag_shows_input :
    let files : FileTree :=
      { files := [(["html2kara.toml"],
          "conversion.only_when_html = true".toUTF8)] }
    let files' : FileTree :=
      { files := [(["html2kara.toml"],
          "conversion.only_when_html = 1".toUTF8)] }
    let arguments := ["--force", "html2kara.toml"]
    (∃ invocation, Invocation.parse arguments = .ok invocation ∧
      invocation.check = false ∧
        invocation.given? .onlyMarkup = some false) ∧
      FileTree.Alike (Field.EqualBut .onlyMarkup) files files' ∧
      (runProcess arguments .empty files).exitCode = 0 ∧
      (runProcess arguments .empty files').exitCode = 0 ∧
      (runProcess arguments .empty files).stdout =
        "+\"conversion.only_when_html = true\"\n" ∧
      (runProcess arguments .empty files').stdout =
        "+\"conversion.only_when_html = 1\"\n" := by
  intro files files' arguments
  have hparse : Invocation.parse arguments =
      .ok { input? := "html2kara.toml", force := true } := by decide +kernel
  have hfiles : FileTree.Alike (Field.EqualBut .onlyMarkup) files files' :=
    .of_forall₂ (.cons ⟨rfl, by decide +kernel⟩ .nil)
  have hstdout : (runProcess arguments .empty files).stdout =
      "+\"conversion.only_when_html = true\"\n" := by decide +kernel
  have hstdout' : (runProcess arguments .empty files').stdout =
      "+\"conversion.only_when_html = 1\"\n" := by decide +kernel
  exact ⟨⟨_, hparse, rfl, rfl⟩, hfiles,
    exitCode_eq_zero_of_stdout_ne (by rw [hstdout]; decide),
    exitCode_eq_zero_of_stdout_ne (by rw [hstdout']; decide), hstdout, hstdout'⟩

end Command

end HtmlBuilder
