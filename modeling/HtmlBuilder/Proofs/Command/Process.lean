import HtmlBuilder.Command.Process

/-!
What a process leaves behind. Every step before the last one only reads, and the
last one changes nothing if it fails; so a process ends with what its run gives
as a whole, and one that fails leaves its output empty and all files as they
were.
-/

namespace HtmlBuilder.Command

/-- How a step ends that gives a result and leaves a world. -/
def endingIn {α : Type} (result : Except Failure α) (world : World) :
    EStateM.Result Failure World α :=
  match result with
  | .ok value => .ok value world
  | .error failure => .error failure world

namespace Process

/-! The steps one by one. -/

theorem run_get (world : World) :
    (get : Process World).run world = .ok world world :=
  rfl

theorem run_set (world after : World) :
    (set after : Process PUnit).run world = .ok () after :=
  rfl

theorem run_bind {α β : Type} (step : Process α) (next : α → Process β)
    (world : World) : (step >>= next).run world =
      match step.run world with
      | .ok value after => (next value).run after
      | .error failure after => .error failure after := by
  simp only [EStateM.run]
  show EStateM.bind step next world = _
  unfold EStateM.bind
  cases step world <;> rfl

theorem run_takeStdin (world : World) :
    takeStdin.run world =
      endingIn ((FileTree.decode world.stdin).mapError fun _ => Failure.stdin)
        { world with stdin := .empty } := by
  simp only [takeStdin, run_bind, run_get, run_set]
  cases FileTree.decode world.stdin <;> rfl

theorem run_readFile (path : String) (world : World) :
    (readFile path).run world =
      endingIn ((world.files.read path).mapError fun _ => Failure.input path)
        world := by
  simp only [readFile, run_bind, run_get]
  cases world.files.read path <;> rfl

theorem run_takeInput_of_stdin {invocation : Invocation}
    (h : invocation.input? = none ∨ invocation.input? = some "-")
    (world : World) :
    (takeInput invocation).run world =
      endingIn (readInput invocation world.stdin world.files)
        { world with stdin := .empty } := by
  have htake : takeInput invocation = takeStdin := by
    rcases h with h | h
    · rw [takeInput, h]
    · rw [takeInput, h]
      rfl
  have hread : readInput invocation world.stdin world.files =
      (FileTree.decode world.stdin).mapError fun _ => Failure.stdin := by
    rcases h with h | h <;> rw [readInput, h] <;>
      cases FileTree.decode world.stdin <;> rfl
  rw [htake, hread, run_takeStdin]

theorem run_takeInput_of_file {invocation : Invocation} {path : String}
    (h : invocation.input? = some path) (hpath : path ≠ "-") (world : World) :
    (takeInput invocation).run world =
      endingIn (readInput invocation world.stdin world.files) world := by
  have htake : takeInput invocation = readFile path := by
    rw [takeInput, h]
    split
    · next hnone => cases hnone
    · next hstdin => exact absurd (Option.some.inj hstdin) hpath
    · next hfile => rw [Option.some.inj hfile]
  have hread : readInput invocation world.stdin world.files =
      (world.files.read path).mapError fun _ => Failure.input path := by
    rw [readInput, h]
    split
    · next hnone => cases hnone
    · next hstdin => exact absurd (Option.some.inj hstdin) hpath
    · next hfile =>
      rw [← Option.some.inj hfile]
      cases world.files.read path <;> rfl
  rw [htake, hread, run_readFile]

/-- Taking the input changes nothing but what is left of the input that is given
to the process. -/
theorem exists_run_takeInput (invocation : Invocation) (world : World) :
    ∃ stdin, (takeInput invocation).run world =
      endingIn (readInput invocation world.stdin world.files)
        { world with stdin } := by
  by_cases hstdin : invocation.input? = none ∨ invocation.input? = some "-"
  · exact ⟨.empty, run_takeInput_of_stdin hstdin world⟩
  · cases hinput : invocation.input? with
    | none => exact absurd (.inl hinput) hstdin
    | some path =>
      refine ⟨world.stdin, run_takeInput_of_file hinput (fun hpath => ?_) world⟩
      exact hstdin (.inr (by rw [hinput, hpath]))

theorem run_loadSettings (invocation : Invocation) (world : World) :
    (loadSettings invocation).run world =
      endingIn ((invocation.loader.build world.files).mapError fun _ =>
        Failure.settings) world := by
  simp only [loadSettings, run_bind, run_get]
  cases invocation.loader.build world.files <;> rfl

/-- Putting a result out changes what writing it gives, and nothing if that
fails. -/
theorem run_putResult (invocation : Invocation) (result : String)
    (world : World) : (putResult invocation result).run world =
      match writeResult invocation world.files result with
      | .ok success =>
        .ok () ⟨world.stdin, success.files, world.stdout ++ success.stdout⟩
      | .error failure => .error failure world := by
  unfold putResult writeResult
  cases invocation.output? with
  | none => rfl
  | some path =>
    simp only [writeFile, run_bind, run_get]
    cases world.files.write? path result with
    | none => rfl
    | some files => simp only [run_set, String.append_empty]

end Process

/-! Whole processes. -/

/-- A process that carries out an invocation comes to what it gives as a
whole. -/
theorem exists_run_perform (invocation : Invocation) (world : World) :
    ∃ stdin, (Process.perform invocation).run world =
      match execute invocation world.stdin world.files with
      | .ok success =>
        .ok () ⟨stdin, success.files, world.stdout ++ success.stdout⟩
      | .error failure => .error failure { world with stdin } := by
  obtain ⟨stdin, hinput⟩ := Process.exists_run_takeInput invocation world
  refine ⟨stdin, ?_⟩
  rw [Process.perform, Process.run_bind, hinput, execute]
  cases readInput invocation world.stdin world.files with
  | error failure => rfl
  | ok input =>
    simp only [endingIn, bind, Except.bind]
    cases invocation.check with
    | true =>
      simp only [if_true]
      cases containsMarkup input with
      | true => simp only [if_true, String.append_empty]; rfl
      | false => rfl
    | false =>
      simp only [Bool.false_eq_true, if_false]
      show ((Process.loadSettings invocation >>= _ : Process Unit)).run _ = _
      rw [Process.run_bind, Process.run_loadSettings]
      cases invocation.loader.build world.files with
      | error error => rfl
      | ok settings =>
        show (Process.putResult invocation (resultOf settings input)).run _ = _
        rw [Process.run_putResult]

/-- What is seen of a process at its end is what its run gives: an output and
files, or the failure of a run that has changed nothing. -/
theorem runProcess_eq (arguments : List String) (stdin : ByteArray)
    (files : FileTree) :
    runProcess arguments stdin files =
      match run arguments stdin files with
      | .ok success => ⟨0, success.stdout, none, success.files⟩
      | .error failure => ⟨failure.exitCode, "", failure.message, files⟩ := by
  unfold runProcess Process.ofArguments run
  cases Invocation.parse arguments with
  | error stop => cases stop <;> rfl
  | ok invocation =>
    obtain ⟨rest, hrun⟩ := exists_run_perform invocation { stdin, files }
    simp only [hrun]
    cases execute invocation stdin files with
    | error failure => rfl
    | ok success => simp only [String.empty_append]

/-- A process that fails leaves no trace. Whatever makes it end with another
exit code than zero, an unusable command line, an input that cannot be read,
settings that cannot be loaded, a result that cannot be written or a check
without a finding, its output is empty and all files are as they were, also one
that the result was to be written to. -/
theorem failed_process_leaves_no_trace (arguments : List String)
    (stdin : ByteArray) (files : FileTree)
    (hfailed : (runProcess arguments stdin files).exitCode ≠ 0) :
    (runProcess arguments stdin files).stdout = "" ∧
      (runProcess arguments stdin files).files = files ∧
      ∃ failure, run arguments stdin files = .error failure ∧
        (runProcess arguments stdin files).exitCode = failure.exitCode := by
  rw [runProcess_eq] at hfailed ⊢
  cases hrun : run arguments stdin files with
  | ok success =>
    rw [hrun] at hfailed
    exact absurd rfl hfailed
  | error failure => exact ⟨rfl, rfl, failure, rfl, rfl⟩

/-- Malformed settings, and a file there already that the result was to be
written to. -/
theorem failed_process_leaves_no_trace_settings :
    let files : FileTree :=
      { files := [(["html2kara.toml"], "[formatter".toUTF8),
        (["Page.kt"], "old".toUTF8)] }
    let ending := runProcess ["-o", "Page.kt"] "<b>new</b>".toUTF8 files
    ending.exitCode = 1 ∧ ending.stdout = "" ∧ ending.files = files := by
  intro files ending
  have hexit : ending.exitCode = 1 := by decide +kernel
  have htrace :=
    failed_process_leaves_no_trace ["-o", "Page.kt"] "<b>new</b>".toUTF8 files
      (by rw [show (runProcess _ _ _).exitCode = 1 from hexit]; decide)
  exact ⟨hexit, htrace.1, htrace.2.1⟩

end HtmlBuilder.Command
