import HtmlBuilder.Proofs.Command.Check

/-!
Where a result goes. A command line that names no file for its result can be
given one by an option in front of it: every argument behind that option is read
as before, since no step of the reading looks at the file that is named, and the
steps that name one do not occur. The process then takes the same input and the
same settings and comes to the same result, and all it changes is that file.
-/

namespace HtmlBuilder.Command

/-! Reading arguments behind an option for the output. -/

namespace Invocation

def redirected (invocation : Invocation) (path : String) : Invocation :=
  { invocation with output? := some path }

theorem hasOption_redirected (invocation : Invocation) (path : String)
    {option : ValueOption} (h : option ≠ .output) :
    (invocation.redirected path).hasOption option =
      invocation.hasOption option := by
  cases option with
  | output => exact absurd rfl h
  | config | indentWidth | baseDepth => rfl

theorem setOption_redirected {before after : Invocation} {option : ValueOption}
    {value : String} (hset : before.setOption option value = .ok after)
    (hafter : after.output? = none) :
    option ≠ .output ∧ before.output? = none ∧
      ∀ path, (before.redirected path).setOption option value =
        .ok (after.redirected path) := by
  unfold setOption at hset ⊢
  split at hset
  · cases hset
  · next hunset =>
    have hoption : option ≠ .output := by
      rintro rfl
      cases hset
      cases hafter
    have hunset' (path : String) :
        ¬ (before.redirected path).hasOption option = true := by
      rwa [hasOption_redirected _ _ hoption]
    refine ⟨hoption, ?_⟩
    cases option with
    | output => exact absurd rfl hoption
    | config =>
      cases hset
      refine ⟨hafter, fun path => ?_⟩
      rw [if_neg (hunset' path)]
      rfl
    | indentWidth | baseDepth =>
      simp only [bind, Except.bind] at hset
      split at hset
      · cases hset
      · next hread =>
        cases hset
        refine ⟨hafter, fun path => ?_⟩
        rw [if_neg (hunset' path)]
        simp only [bind, Except.bind, hread]
        rfl

theorem setFlag_redirected {before after : Invocation} {flag : Flag}
    {isLong : Bool} (hset : before.setFlag flag isLong = .ok after) :
    after.output? = before.output? ∧
      ∀ path, (before.redirected path).setFlag flag isLong =
        .ok (after.redirected path) := by
  unfold setFlag at hset ⊢
  cases flag with
  | directLinks | force | check =>
    simp only [redirected] at hset ⊢
    split at hset
    · cases hset
    · next hunset =>
      cases hset
      exact ⟨rfl, fun path => if_neg hunset⟩
  | verbose =>
    cases hset
    exact ⟨rfl, fun _ => rfl⟩
  | help | version => cases hset

end Invocation

namespace Reading

def redirected (reading : Reading) (path : String) : Reading :=
  { reading with invocation := reading.invocation.redirected path }

structure NamesNoOutput (reading : Reading) : Prop where
  output?_eq : reading.invocation.output? = none
  pending_ne : ∀ pending ∈ reading.pending?, pending.option ≠ .output

/-- A step that has named no file for the result when it ends: there was none
before it, and it does the same where there is one. -/
def IgnoresOutput (step : Reading → Except Stop Reading) : Prop :=
  ∀ before after : Reading, step before = .ok after → after.NamesNoOutput →
    before.NamesNoOutput ∧ ∀ path,
      step (before.redirected path) = .ok (after.redirected path)

theorem IgnoresOutput.bind {first second : Reading → Except Stop Reading}
    (hfirst : IgnoresOutput first) (hsecond : IgnoresOutput second) :
    IgnoresOutput fun reading => first reading >>= second := by
  intro before after h hafter
  obtain ⟨middle, hbefore, h⟩ := exists_of_bind_eq_ok h
  obtain ⟨hmiddle, hredirected⟩ := hsecond middle after h hafter
  obtain ⟨hnone, hredirected'⟩ := hfirst before middle hbefore hmiddle
  refine ⟨hnone, fun path => ?_⟩
  show (first (before.redirected path) >>= second) = _
  rw [hredirected' path]
  exact hredirected path

theorem IgnoresOutput.ite {first second : Reading → Except Stop Reading}
    (hfirst : IgnoresOutput first) (hsecond : IgnoresOutput second) :
    IgnoresOutput fun reading =>
      if reading.operandsOnly then first reading else second reading := by
  intro before after h hafter
  show _ ∧ ∀ path, (if before.operandsOnly then _ else _) = _
  dsimp only at h
  split at h
  · next hoperands =>
    simpa only [if_pos hoperands] using hfirst before after h hafter
  · next hoperands =>
    simpa only [if_neg hoperands] using hsecond before after h hafter

theorem ignoresOutput_resolve : IgnoresOutput resolve := by
  intro before after h hafter
  unfold resolve at h ⊢
  split at h
  · next hnone =>
    cases h
    refine ⟨hafter, fun path => ?_⟩
    simp only [redirected, hnone]
  · cases h
  · next option value hpending =>
    split at h
    · next invocation hset =>
      cases h
      obtain ⟨hoption, hbefore, hredirected⟩ :=
        Invocation.setOption_redirected hset hafter.output?_eq
      refine ⟨⟨hbefore, ?_⟩, fun path => ?_⟩
      · rw [hpending]
        rintro _ ⟨⟩
        exact hoption
      · simp only [redirected, hpending, hredirected path]
    · cases h

theorem pending?_of_resolve {before after : Reading}
    (h : before.resolve = .ok after) :
    after.pending? = none := by
  unfold resolve at h
  split at h
  · cases h
    assumption
  · cases h
  · split at h <;> cases h
    rfl

theorem ignoresOutput_ok : IgnoresOutput .ok := by
  rintro before _ ⟨⟩ hafter
  exact ⟨hafter, fun _ => rfl⟩

theorem ignoresOutput_takeOption (option : ValueOption)
    (value? : Option String) :
    IgnoresOutput (·.takeOption option value?) := by
  intro before after h hafter
  obtain ⟨resolved, hresolve, h⟩ := exists_of_bind_eq_ok h
  have hrest : IgnoresOutput fun reading =>
      if value?.isSome then reading.resolve else .ok reading := by
    cases value? with
    | none => exact ignoresOutput_ok
    | some value => exact ignoresOutput_resolve
  obtain ⟨hwaiting, hredirected⟩ := hrest _ after h hafter
  have hresolved : resolved.NamesNoOutput :=
    ⟨hwaiting.output?_eq, by rw [pending?_of_resolve hresolve]; exact nofun⟩
  obtain ⟨hbefore, hredirected'⟩ :=
    ignoresOutput_resolve before resolved hresolve hresolved
  refine ⟨hbefore, fun path => ?_⟩
  show ((before.redirected path).resolve >>= _) = _
  rw [hredirected' path]
  exact hredirected path

theorem ignoresOutput_takeFlag (flag : Flag) (isLong : Bool) :
    IgnoresOutput (·.takeFlag flag isLong) := by
  refine ignoresOutput_resolve.bind fun before after h hafter => ?_
  obtain ⟨invocation, hset, h⟩ := exists_of_bind_eq_ok h
  cases h
  obtain ⟨houtput, hredirected⟩ := Invocation.setFlag_redirected hset
  refine ⟨⟨houtput ▸ hafter.output?_eq, hafter.pending_ne⟩, fun path => ?_⟩
  show ((before.invocation.redirected path).setFlag flag isLong >>= _) = _
  rw [hredirected path]
  rfl

theorem ignoresOutput_takeOperand (operand : String) :
    IgnoresOutput (·.takeOperand operand) := by
  have hset : IgnoresOutput fun reading =>
      .ok { reading with
        invocation := { reading.invocation with input? := some operand } } := by
    rintro before _ ⟨⟩ hafter
    exact ⟨⟨hafter.output?_eq, hafter.pending_ne⟩, fun _ => rfl⟩
  intro before after h hafter
  unfold takeOperand at h ⊢
  dsimp only at h ⊢
  split at h
  · cases h
  · next hinput =>
    obtain ⟨hbefore, hredirected⟩ :=
      ignoresOutput_resolve.bind hset before after h hafter
    refine ⟨hbefore, fun path => ?_⟩
    rw [if_neg (show ¬ (before.redirected path).invocation.input?.isSome = true
        from hinput)]
    exact hredirected path

theorem ignoresOutput_takeWord (word : String) :
    IgnoresOutput (·.takeWord word) := by
  intro before after h hafter
  unfold takeWord at h ⊢
  dsimp only at h ⊢
  split at h
  · next option hpending hoperands =>
    cases h
    refine ⟨⟨hafter.output?_eq, ?_⟩, fun path => ?_⟩
    · rw [hpending]
      rintro _ ⟨⟩
      exact hafter.pending_ne ⟨option, some word⟩ rfl
    · simp only [redirected, hpending, hoperands]
  · next hother =>
    obtain ⟨hbefore, hredirected⟩ :=
      ignoresOutput_takeOperand word before after h hafter
    refine ⟨hbefore, fun path => ?_⟩
    split
    · next option hpending hoperands =>
        exact (hother option hpending hoperands).elim
    · exact hredirected path

theorem ignoresOutput_error (stop : Stop) :
    IgnoresOutput fun _ => .error stop :=
  fun _ _ h => nomatch h

theorem ignoresOutput_takeShort (letters : List Char) :
    IgnoresOutput (·.takeShort letters) := by
  induction letters with
  | nil =>
    unfold takeShort
    exact ignoresOutput_ok
  | cons c rest ih =>
    unfold takeShort
    split
    · split <;> exact ignoresOutput_takeOption _ _
    · exact (ignoresOutput_takeFlag _ _).bind ih
    · exact ignoresOutput_error _

theorem ignoresOutput_takeLong (body : List Char) :
    IgnoresOutput (·.takeLong body) := by
  unfold takeLong
  dsimp only
  split
  · exact ignoresOutput_takeOption _ _
  · exact ignoresOutput_takeFlag _ _
  · exact ignoresOutput_error _
  · exact ignoresOutput_error _

theorem ignoresOutput_take (argument : String) :
    IgnoresOutput (·.take argument) := by
  unfold take
  refine (ignoresOutput_takeOperand argument).ite ?_
  split
  · rintro before _ ⟨⟩ hafter
    exact ⟨⟨hafter.output?_eq, hafter.pending_ne⟩, fun _ => rfl⟩
  · exact ignoresOutput_takeLong _
  · exact ignoresOutput_takeWord argument
  · exact ignoresOutput_takeShort _
  · exact ignoresOutput_takeWord argument

theorem ignoresOutput_foldlM (arguments : List String) :
    IgnoresOutput (arguments.foldlM take) := by
  induction arguments with
  | nil => exact ignoresOutput_ok
  | cons argument rest ih =>
    simp only [List.foldlM_cons]
    exact (ignoresOutput_take argument).bind ih

theorem take_output (path : String) :
    ({} : Reading).take ("--output=" ++ path) =
      .ok (({} : Reading).redirected path) := by
  have harguments : ("--output=" ++ path).toList =
      '-' :: '-' :: ("output=".toList ++ path.toList) := by
    simp
  have hname : ("output=".toList ++ path.toList).takeWhile (· != '=') =
      "output".toList := by
    simp
  have hvalue : ("output=".toList ++ path.toList).dropWhile (· != '=') =
      '=' :: path.toList := by
    simp
  rw [take, if_neg Bool.false_ne_true, harguments]
  show ({} : Reading).takeLong ("output=".toList ++ path.toList) = _
  rw [takeLong]
  simp only [hname, hvalue, String.ofList_toList]
  rfl

end Reading

/-- A command line that names no file for its result is read the same way behind
an option that names one. -/
theorem Invocation.parse_output {arguments : List String}
    {invocation : Invocation} (hparse : parse arguments = .ok invocation)
    (houtput : invocation.output? = none) (path : String) :
    parse (("--output=" ++ path) :: arguments) =
      .ok (invocation.redirected path) := by
  obtain ⟨read, hread, hparse⟩ := exists_of_bind_eq_ok hparse
  obtain ⟨resolved, hresolve, hparse⟩ := exists_of_bind_eq_ok hparse
  cases hparse
  have hresolved : resolved.NamesNoOutput :=
    ⟨houtput, by rw [Reading.pending?_of_resolve hresolve]; exact nofun⟩
  obtain ⟨hnone, hredirected⟩ :=
    Reading.ignoresOutput_resolve read resolved hresolve hresolved
  obtain ⟨-, hredirected'⟩ :=
    Reading.ignoresOutput_foldlM arguments {} read hread hnone
  have hrest : arguments.foldlM Reading.take (({} : Reading).redirected path) =
      .ok (read.redirected path) := hredirected' path
  rw [parse, List.foldlM_cons, Reading.take_output]
  show (arguments.foldlM Reading.take (({} : Reading).redirected path) >>= _) =
      _
  rw [hrest]
  show ((read.redirected path).resolve >>= _) = _
  rw [hredirected path]
  rfl

/-! Whole processes. -/

/-- A command line that can be used, asks for no check and names no file for its
result. -/
structure PrintsResult (arguments : List String)
    (invocation : Invocation) : Prop where
  parse_eq : Invocation.parse arguments = .ok invocation
  check_eq : invocation.check = false
  output?_eq : invocation.output? = none

theorem Failure.exitCode_ne_zero (failure : Failure) :
    failure.exitCode ≠ 0 := by
  cases failure <;> exact nofun

/-- A process that is no check and ends well has found its input and its
settings. -/
theorem exists_of_exitCode_eq_zero {arguments : List String}
    {invocation : Invocation} {stdin : ByteArray} {files : FileTree}
    (hparse : Invocation.parse arguments = .ok invocation)
    (hcheck : invocation.check = false)
    (hends : (runProcess arguments stdin files).exitCode = 0) :
    ∃ input settings, readInput invocation stdin files = .ok input ∧
      invocation.loader.build files = .ok settings := by
  rw [runProcess_eq] at hends
  cases hrun : run arguments stdin files with
  | error failure =>
    rw [hrun] at hends
    exact absurd hends failure.exitCode_ne_zero
  | ok success =>
    rw [run, hparse] at hrun
    obtain ⟨input, hinput, hrun⟩ := exists_of_bind_eq_ok hrun
    rw [hcheck, if_neg Bool.false_ne_true] at hrun
    split at hrun
    · cases hrun
    · next settings hbuild => exact ⟨input, settings, hinput, hbuild⟩

theorem resultOf_eq_convert {settings : Settings} {input : String}
    (h : containsMarkup input = true ∨ settings.onlyMarkup = false) :
    resultOf settings input =
      Converter.convert
        { options := settings.options, formatter := settings.formatter }
        input := by
  rw [resultOf, if_pos]
  rcases h with h | h <;> simp [h]

/-- An option for the output only redirects the result. A process that prints
its result gives the input converted with the settings that are loaded, or the
input as it is if it has no markup and only markup is to be converted, and
leaves all files as they were. Behind an option that names a path that can be
written to, whatever stands there, the same command line ends as well and prints
nothing; the path then gives what was printed before, and everything else stays
as it was. -/
theorem output_only_redirects {arguments : List String}
    {invocation : Invocation} {stdin : ByteArray} {files : FileTree}
    (h : PrintsResult arguments invocation)
    (hends : (runProcess arguments stdin files).exitCode = 0) :
    ∃ input settings result, readInput invocation stdin files = .ok input ∧
      invocation.loader.build files = .ok settings ∧
      (containsMarkup input = true ∨ settings.onlyMarkup = false →
        result = Converter.convert
          { options := settings.options,
            formatter := settings.formatter } input) ∧
      (containsMarkup input = false → settings.onlyMarkup = true →
        result = input) ∧
      runProcess arguments stdin files = ⟨0, result, none, files⟩ ∧
      ∀ path, files.IsWritable path → ∃ place entry after,
        files.locate path = some (place, entry) ∧
        runProcess (("--output=" ++ path) :: arguments) stdin files =
          ⟨0, "", none, after⟩ ∧
        after.read path = .ok result ∧
        after.entryAt place = .file result.toUTF8 ∧
        ∀ other, other ≠ place → after.entryAt other = files.entryAt other := by
  obtain ⟨input, settings, hinput, hbuild⟩ :=
    exists_of_exitCode_eq_zero h.parse_eq h.check_eq hends
  refine ⟨input, settings, resultOf settings input, hinput, hbuild,
    resultOf_eq_convert, resultOf_eq_self, ?_, fun path hpath => ?_⟩
  · rw [runProcess_eq, run_eq_writeResult h.parse_eq h.check_eq hinput hbuild,
      writeResult, h.output?_eq]
  · obtain ⟨place, entry, hplace, hwritten⟩ := FileTree.exists_write?_eq hpath
    obtain ⟨after, hwrite, hread, hfile, hothers⟩ :=
      hwritten (resultOf settings input)
    refine ⟨place, entry, after, hplace, ?_, hread, hfile, hothers⟩
    -- Neither the input nor the settings depend on where the result goes.
    have hrun : run (("--output=" ++ path) :: arguments) stdin files =
        writeResult (invocation.redirected path) files
          (resultOf settings input) :=
      run_eq_writeResult (Invocation.parse_output h.parse_eq h.output?_eq path)
        h.check_eq hinput hbuild
    rw [runProcess_eq, hrun, writeResult]
    simp only [Invocation.redirected, hwrite]

/-- A result that takes the place of the settings it was made with. -/
theorem output_only_redirects_settings :
    let files : FileTree :=
      { files := [(["page.html"], "<p>a</p>".toUTF8),
          (["html2kara.toml"], "formatter.indent = \"  \"".toUTF8)] }
    (runProcess ["page.html"] .empty files).exitCode = 0 ∧
    files.IsWritable "html2kara.toml" ∧
      ∃ after,
        runProcess ["--output=html2kara.toml", "page.html"] .empty files =
          ⟨0, "", none, after⟩ ∧
        after.read "html2kara.toml" = .ok "p \x7b\n  +\"a\"\n\x7d\n" ∧
        after.entryAt ["page.html"] = .file "<p>a</p>".toUTF8 := by
  intro files
  have hends : (runProcess ["page.html"] .empty files).exitCode = 0 := by
    decide +kernel
  have hstdout : (runProcess ["page.html"] .empty files).stdout =
      "p \x7b\n  +\"a\"\n\x7d\n" := by
    decide +kernel
  have hpath : files.IsWritable "html2kara.toml" :=
    ⟨["html2kara.toml"], _, rfl, nofun⟩
  have hprints : PrintsResult ["page.html"] { input? := "page.html" } :=
    ⟨by decide +kernel, rfl, rfl⟩
  obtain ⟨-, -, result, -, -, -, -, hrun, hredirected⟩ :=
    output_only_redirects hprints hends
  obtain ⟨place, entry, after, hplace, hafter, hread, -, hothers⟩ :=
    hredirected _ hpath
  have hresult : result = "p \x7b\n  +\"a\"\n\x7d\n" := by
    rw [hrun] at hstdout
    exact hstdout
  refine ⟨hends, hpath, after, hafter, by rw [hread, hresult], ?_⟩
  cases hplace
  exact hothers ["page.html"] (by decide)

end HtmlBuilder.Command
