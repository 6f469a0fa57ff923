import HtmlBuilder.Proofs.Command.Process
import HtmlBuilder.Proofs.PlainText

/-!
Checks. A command line that can be used asks for a check exactly when the flag
for it stands among its options. Such a process only reads its input; nothing
else of the command line and of the files has any effect on how it ends.
-/

namespace HtmlBuilder.Command

/-! Which command lines ask for a check. -/

namespace Invocation

theorem check_setOption {before after : Invocation} {option : ValueOption}
    {value : String} (h : before.setOption option value = .ok after) :
    after.check = before.check := by
  unfold setOption at h
  split at h
  · cases h
  · cases option with
    | output | config =>
      cases h
      rfl
    | indentWidth | baseDepth =>
      simp only [bind, Except.bind] at h
      split at h
      · cases h
      · cases h
        rfl

theorem check_setFlag {before after : Invocation} {flag : Flag} {isLong : Bool}
    (h : before.setFlag flag isLong = .ok after) :
    after.check = (before.check || flag == .check) := by
  unfold setFlag at h
  cases flag with
  | directLinks | force | check =>
    simp only at h
    split at h
    · cases h
    · cases h
      simp
  | verbose =>
    cases h
    simp
  | help | version => cases h

end Invocation

theorem exists_of_bind_eq_ok {ε α β : Type} {first : Except ε α}
    {next : α → Except ε β} {result : β} (h : first >>= next = .ok result) :
    ∃ value, first = .ok value ∧ next value = .ok result := by
  cases first with
  | error error => cases h
  | ok value => exact ⟨value, rfl, h⟩

namespace Reading

/-- A step that asks for a check or does not, and leaves open what options
are. -/
def Asks (asked : Bool) (before after : Reading) : Prop :=
  after.invocation.check = (before.invocation.check || asked) ∧
    after.operandsOnly = before.operandsOnly

theorem Asks.trans {asked asked' : Bool} {first second third : Reading}
    (h : Asks asked first second) (h' : Asks asked' second third) :
    Asks (asked || asked') first third :=
  ⟨by rw [h'.1, h.1, Bool.or_assoc], h'.2.trans h.2⟩

theorem asks_resolve {before after : Reading} (h : before.resolve = .ok after) :
    Asks false before after := by
  unfold resolve at h
  split at h
  · cases h
    exact ⟨(Bool.or_false _).symm, rfl⟩
  · cases h
  · split at h
    · next hset =>
      cases h
      exact ⟨(Invocation.check_setOption hset).trans (Bool.or_false _).symm,
        rfl⟩
    · cases h

theorem asks_takeOption {before after : Reading} {option : ValueOption}
    {value? : Option String} (h : before.takeOption option value? = .ok after) :
    Asks false before after := by
  obtain ⟨resolved, hresolve, h⟩ := exists_of_bind_eq_ok h
  have hkept := asks_resolve hresolve
  have hwaiting :
      Asks false before { resolved with pending? := some ⟨option, value?⟩ } :=
    ⟨hkept.1, hkept.2⟩
  simp only at h
  split at h
  · exact hwaiting.trans (asks_resolve h)
  · cases h
    exact hwaiting

theorem asks_takeFlag {before after : Reading} {flag : Flag} {isLong : Bool}
    (h : before.takeFlag flag isLong = .ok after) :
    Asks (flag == .check) before after := by
  obtain ⟨resolved, hresolve, h⟩ := exists_of_bind_eq_ok h
  obtain ⟨invocation, hset, h⟩ := exists_of_bind_eq_ok h
  cases h
  exact (asks_resolve hresolve).trans ⟨Invocation.check_setFlag hset, rfl⟩

theorem asks_takeOperand {before after : Reading} {operand : String}
    (h : before.takeOperand operand = .ok after) : Asks false before after := by
  unfold takeOperand at h
  split at h
  · cases h
  · obtain ⟨resolved, hresolve, h⟩ := exists_of_bind_eq_ok h
    cases h
    have hkept := asks_resolve hresolve
    exact ⟨hkept.1, hkept.2⟩

theorem asks_takeWord {before after : Reading} {word : String}
    (h : before.takeWord word = .ok after) : Asks false before after := by
  unfold takeWord at h
  split at h
  · cases h
    exact ⟨(Bool.or_false _).symm, rfl⟩
  · exact asks_takeOperand h

theorem asks_takeShort {letters : List Char} {before after : Reading}
    (h : before.takeShort letters = .ok after) : Asks false before after := by
  induction letters generalizing before with
  | nil =>
    cases h
    exact ⟨(Bool.or_false _).symm, rfl⟩
  | cons c rest ih =>
    unfold takeShort at h
    split at h
    · split at h <;> exact asks_takeOption h
    · next flag _ hflag =>
      obtain ⟨taken, htake, h⟩ := exists_of_bind_eq_ok h
      have hother : (flag == Flag.check) = false := by
        unfold Flag.ofShort? at hflag
        split at hflag <;> cases hflag <;> rfl
      have hstep := asks_takeFlag htake
      rw [hother] at hstep
      exact hstep.trans (ih h)
    · cases h

/-- Two hyphens and a word ask for a check exactly when the word is that
flag's. -/
theorem asks_takeLong {body : List Char} {before after : Reading}
    (h : before.takeLong body = .ok after) :
    Asks (body == "check".toList) before after := by
  have hoption : ∀ option, ValueOption.all.find?
      (·.long == String.ofList (body.takeWhile (· != '='))) = some option →
        (body == "check".toList) = false := by
    intro option hfound
    rw [beq_eq_false_iff_ne]
    rintro rfl
    exact absurd (List.find?_some hfound) (by cases option <;> decide)
  unfold takeLong at h
  -- Without an equals sign the name is the whole word; with one no flag is set.
  cases hbehind : body.dropWhile (· != '=') with
  | nil =>
    simp only [hbehind] at h
    split at h
    · next hfound =>
      rw [hoption _ hfound]
      exact asks_takeOption h
    · next flag _ hfound _ =>
      have hbody : flag.long.toList = body := by
        have hname : flag.long = String.ofList (body.takeWhile (· != '=')) := by
          simpa using List.find?_some hfound
        rw [hname, String.toList_ofList]
        have hwhole :=
          List.takeWhile_append_dropWhile (p := (· != '=')) (l := body)
        rwa [hbehind, List.append_nil] at hwhole
      have hsame : (body == "check".toList) = (flag == Flag.check) := by
        rw [← hbody]
        cases flag <;> decide
      rw [hsame]
      exact asks_takeFlag h
    · cases h
    · cases h
  | cons c value =>
    simp only [hbehind] at h
    split at h
    · next hfound =>
      rw [hoption _ hfound]
      exact asks_takeOption h
    · next hnone => cases hnone
    · cases h
    · cases h

/-- What an argument does to what is asked for, and to what the arguments behind
it are. -/
theorem check_take {before after : Reading} {argument : String}
    (h : before.take argument = .ok after) :
    after.invocation.check =
        (before.invocation.check || !before.operandsOnly &&
          argument == "--check") ∧
      after.operandsOnly = (before.operandsOnly || argument == "--") := by
  unfold take at h
  cases hoperands : before.operandsOnly with
  | true =>
    rw [hoperands, if_pos rfl] at h
    obtain ⟨hcheck, hkept⟩ := asks_takeOperand h
    exact ⟨by simpa using hcheck, by rw [hkept, hoperands, Bool.true_or]⟩
  | false =>
    have hcheck : (argument == "--check") =
        (argument.toList == "--check".toList) := by
      rw [Bool.eq_iff_iff, beq_iff_eq, beq_iff_eq, String.toList_inj]
    have hend : (argument == "--") = (argument.toList == "--".toList) := by
      rw [Bool.eq_iff_iff, beq_iff_eq, beq_iff_eq, String.toList_inj]
    -- The arguments that are neither of the two words.
    have hother (hasks : Asks false before after)
        (hhyphens : ∀ body, argument.toList ≠ '-' :: '-' :: body) :
        after.invocation.check =
            (before.invocation.check || argument.toList == "--check".toList) ∧
          after.operandsOnly = (argument.toList == "--".toList) := by
      have hno : (argument.toList == "--check".toList) = false :=
        beq_eq_false_iff_ne.2 (hhyphens "check".toList)
      have hno' : (argument.toList == "--".toList) = false :=
        beq_eq_false_iff_ne.2 (hhyphens [])
      rw [hno, hno']
      exact ⟨hasks.1, hasks.2.trans hoperands⟩
    rw [hoperands, if_neg (by decide)] at h
    rw [hcheck, hend, Bool.not_false, Bool.true_and, Bool.false_or]
    split at h
    · next hargument =>
      cases h
      rw [hargument]
      exact ⟨(Bool.or_false _).symm, rfl⟩
    · next body hbody hargument =>
      obtain ⟨hlong, hkept⟩ := asks_takeLong h
      rw [hargument]
      refine ⟨hlong, ?_⟩
      rw [hkept, hoperands, eq_comm, beq_eq_false_iff_ne]
      intro hempty
      exact hbody (by simpa using hempty)
    · next hargument =>
      exact hother (asks_takeWord h) (by simp [hargument])
    · next letters _ hlong _ hargument =>
      refine hother (asks_takeShort h) fun body hbody => ?_
      rw [hargument] at hbody
      exact hlong body (List.cons.inj hbody).2
    · next hlong _ _ =>
      exact hother (asks_takeWord h) hlong

/-- What reading arguments does to what is asked for: up to two hyphens that
stand alone, the flag for a check counts. -/
theorem check_foldlM {arguments : List String} {before after : Reading}
    (h : arguments.foldlM take before = .ok after) :
    after.invocation.check = true ↔
      before.invocation.check = true ∨
        before.operandsOnly = false ∧
        "--check" ∈ arguments.takeWhile (· != "--") := by
  induction arguments generalizing before with
  | nil =>
    cases h
    simp
  | cons argument rest ih =>
    rw [List.foldlM_cons] at h
    obtain ⟨taken, htake, h⟩ := exists_of_bind_eq_ok h
    obtain ⟨hcheck, hoperands⟩ := check_take htake
    rw [ih h, hcheck, hoperands]
    by_cases hend : argument = "--"
    · -- From here on all arguments are operands.
      subst hend
      simp
    · rw [List.takeWhile_cons_of_pos (by simpa using hend), List.mem_cons]
      cases before.operandsOnly
      · simp [hend, or_assoc, @eq_comm _ argument "--check"]
      · simp

end Reading

/-- A command line that can be used asks for a check exactly when the flag for
it is one of its arguments, in front of two hyphens that stand alone. -/
theorem Invocation.check_parse {arguments : List String}
    {invocation : Invocation} (h : parse arguments = .ok invocation) :
    invocation.check = true ↔ "--check" ∈ arguments.takeWhile (· != "--") := by
  obtain ⟨read, hread, h⟩ := exists_of_bind_eq_ok h
  obtain ⟨resolved, hresolve, h⟩ := exists_of_bind_eq_ok h
  cases h
  rw [(Reading.asks_resolve hresolve).1, Bool.or_false,
    Reading.check_foldlM hread]
  simp

/-! What such a process does. -/

structure ChecksInput (arguments : List String) (stdin : ByteArray)
    (files : FileTree) (input : String) : Prop where
  asks : "--check" ∈ arguments.takeWhile (· != "--")
  finds : ∃ invocation, Invocation.parse arguments = .ok invocation ∧
    readInput invocation stdin files = .ok input

theorem run_check {arguments : List String} {stdin : ByteArray}
    {files : FileTree} {input : String}
    (h : ChecksInput arguments stdin files input) :
    run arguments stdin files =
      if containsMarkup input then .ok ⟨"", files⟩ else .error .noMarkup := by
  obtain ⟨invocation, hparse, hinput⟩ := h.finds
  have hcheck : invocation.check = true :=
    (Invocation.check_parse hparse).2 h.asks
  rw [run, hparse]
  show execute invocation stdin files = _
  rw [execute, hinput, hcheck]
  rfl

theorem runProcess_check {arguments : List String} {stdin : ByteArray}
    {files : FileTree}
    {input : String} (h : ChecksInput arguments stdin files input) :
    runProcess arguments stdin files =
      ⟨if containsMarkup input then 0 else 1, "", none, files⟩ := by
  rw [runProcess_eq, run_check h]
  cases containsMarkup input <;> rfl

/-- A check depends on its input alone: its exit code tells whether the input
contains markup, it prints nothing, tells of no failure and leaves all files as
they were. Another check of the same input ends in the same way, whatever else
stands on its command line and among its files. -/
theorem check_depends_on_input {arguments : List String} {stdin : ByteArray}
    {files : FileTree}
    {input : String} (h : ChecksInput arguments stdin files input) :
    runProcess arguments stdin files =
        ⟨if containsMarkup input then 0 else 1, "", none, files⟩ ∧
      ∀ arguments' stdin' files', ChecksInput arguments' stdin' files' input →
        runProcess arguments' stdin' files' =
          { runProcess arguments stdin files with files := files' } := by
  refine ⟨runProcess_check h, fun arguments' stdin' files' h' => ?_⟩
  rw [runProcess_check h, runProcess_check h']

/-- A check with malformed settings, missing ones, a file to write to and more
flags ends like a check of a file that is all there is. -/
theorem check_depends_on_input_settings :
    let crowded : FileTree :=
      { files := [(["html2kara.toml"], "[formatter".toUTF8),
        (["Page.kt"], "old".toUTF8)] }
    let plain : FileTree := { files := [(["page.html"], "<b>x</b>".toUTF8)] }
    let arguments :=
      ["--force", "--config", "missing.toml", "-vo", "Page.kt", "--check"]
    runProcess arguments "<b>x</b>".toUTF8 crowded = ⟨0, "", none, crowded⟩ ∧
      runProcess ["--check", "page.html"] .empty plain =
        ⟨0, "", none, plain⟩ := by
  intro crowded plain arguments
  have hmarkup : containsMarkup "<b>x</b>" = true := by decide +kernel
  have hparse : Invocation.parse arguments =
      .ok { config? := "missing.toml", output? := "Page.kt", force := true,
            check := true, verbosity := 1 } := by decide +kernel
  have hcrowded : ChecksInput arguments "<b>x</b>".toUTF8 crowded "<b>x</b>" :=
    ⟨by decide, _, hparse, by rw [readInput, FileTree.decode_toUTF8]⟩
  have hparse' : Invocation.parse ["--check", "page.html"] =
      .ok { input? := "page.html", check := true } := by decide +kernel
  have hplain : ChecksInput ["--check", "page.html"] .empty plain "<b>x</b>" :=
    ⟨by decide, _, hparse', rfl⟩
  obtain ⟨hends, hsame⟩ := check_depends_on_input hcrowded
  rw [hmarkup, if_pos rfl] at hends
  have hother := hsame _ _ _ hplain
  rw [hends] at hother
  exact ⟨hends, hother⟩

end HtmlBuilder.Command
