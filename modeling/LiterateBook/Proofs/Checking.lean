import LiterateBook.Proofs.Rebuilding

/-!
# Checking and building

Checking asks whether a build would change anything. It finds a book current
when building it would succeed and leave everything as it is, and the status
with which the program exits tells this apart from a book that is out of date
and from a failure.
-/

namespace LiterateBook

open FileSystem

namespace Command

theorem ending_compared (dir : Text) (diff : Bool)
    (comparison : Book.Comparison) :
    (compared dir diff comparison).ending =
      if comparison.isCurrent then .done else .outdated := by
  unfold compared
  cases comparison.isCurrent <;> rfl

theorem ending_conclude {α : Type} (answer : Logged α) (next : α → Outcome) :
    (conclude answer next).ending =
      match answer.result with
      | .ok value => (next value).ending
      | .error failure => .failed failure := by
  rw [conclude, Outcome.ending_after]
  cases answer.result <;> rfl

theorem ending_run_check (fs : FileSystem) (settings : Settings)
    (dir output : Text) (diff : Bool) :
    (run fs settings (.check dir output diff)).1.ending =
      match (Config.loadOrDefault fs (settings.root fs)).result with
      | .error failure => .failed failure
      | .ok config =>
        match (Book.check fs config.weaver config.patterns dir output).result with
        | .error failure => .failed failure
        | .ok comparison =>
          if comparison.isCurrent then .done else .outdated := by
  cases loaded : (Config.loadOrDefault fs (settings.root fs)).result with
  | error failure =>
      simp only [run, loaded]
      rfl
  | ok config =>
      simp only [run, loaded, execute, Outcome.ending_after, ending_conclude]
      cases (Book.check fs config.weaver config.patterns dir output).result with
      | error failure => rfl
      | ok comparison => exact ending_compared dir diff comparison

/-- The exit status tells whether a check finds the book current, finds it out
of date, or fails. -/
theorem status_run_check (fs : FileSystem) (settings : Settings)
    (dir output : Text) (diff : Bool) :
    let status := (run fs settings (.check dir output diff)).1.ending.status
    let loaded := (Config.loadOrDefault fs (settings.root fs)).result
    let checkedWith (config : Config) :=
      (Book.check fs config.weaver config.patterns dir output).result
    (status = 0 ↔ ∃ config comparison, loaded = .ok config ∧
      checkedWith config = .ok comparison ∧ comparison.isCurrent = true) ∧
    (status = 1 ↔ ∃ config comparison, loaded = .ok config ∧
      checkedWith config = .ok comparison ∧ comparison.isCurrent = false) ∧
    (status = 2 ↔ (∃ failure, loaded = .error failure) ∨
      ∃ config failure, loaded = .ok config ∧
        checkedWith config = .error failure) := by
  intro status loaded checkedWith
  have ended : status = Ending.status _ := congrArg Ending.status
    (ending_run_check fs settings dir output diff)
  rw [ended]
  cases configured : (Config.loadOrDefault fs (settings.root fs)).result with
  | error failure => simp [loaded, configured, Ending.status]
  | ok config =>
      cases compared :
        (Book.check fs config.weaver config.patterns dir output).result with
      | error failure =>
          simp [loaded, checkedWith, configured, compared, Ending.status]
      | ok comparison =>
          cases current : comparison.isCurrent <;>
            simp [loaded, checkedWith, configured, compared, current,
              Ending.status]

end Command

namespace Book

variable {fs : FileSystem} {weaver : Weaver} {patterns : List Text}
  {dir output book : Text}

/-- A build of what the output holds already changes nothing. -/
theorem build_of_readText
    (woven : (weave fs weaver patterns dir).result = .ok book)
    (read : fs.readText output = .ok book) :
    (build fs weaver patterns dir output).1.result = .ok book ∧
      (build fs weaver patterns dir output).2 = fs := by
  obtain ⟨location, resolved⟩ := node?_eq_ok_iff.1 (readText_eq_ok_iff.1 read)
  rw [build_of_ok woven, writeWithDirs_of_resolve resolved]
  exact ⟨rfl, rfl⟩

theorem readText_of_unchanged
    (built : (build fs weaver patterns dir output).1.result = .ok book)
    (unchanged : ∀ location,
      (build fs weaver patterns dir output).2.shape? location =
        fs.shape? location) :
    fs.readText output = .ok book := by
  obtain ⟨written, wrote⟩ := wrote_of_build built
  have back := keeps_of_shape?_eq wrote.keeps.cwd.symm fun location =>
    (unchanged location).symm
  have resolved := back.resolve_file wrote.leads (unchanged written).symm
  exact readText_eq_ok_iff.2 (node?_eq_ok_iff.2 ⟨written, resolved⟩)

/-- A build after a check that finds the book current changes nothing. -/
theorem build_of_current {comparison : Comparison}
    (checked : (check fs weaver patterns dir output).result = .ok comparison)
    (isCurrent : comparison.isCurrent = true) :
    (build fs weaver patterns dir output).1.result = .ok comparison.expected ∧
      (build fs weaver patterns dir output).2 = fs := by
  obtain ⟨woven, read⟩ := weave_of_check checked
  have current : comparison.current = some comparison.expected := by
    simpa [Comparison.isCurrent] using isCurrent
  exact build_of_readText woven (read _ current)

/-- A build after a check that does not fail leaves what the check expected in
the output, unless writing it fails. -/
theorem build_of_check {comparison : Comparison}
    (checked : (check fs weaver patterns dir output).result = .ok comparison) :
    (build fs weaver patterns dir output).1.result = .ok comparison.expected ∧
        (build fs weaver patterns dir output).2.readText output =
          .ok comparison.expected ∨
      ∃ error, (weave fs weaver patterns dir).result = .ok comparison.expected ∧
        (build fs weaver patterns dir output).1.result = .error (.io error) ∧
        (fs.writeWithDirs output (.text comparison.expected)).1 =
          .error error := by
  obtain ⟨woven, -⟩ := weave_of_check checked
  cases built : (build fs weaver patterns dir output).1.result with
  | ok book =>
      have same := (weave_of_build built).1
      rw [woven] at same
      cases same
      obtain ⟨written, wrote⟩ := wrote_of_build built
      exact .inl ⟨rfl, wrote.readText_self⟩
  | error failure =>
      obtain ⟨error, refused, rfl⟩ := write_of_build woven built
      exact .inr ⟨error, woven, rfl, refused⟩

/-- A check finds the book current when a build would succeed and change
nothing. When it finds the book out of date, a build either leaves in the output
what the check expected or fails to write it. A directory that cannot be woven
fails both in the same way. The exit status of a check is 0 for a book that is
current, 1 for one that is out of date, and 2 for a failure. -/
theorem check_iff_build (fs : FileSystem) (weaver : Weaver)
    (patterns : List Text) (dir output : Text) :
    let woven := (weave fs weaver patterns dir).result
    let checked := (check fs weaver patterns dir output).result
    let built := (build fs weaver patterns dir output).1.result
    let after := (build fs weaver patterns dir output).2
    ((∃ comparison, checked = .ok comparison ∧ comparison.isCurrent = true) ↔
      ∃ book, built = .ok book ∧
        ∀ location, after.shape? location = fs.shape? location) ∧
    (∀ comparison, checked = .ok comparison → comparison.isCurrent = true →
      after = fs) ∧
    (∀ comparison, checked = .ok comparison →
      comparison.current ≠ some comparison.expected →
      built = .ok comparison.expected ∧
        after.readText output = .ok comparison.expected ∨
      ∃ error, woven = .ok comparison.expected ∧ built = .error (.io error) ∧
        (fs.writeWithDirs output (.text comparison.expected)).1 =
          .error error) ∧
    (∀ failure, woven = .error failure →
      checked = .error failure ∧ built = .error failure) ∧
    (∀ environment arguments settings diff,
      Arguments.read arguments = .ok (settings, some (.check dir output diff)) →
      let status := (Program.run fs environment arguments).1.ending.status
      let loaded := (Config.loadOrDefault fs (settings.root fs)).result
      let checkedWith (config : Config) :=
        (check fs config.weaver config.patterns dir output).result
      (status = 0 ↔ ∃ config comparison, loaded = .ok config ∧
        checkedWith config = .ok comparison ∧ comparison.isCurrent = true) ∧
      (status = 1 ↔ ∃ config comparison, loaded = .ok config ∧
        checkedWith config = .ok comparison ∧ comparison.isCurrent = false) ∧
      (status = 2 ↔ (∃ failure, loaded = .error failure) ∨
        ∃ config failure, loaded = .ok config ∧
          checkedWith config = .error failure)) := by
  intro woven checked built after
  refine ⟨⟨?_, ?_⟩, ?_, ?_, ?_, ?_⟩
  · rintro ⟨comparison, done, isCurrent⟩
    obtain ⟨again, unchanged⟩ := build_of_current done isCurrent
    refine ⟨comparison.expected, again, fun location => ?_⟩
    exact congrArg (·.shape? location) unchanged
  · rintro ⟨book, done, unchanged⟩
    have read := readText_of_unchanged done unchanged
    exact ⟨_, check_of_readText (weave_of_build done).1 read,
      by simp [Comparison.isCurrent]⟩
  · intro comparison done isCurrent
    exact (build_of_current done isCurrent).2
  · intro comparison done stale
    exact build_of_check done
  · intro failure failed
    refine ⟨check_of_error failed output, ?_⟩
    show (build fs weaver patterns dir output).1.result = _
    rw [build_of_error failed]
    exact failed
  · intro environment arguments settings diff asked status loaded checkedWith
    have ended : status =
        (Command.run fs settings (.check dir output diff)).1.ending.status := by
      show (Program.run fs environment arguments).1.ending.status = _
      rw [Program.run, asked]
    rw [ended]
    exact Command.status_run_check fs settings dir output diff

/-- A directory with one source beside a book that is current and one that is
not; the directory itself is no place for a book, and there is no source in it
for another. -/
theorem check_iff_build_example :
    let fs : FileSystem := ⟨.dir [
      ("src".toList, .dir [("a.kt".toList, .file (.text "/*-\nhi\n-*/\n".toList))]),
      ("new.md".toList, .file (.text "hi\n\n".toList)),
      ("old.md".toList, .file (.text "hi\n".toList))], []⟩
    let status (dir output : String) :=
      (Program.run fs ⟨true, none⟩
        ["check".toList, dir.toList, output.toList]).1.ending.status
    let build := build fs .default ["*.kt".toList] "src".toList
    ((build "new.md".toList).2 = fs ∧ status "src" "new.md" = 0) ∧
      ((build "old.md".toList).1.result = .ok "hi\n\n".toList ∧
        (build "old.md".toList).2.readText "old.md".toList =
          .ok "hi\n\n".toList ∧
        status "src" "old.md" = 1) ∧
      (∃ error, (build "src".toList).1.result = .error (.io error)) ∧
      status "." "old.md" = 2 := by
  intro fs status build
  have current :
      (check fs .default ["*.kt".toList] "src".toList "new.md".toList).result =
      .ok ⟨"new.md".toList, "hi\n\n".toList, some "hi\n\n".toList⟩ := by
    decide +kernel
  have stale :
      (check fs .default ["*.kt".toList] "src".toList "old.md".toList).result =
      .ok ⟨"old.md".toList, "hi\n\n".toList, some "hi\n".toList⟩ := by
    decide +kernel
  have absent :
      (check fs .default ["*.kt".toList] "src".toList "src".toList).result =
      .ok ⟨"src".toList, "hi\n\n".toList, none⟩ := by
    decide +kernel
  have empty :
      (check fs .default ["*.kt".toList] ".".toList "old.md".toList).result =
      .error (.noSources ".".toList) := by
    decide +kernel
  have loaded : (Config.loadOrDefault fs fs.currentDir).result =
      .ok .default := by
    decide +kernel
  have unwritten : (build "src".toList).1.result ≠ .ok "hi\n\n".toList := by
    decide +kernel
  have rewritten : (build "old.md".toList).1.result = .ok "hi\n\n".toList := by
    decide +kernel
  obtain ⟨-, unchanged, -, -, upToDate⟩ :=
    check_iff_build fs .default ["*.kt".toList] "src".toList "new.md".toList
  obtain ⟨-, -, replaced, -, outOfDate⟩ :=
    check_iff_build fs .default ["*.kt".toList] "src".toList "old.md".toList
  obtain ⟨-, -, refused, -, -⟩ :=
    check_iff_build fs .default ["*.kt".toList] "src".toList "src".toList
  obtain ⟨-, -, -, -, failing⟩ :=
    check_iff_build fs .default ["*.kt".toList] ".".toList "old.md".toList
  refine ⟨⟨unchanged _ current rfl, ?_⟩, ⟨rewritten, ?_, ?_⟩, ?_, ?_⟩
  · exact (upToDate ⟨true, none⟩ _ ⟨none, false, false⟩ false (by decide +kernel)).1.2
      ⟨.default, _, loaded, current, rfl⟩
  · rcases replaced _ stale (by simp) with ⟨-, read⟩ | ⟨error, -, failed, -⟩
    · exact read
    · rw [rewritten] at failed
      cases failed
  · exact (outOfDate ⟨true, none⟩ _ ⟨none, false, false⟩ false
      (by decide +kernel)).2.1.2
      ⟨.default, _, loaded, stale, rfl⟩
  · rcases refused _ absent (by simp) with ⟨done, -⟩ | ⟨error, -, failed, -⟩
    · exact absurd done unwritten
    · exact ⟨error, failed⟩
  · exact (failing ⟨true, none⟩ _ ⟨none, false, false⟩ false
      (by decide +kernel)).2.2.2
      (.inr ⟨.default, _, loaded, empty⟩)

end Book

end LiterateBook
