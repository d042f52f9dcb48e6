import LiterateBook.Proofs.AskedPaths
import LiterateBook.Proofs.Resolution
import LiterateBook.Proofs.SourceFiles

/-!
# The book of a directory

Weaving a directory comes to one of six ends, and an earlier one keeps the later
ones from being looked at: a pattern that cannot be read, patterns that cannot
be made ready together, a directory that cannot be walked, no sources, a source
that fails, or the outputs of all sources in the order of their names.
-/

namespace LiterateBook

namespace Book

variable {fs : FileSystem} {weaver : Weaver} {patterns : List Text}
  {globs : List Glob} {dir path : Text}

/-! ## One source -/

/-- What weaving a source file comes to. Its includes are read below its own
directory. -/
inductive FileOutcome (fs : FileSystem) (weaver : Weaver) (path : Text) :
    Except Failure (List Text) → Prop where
  /-- The file cannot be read as text. -/
  | unread {error : IoError} (unread : fs.readText path = .error error) :
      FileOutcome fs weaver path (.error (.io error))
  /-- An include cannot be read, and all before it can. -/
  | unresolved {source : Text} {before after : List Text} {missing : Text}
      {error : IoError} (read : fs.readText path = .ok source)
      (split : Block.paths (weaver.document source).blocks =
        before ++ missing :: after)
      (resolved : ∀ earlier ∈ before, ∃ text,
        fs.readText (Path.join (baseOf path) earlier) = .ok text)
      (unresolved : fs.readText (Path.join (baseOf path) missing) =
        .error error) :
      FileOutcome fs weaver path
        (.error (.unresolvedInclude missing error.message.toList))
  /-- The blocks are put out, each include as the lines of its file. -/
  | woven {source : Text} {answer : Text → Text}
      (read : fs.readText path = .ok source)
      (resolved : ∀ included ∈ Block.paths (weaver.document source).blocks,
        fs.readText (Path.join (baseOf path) included) =
          .ok (answer included)) :
      FileOutcome fs weaver path (.ok ((weaver.document source).blocks.flatMap
        (weaver.options.output fun included => (answer included).terminatedLines)))

theorem resolver_of_ok {base included text : Text}
    (read : fs.readText (Path.join base included) = .ok text) :
    resolver fs base included = .ok text.terminatedLines := by
  rw [resolver, read]

theorem resolver_of_error {base included : Text} {error : IoError}
    (unread : fs.readText (Path.join base included) = .error error) :
    resolver fs base included =
      .error (.unresolvedInclude included error.message.toList) := by
  rw [resolver, unread]

theorem result_weaveFile (fs : FileSystem) (weaver : Weaver) (path : Text) :
    (weaveFile fs weaver path).result =
      ((fs.readText path).mapError .io).bind fun source =>
      (weaver.weave (resolver fs (baseOf path)) source).result := by
  rw [weaveFile]
  simp only [Logged.result_bind, Logged.result_report, Logged.result_ofExcept]
  rfl

theorem FileOutcome.result_eq {result : Except Failure (List Text)}
    (outcome : FileOutcome fs weaver path result) :
    (weaveFile fs weaver path).result = result := by
  rw [result_weaveFile]
  cases outcome with
  | unread unread =>
      rw [unread]
      rfl
  | @unresolved source before after missing error read split resolved unresolved =>
      have answered : ∀ earlier ∈ before, resolver fs (baseOf path) earlier =
          .ok ((resolver fs (baseOf path)).linesAt earlier) := by
        intro earlier member
        obtain ⟨text, found⟩ := resolved earlier member
        exact Resolver.eq_linesAt ⟨_, resolver_of_ok found⟩
      have rendered := RenderOptions.renderAll_of_failed split answered
        (resolver_of_error unresolved) weaver.options
      rw [read]
      exact congrArg Rendering.result rendered
  | @woven source answer read resolved =>
      have rendered := RenderOptions.renderAll_of_answered
        (fun included member => resolver_of_ok (resolved included member))
          weaver.options
      rw [read]
      exact congrArg Rendering.result rendered

theorem exists_fileOutcome (fs : FileSystem) (weaver : Weaver) (path : Text) :
    ∃ result, FileOutcome fs weaver path result := by
  cases read : fs.readText path with
  | error error => exact ⟨_, .unread read⟩
  | ok source =>
      let reading (included : Text) :=
        fs.readText (Path.join (baseOf path) included)
      rcases answered_or_first_error reading
        (Block.paths (weaver.document source).blocks) with
        resolved | ⟨before, missing, after, error, split, resolved, unresolved⟩
      · have answered :
            ∀ included ∈ Block.paths (weaver.document source).blocks,
            reading included = .ok ((reading included).toOption.getD []) := by
          intro included member
          obtain ⟨text, found⟩ := resolved included member
          rw [found]
          rfl
        exact ⟨_, .woven read answered⟩
      · exact ⟨_, .unresolved read split resolved unresolved⟩

theorem weaveFile_eq_iff {result : Except Failure (List Text)} :
    (weaveFile fs weaver path).result = result ↔
      FileOutcome fs weaver path result := by
  constructor
  · rintro rfl
    obtain ⟨result, outcome⟩ := exists_fileOutcome fs weaver path
    rw [outcome.result_eq]
    exact outcome
  · exact FileOutcome.result_eq

/-! ## All sources -/

/-- The output of sources whose lines are given: after each an empty line. -/
def joined (outputs : List (List Text)) : Text :=
  outputs.flatMap fun lines => lines.flatten ++ ['\n']

theorem result_weaveFiles_cons (fs : FileSystem) (weaver : Weaver) (path : Text)
    (rest : List Text) :
    (weaveFiles fs weaver (path :: rest)).result =
      (weaveFile fs weaver path).result.bind fun lines =>
      (weaveFiles fs weaver rest).result.map fun others =>
        lines.flatten ++ '\n' :: others := by
  rw [weaveFiles]
  simp only [Logged.result_bind, Logged.result_pure]
  cases (weaveFile fs weaver path).result with
  | error failure => rfl
  | ok lines => cases (weaveFiles fs weaver rest).result <;> rfl

theorem weaveFiles_of_woven {paths : List Text} {outputs : List (List Text)}
    (woven : paths.Forall₂
      (fun path lines => FileOutcome fs weaver path (.ok lines)) outputs) :
    (weaveFiles fs weaver paths).result = .ok (joined outputs) := by
  induction woven with
  | nil => rfl
  | @cons path lines rest others first _ ih =>
      rw [result_weaveFiles_cons, first.result_eq, ih]
      simp [Except.bind, Except.map, joined]

/-- The first source that fails is the failure of all. -/
theorem weaveFiles_of_failed {before after : List Text} {failure : Failure}
    (woven : ∀ earlier ∈ before, ∃ lines, FileOutcome fs weaver earlier (.ok lines))
    (failed : FileOutcome fs weaver path (.error failure)) :
    (weaveFiles fs weaver (before ++ path :: after)).result =
      .error failure := by
  induction before with
  | nil =>
      rw [List.nil_append, result_weaveFiles_cons, failed.result_eq]
      rfl
  | cons earlier rest ih =>
      obtain ⟨⟨lines, first⟩, others⟩ := List.forall_mem_cons.1 woven
      rw [List.cons_append, result_weaveFiles_cons, first.result_eq, ih others]
      rfl

/-! ## The book -/

/-- What weaving a directory comes to. -/
inductive Outcome (fs : FileSystem) (weaver : Weaver) (patterns : List Text)
    (dir : Text) :
    Except Failure Text → Prop where
  /-- A pattern cannot be read, and all before it can. -/
  | badPattern {before after : List Text} {pattern : Text}
      {error : PatternError} (split : patterns = before ++ pattern :: after)
      (readable : ∀ earlier ∈ before, ∃ glob, Glob.ofPattern earlier = .ok glob)
      (faulty : Glob.ofPattern pattern = .error error) :
      Outcome fs weaver patterns dir
        (.error (.invalidPattern pattern (error.message pattern)))
  /-- All patterns can be read, but not be made ready together. -/
  | badPatterns {globs : List Glob} {reason : Text}
      (read : Glob.AreOf globs patterns)
      (fault : Glob.fault? globs = some reason) :
      Outcome fs weaver patterns dir
        (.error (.invalidPattern (", ".toList.intercalate patterns) reason))
  | badWalk {globs : List Glob} {error : IoError}
      (ready : Glob.Ready patterns globs)
      (unwalked : fs.node? dir = .error error) :
      Outcome fs weaver patterns dir (.error (.sourceWalk dir error))
  | noSources {globs : List Glob} {node : Node}
      (ready : Glob.Ready patterns globs) (asked : fs.node? dir = .ok node)
      (lists : Lists patterns dir [] node) :
      Outcome fs weaver patterns dir (.error (.noSources dir))
  /-- A source fails, and none before it does. -/
  | badSource {globs : List Glob} {node : Node} {before after : List Text}
      {path : Text} {failure : Failure} (ready : Glob.Ready patterns globs)
      (asked : fs.node? dir = .ok node)
      (lists : Lists patterns dir (before ++ path :: after) node)
      (woven : ∀ earlier ∈ before, ∃ lines, FileOutcome fs weaver earlier (.ok lines))
      (failed : FileOutcome fs weaver path (.error failure)) :
      Outcome fs weaver patterns dir (.error failure)
  /-- There are sources, and all are woven. -/
  | woven {globs : List Glob} {node : Node} {paths : List Text}
      {outputs : List (List Text)} (ready : Glob.Ready patterns globs)
      (asked : fs.node? dir = .ok node) (lists : Lists patterns dir paths node)
      (present : paths ≠ [])
      (woven : paths.Forall₂
        (fun path lines => FileOutcome fs weaver path (.ok lines)) outputs) :
      Outcome fs weaver patterns dir (.ok (joined outputs))

theorem result_weave (fs : FileSystem) (weaver : Weaver) (patterns : List Text)
    (dir : Text) :
    (weave fs weaver patterns dir).result =
      (sources fs patterns dir).result.bind fun paths =>
      if paths = [] then .error (.noSources dir)
      else (weaveFiles fs weaver paths).result := by
  simp only [weave, Logged.result_bind]
  cases (sources fs patterns dir).result with
  | error failure => rfl
  | ok paths =>
      simp only [Except.bind]
      by_cases empty : paths = []
      · rw [if_pos empty, if_pos empty]
        rfl
      · rw [if_neg empty, if_neg empty]
        simp only [Logged.result_bind, Logged.result_report, Logged.result_pure]
        cases (weaveFiles fs weaver paths).result <;> rfl

theorem Outcome.result_eq {result : Except Failure Text}
    (named : isInput dir = false)
    (outcome : Outcome fs weaver patterns dir result) :
    (weave fs weaver patterns dir).result = result := by
  rw [result_weave]
  cases outcome with
  | badPattern split readable faulty =>
      rw [result_sources, Glob.result_ofPatterns, split,
        Glob.readAll_of_faulty readable faulty]
      rfl
  | badPatterns read fault =>
      rw [result_sources, Glob.result_ofPatterns, Glob.readAll_of_areOf read]
      simp only [Except.bind, fault]
  | badWalk ready unwalked =>
      rw [result_sources, ready.result_ofPatterns, result_found, walk,
        if_neg (Bool.not_eq_true _ ▸ named), unwalked]
      rfl
  | noSources ready asked lists =>
      rw [lists.result_sources ready named asked]
      rfl
  | badSource ready asked lists woven failed =>
      rw [lists.result_sources ready named asked, Except.bind, if_neg (by simp)]
      exact weaveFiles_of_failed woven failed
  | woven ready asked lists present woven =>
      rw [lists.result_sources ready named asked, Except.bind, if_neg present]
      exact weaveFiles_of_woven woven

theorem exists_forall₂ {α β : Type} {relation : α → β → Prop} {items : List α}
    (related : ∀ item ∈ items, ∃ result, relation item result) :
    ∃ results, items.Forall₂ relation results := by
  induction items with
  | nil => exact ⟨[], .nil⟩
  | cons item rest ih =>
      obtain ⟨⟨result, first⟩, others⟩ := List.forall_mem_cons.1 related
      obtain ⟨results, later⟩ := ih others
      exact ⟨result :: results, .cons first later⟩

theorem exists_outcome (fs : FileSystem) (weaver : Weaver)
    (patterns : List Text) (named : isInput dir = false) :
    ∃ result, Outcome fs weaver patterns dir result := by
  rcases answered_or_first_error Glob.ofPattern patterns with
    readable | ⟨before, pattern, after, error, split, readable, faulty⟩
  · obtain ⟨globs, read⟩ := exists_forall₂ readable
    cases fault : Glob.fault? globs with
    | some reason => exact ⟨_, .badPatterns read fault⟩
    | none =>
        have ready : Glob.Ready patterns globs := ⟨read, fault⟩
        cases asked : fs.node? dir with
        | error error => exact ⟨_, .badWalk ready asked⟩
        | ok node =>
            obtain ⟨paths, lists, -⟩ := exists_lists ready named asked
            by_cases empty : paths = []
            · subst empty
              exact ⟨_, .noSources ready asked lists⟩
            · let weaving (path : Text) := (weaveFile fs weaver path).result
              rcases answered_or_first_error weaving paths with
                woven | ⟨before, path, after, failure, rfl, woven, failed⟩
              · simp only [weaving, weaveFile_eq_iff] at woven
                obtain ⟨outputs, woven⟩ := exists_forall₂ woven
                exact ⟨_, .woven ready asked lists empty woven⟩
              · simp only [weaving, weaveFile_eq_iff] at woven failed
                exact ⟨_, .badSource ready asked lists woven failed⟩
  · exact ⟨_, .badPattern split readable faulty⟩

end Book

end LiterateBook
