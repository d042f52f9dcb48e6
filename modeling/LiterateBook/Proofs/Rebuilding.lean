import LiterateBook.Proofs.Building
import LiterateBook.Proofs.DirectoryBook

/-!
# Building again

A build adds directories and writes one file. If that file is none of those that
were read for the book, and none that would be read now, the book of the changed
file system is the same: it is current, and building it again changes nothing.
-/

namespace LiterateBook

namespace FileSystem

variable {before after : FileSystem} {path output text : Text}
  {location written : Location} {content : Content}
  {entries : List (Text × Node)}

/-! ## What was not written -/

namespace Wrote

theorem location? (wrote : Wrote before after output written content) :
    after.location? output = some written :=
  location?_of_resolve wrote.leads

theorem shape?_of_file {held : Content}
    (wrote : Wrote before after output written content)
    (stood : before.shape? location = some (.file held))
    (differ : location ≠ written) :
    after.shape? location = before.shape? location := by
  rcases wrote.elsewhere location differ with unchanged | ⟨above, higher, new⟩
  · exact unchanged
  · rw [new.free] at stood
    cases stood

theorem resolve_of_file {held : Content}
    (wrote : Wrote before after output written content)
    (resolved : before.resolve false path = .ok (.found location (.file held)))
    (differ : location ≠ written) :
    after.resolve false path = .ok (.found location (.file held)) := by
  have found := (resolve_eq_ok_iff.1 resolved).2.find?
  exact wrote.keeps.resolve_file resolved
    (wrote.shape?_of_file (Node.shape?_of_find? found) differ)

/-- What a file elsewhere holds is still read there. -/
theorem readText (wrote : Wrote before after output written content)
    (read : before.readText path = .ok text)
    (apart : before.location? path ≠ after.location? output) :
    after.readText path = .ok text := by
  rw [readText_eq_ok_iff, node?_eq_ok_iff] at read ⊢
  obtain ⟨location, resolved⟩ := read
  rw [wrote.location?, location?_of_resolve resolved] at apart
  exact ⟨location,
    wrote.resolve_of_file resolved fun same => apart (congrArg some same)⟩

theorem isFile_entry_iff {others : List (Text × Node)} {name : Text}
    (wrote : Wrote before after output written content)
    (stood : before.root.find? location = some (.dir entries))
    (stands : after.root.find? location = some (.dir others))
    (differ : location ++ [name] ≠ written) :
    (∃ held, entries.lookup name = some (.file held)) ↔
      ∃ held, others.lookup name = some (.file held) := by
  have first := Node.shape?_entry stood name
  have second := Node.shape?_entry stands name
  have shaped (node? : Option Node) : (∃ held, node? = some (.file held)) ↔
      ∃ held, node?.map Node.shape = some (.file held) := by
    simp only [Option.map_eq_some_iff, Node.shape_eq_file_iff, exists_eq_right]
  rw [shaped, shaped, ← first, ← second]
  show (∃ held, before.shape? _ = _) ↔ ∃ held, after.shape? _ = _
  rcases wrote.elsewhere (location ++ [name]) differ with
      unchanged | ⟨above, higher, new⟩
  · rw [unchanged]
  · rw [new.free, new.shape?]
    simp

end Wrote

end FileSystem

namespace Book

open FileSystem

variable {fs after : FileSystem} {weaver : Weaver} {patterns paths : List Text}
  {globs : List Glob} {dir output path book : Text} {written : Location}
  {content : Content}

/-! ## What is read -/

/-- The paths that are read for the book of a directory: its sources, and the
includes that are asked for. -/
inductive Reads (fs : FileSystem) (weaver : Weaver) (patterns : List Text)
    (dir : Text) :
    Text → Prop where
  | source {paths : List Text} {path : Text}
      (listed : (sources fs patterns dir).result = .ok paths)
      (member : path ∈ paths) : Reads fs weaver patterns dir path
  | inclusion {paths : List Text} {path source included : Text}
      (listed : (sources fs patterns dir).result = .ok paths)
      (member : path ∈ paths) (read : fs.readText path = .ok source)
      (asked : included ∈ (weaver.weave (resolver fs (baseOf path)) source).asked) :
      Reads fs weaver patterns dir (Path.join (baseOf path) included)

/-- A source that was woven is woven to the same lines when what was read for it
is read as before. -/
theorem FileOutcome.keep {lines : List Text}
    (outcome : FileOutcome fs weaver path (.ok lines))
    (same : ∀ text, fs.readText path = .ok text →
      after.readText path = .ok text)
    (alsoSame : ∀ source included text, fs.readText path = .ok source →
      included ∈ (weaver.weave (resolver fs (baseOf path)) source).asked →
        fs.readText (Path.join (baseOf path) included) = .ok text →
          after.readText (Path.join (baseOf path) included) = .ok text) :
    FileOutcome after weaver path (.ok lines) := by
  cases outcome with
  | @woven source answer read resolved =>
      have rendered := RenderOptions.renderAll_of_answered
        (fun included member => resolver_of_ok (resolved included member))
          weaver.options
      refine .woven (same source read) fun included member => ?_
      apply alsoSame source included _ read _ (resolved included member)
      rw [Weaver.weave, rendered]
      exact member

/-! ## What is listed -/

/-- The sources of a directory stay the same when a file is written that is none
of them now. -/
theorem Lists.keep {node : Node} (wrote : Wrote fs after output written content)
    (ready : Glob.Ready patterns globs) (named : isInput dir = false)
    (asked : fs.node? dir = .ok node) (lists : Lists patterns dir paths node)
    (present : paths ≠ [])
    (apart : ∀ path ∈ paths, fs.location? path ≠ after.location? output)
    (alsoApart : ∀ others path, (sources after patterns dir).result =
      .ok others → path ∈ others →
        after.location? path ≠ after.location? output) :
    ∃ other, after.node? dir = .ok other ∧ Lists patterns dir paths other := by
  obtain ⟨location, resolved⟩ := node?_eq_ok_iff.1 asked
  cases node with
  | link target => exact absurd lists present
  | file held =>
      have single : paths = [dir] := by
        rcases lists with ⟨-, single⟩ | ⟨-, none⟩
        · exact single
        · exact absurd none present
      have differ : location ≠ written := by
        intro same
        apply apart dir (single ▸ List.mem_singleton_self dir)
        rw [location?_of_resolve resolved, wrote.location?, same]
      exact ⟨.file held,
        node?_eq_ok_iff.2
          ⟨location, wrote.resolve_of_file resolved differ⟩, lists⟩
  | dir entries =>
      obtain ⟨names, listing, rfl⟩ := lists
      obtain ⟨others, stays⟩ := wrote.keeps.resolve_dir resolved
      have asked : after.node? dir = .ok (.dir others) :=
        node?_eq_ok_iff.2 ⟨location, stays⟩
      have stood := (resolve_eq_ok_iff.1 resolved).2.find?
      obtain ⟨checked, leads⟩ := resolve_eq_ok_iff.1 stays
      refine ⟨.dir others, asked, names, listing.of_forall ?_, rfl⟩
      intro name visible selected
      by_cases here : location ++ [name] = written
      · have now : others.lookup name = some (.file content) := by
          rw [← Node.find?_entry leads.find?, here]
          exact (resolve_eq_ok_iff.1 wrote.leads).2.find?
        rcases wrote.place with
            ⟨held, wasFile⟩ | ⟨-, directory, last, split, isName, short⟩
        · rw [← here, FileSystem.shape?, Node.shape?_entry stood,
            Option.map_eq_some_iff] at wasFile
          obtain ⟨before, found, shaped⟩ := wasFile
          rw [Node.shape_eq_file_iff.1 shaped] at found
          exact ⟨fun _ => ⟨content, now⟩, fun _ => ⟨held, found⟩⟩
        · obtain ⟨-, same⟩ := List.append_inj' (here.trans split) rfl
          obtain rfl := List.singleton_inj.1 same
          obtain ⟨listed, ⟨fresh, alsoListing, rfl⟩, answer⟩ :=
            exists_lists ready named asked
          have member : name ∈ fresh :=
            (alsoListing.mem_iff name).2 ⟨⟨content, now⟩, visible, selected⟩
          have nonempty := (checkPath_eq_ok_iff.1 checked).2.1
          refine absurd ?_ (alsoApart _ _ answer (List.mem_map_of_mem member))
          rw [wrote.location?, ← here, location?_eq_some_iff]
          exact ⟨_, leads.entry nonempty isName short now⟩
      · exact wrote.isFile_entry_iff stood leads.find? here

/-! ## The same book -/

theorem isInput_of_weave
    (woven : (weave fs weaver patterns dir).result = .ok book) :
    isInput dir = false := by
  apply Bool.eq_false_iff.2
  intro same
  have walked : (found fs dir).result = .ok [] := by
    rw [result_found, walk, if_pos same]
    rfl
  rw [result_weave, result_sources, walked] at woven
  cases read : (Glob.ofPatterns patterns).result with
  | error failure =>
      rw [read] at woven
      cases woven
  | ok globs =>
      have none : sourcesOf globs [] = [] := by simp [sourcesOf]
      rw [read] at woven
      simp only [Except.bind, Except.map, none, if_true] at woven
      cases woven

/-- Weaving again after a file was written that is not read gives the same
book. -/
theorem weave_of_wrote (wrote : Wrote fs after output written content)
    (woven : (weave fs weaver patterns dir).result = .ok book)
    (apart : ∀ path, Reads fs weaver patterns dir path →
      fs.location? path ≠ after.location? output)
    (alsoApart : ∀ others path, (sources after patterns dir).result =
      .ok others → path ∈ others →
        after.location? path ≠ after.location? output) :
    (weave after weaver patterns dir).result = .ok book := by
  have named := isInput_of_weave woven
  obtain ⟨result, outcome⟩ := exists_outcome fs weaver patterns named
  rw [outcome.result_eq named] at woven
  subst woven
  cases outcome with
  | @woven globs node paths outputs ready asked lists present woven =>
      have listed := lists.result_sources ready named asked
      obtain ⟨other, stays, alsoLists⟩ :=
        lists.keep wrote ready named asked present
        (fun path member => apart path (.source listed member)) alsoApart
      apply Outcome.result_eq named
      apply Outcome.woven ready stays alsoLists present
      apply ((List.forall₂_and_left _ _).2 ⟨fun _ member => member, woven⟩).imp
      intro path lines both
      obtain ⟨member, outcome⟩ := both
      apply outcome.keep
      · intro text read
        exact wrote.readText read (apart path (.source listed member))
      · intro source included text read asked found
        exact wrote.readText found
          (apart _ (.inclusion listed member read asked))

/-- After a build whose output is none of the files it read, and none of the
sources it has now, checking finds the book current, and building again gives
the same book and changes nothing. -/
theorem check_of_build (fs : FileSystem) (weaver : Weaver)
    (patterns : List Text) (dir output book : Text) :
    let after := (build fs weaver patterns dir output).2
    (build fs weaver patterns dir output).1.result = .ok book →
    (∀ path, Reads fs weaver patterns dir path →
      fs.location? path ≠ after.location? output) →
    (∀ paths path, (sources after patterns dir).result = .ok paths →
      path ∈ paths →
      after.location? path ≠ after.location? output) →
    (check after weaver patterns dir output).result =
      .ok ⟨output, book, some book⟩ ∧
      (Comparison.isCurrent ⟨output, book, some book⟩) = true ∧
      (build after weaver patterns dir output).1.result = .ok book ∧
      (build after weaver patterns dir output).2 = after := by
  intro after built apart alsoApart
  obtain ⟨written, wrote⟩ := wrote_of_build built
  have again := weave_of_wrote wrote (weave_of_build built).1 apart alsoApart
  have unchanged := writeWithDirs_of_resolve wrote.leads
  refine ⟨check_of_readText again wrote.readText_self,
    by simp [Comparison.isCurrent], ?_, ?_⟩
  · rw [build_of_ok again, unchanged]
    rfl
  · rw [build_of_ok again, unchanged]

/-- A source with an include, built into a directory that is made among the
sources. -/
theorem check_of_build_example :
    let fs : FileSystem := ⟨.dir [("src".toList, .dir [
      ("a.kt".toList, .file (.text "//#include \"x\"\n".toList)),
      ("x".toList, .file (.text "hi\n".toList))])], []⟩
    let after :=
      (build fs .default ["*.kt".toList] "src".toList "src/new/b.md".toList).2
    (build fs .default ["*.kt".toList] "src".toList "src/new/b.md".toList).1.result =
        .ok "hi\n\n".toList ∧
      (check after .default ["*.kt".toList] "src".toList
        "src/new/b.md".toList).result =
        .ok ⟨"src/new/b.md".toList, "hi\n\n".toList, some "hi\n\n".toList⟩ ∧
      (build after .default ["*.kt".toList] "src".toList
        "src/new/b.md".toList).2 = after := by
  intro fs after
  have built :
      (build fs .default ["*.kt".toList] "src".toList
        "src/new/b.md".toList).1.result =
      .ok "hi\n\n".toList := by
    decide +kernel
  have listed : (sources fs ["*.kt".toList] "src".toList).result =
      .ok ["src/a.kt".toList] := by
    decide +kernel
  have relisted : (sources after ["*.kt".toList] "src".toList).result =
      .ok ["src/a.kt".toList] := by
    decide +kernel
  have apart : ∀ path, Reads fs .default ["*.kt".toList] "src".toList path →
      fs.location? path ≠ after.location? "src/new/b.md".toList := by
    intro path reads
    cases reads with
    | source alsoListed member =>
        rw [listed] at alsoListed
        cases alsoListed
        rw [List.mem_singleton.1 member]
        decide +kernel
    | inclusion alsoListed member read asked =>
        rw [listed] at alsoListed
        cases alsoListed
        obtain rfl := List.mem_singleton.1 member
        have text : fs.readText "src/a.kt".toList =
            .ok "//#include \"x\"\n".toList := by
          decide +kernel
        rw [text] at read
        cases read
        have only :
            (Weaver.default.weave (resolver fs (baseOf "src/a.kt".toList))
            "//#include \"x\"\n".toList).asked = ["x".toList] := by
          decide +kernel
        rw [only] at asked
        rw [List.mem_singleton.1 asked]
        decide +kernel
  have alsoApart : ∀ paths path,
      (sources after ["*.kt".toList] "src".toList).result = .ok paths →
      path ∈ paths → after.location? path ≠
        after.location? "src/new/b.md".toList := by
    intro paths path alsoListed member
    rw [relisted] at alsoListed
    cases alsoListed
    rw [List.mem_singleton.1 member]
    decide +kernel
  obtain ⟨current, -, -, unchanged⟩ :=
    check_of_build fs .default ["*.kt".toList] "src".toList
    "src/new/b.md".toList "hi\n\n".toList built apart alsoApart
  exact ⟨built, current, unchanged⟩

end Book

end LiterateBook
