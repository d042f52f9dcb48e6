import LiterateBook.Program
import LiterateBook.Proofs.Writing

/-!
# What building changes

A book is written only after all of it was woven, so a book that cannot be woven
leaves the file system as it was. Writing may fail after directories were made
for the output, and leaves nothing else behind then. A book that was built
stands in its output, and beside it only directories that the output lacked are
new.
-/

namespace LiterateBook

namespace FileSystem

variable {fs made : FileSystem} {path : Text} {content : Content}

theorem AddsDirs.file_of_file {paths : Text → Prop} {location : Location}
    (adds : AddsDirs paths fs made)
    (stands : made.shape? location = some (.file content)) :
    fs.shape? location = some (.file content) := by
  rcases adds.shape? location with same | ⟨above, kind, new⟩
  · rw [← same, stands]
  · rw [new.shape?] at stands
    cases stands

/-- Where a node may be put after directories were added, there was a file or
nothing before. -/
theorem AddsDirs.free_or_file {paths : Text → Prop} {location : Location}
    (adds : AddsDirs paths fs made) (admits : made.root.Admits location) :
    fs.shape? location = none ∨
      ∃ content, fs.shape? location = some (.file content) := by
  rcases admits with
      ⟨held, found⟩ | ⟨directory, name, entries, rfl, found, free⟩
  · exact .inr ⟨held, adds.file_of_file (Node.shape?_of_find? found)⟩
  · have vacant : made.shape? (directory ++ [name]) = none := by
      rw [FileSystem.shape?, Node.shape?_entry found, free]
      rfl
    rcases adds.shape? (directory ++ [name]) with same | ⟨above, kind, new⟩
    · exact .inl (same ▸ vacant)
    · exact .inl new.free

/-- The directories that a path lacks are above it. -/
theorem makeDirs_parent_adds (fs : FileSystem) (path : Text) :
    AddsDirs (Path.IsAbove · path) fs
      (fs.makeDirs ((Path.parent? path).getD [])).2 := by
  cases found : Path.parent? path with
  | none =>
      rw [Option.getD_none, makeDirs, if_pos rfl]
      exact .refl _ fs
  | some parent =>
      rw [Option.getD_some]
      apply (makeDirs_adds fs parent).1.mono
      intro above kind
      exact Path.isAbove_of_parent? found kind

/-- A file that cannot be written leaves directories above it at most. -/
theorem writeWithDirs_eq_error {error : IoError}
    (failed : (fs.writeWithDirs path content).1 = .error error) :
    AddsDirs (Path.IsAbove · path) fs (fs.writeWithDirs path content).2 := by
  have adds := makeDirs_parent_adds fs path
  unfold writeWithDirs at failed ⊢
  split
  · next refused => rwa [refused] at adds
  · next made done =>
    rw [done] at adds failed
    simp only at failed
    cases written : made.write path content with
    | mk result after =>
        rw [written] at failed
        cases failed
        rw [write_eq_error written]
        exact adds

/-- A file that is written is put where its path leads once the directories
above it are there. -/
theorem writeWithDirs_eq_ok
    (done : (fs.writeWithDirs path content).1 = .ok ()) :
    ∃ made place, AddsDirs (Path.IsAbove · path) fs made ∧
      made.resolve true path = .ok place ∧ made.root.Admits place.location ∧
      (fs.writeWithDirs path content).2 =
        made.put place.location (.file content) := by
  have adds := makeDirs_parent_adds fs path
  unfold writeWithDirs at done ⊢
  split
  · next refused => rw [refused] at done; cases done
  · next made finished =>
    rw [finished] at adds done
    simp only at done
    cases written : made.write path content with
    | mk result after =>
        rw [written] at done
        cases done
        obtain ⟨place, resolved, admits, same⟩ := write_eq_ok written
        exact ⟨made, place, adds, resolved, admits, same⟩

/-! ## One file written -/

/-- A location where nothing changed, or where a directory is new to which a
path above the output leads. -/
def Untouched (before after : FileSystem) (output : Text)
    (location : Location) : Prop :=
  after.shape? location = before.shape? location ∨
    ∃ above, Path.IsAbove above output ∧ NewDir before after above location

/-- A file system differs from another by a file that was written where a path
leads, and by new directories above it. The file was there before, or is new
under a name that a path can enter. -/
structure Wrote (before after : FileSystem) (output : Text) (written : Location)
    (content : Content) : Prop where
  keeps : before.Keeps after
  leads : after.resolve false output = .ok (.found written (.file content))
  elsewhere : ∀ location, location ≠ written →
    Untouched before after output location
  place : (∃ held, before.shape? written = some (.file held)) ∨
    before.shape? written = none ∧
      ∃ directory name, written = directory ++ [name] ∧
      Path.IsName name ∧ name.byteLength ≤ maxNameBytes

theorem Wrote.readText_self {before after : FileSystem} {output text : Text}
    {written : Location}
    (wrote : Wrote before after output written (.text text)) :
    after.readText output = .ok text :=
  readText_eq_ok_iff.2 (node?_eq_ok_iff.2 ⟨written, wrote.leads⟩)

theorem exists_wrote (done : (fs.writeWithDirs path content).1 = .ok ()) :
    ∃ written, Wrote fs (fs.writeWithDirs path content).2 path written
      content := by
  obtain ⟨made, place, adds, resolved, admits, same⟩ := writeWithDirs_eq_ok done
  have set : SetAt made (made.put place.location (.file content)) place.location
      (.file content) :=
    setAt_put admits fun _ _ => rfl
  have keeps : made.Keeps (made.put place.location (.file content)) :=
    keeps_put_file admits
  have leads := (resolve_eq_ok_iff.1 (resolve_of_creating resolved)).2
  rw [same]
  refine ⟨place.location, adds.keeps.trans keeps,
    resolve_write resolved admits, ?_, ?_⟩
  · intro location differ
    rcases adds.shape? location with unchanged | ⟨above, higher, new⟩
    · exact .inl ((set.shape?_of_ne differ).trans unchanged)
    · exact .inr ⟨above, higher, new.keep keeps⟩
  · cases place with
    | vacant directory name =>
        obtain ⟨isName, short⟩ := leads.isName_of_vacant
        rcases adds.free_or_file admits with free | wasFile
        · exact .inr ⟨free, directory, name, rfl, isName, short⟩
        · exact .inl wasFile
    | found goal node =>
        rcases admits with
            ⟨held, isFile⟩ | ⟨directory, name, others, split, above, free⟩
        · exact .inl ⟨held, adds.file_of_file (Node.shape?_of_find? isFile)⟩
        · have there : made.root.find? (directory ++ [name]) = some node :=
            split ▸ leads.find?
          rw [Node.find?_entry above, free] at there
          cases there

end FileSystem

/-- Only building changes the file system. -/
theorem Program.run_eq_of_not_build {arguments : List Text}
    (harmless : ∀ settings sourceDir target, Arguments.read arguments ≠
      .ok (settings, some (.build sourceDir target)))
    (fs : FileSystem) (environment : Environment) :
    (run fs environment arguments).2.2 = fs := by
  unfold run
  cases read : Arguments.read arguments with
  | error interruption => rfl
  | ok asked =>
      obtain ⟨settings, command⟩ := asked
      cases command with
      | none => rfl
      | some command =>
          apply Command.run_eq_of_not_build
          intro sourceDir target same
          exact harmless settings sourceDir target (by rw [read, same])

namespace Book

open FileSystem

variable {fs : FileSystem} {weaver : Weaver} {patterns : List Text}
  {dir output book : Text}

/-! ## Weaving, then writing -/

theorem build_of_error {failure : Failure}
    (failed : (weave fs weaver patterns dir).result = .error failure)
    (output : Text) :
    build fs weaver patterns dir output =
      (weave fs weaver patterns dir, fs) := by
  simp only [build, failed]

theorem build_of_ok (woven : (weave fs weaver patterns dir).result = .ok book)
    (output : Text) :
    build fs weaver patterns dir output =
      (⟨(weave fs weaver patterns dir).events,
        ((fs.writeWithDirs output (.text book)).1.mapError .io).map
          fun _ => book⟩,
        (fs.writeWithDirs output (.text book)).2) := by
  simp only [build, woven, write]

theorem weave_of_build
    (built : (build fs weaver patterns dir output).1.result = .ok book) :
    (weave fs weaver patterns dir).result = .ok book ∧
      (fs.writeWithDirs output (.text book)).1 = .ok () := by
  cases woven : (weave fs weaver patterns dir).result with
  | error failure =>
      rw [build_of_error woven, woven] at built
      cases built
  | ok text =>
      rw [build_of_ok woven] at built
      cases written : (fs.writeWithDirs output (.text text)).1 with
      | error error => rw [written] at built; cases built
      | ok =>
          rw [written] at built
          cases built
          exact ⟨rfl, written⟩

theorem write_of_build {failure : Failure}
    (woven : (weave fs weaver patterns dir).result = .ok book)
    (failed : (build fs weaver patterns dir output).1.result = .error failure) :
    ∃ error, (fs.writeWithDirs output (.text book)).1 = .error error ∧
      failure = .io error := by
  rw [build_of_ok woven] at failed
  cases written : (fs.writeWithDirs output (.text book)).1 with
  | error error =>
      rw [written] at failed
      cases failed
      exact ⟨error, rfl, rfl⟩
  | ok =>
      rw [written] at failed
      cases failed

/-- What a build that succeeds writes is the book. -/
theorem wrote_of_build
    (built : (build fs weaver patterns dir output).1.result = .ok book) :
    ∃ written, Wrote fs (build fs weaver patterns dir output).2 output written
      (.text book) := by
  obtain ⟨woven, done⟩ := weave_of_build built
  rw [build_of_ok woven]
  exact exists_wrote done

theorem result_check (fs : FileSystem) (weaver : Weaver) (patterns : List Text)
    (dir output : Text) :
    (check fs weaver patterns dir output).result =
      (weave fs weaver patterns dir).result.bind fun expected =>
        if fs.isFile output then
          ((fs.readText output).mapError .io).map fun current =>
            ⟨output, expected, some current⟩
        else .ok ⟨output, expected, none⟩ := by
  simp only [check, Logged.result_bind]
  cases (weave fs weaver patterns dir).result with
  | error failure => rfl
  | ok expected =>
      simp only [Except.bind]
      cases fs.isFile output with
      | false => rfl
      | true =>
          simp only [if_true, Logged.result_bind, Logged.result_ofExcept]
          cases fs.readText output <;> rfl

theorem check_of_error {failure : Failure}
    (failed : (weave fs weaver patterns dir).result = .error failure)
    (output : Text) :
    (check fs weaver patterns dir output).result = .error failure := by
  rw [result_check, failed]
  rfl

theorem check_of_readText {text : Text}
    (woven : (weave fs weaver patterns dir).result = .ok book)
    (read : fs.readText output = .ok text) :
    (check fs weaver patterns dir output).result =
      .ok ⟨output, book, some text⟩ := by
  have isFile : fs.isFile output = true :=
    isFile_iff.2 ⟨_, readText_eq_ok_iff.1 read⟩
  rw [result_check, woven, Except.bind, if_pos isFile, read]
  rfl

theorem weave_of_check {comparison : Comparison}
    (checked : (check fs weaver patterns dir output).result = .ok comparison) :
    (weave fs weaver patterns dir).result = .ok comparison.expected ∧
      ∀ text, comparison.current = some text →
        fs.readText output = .ok text := by
  rw [result_check] at checked
  cases woven : (weave fs weaver patterns dir).result with
  | error failure =>
      rw [woven] at checked
      cases checked
  | ok expected =>
      rw [woven, Except.bind] at checked
      split at checked
      · cases read : fs.readText output with
        | error error =>
            rw [read] at checked
            cases checked
        | ok text =>
            rw [read] at checked
            cases checked
            refine ⟨rfl, fun current same => ?_⟩
            cases same
            rfl
      · cases checked
        exact ⟨rfl, fun text none => by cases none⟩

/-- Weaving comes first: when it fails, so does the build, and nothing changes.
When writing fails, nothing changes but that directories above the output may be
new. A build that succeeds leaves the book in the output, which was free or a
file before, and all directories above it there, and changes nothing else. Only
a build changes anything. -/
theorem build_preserves (fs : FileSystem) (weaver : Weaver)
    (patterns : List Text) (dir output : Text) :
    let woven := (weave fs weaver patterns dir).result
    let built := (build fs weaver patterns dir output).1.result
    let after := (build fs weaver patterns dir output).2
    (∀ failure, woven = .error failure → built = .error failure ∧ after = fs) ∧
    (∀ book failure, woven = .ok book → built = .error failure →
      (∃ error, failure = .io error ∧
        (fs.writeWithDirs output (.text book)).1 = .error error) ∧
      after.cwd = fs.cwd ∧ ∀ location, Untouched fs after output location) ∧
    (∀ book, built = .ok book →
      woven = .ok book ∧ after.readText output = .ok book ∧
      (∀ above, Path.IsAbove above output → above ≠ [] →
        after.isDir above = true) ∧
      ∃ written, after.resolve false output =
        .ok (.found written (.file (.text book))) ∧
        (fs.shape? written = none ∨
          ∃ content, fs.shape? written = some (.file content)) ∧
        after.cwd = fs.cwd ∧
        ∀ location, location ≠ written → Untouched fs after output location) ∧
    (∀ environment arguments,
      (∀ settings sourceDir target,
        Arguments.read arguments ≠
          .ok (settings, some (.build sourceDir target))) →
      (Program.run fs environment arguments).2.2 = fs) := by
  intro woven built after
  refine ⟨?_, ?_, ?_, ?_⟩
  · intro failure failed
    have same := build_of_error failed output
    constructor
    · show (build fs weaver patterns dir output).1.result = _
      rw [same]
      exact failed
    · show (build fs weaver patterns dir output).2 = _
      rw [same]
  · intro book failure done failed
    obtain ⟨error, refused, rfl⟩ := write_of_build done failed
    have adds := writeWithDirs_eq_error refused
    have same : after = (fs.writeWithDirs output (.text book)).2 := by
      show (build fs weaver patterns dir output).2 = _
      rw [build_of_ok done]
    rw [← same] at adds
    exact ⟨⟨error, rfl, refused⟩, adds.cwd, adds.shape?⟩
  · intro book done
    obtain ⟨written, wrote⟩ := wrote_of_build done
    refine ⟨(weave_of_build done).1, wrote.readText_self, ?_, written,
      wrote.leads, ?_, wrote.keeps.cwd, wrote.elsewhere⟩
    · intro above higher nonempty
      exact isDir_of_isAbove higher nonempty wrote.leads
    · exact wrote.place.elim .inr fun fresh => .inl fresh.1
  · intro environment arguments harmless
    exact Program.run_eq_of_not_build harmless fs environment

/-- A tree with two directories of sources, one of which includes a file that is
not there, and an older book. A book is built from the other below two
directories that are missing, and in vain where the output would have to be a
directory. -/
theorem build_preserves_example :
    let source : Text → Node := fun text => .file (.text text)
    let fs : FileSystem := ⟨.dir [
      ("src".toList, .dir [("a.kt".toList, source "/*-\nhi\n-*/\n".toList)]),
      ("bad".toList, .dir
        [("a.kt".toList, source "/*-\nhi\n-*/\n//#include \"gone\"\n".toList)]),
      ("old.md".toList, source "old\n".toList)], []⟩
    let build := build fs .default ["*.kt".toList]
    ((build "bad".toList "old.md".toList).1.result =
        .error (.unresolvedInclude "gone".toList IoError.notFound.message.toList) ∧
      (build "bad".toList "old.md".toList).2 = fs) ∧
    ((build "src".toList "new/x/.".toList).1.result = .error (.io .notFound) ∧
      ∀ location, Untouched fs (build "src".toList "new/x/.".toList).2
        "new/x/.".toList location) ∧
    ((build "src".toList "new/deep/book.md".toList).1.result =
      .ok "hi\n\n".toList ∧
      (build "src".toList "new/deep/book.md".toList).2.readText
        "new/deep/book.md".toList =
        .ok "hi\n\n".toList ∧
      (build "src".toList "new/deep/book.md".toList).2.isDir
        "new".toList = true) ∧
    (Program.run fs ⟨true, none⟩
      ["check".toList, "src".toList, "old.md".toList]).2.2 = fs := by
  intro source fs build
  have unwoven : (weave fs .default ["*.kt".toList] "bad".toList).result =
      .error (.unresolvedInclude "gone".toList IoError.notFound.message.toList) := by
    decide +kernel
  have woven : (weave fs .default ["*.kt".toList] "src".toList).result =
      .ok "hi\n\n".toList := by
    decide +kernel
  have refused : (build "src".toList "new/x/.".toList).1.result =
      .error (.io .notFound) := by
    decide +kernel
  have done : (build "src".toList "new/deep/book.md".toList).1.result =
      .ok "hi\n\n".toList := by
    decide +kernel
  have higher : Path.IsAbove "new".toList "new/deep/book.md".toList :=
    .further (by decide +kernel : _ = some "new/deep".toList)
      (.parent (by decide +kernel))
  have checking : ∀ settings sourceDir target,
      Arguments.read ["check".toList, "src".toList, "old.md".toList] ≠
        .ok (settings, some (.build sourceDir target)) := by
    have read : Arguments.read ["check".toList, "src".toList, "old.md".toList] =
        .ok (⟨none, false, false⟩,
          some (.check "src".toList "old.md".toList false)) := by
      decide +kernel
    intro settings sourceDir target same
    rw [read] at same
    cases same
  have failing := build_preserves fs .default ["*.kt".toList] "bad".toList
    "old.md".toList
  have partly := build_preserves fs .default ["*.kt".toList] "src".toList
    "new/x/.".toList
  have whole := build_preserves fs .default ["*.kt".toList] "src".toList
    "new/deep/book.md".toList
  obtain ⟨-, text, above, -⟩ := whole.2.2.1 _ done
  exact ⟨failing.1 _ unwoven, ⟨refused, (partly.2.1 _ _ woven refused).2.2⟩,
    ⟨done, text, above _ higher (by simp)⟩, whole.2.2.2 _ _ checking⟩

end Book

end LiterateBook
