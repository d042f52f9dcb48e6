import LiterateBook.Proofs.ConfigSettings
import LiterateBook.Proofs.MetLocations

/-!
# Configuration files

The configuration of a root is the first candidate that is a file, and no other
candidate makes up for a fault in it. What is found depends on nothing but the
locations that the search comes upon up to that file; a candidate behind it
matters only where a symbolic link leads to it.
-/

namespace LiterateBook

/-- A path leads to a file, through symbolic links or not. -/
def FileSystem.LeadsToFile (fs : FileSystem) (path : Text) : Prop :=
  ∃ location content, fs.resolve false path =
    .ok (.found location (.file content))

namespace Config

variable {fs : FileSystem} {root path : Text}

/-! ## The search -/

/-- A candidate that comes up in the search: none before it leads to a file. -/
def ComesUp (fs : FileSystem) (root path : Text) : Prop :=
  ∃ before after, candidates.map (Path.join root) = before ++ path :: after ∧
    ∀ earlier ∈ before, ¬ fs.LeadsToFile earlier

/-- The candidate that ends the search. -/
structure IsChosen (fs : FileSystem) (root path : Text) : Prop where
  comesUp : ComesUp fs root path
  leads : fs.LeadsToFile path

theorem isFile_iff_leadsToFile :
    fs.isFile path = true ↔ fs.LeadsToFile path := by
  rw [FileSystem.isFile_iff]
  simp only [FileSystem.node?_eq_ok_iff]
  exact exists_comm

theorem path?_eq_some_iff :
    path? fs root = some path ↔ IsChosen fs root path := by
  rw [path?, List.find?_eq_some_iff_append]
  constructor
  · rintro ⟨isFile, before, after, split, missed⟩
    refine ⟨⟨before, after, split, fun earlier member leads => ?_⟩,
      isFile_iff_leadsToFile.1 isFile⟩
    have answer := missed earlier member
    rw [isFile_iff_leadsToFile.2 leads] at answer
    cases answer
  · rintro ⟨⟨before, after, split, missed⟩, leads⟩
    refine ⟨isFile_iff_leadsToFile.2 leads, before, after, split,
      fun earlier member => ?_⟩
    rw [Bool.not_eq_true', Bool.eq_false_iff]
    exact fun isFile => missed earlier member (isFile_iff_leadsToFile.1 isFile)

theorem path?_eq_none_iff :
    path? fs root = none ↔
      ∀ candidate ∈ candidates,
        ¬ fs.LeadsToFile (Path.join root candidate) := by
  rw [path?, List.find?_eq_none, List.forall_mem_map]
  exact forall₂_congr fun candidate _ => not_congr isFile_iff_leadsToFile

theorem IsChosen.unique {other : Text} (chosen : IsChosen fs root path)
    (again : IsChosen fs root other) : path = other :=
  Option.some.inj
    ((path?_eq_some_iff.2 chosen).symm.trans (path?_eq_some_iff.2 again))

/-! ## Loading -/

/-- What loading the configuration of a root answers. -/
inductive Loads (fs : FileSystem) (root : Text) :
    Except Failure (Option Config) → Prop where
  | missing
      (nowhere : ∀ candidate ∈ candidates,
        ¬ fs.LeadsToFile (Path.join root candidate)) :
      Loads fs root (.ok none)
  | unread {path : Text} {error : IoError} (chosen : IsChosen fs root path)
      (unread : fs.readText path = .error error) :
      Loads fs root (.error (.io error))
  | malformed {path document : Text} (chosen : IsChosen fs root path)
      (read : fs.readText path = .ok document)
      (undecoded : ofDocument? document = none) :
      Loads fs root (.error .configParse)
  | decoded {path document : Text} {config : Config}
      (chosen : IsChosen fs root path) (read : fs.readText path = .ok document)
      (decoded : ofDocument? document = some config) :
      Loads fs root (.ok (some config))

/-- The file that ends the search is reported and read, and its faults are
answered with. -/
theorem load_of_path? (found : path? fs root = some path) :
    load fs root =
      ⟨[loadingEvent path], ((fs.readText path).mapError .io).bind fun document =>
        match ofDocument? document with
        | some config => .ok (some config)
        | none => .error .configParse⟩ := by
  simp only [load, found, loadFile]
  cases fs.readText path with
  | error error => rfl
  | ok document =>
      cases decoded : ofDocument? document <;>
        simp [decoded, bind, pure, Logged.andThen, Logged.report,
          Logged.ofExcept, Except.mapError, Except.bind]

theorem Loads.result_eq {result : Except Failure (Option Config)}
    (loads : Loads fs root result) :
    (load fs root).result = result := by
  cases loads with
  | missing nowhere =>
      rw [load, path?_eq_none_iff.2 nowhere]
      rfl
  | unread chosen unread =>
      rw [load_of_path? (path?_eq_some_iff.2 chosen), unread]
      rfl
  | malformed chosen read undecoded =>
      rw [load_of_path? (path?_eq_some_iff.2 chosen), read]
      simp only [Except.mapError, Except.bind, undecoded]
  | decoded chosen read decoded =>
      rw [load_of_path? (path?_eq_some_iff.2 chosen), read]
      simp only [Except.mapError, Except.bind, decoded]

theorem exists_loads (fs : FileSystem) (root : Text) :
    ∃ result, Loads fs root result := by
  cases found : path? fs root with
  | none => exact ⟨_, .missing (path?_eq_none_iff.1 found)⟩
  | some path =>
      have chosen := path?_eq_some_iff.1 found
      cases read : fs.readText path with
      | error error => exact ⟨_, .unread chosen read⟩
      | ok document =>
          cases decoded : ofDocument? document with
          | none => exact ⟨_, .malformed chosen read decoded⟩
          | some config => exact ⟨_, .decoded chosen read decoded⟩

theorem load_eq_iff {result : Except Failure (Option Config)} :
    (load fs root).result = result ↔ Loads fs root result := by
  constructor
  · rintro rfl
    obtain ⟨result, loads⟩ := exists_loads fs root
    rw [loads.result_eq]
    exact loads
  · exact Loads.result_eq

theorem result_loadOrDefault (fs : FileSystem) (root : Text) :
    (loadOrDefault fs root).result =
      (load fs root).result.map (·.getD default) := by
  rw [loadOrDefault, Logged.result_bind]
  cases (load fs root).result <;> rfl

/-! ## What loading depends on -/

/-- A changed file system in which the search for a configuration comes upon the
same. -/
structure SameSearch (root : Text) (fs changed : FileSystem) : Prop where
  cwd : changed.cwd = fs.cwd
  agree : ∀ path location, ComesUp fs root path → fs.ComesUpon path location →
    changed.shape? location = fs.shape? location

namespace SameSearch

variable {changed : FileSystem}

theorem leadsToFile_iff (same : SameSearch root fs changed)
    (comesUp : ComesUp fs root path) :
    changed.LeadsToFile path ↔ fs.LeadsToFile path := by
  have asked := FileSystem.ask_of_agree same.cwd fun location =>
    same.agree path location comesUp
  rw [← isFile_iff_leadsToFile, ← isFile_iff_leadsToFile, asked.1]

theorem readText_eq (same : SameSearch root fs changed)
    (comesUp : ComesUp fs root path) :
    changed.readText path = fs.readText path :=
  (FileSystem.ask_of_agree same.cwd fun location =>
    same.agree path location comesUp).2

/-- Whatever stands before a place up to which no candidate is a file has come
up. -/
theorem missed {before after : List Text} (same : SameSearch root fs changed)
    (split : candidates.map (Path.join root) = before ++ after)
    (missed : ∀ earlier ∈ before, ¬ fs.LeadsToFile earlier) :
    ∀ earlier ∈ before, ¬ changed.LeadsToFile earlier := by
  intro earlier member leads
  obtain ⟨first, second, rfl⟩ := List.append_of_mem member
  have comesUp : ComesUp fs root earlier := by
    refine ⟨first, second ++ after, ?_, fun other among => ?_⟩
    · rw [split, List.append_assoc, List.cons_append]
    · exact missed other (List.mem_append_left _ among)
  exact missed earlier member ((same.leadsToFile_iff comesUp).1 leads)

theorem path?_eq (same : SameSearch root fs changed) :
    path? changed root = path? fs root := by
  cases found : path? fs root with
  | none =>
      have nowhere : ∀ path ∈ candidates.map (Path.join root),
          ¬ fs.LeadsToFile path :=
        List.forall_mem_map.2 (path?_eq_none_iff.1 found)
      have still := same.missed (List.append_nil _).symm nowhere
      exact path?_eq_none_iff.2 fun candidate member =>
        still _ (List.mem_map_of_mem member)
  | some path =>
      have chosen := path?_eq_some_iff.1 found
      obtain ⟨before, after, split, missed⟩ := chosen.comesUp
      exact path?_eq_some_iff.2
        ⟨⟨before, after, split, same.missed split missed⟩,
        (same.leadsToFile_iff chosen.comesUp).2 chosen.leads⟩

theorem load_eq (same : SameSearch root fs changed) :
    load changed root = load fs root := by
  rw [load, load, same.path?_eq]
  cases found : path? fs root with
  | none => rfl
  | some path =>
      have read := same.readText_eq (path?_eq_some_iff.1 found).comesUp
      simp only [loadFile, read]

end SameSearch

/-- The configuration of a root is read from the candidate that ends the search,
and from no other; its faults are answered with, and the default takes its place
only where there is none. The answer stays the same whatever is changed away
from the locations that the search comes upon. The document in it, when its
sections are tables, is decoded field by field, and each setting depends on its
own field alone. -/
theorem load_outcome (fs : FileSystem) (root : Text) :
    (∀ result, (load fs root).result = result ↔ Loads fs root result) ∧
    ((load fs root).result = .ok none ↔
      ∀ candidate ∈ candidates, ¬ fs.LeadsToFile (Path.join root candidate)) ∧
    (loadOrDefault fs root).result =
      (load fs root).result.map (·.getD default) ∧
    (∀ path, IsChosen fs root path →
      (load fs root).events = [loadingEvent path] ∧
        ∀ other, IsChosen fs root other → other = path) ∧
    (∀ changed, SameSearch root fs changed →
      load changed root = load fs root ∧
        loadOrDefault changed root = loadOrDefault fs root) ∧
    ∀ document entries, Toml.entries? document = some entries →
      SectionsAreTables entries →
      (∀ config, ofDocument? document = some config ↔ Settles entries config) ∧
      ((∃ config, ofDocument? document = some config) ↔
        (∀ value, fieldOf? entries "render" "fence_language" = some value →
          ∃ text, IsText value text) ∧
        (∀ value, fieldOf? entries "parse" "blank_lines" = some value →
          ∃ policy, IsPolicy value policy) ∧
        (∀ value, fieldOf? entries "sources" "patterns" = some value →
          ∃ texts, AreTexts value texts) ∧
        Toml.entriesReadable entries = true) ∧
      ∀ other others config changed, Toml.entries? other = some others →
        SectionsAreTables others →
        ofDocument? document = some config → ofDocument? other = some changed →
        (fieldOf? others "render" "fence_language" =
          fieldOf? entries "render" "fence_language" →
          changed.options = config.options) ∧
        (fieldOf? others "parse" "blank_lines" =
          fieldOf? entries "parse" "blank_lines" →
          changed.blankPolicy = config.blankPolicy) ∧
        (fieldOf? others "sources" "patterns" =
          fieldOf? entries "sources" "patterns" →
          changed.patterns = config.patterns) := by
  refine ⟨fun result => load_eq_iff, ?_, result_loadOrDefault fs root,
    fun path chosen => ⟨?_, ?_⟩,
    fun changed same =>
      ⟨same.load_eq, ?_⟩, fun document entries read tables => ?_⟩
  · rw [load_eq_iff]
    constructor
    · rintro (nowhere | _)
      exact nowhere
    · exact .missing
  · rw [load_of_path? (path?_eq_some_iff.2 chosen)]
  · exact fun other again => again.unique chosen
  · rw [loadOrDefault, loadOrDefault, same.load_eq]
  · have settles (config : Config) :
        ofDocument? document = some config ↔ Settles entries config := by
      rw [ofDocument?, read]
      exact ofEntries?_eq_some_iff tables
    refine ⟨settles, ?_, ?_⟩
    · simp only [settles]
      exact exists_settles_iff
    · intro other others config changed readOther tablesOther decoded
        decodedOther
      rw [ofDocument?, readOther] at decodedOther
      exact ((settles config).1 decoded).agree
        ((ofEntries?_eq_some_iff tablesOther).1 decodedOther)

/-- A directory in the place of the first candidate, and a last candidate that
makes no difference, whether it is there or not. -/
theorem load_outcome_example :
    let document : Text := "[render]\nfence_language = \"a\"\n".toList
    let others : List (Text × Node) :=
      [("litmd.toml".toList, .dir []), (".litmd.toml".toList, .file (.text document))]
    let config : Node := .dir [("litmd.toml".toList, .file (.text "?".toList))]
    let fs : FileSystem := ⟨.dir (others ++ [(".config".toList, config)]), []⟩
    let entries : Toml.Entries := [("render".toList,
      .table .header [("fence_language".toList, .scalar (.string ['a']))])]
    IsChosen fs ['.'] "./.litmd.toml".toList ∧
      SameSearch ['.'] fs ⟨.dir others, []⟩ ∧
      Toml.entries? document = some entries ∧ SectionsAreTables entries ∧
      (load fs ['.']).result = .ok (some ⟨⟨['a']⟩, .drop, ["*.kt".toList]⟩) ∧
      load ⟨.dir others, []⟩ ['.'] = load fs ['.'] := by
  intro document others config fs entries
  have read : Toml.entries? document = some entries := by with_unfolding_all rfl
  have paths : candidates.map (Path.join ['.']) =
      ["./litmd.toml".toList, "./.litmd.toml".toList,
        "./.config/litmd.toml".toList] := rfl
  have tables : SectionsAreTables entries := by
    intro name value member isSection
    cases List.mem_singleton.1 member
    exact ⟨_, _, rfl⟩
  have chosen : IsChosen fs ['.'] "./.litmd.toml".toList := by
    refine ⟨⟨["./litmd.toml".toList], _, paths, ?_⟩, ?_⟩
    · intro earlier member
      rw [List.mem_singleton.1 member, ← isFile_iff_leadsToFile]
      decide
    · exact isFile_iff_leadsToFile.1 rfl
  have met {name : Text} {location : Location}
      (proper : ∀ target, fs.shape? [name] ≠ some (.link target))
      (meets : FileSystem.Meets fs.root FileSystem.maxLinks []
        [.stay, .enter name] location) :
      location = [] ∨ location = [name] := by
    cases meets with
    | here => exact .inl rfl
    | stay _ _ later =>
        cases later with
        | here => exact .inl rfl
        | stay _ idle => rcases idle with idle | idle <;> cases idle
        | name => exact .inr rfl
        | enter _ _ _ _ last =>
            cases last
            exact .inr rfl
        | follow _ _ standing => exact absurd standing (proper _)
  have same : SameSearch ['.'] fs ⟨.dir others, []⟩ := by
    refine ⟨rfl, ?_⟩
    rintro path location ⟨before, after, split, missed⟩ meets
    rw [paths] at split
    rcases before with _ | ⟨first, _ | ⟨second, rest⟩⟩
    · cases split
      rcases met (fun _ linked => by cases linked) meets with
        rfl | rfl <;> rfl
    · cases split
      rcases met (fun _ linked => by cases linked) meets with
        rfl | rfl <;> rfl
    · simp only [List.cons_append, List.cons.injEq] at split
      obtain ⟨rfl, rfl, -⟩ := split
      exact absurd chosen.leads (missed _ (by simp))
  obtain ⟨loads, -, -, -, unchanged, decoding⟩ := load_outcome fs ['.']
  obtain ⟨settles, -, -⟩ := decoding document entries read tables
  have decoded := (settles ⟨⟨['a']⟩, .drop, ["*.kt".toList]⟩).2
    ⟨.string, rfl, rfl, rfl⟩
  exact ⟨chosen, same, read, tables, (loads _).2 (.decoded chosen rfl decoded),
    (unchanged _ same).1⟩

/-- A symbolic link may lead to a later candidate, which then is what is read. A
number that cannot be stored leaves a document without settings, although no
setting has to do with it. -/
theorem load_outcome_limits :
    let fs (language : Char) : FileSystem := ⟨.dir [
      ("litmd.toml".toList, .link ".litmd.toml".toList),
      (".litmd.toml".toList, .file (.text
        ("[render]\nfence_language = \"".toList ++ language :: "\"\n".toList)))], []⟩
    let document : Text := "x = 1e999\n".toList
    (path? (fs 'a') ['.'] = some "./litmd.toml".toList ∧
      path? (fs 'b') ['.'] = some "./litmd.toml".toList ∧
      (load (fs 'a') ['.']).result ≠ (load (fs 'b') ['.']).result) ∧
    ∃ entries, Toml.entries? document = some entries ∧
      SectionsAreTables entries ∧
      fieldOf? entries "render" "fence_language" = none ∧
      fieldOf? entries "parse" "blank_lines" = none ∧
      fieldOf? entries "sources" "patterns" = none ∧
        ofDocument? document = none := by
  intro fs document
  have read : Toml.entries? document =
      some [("x".toList, .scalar (.float false))] := by
    with_unfolding_all rfl
  refine ⟨⟨rfl, rfl, by decide +kernel⟩, _, read, ?_, rfl, rfl,
    rfl, by decide +kernel⟩
  intro name value member isSection
  cases List.mem_singleton.1 member
  exact absurd isSection (by decide)

end Config

end LiterateBook
