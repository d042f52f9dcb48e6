import LiterateBook.Book
import Mathlib.Data.List.Sort

/-!
# The sources of a directory

A list of patterns is read pattern by pattern, up to the first that cannot be
read. The sources of a directory are its visible files whose names some pattern
matches, in the order of the bytes of their names. They depend on what the
directory holds alone: a walk may come upon the entries in any order.
-/

namespace LiterateBook

/-! ## The order of names -/

namespace Text

theorem bytes_injective {first second : Text}
    (same : first.bytes = second.bytes) :
    first = second := by
  apply String.ofList_injective
  rw [← String.toByteArray_inj, String.toByteArray_ofList, String.toByteArray_ofList]
  exact congrArg List.toByteArray same

theorem bytesLe_iff {first second : Text} :
    bytesLe first second = true ↔ first.bytes ≤ second.bytes :=
  decide_eq_true_iff

theorem bytes_lt_of_bytesLe {first second : Text}
    (ordered : bytesLe first second = true) (differ : first ≠ second) :
    first.bytes < second.bytes := by
  apply List.not_le.1
  intro backwards
  exact differ (bytes_injective (List.le_antisymm (bytesLe_iff.1 ordered) backwards))

/-- Names in ascending order of their bytes. -/
def Ascending (names : List Text) : Prop :=
  names.Pairwise fun first second => first.bytes < second.bytes

theorem Ascending.nodup {names : List Text} (ascending : Ascending names) :
    names.Nodup := by
  apply List.Pairwise.imp _ ascending
  intro first second less same
  rw [same] at less
  exact List.lt_irrefl _ less

theorem Ascending.unique {names others : List Text}
    (ascending : Ascending names) (alsoAscending : Ascending others)
    (same : ∀ name, name ∈ names ↔ name ∈ others) :
    names = others := by
  apply List.Perm.eq_of_pairwise _ ascending alsoAscending
  · exact (List.perm_ext_iff_of_nodup ascending.nodup alsoAscending.nodup).2
      same
  · intro first second _ _ less greater
    exact absurd (List.lt_trans less greater) (List.lt_irrefl _)

/-- Sorting what has different names puts the names in ascending order. -/
theorem ascending_mergeSort {α : Type} (name : α → Text) {items : List α}
    (distinct : (items.map name).Nodup) :
    Ascending
      ((items.mergeSort fun first second => bytesLe (name first) (name second)).map
      name) := by
  have sorted : (items.mergeSort fun first second => bytesLe (name first)
      (name second)).Pairwise
      fun first second => bytesLe (name first) (name second) = true := by
    apply List.pairwise_mergeSort
    · intro first second third before after
      exact bytesLe_iff.2
        (List.le_trans (bytesLe_iff.1 before) (bytesLe_iff.1 after))
    · intro first second
      simp only [Bool.or_eq_true, bytesLe_iff]
      exact List.le_total _ _
  have apart := ((List.mergeSort_perm items fun first second =>
    bytesLe (name first) (name second)).map name).nodup_iff.2 distinct
  rw [List.Nodup, List.pairwise_map] at apart
  rw [Ascending, List.pairwise_map]
  apply (sorted.and apart).imp
  intro first second both
  exact bytes_lt_of_bytesLe both.1 both.2

end Text

theorem nodup_eraseDups (names : List Text) : names.eraseDups.Nodup := by
  match names with
  | [] => exact List.nodup_nil
  | name :: rest =>
      rw [List.eraseDups_cons, List.nodup_cons]
      constructor
      · simp
      · exact nodup_eraseDups _
termination_by names.length
decreasing_by exact Nat.lt_succ_of_le (List.length_filter_le _ _)

/-! ## Patterns -/

namespace Glob

variable {patterns : List Text} {globs : List Glob}

/-- The globs of patterns, in order. -/
def AreOf (globs : List Glob) (patterns : List Text) : Prop :=
  patterns.Forall₂ (fun pattern glob => ofPattern pattern = .ok glob) globs

/-- Some pattern stands for a glob that matches a name. -/
def Selects (patterns : List Text) (name : Text) : Prop :=
  ∃ pattern ∈ patterns, ∃ glob, ofPattern pattern = .ok glob ∧
    glob.matchesName name = true

theorem readAll_cons (pattern : Text) (rest : List Text) :
    readAll (pattern :: rest) =
      ((ofPattern pattern).mapError fun error =>
        .invalidPattern pattern (error.message pattern)).bind fun glob =>
          (readAll rest).bind fun globs => .ok (glob :: globs) := by
  unfold readAll
  rw [List.mapM_cons]
  rfl

theorem readAll_of_areOf (read : AreOf globs patterns) :
    readAll patterns = .ok globs := by
  induction read with
  | nil => rfl
  | cons first _ ih =>
      rw [readAll_cons, first, ih]
      rfl

/-- The first pattern that cannot be read is the failure. -/
theorem readAll_of_faulty {before after : List Text} {pattern : Text}
    {error : PatternError}
    (readable : ∀ earlier ∈ before, ∃ glob, ofPattern earlier = .ok glob)
    (faulty : ofPattern pattern = .error error) :
    readAll (before ++ pattern :: after) =
      .error (.invalidPattern pattern (error.message pattern)) := by
  induction before with
  | nil =>
      rw [List.nil_append, readAll_cons, faulty]
      rfl
  | cons earlier rest ih =>
      obtain ⟨⟨glob, first⟩, others⟩ := List.forall_mem_cons.1 readable
      rw [List.cons_append, readAll_cons, first, ih others]
      rfl

theorem anyMatchesName_iff (read : AreOf globs patterns) (name : Text) :
    anyMatchesName globs name = true ↔ Selects patterns name := by
  unfold anyMatchesName Selects
  induction read with
  | nil => simp
  | cons first _ ih => simp [first, ih]

theorem result_ofPatterns (patterns : List Text) :
    (ofPatterns patterns).result = (readAll patterns).bind fun globs =>
      match fault? globs with
      | some reason =>
        .error (.invalidPattern (", ".toList.intercalate patterns) reason)
      | none => .ok globs := by
  exact Logged.result_bind _ _

/-- The globs of patterns that can be read and be made ready together. -/
structure Ready (patterns : List Text) (globs : List Glob) : Prop where
  read : AreOf globs patterns
  sound : fault? globs = none

theorem Ready.result_ofPatterns (ready : Ready patterns globs) :
    (ofPatterns patterns).result = .ok globs := by
  rw [Glob.result_ofPatterns, readAll_of_areOf ready.read]
  simp only [Except.bind, ready.sound]

end Glob

/-! ## Listings -/

namespace Book

variable {fs : FileSystem} {patterns : List Text} {globs : List Glob}
  {dir : Text} {entries : List (Text × Node)}

/-- The names of the sources in a directory: of its files, but for hidden ones,
those whose names some pattern selects, each once and in ascending order. -/
structure Listing (patterns : List Text) (entries : List (Text × Node))
    (names : List Text) :
    Prop where
  ascending : Text.Ascending names
  mem_iff : ∀ name, name ∈ names ↔
    (∃ content, entries.lookup name = some (.file content)) ∧
      name.head? ≠ some '.' ∧
      Glob.Selects patterns name

theorem Listing.unique {names others : List Text}
    (listing : Listing patterns entries names)
    (other : Listing patterns entries others) : names = others :=
  listing.ascending.unique other.ascending fun name =>
    (listing.mem_iff name).trans (other.mem_iff name).symm

/-- Directories with the same files that can be sources have the same
sources. -/
theorem Listing.of_forall {names : List Text} {others : List (Text × Node)}
    (listing : Listing patterns entries names)
    (same : ∀ name, name.head? ≠ some '.' → Glob.Selects patterns name →
      ((∃ content, entries.lookup name = some (.file content)) ↔
        ∃ content, others.lookup name = some (.file content))) :
    Listing patterns others names := by
  refine ⟨listing.ascending, fun name => ?_⟩
  rw [listing.mem_iff]
  constructor
  · intro ⟨isFile, visible, selected⟩
    exact ⟨(same name visible selected).1 isFile, visible, selected⟩
  · intro ⟨isFile, visible, selected⟩
    exact ⟨(same name visible selected).2 isFile, visible, selected⟩

theorem isFile_entryOf (dir : Text) (entries : List (Text × Node))
    (name : Text) :
    (entryOf dir entries name).isFile = true ↔
      ∃ content, entries.lookup name = some (.file content) := by
  unfold entryOf
  cases entries.lookup name with
  | none => simp
  | some node => cases node <;> simp

theorem mem_map_fst_of_lookup {name : Text} {node : Node}
    (found : entries.lookup name = some node) : name ∈ entries.map (·.1) := by
  obtain ⟨before, after, split, -⟩ := List.lookup_eq_some_iff.1 found
  rw [split]
  simp

/-- In whatever order a walk comes upon the entries of a directory, its sources
are listed. -/
theorem exists_listing {walked : List Entry} (read : Glob.AreOf globs patterns)
    (order : walked.Perm ((entries.map (·.1)).eraseDups.map (entryOf dir entries))) :
    ∃ names, Listing patterns entries names ∧
      sourcesOf globs (walked.filter (!·.isHidden)) =
        names.map (Path.join dir) := by
  let chosen := (walked.filter (!·.isHidden)).filter fun entry =>
    entry.isFile && Glob.anyMatchesName globs entry.name
  let sorted := chosen.mergeSort fun first second =>
    Text.bytesLe first.name second.name
  have mem_sorted (entry : Entry) : entry ∈ sorted ↔
      (∃ name ∈ entries.map (·.1), entryOf dir entries name = entry) ∧
        entry.isHidden = false ∧
        entry.isFile = true ∧ Glob.Selects patterns entry.name := by
    rw [List.mem_mergeSort, List.mem_filter, List.mem_filter, order.mem_iff,
      List.mem_map]
    simp only [List.mem_eraseDups, Bool.and_eq_true, Bool.not_eq_true',
      Glob.anyMatchesName_iff read, and_assoc]
  refine ⟨sorted.map (·.name), ⟨?_, ?_⟩, ?_⟩
  · apply Text.ascending_mergeSort
    have named := order.map (·.name)
    rw [List.map_map] at named
    have distinct : (walked.map (·.name)).Nodup :=
      named.nodup_iff.2 ((List.map_id _).symm ▸ nodup_eraseDups _)
    exact distinct.sublist
      ((List.filter_sublist.trans List.filter_sublist).map _)
  · intro name
    rw [List.mem_map]
    constructor
    · rintro ⟨entry, member, rfl⟩
      obtain ⟨⟨name, -, rfl⟩, visible, isFile, selected⟩ :=
        (mem_sorted entry).1 member
      exact ⟨(isFile_entryOf dir entries name).1 isFile,
        by simpa [entryOf] using visible, selected⟩
    · rintro ⟨⟨content, found⟩, visible, selected⟩
      refine ⟨entryOf dir entries name,
        (mem_sorted _).2 ⟨⟨name, ?_, rfl⟩, ?_, ?_, selected⟩, rfl⟩
      · exact mem_map_fst_of_lookup found
      · simpa [entryOf] using visible
      · exact (isFile_entryOf dir entries name).2 ⟨content, found⟩
  · show sorted.map (·.path) = _
    rw [List.map_map]
    apply List.map_congr_left
    intro entry member
    obtain ⟨⟨name, -, rfl⟩, -⟩ := (mem_sorted entry).1 member
    rfl

/-! ## Sources -/

/-- The paths of the sources at a path that leads to a node. A file is its own
source when its name is selected. -/
def Lists (patterns : List Text) (dir : Text) (paths : List Text) : Node → Prop
  | .dir entries =>
    ∃ names, Listing patterns entries names ∧ paths = names.map (Path.join dir)
  | .file _ =>
    (Glob.Selects patterns (Path.lastComponent dir) ∧ paths = [dir]) ∨
      (¬ Glob.Selects patterns (Path.lastComponent dir) ∧ paths = [])
  | .link _ => paths = []

theorem Lists.unique {paths others : List Text} {node : Node}
    (lists : Lists patterns dir paths node)
    (other : Lists patterns dir others node) : paths = others := by
  cases node with
  | dir entries =>
      obtain ⟨names, listing, rfl⟩ := lists
      obtain ⟨same, alsoListing, rfl⟩ := other
      rw [listing.unique alsoListing]
  | file content =>
      rcases lists with ⟨selected, rfl⟩ | ⟨unselected, rfl⟩
      · rcases other with ⟨-, rfl⟩ | ⟨unselected, -⟩
        · rfl
        · exact absurd selected unselected
      · rcases other with ⟨selected, -⟩ | ⟨-, rfl⟩
        · exact absurd selected unselected
        · rfl
  | link target => exact lists.trans other.symm

theorem result_found (fs : FileSystem) (dir : Text) :
    (found fs dir).result =
      ((walk fs dir).mapError (.sourceWalk dir)).map
        (·.filter (!·.isHidden)) := by
  unfold found
  simp only [Logged.result_bind, Logged.result_report, Logged.result_ofExcept]
  cases walk fs dir <;> rfl

theorem result_sources (fs : FileSystem) (patterns : List Text) (dir : Text) :
    (sources fs patterns dir).result =
      (Glob.ofPatterns patterns).result.bind fun globs =>
      (found fs dir).result.map (sourcesOf globs) := by
  simp only [sources, Logged.result_bind, Logged.result_pure]
  cases (Glob.ofPatterns patterns).result with
  | error failure => rfl
  | ok globs => cases (found fs dir).result <;> rfl

theorem exists_walk {node : Node} (asked : fs.node? dir = .ok node) :
    ∃ yielded, walk fs dir = .ok yielded := by
  rw [walk]
  split
  · exact ⟨[], rfl⟩
  · rw [asked]
    cases node <;> exact ⟨_, rfl⟩

/-- What a walk comes upon is listed, in whatever order it comes. -/
theorem lists_sourcesOf {walked yielded : List Entry} {node : Node}
    (read : Glob.AreOf globs patterns) (named : isInput dir = false)
    (asked : fs.node? dir = .ok node) (walking : walk fs dir = .ok yielded)
    (order : walked.Perm yielded) :
    Lists patterns dir (sourcesOf globs (walked.filter (!·.isHidden)))
      node := by
  rw [walk, if_neg (Bool.not_eq_true _ ▸ named), asked] at walking
  cases node with
  | dir entries =>
      cases walking
      exact exists_listing read order
  | file content =>
      cases walking
      rw [List.perm_singleton.1 order]
      by_cases selected : Glob.Selects patterns (Path.lastComponent dir)
      · refine .inl ⟨selected, ?_⟩
        simp [sourcesOf, (Glob.anyMatchesName_iff read _).2 selected]
      · refine .inr ⟨selected, ?_⟩
        rw [← Glob.anyMatchesName_iff read] at selected
        simp [sourcesOf, selected]
  | link target =>
      cases walking
      rw [order.eq_nil]
      show sourcesOf globs [] = []
      simp [sourcesOf]

theorem exists_lists {node : Node} (ready : Glob.Ready patterns globs)
    (named : isInput dir = false) (asked : fs.node? dir = .ok node) :
    ∃ paths, Lists patterns dir paths node ∧
      (sources fs patterns dir).result = .ok paths := by
  obtain ⟨yielded, walking⟩ := exists_walk asked
  refine ⟨_, lists_sourcesOf ready.read named asked walking (.refl yielded), ?_⟩
  rw [result_sources, ready.result_ofPatterns, result_found, walking]
  rfl

theorem Lists.result_sources {paths : List Text} {node : Node}
    (lists : Lists patterns dir paths node) (ready : Glob.Ready patterns globs)
    (named : isInput dir = false) (asked : fs.node? dir = .ok node) :
    (sources fs patterns dir).result = .ok paths := by
  obtain ⟨others, alsoLists, answer⟩ := exists_lists ready named asked
  rw [answer, lists.unique alsoLists]

end Book

end LiterateBook
