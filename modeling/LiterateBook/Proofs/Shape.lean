import LiterateBook.FileSystem.Node

/-!
# What stands where

A tree is compared with another by what stands at each location: a file with its
content, a directory, or a symbolic link with its target. What a directory holds
is what stands at the locations below it. Putting a file or an empty directory
changes what stands at that location and nowhere else.
-/

namespace LiterateBook

namespace Node

/-- What stands at a location, without what a directory holds. -/
inductive Shape where
  | file (content : Content)
  | dir
  | link (target : Text)
  deriving DecidableEq

/-- The outside of a node. -/
def shape : Node → Shape
  | .file content => .file content
  | .dir _ => .dir
  | .link target => .link target

@[simp] theorem shape_file (content : Content) :
    (Node.file content).shape = .file content := rfl

@[simp] theorem shape_dir (entries : List (Text × Node)) :
    (Node.dir entries).shape = .dir := rfl

@[simp] theorem shape_link (target : Text) :
    (Node.link target).shape = .link target := rfl

theorem shape_eq_dir_iff {node : Node} :
    node.shape = .dir ↔ ∃ entries, node = .dir entries := by
  cases node <;> simp

theorem shape_eq_file_iff {node : Node} {content : Content} :
    node.shape = .file content ↔ node = .file content := by
  cases node <;> simp

theorem shape_eq_link_iff {node : Node} {target : Text} :
    node.shape = .link target ↔ node = .link target := by
  cases node <;> simp

/-- What stands at a location. -/
def shape? (root : Node) (location : Location) : Option Shape :=
  (root.find? location).map shape

variable {root node : Node} {location : Location} {entries : List (Text × Node)}

theorem shape?_of_find? (found : root.find? location = some node) :
    root.shape? location = some node.shape := by
  rw [shape?, found, Option.map_some]

theorem shape?_eq_some_iff {shape : Shape} :
    root.shape? location = some shape ↔
      ∃ node, root.find? location = some node ∧
      node.shape = shape :=
  Option.map_eq_some_iff

theorem shape?_eq_dir_iff :
    root.shape? location = some .dir ↔
      ∃ entries, root.find? location = some (.dir entries) := by
  rw [shape?_eq_some_iff]
  constructor
  · intro standing
    obtain ⟨node, found, isDir⟩ := standing
    obtain ⟨entries, rfl⟩ := shape_eq_dir_iff.1 isDir
    exact ⟨entries, found⟩
  · intro standing
    obtain ⟨entries, found⟩ := standing
    exact ⟨.dir entries, found, rfl⟩

/-! ## Locations in sequence -/

theorem find?_cons (entries : List (Text × Node)) (name : Text)
    (rest : Location) :
    (Node.dir entries).find? (name :: rest) =
      (entries.lookup name).bind fun child => child.find? rest := by
  rw [find?]
  cases entries.lookup name <;> rfl

/-- A location is followed through any of its leading parts. -/
theorem find?_append (root : Node) (first second : Location) :
    root.find? (first ++ second) = (root.find? first).bind fun node =>
      node.find? second := by
  induction first generalizing root with
  | nil => simp
  | cons name rest ih =>
      cases root with
      | file content => rfl
      | link target => rfl
      | dir entries =>
          rw [List.cons_append, find?_cons, find?_cons]
          cases entries.lookup name with
          | none => rfl
          | some child => exact ih child

theorem find?_entry (found : root.find? location = some (.dir entries))
    (name : Text) :
    root.find? (location ++ [name]) = entries.lookup name := by
  rw [find?_append, found, Option.bind_some, find?_cons]
  cases entries.lookup name <;> simp

theorem shape?_entry (found : root.find? location = some (.dir entries))
    (name : Text) :
    root.shape? (location ++ [name]) = (entries.lookup name).map shape := by
  rw [shape?, find?_entry found]

theorem shape?_below_file {content : Content}
    (found : root.find? location = some (.file content)) (name : Text)
    (rest : Location) : root.shape? (location ++ name :: rest) = none := by
  rw [shape?, find?_append, found]
  rfl

theorem shape?_below_none (free : root.find? location = none)
    (rest : Location) :
    root.shape? (location ++ rest) = none := by
  rw [shape?, find?_append, free]
  rfl

/-! ## Putting nodes -/

theorem put_nil (root node : Node) : root.put [] node = root := by
  cases node <;> rfl

theorem put_singleton (node : Node) (name : Text)
    (entries : List (Text × Node)) :
    node.put [name] (.dir entries) = .dir (putEntry name node entries) := rfl

theorem put_cons {rest : Location} (nonempty : rest ≠ []) (node : Node)
    (name : Text) (entries : List (Text × Node)) :
    node.put (name :: rest) (.dir entries) =
      match entries.lookup name with
      | some child => .dir (putEntry name (node.put rest child) entries)
      | none => .dir entries := by
  cases rest with
  | nil => exact absurd rfl nonempty
  | cons other rest => rfl

/-- Below a put node stands what that node holds, if its directory was there. -/
theorem find?_put_concat (found : root.find? location = some (.dir entries))
    (node : Node) (name : Text) (rest : Location) :
    (node.put (location ++ [name]) root).find? (location ++ name :: rest) =
      node.find? rest := by
  induction location generalizing root with
  | nil =>
      rw [find?_nil] at found
      cases found
      rw [List.nil_append, List.nil_append, put_singleton, find?_cons,
        lookup_putEntry_self, Option.bind_some]
  | cons head tail ih =>
      cases root with
      | file content => cases found
      | link target => cases found
      | dir outer =>
          rw [find?_cons] at found
          cases child : outer.lookup head with
          | none => rw [child] at found; cases found
          | some inner =>
              rw [child, Option.bind_some] at found
              rw [List.cons_append, List.cons_append, put_cons (by simp), child]
              show (Node.dir (putEntry head _ outer)).find? _ = _
              rw [find?_cons, lookup_putEntry_self, Option.bind_some]
              exact ih found

/-- Away from a put node everything stands as before. -/
theorem shape?_put_apart {other : Location} (apart : ¬ location <+: other)
    (node root : Node) :
    (node.put location root).shape? other = root.shape? other := by
  induction location generalizing root other with
  | nil => exact absurd List.nil_prefix apart
  | cons name rest ih =>
      cases root with
      | file content => cases rest <;> rfl
      | link target => cases rest <;> rfl
      | dir entries =>
          cases other with
          | nil =>
              by_cases last : rest = []
              · subst last
                rfl
              · rw [put_cons last]
                cases entries.lookup name <;> rfl
          | cons head tail =>
              by_cases last : rest = []
              · subst last
                have differ : head ≠ name := by
                  intro same
                  exact apart ⟨tail, by rw [same]; rfl⟩
                rw [put_singleton, shape?, shape?, find?_cons, find?_cons,
                  lookup_putEntry_of_ne differ]
              · rw [put_cons last]
                cases child : entries.lookup name with
                | none => rfl
                | some inner =>
                    show (Node.dir (putEntry name _ entries)).shape? _ = _
                    by_cases same : head = name
                    · subst same
                      have within : ¬ rest <+: tail := by
                        intro leading
                        exact apart (List.cons_prefix_cons.2 ⟨rfl, leading⟩)
                      rw [shape?, shape?, find?_cons, find?_cons,
                        lookup_putEntry_self, child]
                      exact ih within inner
                    · rw [shape?, shape?, find?_cons, find?_cons,
                        lookup_putEntry_of_ne same]

/-- Where a node may be put: in place of a file, or under a free name of a
directory. -/
def Admits (root : Node) (location : Location) : Prop :=
  (∃ content, root.find? location = some (.file content)) ∨
    ∃ directory name entries, location = directory ++ [name] ∧
      root.find? directory = some (.dir entries) ∧ entries.lookup name = none

/-- Nothing stands below a place where a node may be put. -/
theorem Admits.below (admits : root.Admits location) (name : Text)
    (rest : Location) :
    root.shape? (location ++ name :: rest) = none := by
  rcases admits with
      ⟨content, found⟩ | ⟨directory, last, entries, rfl, found, free⟩
  · exact shape?_below_file found name rest
  · apply shape?_below_none
    rw [find?_entry found, free]

theorem Admits.find?_put (admits : root.Admits location) (node : Node)
    (rest : Location) :
    (node.put location root).find? (location ++ rest) = node.find? rest := by
  rcases List.eq_nil_or_concat location with rfl | ⟨directory, name, rfl⟩
  · rw [put_nil, List.nil_append]
  · rw [List.concat_eq_append] at admits ⊢
    rw [List.append_assoc, List.singleton_append]
    rcases admits with
        ⟨content, found⟩ | ⟨other, last, entries, split, found, free⟩
    · rw [find?_append] at found
      cases above : root.find? directory with
      | none => rw [above] at found; cases found
      | some outer =>
          cases outer with
          | dir entries => exact find?_put_concat above node name rest
          | file content => rw [above] at found; cases found
          | link target => rw [above] at found; cases found
    · obtain ⟨rfl, -⟩ := List.append_inj' split rfl
      exact find?_put_concat found node name rest

theorem Admits.find?_put_self (admits : root.Admits location) (node : Node) :
    (node.put location root).find? location = some node := by
  simpa using admits.find?_put node []

/-- A node that holds nothing changes what stands at its own location only. -/
theorem Admits.shape?_put (admits : root.Admits location)
    (bare : ∀ name rest, node.find? (name :: rest) = none) (other : Location) :
    (node.put location root).shape? other =
      if other = location then some node.shape else root.shape? other := by
  by_cases leading : location <+: other
  · obtain ⟨rest, rfl⟩ := leading
    rw [shape?, admits.find?_put]
    cases rest with
    | nil => simp
    | cons name rest =>
        rw [bare, if_neg (by simp), admits.below]
        rfl
  · have differ : other ≠ location := by
      intro same
      exact leading (same ▸ List.prefix_rfl)
    rw [shape?_put_apart leading, if_neg differ]

theorem put_find? (found : root.find? location = some node) :
    node.put location root = root := by
  induction location generalizing root with
  | nil =>
      rw [find?_nil] at found
      cases found
      exact put_nil _ _
  | cons name rest ih =>
      cases root with
      | file content => cases found
      | link target => cases found
      | dir entries =>
          rw [find?_cons] at found
          cases child : entries.lookup name with
          | none => rw [child] at found; cases found
          | some inner =>
              rw [child, Option.bind_some] at found
              by_cases last : rest = []
              · subst last
                rw [find?_nil] at found
                cases found
                rw [put_singleton, putEntry_lookup child]
              · rw [put_cons last, child]
                show Node.dir (putEntry name (node.put rest inner) entries) = _
                rw [ih found, putEntry_lookup child]

/-! ## What a changed tree keeps -/

/-- A tree keeps of another what paths depend on: directories, the targets of
links, and that files are files. -/
structure Keeps (before after : Node) : Prop where
  dir : ∀ {location}, before.shape? location = some .dir →
    after.shape? location = some .dir
  link : ∀ {location target}, before.shape? location = some (.link target) →
    after.shape? location = some (.link target)
  file : ∀ {location content}, before.shape? location = some (.file content) →
    ∃ other, after.shape? location = some (.file other)

theorem Keeps.trans {before middle after : Node} (first : before.Keeps middle)
    (second : middle.Keeps after) : before.Keeps after := by
  refine ⟨fun standing => second.dir (first.dir standing),
    fun standing => second.link (first.link standing), ?_⟩
  intro location content standing
  obtain ⟨other, stays⟩ := first.file standing
  exact second.file stays

theorem Keeps.proper {before after : Node} (keeps : before.Keeps after)
    {shape : Shape} (standing : before.shape? location = some shape)
    (proper : ∀ target, shape ≠ .link target) :
    ∃ other, after.shape? location = some other ∧
      ∀ target, other ≠ .link target := by
  cases shape with
  | dir => exact ⟨.dir, keeps.dir standing, by simp⟩
  | link target => exact absurd rfl (proper target)
  | file content =>
      obtain ⟨other, stays⟩ := keeps.file standing
      exact ⟨.file other, stays, by simp⟩

end Node

end LiterateBook
