import LiterateBook.Proofs.Resolution

/-!
# What writing changes

Making a directory and writing a file change what stands at one location, or
nothing at all. Making the directories that a path lacks adds directories to
which the path and the paths above it lead, also when it fails half-way, and
leaves everything that was there as it was.
-/

namespace LiterateBook

namespace FileSystem

variable {before middle after : FileSystem} {path : Text} {location : Location}

/-! ## One location -/

/-- A file system differs from another in what stands at one location, and in
nothing else. -/
structure SetAt (before after : FileSystem) (location : Location)
    (shape : Node.Shape) :
    Prop where
  cwd : after.cwd = before.cwd
  shape? : ∀ other, after.shape? other =
    if other = location then some shape else before.shape? other

namespace SetAt

variable {shape : Node.Shape}

theorem shape?_self (set : SetAt before after location shape) :
    after.shape? location = some shape := by
  rw [set.shape?, if_pos rfl]

theorem shape?_of_ne (set : SetAt before after location shape)
    {other : Location} (differ : other ≠ location) :
    after.shape? other = before.shape? other := by
  rw [set.shape?, if_neg differ]

/-- What is put under a free name leaves everything as it was. -/
theorem keeps_of_free (set : SetAt before after location shape)
    (free : before.shape? location = none) : before.Keeps after := by
  have apart {other : Location} {stood : Node.Shape}
      (standing : before.shape? other = some stood) :
      after.shape? other = some stood := by
    rw [set.shape?_of_ne, standing]
    intro same
    rw [same, free] at standing
    cases standing
  exact ⟨set.cwd, ⟨apart, apart, fun standing => ⟨_, apart standing⟩⟩⟩

/-- A file in place of a file leaves the paths as they were. -/
theorem keeps_of_file {content written : Content}
    (set : SetAt before after location (.file written))
    (stood : before.shape? location = some (.file content)) :
    before.Keeps after := by
  have apart {other : Location} {shape : Node.Shape}
      (standing : before.shape? other = some shape)
      (unlike : shape ≠ .file content) : after.shape? other = some shape := by
    rw [set.shape?_of_ne, standing]
    intro same
    rw [same, stood] at standing
    cases standing
    exact unlike rfl
  refine ⟨set.cwd, fun standing => apart standing (by simp),
    fun standing => apart standing (by simp), ?_⟩
  intro other held standing
  by_cases same : other = location
  · subst same
    exact ⟨written, set.shape?_self⟩
  · exact ⟨held, (set.shape?_of_ne same).trans standing⟩

end SetAt

theorem setAt_put {fs : FileSystem} {node : Node}
    (admits : fs.root.Admits location)
    (bare : ∀ name rest, node.find? (name :: rest) = none) :
    SetAt fs (fs.put location node) location node.shape :=
  ⟨rfl, admits.shape?_put bare⟩

/-! ## Making one directory -/

/-- A directory to which a path leads now and that was not there before. -/
structure NewDir (before after : FileSystem) (path : Text)
    (location : Location) : Prop where
  free : before.shape? location = none
  missing : before.isDir path = false
  leads : ∃ entries, after.resolve false path =
    .ok (.found location (.dir entries))

/-- A vacancy is a free name in a directory to which the other steps of the path
lead. -/
theorem vacancy_eq_ok {fs : FileSystem} {name : Text}
    (vacancy : fs.vacancy path = .ok (location, name)) :
    checkPath path = .ok () ∧ ∃ leading entries links,
      (Path.names path).map Path.stepOf = leading ++ [.enter name] ∧
      links ≤ maxLinks ∧
      Route fs.root links (fs.start path) leading
        (.found location (.dir entries)) ∧
      name.byteLength ≤ maxNameBytes ∧ entries.lookup name = none := by
  rw [FileSystem.vacancy, Path.backwards_steps] at vacancy
  cases checked : checkPath path with
  | error error => rw [checked] at vacancy; cases vacancy
  | ok =>
      rw [checked] at vacancy
      refine ⟨rfl, ?_⟩
      generalize shape : ((Path.names path).map Path.stepOf).reverse =
        backwards at vacancy
      rw [← List.reverse_reverse ((Path.names path).map Path.stepOf), shape]
      cases located : locate fs.root false maxLinks (fs.start path)
        backwards.tail.reverse with
      | error error => simp only [located] at vacancy; cases vacancy
      | ok place =>
          obtain ⟨links, few, route⟩ := Route.of_locate located
          simp only [located] at vacancy
          cases place with
          | vacant directory free => cases vacancy
          | found goal node =>
              cases node with
              | file content => cases vacancy
              | link target => cases vacancy
              | dir entries =>
                  cases backwards with
                  | nil => cases vacancy
                  | cons step rest =>
                      cases step with
                      | stay | settle | up => cases vacancy
                      | enter entered =>
                          have answer :
                              (if maxNameBytes < entered.byteLength then
                              .error .nameTooLong
                            else if (entries.lookup entered).isSome then
                              .error .alreadyExists
                            else .ok (goal, entered) :
                              Except IoError (Location × Text)) =
                              .ok (location, name) := vacancy
                          split at answer
                          · cases answer
                          next short =>
                          split at answer
                          · cases answer
                          next free =>
                          cases answer
                          exact ⟨rest.reverse, entries, links, by simp, few, route,
                            Nat.le_of_not_lt short,
                            Option.not_isSome_iff_eq_none.1 free⟩

theorem exists_steps_eq {leading : List Path.Step} {name : Text}
    (split : (Path.names path).map Path.stepOf = leading ++ [.enter name]) :
    ∃ ending, (ending = [] ∨ ending = [.settle]) ∧
      Path.steps path = leading ++ .enter name :: ending := by
  rw [Path.steps_eq, split, List.append_assoc, List.singleton_append]
  split
  · exact ⟨[.settle], .inr rfl, rfl⟩
  · exact ⟨[], .inl rfl, rfl⟩

/-- A directory that is made stands under a name that was free, and the path
leads to it. -/
theorem makeDir_eq_ok {fs : FileSystem}
    (made : fs.makeDir path = (.ok (), after)) :
    ∃ location, SetAt fs after location .dir ∧
      NewDir fs after path location := by
  unfold makeDir add at made
  cases vacancy : fs.vacancy path with
  | error error => rw [vacancy] at made; cases made
  | ok place =>
      obtain ⟨directory, name⟩ := place
      rw [vacancy] at made
      cases made
      obtain ⟨checked, leading, entries, links, split, few, route, short, free⟩ :=
        vacancy_eq_ok vacancy
      obtain ⟨ending, settling, steps⟩ := exists_steps_eq split
      have found := route.find?_of_found
      have admits : fs.root.Admits (directory ++ [name]) :=
        .inr ⟨directory, name, entries, rfl, found, free⟩
      have set : SetAt fs (fs.put (directory ++ [name]) (.dir []))
          (directory ++ [name]) .dir :=
        setAt_put admits fun _ _ => rfl
      have vacant : fs.shape? (directory ++ [name]) = none := by
        rw [FileSystem.shape?, Node.shape?_entry found, free]
        rfl
      refine ⟨directory ++ [name], set, vacant, ?_, [], ?_⟩
      · rw [Bool.eq_false_iff]
        intro isDir
        obtain ⟨inner, asked⟩ := isDir_iff.1 isDir
        obtain ⟨goal, resolved⟩ := node?_eq_ok_iff.1 asked
        obtain ⟨-, used, -, whole⟩ := resolve_eq_ok_iff.1 resolved
        rw [steps] at whole
        obtain ⟨first, second, middle, held, -, earlier, later⟩ :=
          whole.split (by simp)
        cases earlier.place_unique route
        obtain ⟨shape, standing⟩ := later.standing_of_enter
        rw [FileSystem.shape?, standing] at vacant
        cases vacant
      · have keeps := set.keeps_of_free vacant
        obtain ⟨others, stays⟩ := Node.shape?_eq_dir_iff.1
          (keeps.root.dir (Node.shape?_of_find? found))
        have there : (fs.put (directory ++ [name]) (.dir [])).root.find?
            (directory ++ [name]) =
            some (.dir []) :=
          admits.find?_put_self (.dir [])
        have settled : Route (fs.put (directory ++ [name]) (.dir [])).root 0
            (directory ++ [name])
            ending (.found (directory ++ [name]) (.dir [])) := by
          rcases settling with rfl | rfl
          · exact .arrive there
          · exact .stay (Node.shape?_of_find? there) (.inr rfl) (.arrive there)
        have whole := (route.keep keeps.root stays (by simp)).append
          (.enter (Node.shape?_of_find? stays) short
            (Node.shape?_of_find? there) (by simp) settled)
        rw [← steps] at whole
        exact resolve_eq_ok_iff.2 ⟨checked, links + 0, few, whole⟩

/-! ## Making directories -/

/-- Nothing changed but for new directories to which paths of some kind lead. -/
structure AddsDirs (paths : Text → Prop) (before after : FileSystem) :
    Prop where
  cwd : after.cwd = before.cwd
  shape? : ∀ location, after.shape? location = before.shape? location ∨
    ∃ path, paths path ∧ NewDir before after path location

theorem NewDir.shape? {fs : FileSystem} (new : NewDir fs after path location) :
    after.shape? location = some .dir := by
  obtain ⟨entries, leads⟩ := new.leads
  exact Node.shape?_of_find? (resolve_eq_ok_iff.1 leads).2.find?

theorem NewDir.keep {fs : FileSystem} (new : NewDir fs middle path location)
    (keeps : middle.Keeps after) : NewDir fs after path location := by
  obtain ⟨entries, leads⟩ := new.leads
  exact ⟨new.free, new.missing, keeps.resolve_dir leads⟩

namespace AddsDirs

variable {paths : Text → Prop}

theorem refl (paths : Text → Prop) (fs : FileSystem) : AddsDirs paths fs fs :=
  ⟨rfl, fun _ => .inl rfl⟩

theorem standing (adds : AddsDirs paths before after) {shape : Node.Shape}
    (stood : before.shape? location = some shape) :
    after.shape? location = some shape := by
  rcases adds.shape? location with same | ⟨path, kind, new⟩
  · rw [same, stood]
  · rw [new.free] at stood
    cases stood

theorem keeps (adds : AddsDirs paths before after) : before.Keeps after :=
  ⟨adds.cwd, ⟨adds.standing, adds.standing, fun stood => ⟨_, adds.standing stood⟩⟩⟩

theorem of_newDir (set : SetAt before after location .dir)
    (new : NewDir before after path location) (kind : paths path) :
    AddsDirs paths before after := by
  refine ⟨set.cwd, ?_⟩
  intro other
  by_cases same : other = location
  · subst same
    exact .inr ⟨path, kind, new⟩
  · exact .inl (set.shape?_of_ne same)

theorem mono {others : Text → Prop} (adds : AddsDirs paths before after)
    (wider : ∀ path, paths path → others path) :
    AddsDirs others before after := by
  refine ⟨adds.cwd, ?_⟩
  intro location
  rcases adds.shape? location with same | ⟨path, kind, new⟩
  · exact .inl same
  · exact .inr ⟨path, wider path kind, new⟩

theorem trans (first : AddsDirs paths before middle)
    (second : AddsDirs paths middle after) :
    AddsDirs paths before after := by
  refine ⟨second.cwd.trans first.cwd, ?_⟩
  intro location
  rcases second.shape? location with same | ⟨path, kind, new⟩
  · rcases first.shape? location with earlier | ⟨path, kind, new⟩
    · exact .inl (same.trans earlier)
    · exact .inr ⟨path, kind, new.keep second.keeps⟩
  · refine .inr ⟨path, kind, ?_, ?_, new.leads⟩
    · rcases first.shape? location with earlier | ⟨other, otherKind, older⟩
      · rw [← earlier, new.free]
      · exact older.free
    · rw [Bool.eq_false_iff]
      intro isDir
      have still := first.keeps.isDir isDir
      rw [new.missing] at still
      cases still

end AddsDirs

/-- Making sure of a directory makes that one at most, and succeeds when it is
there then. -/
theorem ensureDir_adds (fs : FileSystem) (path : Text) :
    AddsDirs (· = path) fs (fs.ensureDir path).2 ∧
      ((fs.ensureDir path).1 = .ok () →
        (fs.ensureDir path).2.isDir path = true) := by
  unfold ensureDir
  split
  · next made done =>
    obtain ⟨location, set, new⟩ := makeDir_eq_ok done
    refine ⟨.of_newDir set new rfl, fun _ => ?_⟩
    obtain ⟨entries, leads⟩ := new.leads
    exact isDir_iff.2 ⟨entries, node?_eq_ok_iff.2 ⟨location, leads⟩⟩
  · next error unchanged failed =>
    refine ⟨.refl _ fs, ?_⟩
    intro ensured
    by_contra missing
    rw [if_neg missing] at ensured
    cases ensured

theorem ensureDir_of_isDir {fs : FileSystem} (isDir : fs.isDir path = true) :
    fs.ensureDir path = (.ok (), fs) := by
  unfold ensureDir
  split
  · next made done =>
    obtain ⟨location, set, new⟩ := makeDir_eq_ok done
    rw [new.missing] at isDir
    cases isDir
  · rw [if_pos isDir]

theorem makeDirs_of_isDir {fs : FileSystem} (isDir : fs.isDir path = true) :
    fs.makeDirs path = (.ok (), fs) := by
  unfold makeDirs
  split
  · rfl
  · rw [ensureDir_of_isDir isDir]

/-- Making the directories that a path lacks adds directories to which the path
and the paths above it lead, and nothing else, also when it fails half-way. -/
theorem makeDirs_adds (fs : FileSystem) (path : Text) :
    AddsDirs (fun above => above = path ∨ Path.IsAbove above path) fs
      (fs.makeDirs path).2 ∧
      ((fs.makeDirs path).1 = .ok () → path ≠ [] →
        (fs.makeDirs path).2.isDir path = true) := by
  fun_induction makeDirs fs path with
  | case1 => exact ⟨.refl _ fs, fun _ nonempty => absurd rfl nonempty⟩
  | case2 path nonempty unchanged failed orphan =>
      exact ⟨.refl _ fs, fun done => by cases done⟩
  | case3 path nonempty unchanged failed parent found error made refused ih =>
      rw [refused] at ih
      exact ⟨ih.1.mono fun above kind => .inr (Path.isAbove_of_parent? found kind),
        fun done => by cases done⟩
  | case4 path nonempty unchanged failed parent found made done ih =>
      rw [done] at ih
      have higher := ih.1.mono fun above kind =>
        (.inr (Path.isAbove_of_parent? found kind) : above = path ∨
          Path.IsAbove above path)
      have last := ensureDir_adds made path
      exact ⟨higher.trans (last.1.mono fun above same => .inl same),
        fun ensured _ => last.2 ensured⟩
  | case5 path nonempty done =>
      have last := ensureDir_adds fs path
      exact ⟨last.1.mono fun above same => .inl same, fun ensured _ => last.2 ensured⟩

/-- Every path above one that leads anywhere is a directory. -/
theorem isDir_of_isAbove {fs : FileSystem} {above : Text} {place : Place}
    (higher : Path.IsAbove above path) (nonempty : above ≠ [])
    (resolved : fs.resolve false path = .ok place) : fs.isDir above = true := by
  induction higher generalizing place with
  | parent found => exact isDir_parent? resolved found nonempty
  | @further path parent above found higher ih =>
      have proper : parent ≠ [] := by
        intro empty
        subst empty
        cases higher with
        | parent found => cases found
        | further found higher => cases found
      obtain ⟨entries, asked⟩ :=
        isDir_iff.1 (isDir_parent? resolved found proper)
      obtain ⟨location, leads⟩ := node?_eq_ok_iff.1 asked
      exact ih nonempty leads

/-! ## Writing files -/

theorem write_eq_error {fs : FileSystem} {content : Content} {error : IoError}
    (failed : fs.write path content = (.error error, after)) : after = fs := by
  unfold write at failed
  split at failed <;> cases failed <;> rfl

/-- What is written is put at the place to which the path leads: a file, or a
free name. -/
theorem write_eq_ok {fs : FileSystem} {content : Content}
    (written : fs.write path content = (.ok (), after)) :
    ∃ place, fs.resolve true path = .ok place ∧ fs.root.Admits place.location ∧
      after = fs.put place.location (.file content) := by
  unfold write at written
  split at written
  · cases written
  · next location held resolved =>
    cases written
    have found := (resolve_eq_ok_iff.1 (resolve_of_creating resolved)).2.find?
    exact ⟨_, resolved, .inl ⟨held, found⟩, rfl⟩
  · cases written
  · next directory name resolved =>
    cases written
    obtain ⟨links, few, route⟩ :=
      (resolve_eq_ok_iff.1 (resolve_of_creating resolved)).2
    obtain ⟨short, entries, found, free⟩ := route.free_of_vacant
    exact ⟨_, resolved, .inr ⟨directory, name, entries, rfl, found, free⟩, rfl⟩

/-- What is put where a node may be put leaves the paths as they were. -/
theorem keeps_put_file {fs : FileSystem} {content : Content}
    (admits : fs.root.Admits location) :
    fs.Keeps (fs.put location (.file content)) := by
  have set : SetAt fs (fs.put location (.file content)) location
      (.file content) :=
    setAt_put admits fun _ _ => rfl
  rcases admits with
      ⟨held, found⟩ | ⟨directory, name, entries, rfl, found, free⟩
  · exact set.keeps_of_file (Node.shape?_of_find? found)
  · apply set.keeps_of_free
    rw [FileSystem.shape?, Node.shape?_entry found, free]
    rfl

theorem resolve_write {fs : FileSystem} {content : Content} {place : Place}
    (resolved : fs.resolve true path = .ok place)
    (admits : fs.root.Admits place.location) :
    (fs.put place.location (.file content)).resolve false path =
      .ok (.found place.location (.file content)) :=
  (keeps_put_file admits).resolve (resolve_of_creating resolved)
    (admits.find?_put_self (.file content)) (by simp)

/-- Writing what a file holds already changes nothing. -/
theorem write_of_resolve {fs : FileSystem} {content : Content}
    (resolved : fs.resolve false path = .ok (.found location (.file content))) :
    fs.write path content = (.ok (), fs) := by
  have found := (resolve_eq_ok_iff.1 resolved).2.find?
  have same : fs.put location (.file content) = fs := by
    rw [put, Node.put_find? found]
  simp only [write, resolve_creating_of_file resolved, same]

/-- The directories above what a path leads to are not made again. -/
theorem writeWithDirs_of_resolve {fs : FileSystem} {content : Content}
    (resolved : fs.resolve false path = .ok (.found location (.file content))) :
    fs.writeWithDirs path content = (.ok (), fs) := by
  have made : fs.makeDirs ((Path.parent? path).getD []) = (.ok (), fs) := by
    by_cases empty : (Path.parent? path).getD [] = []
    · rw [empty, makeDirs, if_pos rfl]
    · cases found : Path.parent? path with
      | none => exact absurd (by rw [found]; rfl) empty
      | some parent =>
          rw [found, Option.getD_some] at empty
          exact makeDirs_of_isDir (isDir_parent? resolved found empty)
  simp only [writeWithDirs, made, write_of_resolve resolved]

end FileSystem

end LiterateBook
