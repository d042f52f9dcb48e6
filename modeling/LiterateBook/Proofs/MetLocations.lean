import LiterateBook.Proofs.Resolution

/-!
# Locations that paths come upon

Resolving a path looks at the locations that its steps and the links on its way
come upon, and at nothing else. In a file system that has the same at each of
them, whatever else was made, removed or changed there, the path leads to the
same place with the same in it, or fails in the same way.
-/

namespace LiterateBook

namespace FileSystem

/-- A location that some steps from another one come upon, when so many links
may be followed: where they start, what they enter, and what they come upon from
there. -/
inductive Meets (root : Node) :
    Nat → Location → List Path.Step → Location → Prop where
  | here {links : Nat} {location : Location} {steps : List Path.Step} :
      Meets root links location steps location
  | stay {links : Nat} {location met : Location} {step : Path.Step}
      {rest : List Path.Step} (within : root.shape? location = some .dir)
      (idle : step = .stay ∨ step = .settle)
      (later : Meets root links location rest met) :
      Meets root links location (step :: rest) met
  | up {links : Nat} {location met : Location} {rest : List Path.Step}
      (within : root.shape? location = some .dir)
      (later : Meets root links location.dropLast rest met) :
      Meets root links location (.up :: rest) met
  | name {links : Nat} {location : Location} {name : Text}
      {rest : List Path.Step} (within : root.shape? location = some .dir)
      (short : name.byteLength ≤ maxNameBytes) :
      Meets root links location (.enter name :: rest) (location ++ [name])
  | enter {links : Nat} {location met : Location} {name : Text}
      {shape : Node.Shape} {rest : List Path.Step}
      (within : root.shape? location = some .dir)
      (short : name.byteLength ≤ maxNameBytes)
      (standing : root.shape? (location ++ [name]) = some shape)
      (proper : ∀ target, shape ≠ .link target)
      (later : Meets root links (location ++ [name]) rest met) :
      Meets root links location (.enter name :: rest) met
  | follow {links : Nat} {location met : Location} {name target : Text}
      {rest : List Path.Step} (within : root.shape? location = some .dir)
      (short : name.byteLength ≤ maxNameBytes)
      (standing : root.shape? (location ++ [name]) = some (.link target))
      (later : Meets root links (base location target)
        (Path.steps target ++ rest) met) :
      Meets root (links + 1) location (.enter name :: rest) met

/-- A location that resolving a path comes upon. -/
def ComesUpon (fs : FileSystem) (path : Text) (location : Location) : Prop :=
  Meets fs.root maxLinks (fs.start path) (Path.steps path) location

/-- A place without what a directory in it holds. -/
def Place.outline : Place → Location × Option Node.Shape
  | .found location node => (location, some node.shape)
  | .vacant directory name => (directory ++ [name], none)

/-! ## Walking in two trees -/

/-- Two trees have the same at every location that some steps come upon in the
first. -/
def Agree (before after : Node) (links : Nat) (location : Location)
    (steps : List Path.Step) :
    Prop :=
  ∀ met, Meets before links location steps met →
    after.shape? met = before.shape? met

theorem walk_nil_outline {root : Node} {creating : Bool}
    {follow : Location → List Path.Step → Except IoError Place}
    {location : Location} :
    (walk root creating follow location []).map Place.outline =
      match root.shape? location with
      | some shape => .ok (location, some shape)
      | none => .error .notFound := by
  rw [walk, Node.shape?]
  cases root.find? location <;> rfl

variable {before after : Node} {creating : Bool} {links : Nat}
  {location : Location} {steps : List Path.Step}

/-- Walks in two trees that agree go the same way, if they do where links take
over. -/
theorem walk_outline
    {followBefore followAfter : Location → List Path.Step →
      Except IoError Place}
    (followed : ∀ start rest,
      (∀ fewer, links = fewer + 1 → Agree before after fewer start rest) →
        (followAfter start rest).map Place.outline =
          (followBefore start rest).map Place.outline)
    (agree : Agree before after links location steps) :
    (walk after creating followAfter location steps).map Place.outline =
      (walk before creating followBefore location steps).map Place.outline := by
  induction steps generalizing location with
  | nil =>
      have here := agree location .here
      rw [walk_nil_outline, walk_nil_outline, here]
  | cons step rest ih =>
      have here := agree location .here
      by_cases within : before.shape? location = some .dir
      · have also : after.shape? location = some .dir := here.trans within
        cases step with
        | stay =>
            rw [walk_idle also (.inl rfl), walk_idle within (.inl rfl)]
            exact ih fun met meets => agree met (.stay within (.inl rfl) meets)
        | settle =>
            rw [walk_idle also (.inr rfl), walk_idle within (.inr rfl)]
            exact ih fun met meets => agree met (.stay within (.inr rfl) meets)
        | up =>
            rw [walk_up also, walk_up within]
            exact ih fun met meets => agree met (.up within meets)
        | enter name =>
            rw [walk_name also, walk_name within]
            by_cases settled : creating = true ∧ rest = [.settle]
            · rw [if_pos settled, if_pos settled]
            · by_cases long : maxNameBytes < name.byteLength
              · rw [if_neg settled, if_neg settled, if_pos long, if_pos long]
              · have short := Nat.le_of_not_lt long
                rw [if_neg settled, if_neg settled, if_neg long, if_neg long,
                  agree _ (.name within short)]
                cases entry : before.shape? (location ++ [name]) with
                | none => by_cases last : rest = [] <;> simp [last]
                | some shape =>
                    cases shape with
                    | link target =>
                        apply followed
                        rintro fewer rfl met meets
                        exact agree met (.follow within short entry meets)
                    | file content =>
                        exact ih fun met meets =>
                          agree met (.enter within short entry (by simp) meets)
                    | dir =>
                        exact ih fun met meets =>
                          agree met (.enter within short entry (by simp) meets)
      · rw [walk_of_not_dir within, walk_of_not_dir (here ▸ within), here]

theorem locate_outline (agree : Agree before after links location steps) :
    (locate after creating links location steps).map Place.outline =
      (locate before creating links location steps).map Place.outline := by
  induction links generalizing location steps with
  | zero => exact walk_outline (fun _ _ _ => rfl) agree
  | succ links ih =>
      exact walk_outline (fun start rest same => ih (same links rfl)) agree

/-! ## Asking two file systems -/

variable {fs changed : FileSystem} {path : Text}

theorem node?_shape_eq (fs : FileSystem) (path : Text) :
    (fs.node? path).map Node.shape =
      ((fs.resolve false path).map Place.outline).bind fun outline =>
        match outline.2 with
        | some shape => .ok shape
        | none => .error .notFound := by
  unfold node?
  cases fs.resolve false path with
  | error error => rfl
  | ok place => cases place <;> rfl

theorem isFile_eq (fs : FileSystem) (path : Text) :
    fs.isFile path =
      match (fs.node? path).map Node.shape with
      | .ok (.file _) => true
      | _ => false := by
  unfold isFile
  cases fs.node? path with
  | error error => rfl
  | ok node => cases node <;> rfl

theorem readText_eq (fs : FileSystem) (path : Text) :
    fs.readText path = ((fs.node? path).map Node.shape).bind fun
      | .file (.text text) => .ok text
      | .file (.bytes _) => .error .notText
      | .dir => .error .isDirectory
      | .link _ => .error .tooManyLinks := by
  unfold readText read
  cases fs.node? path with
  | error error => rfl
  | ok node =>
      cases node with
      | file content => cases content <;> rfl
      | dir entries => rfl
      | link target => rfl

/-- A path has the same answer where the same stands at every location it comes
upon. -/
theorem ask_of_agree (cwd : changed.cwd = fs.cwd)
    (agree : ∀ location, fs.ComesUpon path location →
      changed.shape? location = fs.shape? location) :
    changed.isFile path = fs.isFile path ∧
      changed.readText path = fs.readText path := by
  have starts : changed.start path = fs.start path := by
    rw [start, start, cwd]
  have outline : (changed.resolve false path).map Place.outline =
      (fs.resolve false path).map Place.outline := by
    rw [resolve_eq, resolve_eq, starts]
    cases checkPath path with
    | error error => rfl
    | ok => exact locate_outline agree
  have shapes : (changed.node? path).map Node.shape =
      (fs.node? path).map Node.shape := by
    rw [node?_shape_eq, node?_shape_eq, outline]
  rw [isFile_eq, isFile_eq, readText_eq, readText_eq, shapes]
  exact ⟨rfl, rfl⟩

end FileSystem

end LiterateBook
