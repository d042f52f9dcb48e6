import LiterateBook.FileSystem
import LiterateBook.Proofs.Shape

/-!
# Routes

A path is resolved along a route: step by step from a location on, with the
steps of a link's target in place of the name of the link. Resolving answers
with the place to which the route leads, as long as it follows no more links
than it may. Routes follow each other, they can be cut between any two steps,
and they stay as they are in a tree where what they pass still stands.
-/

namespace LiterateBook

namespace FileSystem

/-- The location of the node, or of the file that may be created. -/
def Place.location : Place → Location
  | .found location _ => location
  | .vacant directory name => directory ++ [name]

/-- The location that a link's target is relative to. -/
def base (location : Location) (target : Text) : Location :=
  if Path.isAbsolute target then [] else location

/-- The route from a location along some steps to a place, and the number of
links it follows. -/
inductive Route (root : Node) :
    Nat → Location → List Path.Step → Place → Prop where
  | arrive {location : Location} {node : Node}
      (standing : root.find? location = some node) :
      Route root 0 location [] (.found location node)
  | stay {links : Nat} {location : Location} {step : Path.Step}
      {rest : List Path.Step} {place : Place}
      (within : root.shape? location = some .dir)
      (idle : step = .stay ∨ step = .settle)
      (later : Route root links location rest place) :
      Route root links location (step :: rest) place
  | up {links : Nat} {location : Location} {rest : List Path.Step}
      {place : Place} (within : root.shape? location = some .dir)
      (later : Route root links location.dropLast rest place) :
      Route root links location (.up :: rest) place
  | vacant {location : Location} {name : Text}
      (within : root.shape? location = some .dir)
      (short : name.byteLength ≤ maxNameBytes)
      (free : root.shape? (location ++ [name]) = none) :
      Route root 0 location [.enter name] (.vacant location name)
  | enter {links : Nat} {location : Location} {name : Text} {shape : Node.Shape}
      {rest : List Path.Step} {place : Place}
      (within : root.shape? location = some .dir)
      (short : name.byteLength ≤ maxNameBytes)
      (standing : root.shape? (location ++ [name]) = some shape)
      (proper : ∀ target, shape ≠ .link target)
      (later : Route root links (location ++ [name]) rest place) :
      Route root links location (.enter name :: rest) place
  | follow {links : Nat} {location : Location} {name target : Text}
      {rest : List Path.Step} {place : Place}
      (within : root.shape? location = some .dir)
      (short : name.byteLength ≤ maxNameBytes)
      (standing : root.shape? (location ++ [name]) = some (.link target))
      (later : Route root links (base location target)
        (Path.steps target ++ rest) place) :
      Route root (links + 1) location (.enter name :: rest) place

/-! ## Single steps -/

section Walk

variable {root : Node} {creating : Bool}
  {follow : Location → List Path.Step → Except IoError Place}
  {location : Location} {rest : List Path.Step}

theorem walk_of_not_dir (outside : root.shape? location ≠ some .dir)
    (step : Path.Step) :
    walk root creating follow location (step :: rest) =
      .error
        (if (root.shape? location).isSome then .notDirectory else .notFound) := by
  rw [walk.eq_def]
  cases found : root.find? location with
  | none => simp [Node.shape?, found]
  | some node =>
      cases node with
      | dir entries => exact absurd (Node.shape?_of_find? found) outside
      | file content => simp [Node.shape?, found]
      | link target => simp [Node.shape?, found]

theorem walk_idle (within : root.shape? location = some .dir) {step : Path.Step}
    (idle : step = .stay ∨ step = .settle) :
    walk root creating follow location (step :: rest) =
      walk root creating follow location rest := by
  obtain ⟨entries, standing⟩ := Node.shape?_eq_dir_iff.1 within
  rcases idle with rfl | rfl <;> simp only [walk, standing]

theorem walk_up (within : root.shape? location = some .dir) :
    walk root creating follow location (.up :: rest) =
      walk root creating follow location.dropLast rest := by
  obtain ⟨entries, standing⟩ := Node.shape?_eq_dir_iff.1 within
  simp only [walk, standing]

/-- A name leads on as what stands under it says, if it may be entered. -/
theorem walk_name (within : root.shape? location = some .dir) (name : Text) :
    walk root creating follow location (.enter name :: rest) =
      if creating = true ∧ rest = [.settle] then .error .isDirectory
      else if maxNameBytes < name.byteLength then .error .nameTooLong
      else match root.shape? (location ++ [name]) with
        | none =>
          if rest = [] then .ok (.vacant location name) else .error .notFound
        | some (.link target) =>
          follow (base location target) (Path.steps target ++ rest)
        | some _ => walk root creating follow (location ++ [name]) rest := by
  obtain ⟨entries, standing⟩ := Node.shape?_eq_dir_iff.1 within
  rw [walk.eq_def, Node.shape?_entry standing]
  simp only [standing]
  cases entries.lookup name with
  | none => rfl
  | some node => cases node <;> rfl

/-- A name may be entered that is not too long, and not followed by a separator
alone where a file may be created. -/
theorem walk_enter (within : root.shape? location = some .dir) {name : Text}
    (short : name.byteLength ≤ maxNameBytes)
    (bare : creating = true → rest ≠ [.settle]) :
    walk root creating follow location (.enter name :: rest) =
      match root.shape? (location ++ [name]) with
      | none =>
        if rest = [] then .ok (.vacant location name) else .error .notFound
      | some (.link target) =>
        follow (base location target) (Path.steps target ++ rest)
      | some _ => walk root creating follow (location ++ [name]) rest := by
  have settling : ¬ (creating = true ∧ rest = [.settle]) :=
    fun both => bare both.1 both.2
  rw [walk_name within, if_neg settling, if_neg (Nat.not_lt.2 short)]

theorem enterable_of_walk (within : root.shape? location = some .dir)
    {name : Text} {place : Place}
    (answered : walk root creating follow location (.enter name :: rest) =
      .ok place) :
    name.byteLength ≤ maxNameBytes ∧ (creating = true → rest ≠ [.settle]) := by
  rw [walk_name within] at answered
  split at answered
  · cases answered
  · next bare =>
    split at answered
    · cases answered
    · next short =>
      constructor
      · exact Nat.le_of_not_lt short
      · intro making settled
        exact bare ⟨making, settled⟩

end Walk

namespace Route

variable {root : Node} {links : Nat} {location : Location}
  {steps : List Path.Step} {place : Place}

/-! ## Where a route leads -/

theorem find?_of_found {goal : Location} {node : Node}
    (route : Route root links location steps (.found goal node)) :
    root.find? goal = some node := by
  generalize shape : Place.found goal node = place at route
  induction route with
  | arrive standing => cases shape; exact standing
  | vacant within short free => cases shape
  | stay within idle later ih => exact ih shape
  | up within later ih => exact ih shape
  | enter within short standing proper later ih => exact ih shape
  | follow within short standing later ih => exact ih shape

/-- The name that a route finds free is not too long, and free in a
directory. -/
theorem free_of_vacant {directory : Location} {name : Text}
    (route : Route root links location steps (.vacant directory name)) :
    name.byteLength ≤ maxNameBytes ∧
      ∃ entries, root.find? directory = some (.dir entries) ∧
        entries.lookup name = none := by
  generalize shape : Place.vacant directory name = place at route
  induction route with
  | arrive standing => cases shape
  | vacant within short free =>
      cases shape
      obtain ⟨entries, found⟩ := Node.shape?_eq_dir_iff.1 within
      rw [Node.shape?_entry found, Option.map_eq_none_iff] at free
      exact ⟨short, entries, found, free⟩
  | stay within idle later ih => exact ih shape
  | up within later ih => exact ih shape
  | enter within short standing proper later ih => exact ih shape
  | follow within short standing later ih => exact ih shape

/-- The name that a route finds free is one that its steps or the targets of
links enter. -/
theorem property_of_vacant {directory : Location} {name : Text}
    {property : Text → Prop}
    (route : Route root links location steps (.vacant directory name))
    (along : ∀ entered, .enter entered ∈ steps → property entered)
    (linked : ∀ target entered, .enter entered ∈ Path.steps target →
      property entered) :
    property name := by
  generalize shape : Place.vacant directory name = place at route
  induction route with
  | arrive standing => cases shape
  | vacant within short free =>
      cases shape
      exact along _ (List.mem_singleton_self _)
  | stay within idle later ih =>
      exact ih (fun entered member =>
        along entered (List.mem_cons_of_mem _ member)) shape
  | up within later ih =>
      exact ih (fun entered member =>
        along entered (List.mem_cons_of_mem _ member)) shape
  | enter within short standing proper later ih =>
      exact ih (fun entered member =>
        along entered (List.mem_cons_of_mem _ member)) shape
  | follow within short standing later ih =>
      apply ih _ shape
      intro entered member
      rcases List.mem_append.1 member with target | rest
      · exact linked _ entered target
      · exact along entered (List.mem_cons_of_mem _ rest)

/-- Taking a step needs a directory to take it in. -/
theorem within_of_ne_nil (route : Route root links location steps place)
    (moving : steps ≠ []) :
    root.shape? location = some .dir := by
  cases route with
  | arrive standing => exact absurd rfl moving
  | vacant within short free => exact within
  | stay within idle later => exact within
  | up within later => exact within
  | enter within short standing proper later => exact within
  | follow within short standing later => exact within

theorem dir_of_settled (route : Route root links location steps place)
    (settled : steps.getLast? = some .settle) :
    ∃ goal entries, place = .found goal (.dir entries) := by
  induction route with
  | arrive standing => cases settled
  | vacant within short free => cases settled
  | @stay links location step rest place within idle later ih =>
      cases rest with
      | nil =>
          obtain ⟨entries, found⟩ := Node.shape?_eq_dir_iff.1 within
          cases later with
          | arrive standing =>
              rw [found] at standing
              cases standing
              exact ⟨location, entries, rfl⟩
      | cons next rest => exact ih (by simpa using settled)
  | @up links location rest place within later ih =>
      cases rest with
      | nil => cases settled
      | cons next rest => exact ih (by simpa using settled)
  | @enter links location name shape rest place within short standing proper later ih =>
      cases rest with
      | nil => cases settled
      | cons next rest => exact ih (by simpa using settled)
  | @follow links location name target rest place within short standing later ih =>
      cases rest with
      | nil => cases settled
      | cons next rest =>
          apply ih
          rw [List.getLast?_append]
          rw [List.getLast?_cons_cons] at settled
          rw [settled, Option.some_or]

/-- A name that a route enters on its way to a node is the name of something. -/
theorem standing_of_enter {name : Text} {rest : List Path.Step}
    {goal : Location} {node : Node}
    (route : Route root links location (.enter name :: rest) (.found goal node)) :
    ∃ shape, root.shape? (location ++ [name]) = some shape := by
  cases route with
  | stay within idle later => rcases idle with idle | idle <;> cases idle
  | enter within short standing proper later => exact ⟨_, standing⟩
  | follow within short standing later => exact ⟨_, standing⟩

/-! ## Routes in sequence -/

theorem append {more : Nat} {middle : Location} {node : Node}
    {first second : List Path.Step}
    (before : Route root links location first (.found middle node))
    (after : Route root more middle second place) :
    Route root (links + more) location (first ++ second) place := by
  generalize shape : Place.found middle node = goal at before
  induction before with
  | arrive standing =>
      cases shape
      rw [Nat.zero_add]
      exact after
  | vacant within short free => cases shape
  | stay within idle later ih => exact .stay within idle (ih shape)
  | up within later ih => exact .up within (ih shape)
  | enter within short standing proper later ih =>
      exact .enter within short standing proper (ih shape)
  | follow within short standing later ih =>
      rw [Nat.add_right_comm, List.cons_append]
      apply Route.follow within short standing
      rw [← List.append_assoc]
      exact ih shape

theorem split_nil (route : Route root links location steps place)
    (moving : steps ≠ []) :
    ∃ before after middle entries, links = before + after ∧
      Route root before location [] (.found middle (.dir entries)) ∧
      Route root after middle steps place := by
  obtain ⟨entries, found⟩ :=
    Node.shape?_eq_dir_iff.1 (route.within_of_ne_nil moving)
  exact ⟨0, links, location, entries, (Nat.zero_add links).symm,
    .arrive found, route⟩

/-- A route can be cut wherever steps are left; the directory in which they
begin lies on it. -/
theorem split {first second : List Path.Step}
    (route : Route root links location (first ++ second) place)
    (moving : second ≠ []) :
    ∃ before after middle entries, links = before + after ∧
      Route root before location first (.found middle (.dir entries)) ∧
      Route root after middle second place := by
  generalize shape : first ++ second = steps at route
  induction route generalizing first with
  | arrive standing => exact absurd (List.append_eq_nil_iff.1 shape).2 moving
  | vacant within short free =>
      cases first with
      | nil => subst shape; exact split_nil (.vacant within short free) moving
      | cons step rest =>
          obtain ⟨-, tail⟩ := List.cons.inj shape
          exact absurd (List.append_eq_nil_iff.1 tail).2 moving
  | stay within idle later ih =>
      cases first with
      | nil => subst shape; exact split_nil (.stay within idle later) moving
      | cons step rest =>
          obtain ⟨rfl, same⟩ := List.cons.inj shape
          obtain ⟨before, after, middle, inside, sum, left, right⟩ := ih same
          exact ⟨before, after, middle, inside, sum, .stay within idle left, right⟩
  | up within later ih =>
      cases first with
      | nil => subst shape; exact split_nil (.up within later) moving
      | cons step rest =>
          obtain ⟨rfl, same⟩ := List.cons.inj shape
          obtain ⟨before, after, middle, inside, sum, left, right⟩ := ih same
          exact ⟨before, after, middle, inside, sum, .up within left, right⟩
  | enter within short standing proper later ih =>
      cases first with
      | nil =>
          subst shape
          exact split_nil (.enter within short standing proper later) moving
      | cons step rest =>
          obtain ⟨rfl, same⟩ := List.cons.inj shape
          obtain ⟨before, after, middle, inside, sum, left, right⟩ := ih same
          exact ⟨before, after, middle, inside, sum,
            .enter within short standing proper left, right⟩
  | @follow links location name target rest place within short standing later ih =>
      cases first with
      | nil =>
          subst shape
          exact split_nil (.follow within short standing later) moving
      | cons step tail =>
          rw [List.cons_append] at shape
          obtain ⟨rfl, same⟩ := List.cons.inj shape
          have longer : (Path.steps target ++ tail) ++ second =
              Path.steps target ++ rest := by
            rw [List.append_assoc, same]
          obtain ⟨before, after, middle, inside, sum, left, right⟩ := ih longer
          exact ⟨before + 1, after, middle,
            inside, by omega, .follow within short standing left, right⟩

/-! ## Resolving along routes -/

/-- An answer is reached by a route that follows no more links than it may. -/
theorem of_walk {creating : Bool} {most : Nat}
    {follow : Location → List Path.Step → Except IoError Place}
    (followed : ∀ {start rest}, follow start rest = .ok place →
      ∃ used, used + 1 ≤ most ∧ Route root used start rest place)
    (answered : walk root creating follow location steps = .ok place) :
    ∃ used, used ≤ most ∧ Route root used location steps place := by
  induction steps generalizing location with
  | nil =>
      rw [walk] at answered
      cases standing : root.find? location with
      | none => rw [standing] at answered; cases answered
      | some node =>
          rw [standing] at answered
          cases answered
          exact ⟨0, Nat.zero_le _, .arrive standing⟩
  | cons step rest ih =>
      by_cases within : root.shape? location = some .dir
      · cases step with
        | stay =>
            rw [walk_idle within (.inl rfl)] at answered
            obtain ⟨used, few, later⟩ := ih answered
            exact ⟨used, few, .stay within (.inl rfl) later⟩
        | settle =>
            rw [walk_idle within (.inr rfl)] at answered
            obtain ⟨used, few, later⟩ := ih answered
            exact ⟨used, few, .stay within (.inr rfl) later⟩
        | up =>
            rw [walk_up within] at answered
            obtain ⟨used, few, later⟩ := ih answered
            exact ⟨used, few, .up within later⟩
        | enter name =>
            obtain ⟨short, bare⟩ := enterable_of_walk within answered
            rw [walk_enter within short bare] at answered
            cases standing : root.shape? (location ++ [name]) with
            | none =>
                rw [standing] at answered
                by_cases last : rest = []
                · subst last
                  cases answered
                  exact ⟨0, Nat.zero_le _, .vacant within short standing⟩
                · simp only [if_neg last] at answered
                  cases answered
            | some shape =>
                rw [standing] at answered
                cases shape with
                | link target =>
                    obtain ⟨used, few, later⟩ := followed answered
                    exact ⟨used + 1, few, .follow within short standing later⟩
                | file content =>
                    obtain ⟨used, few, later⟩ := ih answered
                    exact ⟨used, few, .enter within short standing (by simp) later⟩
                | dir =>
                    obtain ⟨used, few, later⟩ := ih answered
                    exact ⟨used, few, .enter within short standing (by simp) later⟩
      · rw [walk_of_not_dir within] at answered
        cases answered

theorem of_locate {creating : Bool} {most : Nat}
    (answered : locate root creating most location steps = .ok place) :
    ∃ used, used ≤ most ∧ Route root used location steps place := by
  induction most generalizing location steps with
  | zero =>
      have walked : walk root creating (fun _ _ => .error .tooManyLinks)
          location steps =
          .ok place := answered
      apply of_walk _ walked
      intro start rest refused
      cases refused
  | succ most ih =>
      have walked : walk root creating (locate root creating most) location
          steps = .ok place :=
        answered
      apply of_walk _ walked
      intro start rest located
      obtain ⟨used, few, route⟩ := ih located
      exact ⟨used, Nat.succ_le_succ few, route⟩

/-- Every number of links allows for the same single steps. -/
theorem exists_locate_eq_walk (root : Node) (creating : Bool) (most : Nat) :
    ∃ follow, locate root creating most = walk root creating follow := by
  cases most <;> exact ⟨_, rfl⟩

/-- Where a file may be created, its name is not followed by a separator
alone. -/
theorem bare_of_writable {creating : Bool}
    (later : Route root links location steps place)
    (writable : creating = true →
      ∀ goal entries, place ≠ .found goal (.dir entries)) :
    creating = true → steps ≠ [.settle] := by
  intro making settled
  subst settled
  obtain ⟨goal, entries, found⟩ := later.dir_of_settled rfl
  exact writable making goal entries found

/-- A route is followed to its end if it has no more links than may be followed.
Where a file may be created it must not lead to a directory, after which a
separator may come. -/
theorem locate_eq_ok {creating : Bool} {most : Nat}
    (route : Route root links location steps place) (few : links ≤ most)
    (writable : creating = true →
      ∀ goal entries, place ≠ .found goal (.dir entries)) :
    locate root creating most location steps = .ok place := by
  induction route generalizing most with
  | arrive standing => cases most <;> simp only [locate, walk, standing]
  | stay within idle later ih =>
      obtain ⟨follow, same⟩ := exists_locate_eq_walk root creating most
      rw [same, walk_idle within idle, ← same]
      exact ih few writable
  | up within later ih =>
      obtain ⟨follow, same⟩ := exists_locate_eq_walk root creating most
      rw [same, walk_up within, ← same]
      exact ih few writable
  | vacant within short free =>
      obtain ⟨follow, same⟩ := exists_locate_eq_walk root creating most
      rw [same, walk_enter within short (by simp), free]
      rfl
  | @enter links location name shape rest place within short standing proper later ih =>
      obtain ⟨follow, same⟩ := exists_locate_eq_walk root creating most
      have onwards := ih few writable
      rw [same] at onwards ⊢
      rw [walk_enter within short (later.bare_of_writable writable), standing]
      cases shape with
      | link target => exact absurd rfl (proper target)
      | file content => exact onwards
      | dir => exact onwards
  | @follow links location name target rest place within short standing later ih =>
      cases most with
      | zero => exact absurd few (Nat.not_succ_le_zero _)
      | succ most =>
          have bare : creating = true → rest ≠ [.settle] := by
            intro making settled
            subst settled
            obtain ⟨goal, inner, reached⟩ :=
              later.dir_of_settled List.getLast?_concat
            exact writable making goal inner reached
          rw [locate, walk_enter within short bare, standing]
          exact ih (Nat.le_of_succ_le_succ few) writable

/-- For reading, resolving and routes are the same. -/
theorem locate_eq_ok_iff {most : Nat} :
    locate root false most location steps = .ok place ↔
      ∃ used, used ≤ most ∧ Route root used location steps place := by
  constructor
  · exact of_locate
  · intro reached
    obtain ⟨used, few, route⟩ := reached
    exact route.locate_eq_ok few (by simp)

theorem place_unique {others : Nat} {other : Place}
    (first : Route root links location steps place)
    (second : Route root others location steps other) : place = other := by
  have here : locate root false (max links others) location steps = .ok place :=
    first.locate_eq_ok (Nat.le_max_left links others) (by simp)
  have there : locate root false (max links others) location steps =
      .ok other :=
    second.locate_eq_ok (Nat.le_max_right links others) (by simp)
  rw [here] at there
  exact Except.ok.inj there

/-! ## Staying -/

/-- Staying in a directory leads nowhere else. -/
theorem of_idle {entries : List (Text × Node)}
    (standing : root.find? location = some (.dir entries))
    (idle : ∀ step ∈ steps, step = .stay ∨ step = .settle) :
    Route root 0 location steps (.found location (.dir entries)) := by
  induction steps with
  | nil => exact .arrive standing
  | cons step rest ih =>
      obtain ⟨first, others⟩ := List.forall_mem_cons.1 idle
      exact .stay (Node.shape?_eq_dir_iff.2 ⟨entries, standing⟩) first
        (ih others)

/-- A route to a directory is one without the steps at its end that stay
there. -/
theorem strip_idle {first second : List Path.Step} {goal : Location}
    {entries : List (Text × Node)}
    (route : Route root links location (first ++ second) (.found goal (.dir entries)))
    (idle : ∀ step ∈ second, step = .stay ∨ step = .settle) :
    ∃ fewer, fewer ≤ links ∧
      Route root fewer location first (.found goal (.dir entries)) := by
  by_cases moving : second = []
  · rw [moving, List.append_nil] at route
    exact ⟨links, Nat.le_refl _, route⟩
  · obtain ⟨before, after, middle, others, sum, leading, staying⟩ :=
      route.split moving
    have same := staying.place_unique (of_idle leading.find?_of_found idle)
    cases same
    exact ⟨before, by omega, leading⟩

/-! ## Routes in a changed tree -/

/-- In a tree that keeps what another holds, steps lead to the same location, as
long as something that is no link stands there. -/
theorem keep {after : Node} {node : Node}
    (route : Route root links location steps place) (keeps : root.Keeps after)
    (standing : after.find? place.location = some node)
    (proper : ∀ target, node ≠ .link target) :
    Route after links location steps (.found place.location node) := by
  induction route with
  | arrive stood => exact .arrive standing
  | stay within idle later ih =>
      exact .stay (keeps.dir within) idle (ih standing)
  | up within later ih => exact .up (keeps.dir within) (ih standing)
  | vacant within short free =>
      have unlinked : ∀ target, node.shape ≠ .link target := by
        intro target linked
        exact proper target (Node.shape_eq_link_iff.1 linked)
      exact .enter (keeps.dir within) short
        (Node.shape?_of_find? standing) unlinked
        (.arrive standing)
  | enter within short stood unlinked later ih =>
      obtain ⟨shape, stays, still⟩ := keeps.proper stood unlinked
      exact .enter (keeps.dir within) short stays still (ih standing)
  | follow within short linked later ih =>
      exact .follow (keeps.dir within) short (keeps.link linked) (ih standing)

end Route

end FileSystem

end LiterateBook
