import LiterateBook.Diff

/-!
# What edit scripts read as

However a script is found, it reads as the two lists it was made for, and moving
its edits about leaves both readings alone. A search cuts both lists in two, and
the two readings are the readings of the parts; a move of an edit passes edits
that do not show in the same reading, or kept lines that repeat in the edit. So
the difference of two texts is a script for their lines, and between equal texts
it keeps every line.
-/

namespace LiterateBook

namespace Diff

variable {first second : List Text} {script above below : List Edit}
  {edit : Edit}
variable {action : Action}

/-- A script that reads as one list before its edits and as another after
them. -/
structure Reads (script : List Edit) (first second : List Text) : Prop where
  before : before script = first
  after : after script = second

namespace Reads

theorem nil : Reads [] [] [] :=
  ⟨rfl, rfl⟩

theorem append {other : List Edit} {third fourth : List Text}
    (reads : Reads script first second) (alsoReads : Reads other third fourth) :
    Reads (script ++ other) (first ++ third) (second ++ fourth) := by
  constructor
  · rw [before_append, reads.before, alsoReads.before]
  · rw [after_append, reads.after, alsoReads.after]

theorem runOf (action : Action) (lines : List Text) :
    Reads (runOf action lines) (if action = .insert then [] else lines)
      (if action = .remove then [] else lines) := by
  rw [Diff.runOf]
  split
  · rename_i empty
    subst empty
    simpa using Reads.nil
  · constructor
    · rw [before_cons, before_nil, List.append_nil]
    · rw [after_cons, after_nil, List.append_nil]

end Reads

/-! ## Searching -/

theorem reads_replace (first second : List Text) :
    Reads (runOf .remove first ++ runOf .insert second) first second := by
  have removed := Reads.runOf .remove first
  have inserted := Reads.runOf .insert second
  simpa using removed.append inserted

/-- Two lists that go on from a common start and come to a common end read as a
script between them does, with both kept. -/
theorem Reads.between {start finish : List Text}
    (reads : Reads script first second) :
    Reads (Diff.runOf .keep start ++ script ++ Diff.runOf .keep finish)
      (start ++ first ++ finish) (start ++ second ++ finish) := by
  have started : Reads (Diff.runOf .keep start) start start :=
    Reads.runOf .keep start
  have finished : Reads (Diff.runOf .keep finish) finish finish :=
    Reads.runOf .keep finish
  exact (started.append reads).append finished

theorem commonStart_append_drop (first second : List Text) :
    commonStart first second ++
      first.drop (commonStart first second).length = first ∧
      commonStart first second ++
        second.drop (commonStart first second).length = second :=
  ⟨List.prefix_iff_eq_append.1 (commonStart_starts_both first second).1,
    List.prefix_iff_eq_append.1 (commonStart_starts_both first second).2⟩

theorem take_append_commonEnd (first second : List Text) :
    first.take (first.length - (commonEnd first second).length) ++
      commonEnd first second = first ∧
      second.take (second.length - (commonEnd first second).length) ++
        commonEnd first second =
        second :=
  ⟨List.suffix_iff_eq_append.1 (commonEnd_ends_both first second).1,
    List.suffix_iff_eq_append.1 (commonEnd_ends_both first second).2⟩

/-- Wherever a search cuts the lists, its script reads as both. What the lists
have in common at their ends is set aside first, so that the search is about
appended lists and no longer about lengths. -/
theorem reads_searchFrom (fuel : Nat) (first second : List Text) :
    Reads (searchFrom fuel first second) first second := by
  induction fuel generalizing first second with
  | zero => exact reads_replace first second
  | succ fuel ih =>
      obtain ⟨firstStart, secondStart⟩ := commonStart_append_drop first second
      rw [searchFrom]
      generalize commonStart first second = start at firstStart secondStart ⊢
      generalize first.drop start.length = firstRest at firstStart ⊢
      generalize second.drop start.length = secondRest at secondStart ⊢
      obtain ⟨firstEnd, secondEnd⟩ := take_append_commonEnd firstRest secondRest
      generalize commonEnd firstRest secondRest = finish at firstEnd secondEnd ⊢
      generalize firstRest.take (firstRest.length - finish.length) =
        firstInner at firstEnd ⊢
      generalize secondRest.take (secondRest.length - finish.length) =
        secondInner at secondEnd ⊢
      subst firstStart secondStart firstEnd secondEnd
      rw [← List.append_assoc, ← List.append_assoc]
      apply Reads.between
      split
      · exact reads_replace firstInner secondInner
      · split
        · rename_i x y _
          have cut := (ih (firstInner.take x) (secondInner.take y)).append
            (ih (firstInner.drop x) (secondInner.drop y))
          rwa [List.take_append_drop, List.take_append_drop] at cut
        · exact reads_replace firstInner secondInner

theorem reads_search (first second : List Text) :
    Reads (search first second) first second :=
  reads_searchFrom _ first second

/-! ## Scripts that read alike -/

/-- Scripts with the same two readings. -/
structure Alike (script other : List Edit) : Prop where
  before : before script = before other
  after : after script = after other

namespace Alike

variable {other third fourth : List Edit} {neighbour : Edit}
  {kept slack : List Text}

theorem refl (script : List Edit) : Alike script script :=
  ⟨rfl, rfl⟩

theorem trans (alike : Alike script other) (alsoAlike : Alike other third) :
    Alike script third :=
  ⟨alike.before.trans alsoAlike.before, alike.after.trans alsoAlike.after⟩

theorem append (alike : Alike script other) (alsoAlike : Alike third fourth) :
    Alike (script ++ third) (other ++ fourth) := by
  constructor
  · rw [before_append, before_append, alike.before, alsoAlike.before]
  · rw [after_append, after_append, alike.after, alsoAlike.after]

theorem cons (edit : Edit) (alike : Alike script other) :
    Alike (edit :: script) (edit :: other) :=
  (refl [edit]).append alike

theorem idle (edit : Edit) (empty : edit.lines = []) (script : List Edit) :
    Alike script (edit :: script) := by
  constructor
  · rw [before_cons, empty, ite_self, List.nil_append]
  · rw [after_cons, empty, ite_self, List.nil_append]

/-- Empty runs of removed and inserted lines need not be there. -/
theorem nothing (script : List Edit) :
    Alike (⟨.remove, []⟩ :: ⟨.insert, []⟩ :: script) script := by
  constructor <;> simp [before_cons, after_cons]

/-- Edits of one kind that meet become one. -/
theorem merge (edit neighbour : Edit) (same : edit.action = neighbour.action)
    (script : List Edit) :
    Alike (⟨edit.action, edit.lines ++ neighbour.lines⟩ :: script)
      (edit :: neighbour :: script) := by
  constructor
  · by_cases inserted : edit.action = .insert <;>
      simp [before_cons, ← same, inserted]
  · by_cases removed : edit.action = .remove <;>
      simp [after_cons, ← same, removed]

/-- A removal and an insertion pass each other, since no reading shows both. -/
theorem swap (edit neighbour : Edit) (moves : edit.action ≠ .keep)
    (alsoMoves : neighbour.action ≠ .keep)
    (differ : edit.action ≠ neighbour.action) (script : List Edit) :
    Alike (edit :: neighbour :: script) (neighbour :: edit :: script) := by
  obtain ⟨action, lines⟩ := edit
  obtain ⟨other, others⟩ := neighbour
  cases action <;> cases other <;>
    first
      | exact absurd rfl moves
      | exact absurd rfl alsoMoves
      | exact absurd rfl differ
      | exact ⟨rfl, rfl⟩

/-- An insertion passes kept lines before it that it ends with. -/
theorem slideUp (kept slack lines : List Text) (script : List Edit) :
    Alike (⟨.keep, kept⟩ :: ⟨.insert, slack ++ lines⟩ :: ⟨.keep, slack⟩ :: script)
      (⟨.keep, kept ++ slack⟩ :: ⟨.insert, lines ++ slack⟩ :: script) := by
  constructor <;> simp [before_cons, after_cons]

/-- An insertion passes kept lines after it that it starts with. -/
theorem slideDown (kept slack lines : List Text) (script : List Edit) :
    Alike (⟨.keep, slack⟩ :: ⟨.insert, lines ++ slack⟩ :: ⟨.keep, kept⟩ :: script)
      (⟨.insert, slack ++ lines⟩ :: ⟨.keep, slack ++ kept⟩ :: script) := by
  constructor <;> simp [before_cons, after_cons]

theorem keepBefore (lines : List Text) (script : List Edit) :
    Alike (keepBefore lines script) (⟨.keep, lines⟩ :: script) := by
  fun_cases Diff.keepBefore lines script with
  | case1 others rest =>
      exact merge ⟨.keep, lines⟩ ⟨.keep, others⟩ rfl rest
  | case2 => exact refl _

theorem keepAfter (lines : List Text) (above : List Edit) :
    Alike (keepAfter lines above).reverse
      (above.reverse ++ [⟨.keep, lines⟩]) := by
  fun_cases Diff.keepAfter lines above with
  | case1 others rest =>
      have merged := (refl rest.reverse).append
        (merge ⟨.keep, others⟩ ⟨.keep, lines⟩ rfl [])
      simpa using merged
  | case2 => exact List.reverse_cons ▸ refl _

/-- Kept lines of which none are left are left out. -/
theorem keptBefore (kept : List Text) (script : List Edit) :
    Alike (if kept = [] then script else ⟨.keep, kept⟩ :: script)
      (⟨.keep, kept⟩ :: script) := by
  split
  · rename_i empty
    exact idle ⟨.keep, kept⟩ empty script
  · exact refl _

theorem keptAfter (kept : List Text) (above : List Edit) :
    Alike (if kept = [] then above else ⟨.keep, kept⟩ :: above).reverse
      (above.reverse ++ [⟨.keep, kept⟩]) := by
  split
  · rename_i empty
    simpa using (refl above.reverse).append (idle ⟨.keep, kept⟩ empty [])
  · exact List.reverse_cons ▸ refl _

end Alike

theorem Reads.of_alike {other : List Edit} (reads : Reads script first second)
    (alike : Alike other script) : Reads other first second :=
  ⟨alike.before.trans reads.before, alike.after.trans reads.after⟩

/-! ## Moving edits -/

theorem slackUp_of_ne_nil {previous : Edit}
    (some : slackUp edit previous ≠ []) :
    edit.action = .insert ∧
      slackUp edit previous = commonEnd previous.lines edit.lines := by
  rw [slackUp] at some ⊢
  split at some
  · rename_i inserted
    exact ⟨inserted, if_pos inserted⟩
  · exact absurd rfl some

theorem slackDown_of_ne_nil {next : Edit} (some : slackDown edit next ≠ []) :
    edit.action = .insert ∧
      slackDown edit next = commonStart next.lines edit.lines := by
  rw [slackDown] at some ⊢
  split at some
  · rename_i inserted
    exact ⟨inserted, if_pos inserted⟩
  · exact absurd rfl some

namespace Place

variable {place : Place} {previous next : Edit}

theorem script_of_above (shape : place.above = previous :: above) :
    place.script = above.reverse ++ previous :: place.edit :: place.below := by
  simp [script, shape]

theorem script_of_below (shape : place.below = next :: below) :
    place.script = place.above.reverse ++ place.edit :: next :: below := by
  simp [script, shape]

/-- A step up over kept lines leaves the readings alone. -/
theorem alike_stepUp (kept : previous.action = .keep)
    (some : slackUp edit previous ≠ []) (above below : List Edit) :
    let slack := slackUp edit previous
    let rest := previous.lines.take (previous.lines.length - slack.length)
    Alike
      (Place.script ⟨if rest = [] then above else ⟨.keep, rest⟩ :: above,
        ⟨edit.action, slack ++ edit.lines.take (edit.lines.length - slack.length)⟩,
        keepBefore slack below⟩)
      (above.reverse ++ previous :: edit :: below) := by
  obtain ⟨action, lines⟩ := edit
  obtain ⟨previousAction, previousLines⟩ := previous
  obtain ⟨inserted, slackIs⟩ := slackUp_of_ne_nil some
  obtain ⟨previousCut, cut⟩ := take_append_commonEnd previousLines lines
  rw [slackIs]
  simp only at kept inserted ⊢
  subst kept inserted
  generalize commonEnd previousLines lines = slack at previousCut cut ⊢
  generalize previousLines.take (previousLines.length - slack.length) =
    rest at previousCut ⊢
  generalize lines.take (lines.length - slack.length) = shorter at cut ⊢
  subst previousCut cut
  have split := (Alike.keptAfter rest above).append
    (Alike.cons ⟨.insert, slack ++ shorter⟩ (Alike.keepBefore slack below))
  refine split.trans ?_
  rw [List.append_assoc]
  exact (Alike.refl _).append (.slideUp rest slack shorter below)

theorem alike_stepDown (kept : next.action = .keep)
    (some : slackDown edit next ≠ []) (above below : List Edit) :
    let slack := slackDown edit next
    let rest := next.lines.drop slack.length
    Alike
      (Place.script ⟨keepAfter slack above,
        ⟨edit.action, edit.lines.drop slack.length ++ slack⟩,
        if rest = [] then below else ⟨.keep, rest⟩ :: below⟩)
      (above.reverse ++ edit :: next :: below) := by
  obtain ⟨action, lines⟩ := edit
  obtain ⟨nextAction, nextLines⟩ := next
  obtain ⟨inserted, slackIs⟩ := slackDown_of_ne_nil some
  obtain ⟨nextCut, cut⟩ := commonStart_append_drop nextLines lines
  rw [slackIs]
  simp only at kept inserted ⊢
  subst kept inserted
  generalize commonStart nextLines lines = slack at nextCut cut ⊢
  generalize nextLines.drop slack.length = rest at nextCut ⊢
  generalize lines.drop slack.length = shorter at cut ⊢
  subst nextCut cut
  have split := (Alike.keepAfter slack above).append
    (Alike.cons ⟨.insert, shorter ++ slack⟩ (Alike.keptBefore rest below))
  refine split.trans ?_
  rw [List.append_assoc]
  exact (Alike.refl _).append (.slideDown rest slack shorter below)

/-- However far an edit moves up, the readings stay. Its action stays too, since
kept lines could not pass other edits. -/
theorem alike_moveUp (place : Place) (moves : place.edit.action ≠ .keep) :
    Alike place.moveUp.script place.script ∧
      place.moveUp.edit.action = place.edit.action := by
  fun_induction moveUp place with
  | case1 | case3 => exact ⟨.refl _, rfl⟩
  | case2 place previous above shape _ _ _ empty ih =>
      obtain ⟨alike, same⟩ := ih moves
      refine ⟨alike.trans ?_, same⟩
      rw [script_of_above shape]
      exact (Alike.refl _).append (.idle previous empty _)
  | case4 place previous above shape kept slack some rest moved below ih =>
      obtain ⟨alike, same⟩ := ih moves
      refine ⟨alike.trans ?_, same⟩
      rw [script_of_above shape]
      exact alike_stepUp kept some above place.below
  | case5 place previous above shape _ together ih =>
      obtain ⟨alike, same⟩ := ih moves
      refine ⟨alike.trans ?_, same⟩
      rw [script_of_above shape, ← together]
      exact (Alike.refl _).append (.merge previous place.edit together _)
  | case6 place previous above shape notKept apart ih =>
      obtain ⟨alike, same⟩ := ih moves
      refine ⟨alike.trans ?_, same⟩
      rw [script_of_above shape]
      exact (Alike.refl _).append
        (.swap place.edit previous moves notKept (Ne.symm apart) _)

theorem alike_moveDown (place : Place) (moves : place.edit.action ≠ .keep) :
    Alike place.moveDown.script place.script ∧
      place.moveDown.edit.action = place.edit.action := by
  fun_induction moveDown place with
  | case1 | case3 => exact ⟨.refl _, rfl⟩
  | case2 place next below shape _ _ _ empty ih =>
      obtain ⟨alike, same⟩ := ih moves
      refine ⟨alike.trans ?_, same⟩
      rw [script_of_below shape]
      exact (Alike.refl _).append ((Alike.idle next empty _).cons _)
  | case4 place next below shape kept slack some rest moved above ih =>
      obtain ⟨alike, same⟩ := ih moves
      refine ⟨alike.trans ?_, same⟩
      rw [script_of_below shape]
      exact alike_stepDown kept some place.above below
  | case5 place next below shape _ together ih =>
      obtain ⟨alike, same⟩ := ih moves
      refine ⟨alike.trans ?_, same⟩
      rw [script_of_below shape]
      exact (Alike.refl _).append (.merge place.edit next together.symm _)
  | case6 place next below shape notKept apart ih =>
      obtain ⟨alike, same⟩ := ih moves
      refine ⟨alike.trans ?_, same⟩
      rw [script_of_below shape, script]
      simp only [List.reverse_cons, List.append_assoc, List.singleton_append]
      exact (Alike.refl _).append (.swap next place.edit notKept moves apart _)

end Place

theorem alike_settle (action : Action) (moves : action ≠ .keep) (fuel : Nat)
    (above below : List Edit) :
    Alike (settle action fuel above below) (above.reverse ++ below) := by
  fun_induction settle action fuel above below with
  | case1 => simpa using Alike.refl _
  | case2 => exact .refl _
  | case3 fuel above edit below matched place ih =>
      have placed := Place.alike_moveUp ⟨above, edit, below⟩ (matched ▸ moves)
      have lowered := Place.alike_moveDown _ (placed.2 ▸ matched ▸ moves)
      refine ih.trans (.trans ?_ (lowered.1.trans placed.1))
      simpa [Place.script] using Alike.refl _
  | case4 fuel above edit below _ ih => simpa using ih

theorem alike_compact (script : List Edit) : Alike (compact script) script := by
  have removals (fuel : Nat) : Alike (settle .remove fuel [] script) script :=
    alike_settle .remove nofun fuel [] script
  exact (alike_settle .insert nofun _ [] _).trans (removals _)

/-- Grouping puts what was gathered in front of the script. -/
theorem alike_group (removed inserted : List Text) (script : List Edit) :
    Alike (group removed inserted script)
      (⟨.remove, removed⟩ :: ⟨.insert, inserted⟩ :: script) := by
  fun_induction group removed inserted script with
  | case1 => exact .refl _
  | case2 removed inserted lines rest ih =>
      exact .cons _ (.cons _ (.cons _ (ih.trans (.nothing rest))))
  | case3 removed inserted lines rest ih =>
      have passed : Alike (⟨.remove, lines⟩ :: ⟨.insert, inserted⟩ :: rest)
          (⟨.insert, inserted⟩ :: ⟨.remove, lines⟩ :: rest) :=
        .swap ⟨.remove, lines⟩ ⟨.insert, inserted⟩ nofun nofun nofun rest
      refine ih.trans (.trans ?_ (.cons _ passed))
      exact .merge ⟨.remove, removed⟩ ⟨.remove, lines⟩ rfl _
  | case4 removed inserted lines rest ih =>
      refine ih.trans (.cons _ ?_)
      exact .merge ⟨.insert, inserted⟩ ⟨.insert, lines⟩ rfl rest

/-! ## Equal lists -/

theorem commonStart_self (lines : List Text) :
    commonStart lines lines = lines := by
  induction lines with
  | nil => rfl
  | cons line rest ih => rw [commonStart, if_pos rfl, ih]

theorem search_self (lines : List Text) :
    search lines lines = runOf .keep lines := by
  have nothing : commonEnd [] [] = [] := rfl
  rw [search, searchFrom]
  simp [commonStart_self, nothing, runOf]

theorem settle_of_ne (fuel : Nat) (above : List Edit)
    (others : ∀ edit ∈ below, edit.action ≠ action) :
    settle action fuel above below = above.reverse ++ below := by
  fun_induction settle action fuel above below with
  | case1 => rw [List.append_nil]
  | case2 => rfl
  | case3 fuel above edit below matched =>
      exact absurd matched (others edit List.mem_cons_self)
  | case4 fuel above edit below _ ih =>
      rw [ih fun other member => others other (List.mem_cons_of_mem edit member),
        List.reverse_cons, List.append_assoc, List.singleton_append]

theorem settle_runOf_keep (action : Action) (moves : action ≠ .keep)
    (fuel : Nat) (lines : List Text) :
    settle action fuel [] (runOf .keep lines) = runOf .keep lines := by
  apply settle_of_ne
  rw [runOf]
  split <;> simp [moves.symm]

theorem compact_runOf_keep (lines : List Text) :
    compact (runOf .keep lines) = runOf .keep lines := by
  rw [compact, settle_runOf_keep .remove nofun, settle_runOf_keep .insert nofun]

/-! ## Changes -/

/-- The changes of a script, one for each line. -/
def changesOf (script : List Edit) : List (Action × Text) :=
  script.flatMap fun edit => edit.lines.map fun line => (edit.action, line)

/-- Changes that turn one list of lines into another: without the inserted lines
they are the one list, without the removed lines the other. -/
structure IsScript (changes : List (Action × Text)) (first second : List Text) :
    Prop where
  first_eq : (changes.filter (·.1 ≠ .insert)).map (·.2) = first
  second_eq : (changes.filter (·.1 ≠ .remove)).map (·.2) = second

theorem filter_changesOf (action : Action) (script : List Edit) :
    ((changesOf script).filter (·.1 ≠ action)).map (·.2) =
      (script.filter (·.action ≠ action)).flatMap (·.lines) := by
  induction script with
  | nil => rfl
  | cons edit rest ih =>
      rw [changesOf] at ih ⊢
      rw [List.flatMap_cons, List.filter_append, List.map_append, ih]
      by_cases same : edit.action = action <;>
        simp [List.filter_map, Function.comp_def, same]

/-- The difference of two texts turns the lines of the one into the lines of the
other. -/
theorem isScript_edits (current expected : Text) :
    IsScript (edits current expected) (lines current) (lines expected) := by
  have reads : Reads
      (group [] [] (compact (search (lines current) (lines expected))))
      (lines current) (lines expected) := by
    apply (reads_search (lines current) (lines expected)).of_alike
    apply (alike_group [] [] _).trans
    exact .trans (.nothing _) (alike_compact _)
  constructor
  · exact (filter_changesOf .insert _).trans reads.before
  · exact (filter_changesOf .remove _).trans reads.after

theorem changesOf_group_runOf_keep (lines : List Text) :
    changesOf (group [] [] (runOf .keep lines)) = lines.map (.keep, ·) := by
  rw [runOf]
  split <;> simp [group, changesOf, *]

theorem edits_self (text : Text) :
    edits text text = (lines text).map (.keep, ·) := by
  rw [edits, search_self, compact_runOf_keep]
  exact changesOf_group_runOf_keep (lines text)

end Diff

end LiterateBook
