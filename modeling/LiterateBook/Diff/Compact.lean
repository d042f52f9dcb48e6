import LiterateBook.Diff.Edit

/-!
# Compact edit scripts

The edits of a script are moved up and then down as far as they go, so that
edits of one kind meet and become one. An insertion passes a run of kept lines
when its own lines repeat there; a removal passes only insertions. Each move
leaves what the script reads as. At last the removals between two runs of kept
lines are put before the insertions there.
-/

namespace LiterateBook

namespace Diff

/-- The number of edits and lines in a part of a script. -/
def weight : List Edit → Nat
  | [] => 0
  | edit :: rest => edit.lines.length + 1 + weight rest

/-- The lines by which an insertion may move up over kept lines before it. -/
def slackUp (edit above : Edit) : List Text :=
  if edit.action = .insert then commonEnd above.lines edit.lines else []

/-- The lines by which an insertion may move down over kept lines after it. -/
def slackDown (edit below : Edit) : List Text :=
  if edit.action = .insert then commonStart below.lines edit.lines else []

theorem length_slackUp_le (edit above : Edit) :
    (slackUp edit above).length ≤ above.lines.length := by
  unfold slackUp
  split
  · exact (commonEnd_ends_both _ _).1.length_le
  · exact Nat.zero_le _

theorem length_slackDown_le (edit below : Edit) :
    (slackDown edit below).length ≤ below.lines.length := by
  unfold slackDown
  split
  · exact (commonStart_starts_both _ _).1.length_le
  · exact Nat.zero_le _

/-- A part of a script weighs more with an edit before it. -/
theorem weight_cons (edit : Edit) (rest : List Edit) :
    weight (edit :: rest) = edit.lines.length + 1 + weight rest := rfl

/-- Kept lines that become fewer weigh less. -/
theorem weight_shrunk {lines shorter : List Text}
    (shrinks : shorter.length < lines.length) (action : Action)
    (rest : List Edit) :
    weight (if shorter = [] then rest else ⟨.keep, shorter⟩ :: rest) <
      weight (⟨action, lines⟩ :: rest) := by
  split <;> simp only [weight_cons] <;> omega

/-- Add kept lines in front of a part of a script. -/
def keepBefore (lines : List Text) : List Edit → List Edit
  | ⟨.keep, others⟩ :: rest => ⟨.keep, lines ++ others⟩ :: rest
  | script => ⟨.keep, lines⟩ :: script

/-- Add kept lines after a part of a script that is given last edit first. -/
def keepAfter (lines : List Text) : List Edit → List Edit
  | ⟨.keep, others⟩ :: rest => ⟨.keep, others ++ lines⟩ :: rest
  | script => ⟨.keep, lines⟩ :: script

/-- A place in a script: the edits above, last one first, an edit, and the edits
below. -/
structure Place where
  above : List Edit
  edit : Edit
  below : List Edit

namespace Place

/-- The whole script around a place. -/
def script (place : Place) : List Edit :=
  place.above.reverse ++ place.edit :: place.below

/-- Move the edit up as far as it goes. -/
def moveUp (place : Place) : Place :=
  match _shape : place.above with
  | [] => place
  | previous :: above =>
    if previous.action = .keep then
      let slack := slackUp place.edit previous
      if slack = [] then
        if previous.lines = [] then moveUp { place with above }
        else place
      else
        let kept := previous.lines.take (previous.lines.length - slack.length)
        let moved : Edit := ⟨place.edit.action,
          slack ++ place.edit.lines.take
            (place.edit.lines.length - slack.length)⟩
        let below := keepBefore slack place.below
        moveUp ⟨if kept = [] then above else ⟨.keep, kept⟩ :: above,
          moved, below⟩
    else if previous.action = place.edit.action then
      moveUp ⟨above, ⟨place.edit.action, previous.lines ++ place.edit.lines⟩,
        place.below⟩
    else moveUp ⟨above, place.edit, previous :: place.below⟩
termination_by weight place.above
decreasing_by
  · rw [_shape, weight_cons]
    show weight above < _
    omega
  · rename_i some_slack
    have bound := length_slackUp_le place.edit previous
    have positive : 0 < (slackUp place.edit previous).length :=
      List.length_pos_iff.2 some_slack
    rw [_shape]
    refine weight_shrunk ?_ previous.action above
    rw [List.length_take]
    omega
  · rw [_shape, weight_cons]
    show weight above < _
    omega
  · rw [_shape, weight_cons]
    show weight above < _
    omega

/-- Move the edit down as far as it goes. -/
def moveDown (place : Place) : Place :=
  match _shape : place.below with
  | [] => place
  | next :: below =>
    if next.action = .keep then
      let slack := slackDown place.edit next
      if slack = [] then
        if next.lines = [] then moveDown { place with below }
        else place
      else
        let kept := next.lines.drop slack.length
        let moved : Edit :=
          ⟨place.edit.action, place.edit.lines.drop slack.length ++ slack⟩
        let above := keepAfter slack place.above
        moveDown ⟨above, moved, if kept = [] then below else ⟨.keep, kept⟩ :: below⟩
    else if next.action = place.edit.action then
      moveDown ⟨place.above,
        ⟨place.edit.action, place.edit.lines ++ next.lines⟩, below⟩
    else moveDown ⟨next :: place.above, place.edit, below⟩
termination_by weight place.below
decreasing_by
  · rw [_shape, weight_cons]
    show weight below < _
    omega
  · rename_i some_slack
    have bound := length_slackDown_le place.edit next
    have positive : 0 < (slackDown place.edit next).length :=
      List.length_pos_iff.2 some_slack
    rw [_shape]
    refine weight_shrunk ?_ next.action below
    rw [List.length_drop]
    omega
  · rw [_shape, weight_cons]
    show weight below < _
    omega
  · rw [_shape, weight_cons]
    show weight below < _
    omega

end Place

/-- Move every edit with the action given, from the top on. Fuel bounds the
number of edits that are looked at. -/
def settle (action : Action) : Nat → List Edit → List Edit → List Edit
  | _, above, [] => above.reverse
  | 0, above, below => above.reverse ++ below
  | fuel + 1, above, edit :: below =>
    if edit.action = action then
      let place := (Place.mk above edit below).moveUp.moveDown
      settle action fuel (place.edit :: place.above) place.below
    else settle action fuel (edit :: above) below

/-- Move all removals, then all insertions. -/
def compact (script : List Edit) : List Edit :=
  let fuel := (weight script + 1) * (weight script + 1)
  settle .insert fuel [] (settle .remove fuel [] script)

/-- Put the removals between two runs of kept lines before the insertions there,
given those read since the last run. -/
def group (removed inserted : List Text) : List Edit → List Edit
  | [] => [⟨.remove, removed⟩, ⟨.insert, inserted⟩]
  | ⟨.keep, lines⟩ :: rest =>
    ⟨.remove, removed⟩ :: ⟨.insert, inserted⟩ :: ⟨.keep, lines⟩ ::
      group [] [] rest
  | ⟨.remove, lines⟩ :: rest => group (removed ++ lines) inserted rest
  | ⟨.insert, lines⟩ :: rest => group removed (inserted ++ lines) rest

end Diff

end LiterateBook
