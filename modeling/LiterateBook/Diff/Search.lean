import LiterateBook.Diff.Edit

/-!
# Shortest edit scripts

A script is found by cutting both lists where a shortest path through their edit
graph passes its middle, and going on with the two halves. The middle is found
by searching from both ends at once, one more edit at a time, until the two
searches meet on a diagonal. Wherever the lists are cut, the script reads as
both lists; the search only makes it short.
-/

namespace LiterateBook

namespace Diff

/-! ## The middle of a path -/

/-- The farthest points of a search on its diagonals, as positions in the first
list. Diagonals are numbered from `-offset` up. -/
structure Frontier where
  offset : Nat
  reach : Array Nat

namespace Frontier

/-- A frontier for diagonals up to the given distance, with nothing reached. -/
def start (distance : Nat) : Frontier :=
  ⟨distance + 1, Array.replicate (2 * distance + 3) 0⟩

/-- How far the search got on a diagonal. -/
def get (frontier : Frontier) (diagonal : Int) : Nat :=
  frontier.reach.getD (diagonal + frontier.offset).toNat 0

/-- Note how far the search got on a diagonal. -/
def set (frontier : Frontier) (diagonal : Int) (reached : Nat) : Frontier :=
  { frontier with reach :=
    frontier.reach.setIfInBounds (diagonal + frontier.offset).toNat reached }

/-- Where a search with one more edit starts on a diagonal: from the neighbour
that is farther on, and from the one below when both are equally far. -/
def entry (frontier : Frontier) (edits : Nat) (diagonal : Int) : Nat :=
  let below := frontier.get (diagonal - 1)
  let above := frontier.get (diagonal + 1)
  if diagonal = -(edits : Int) ∨ (diagonal ≠ edits ∧ below < above) then above
  else below + 1

end Frontier

/-- The number of equal lines from a point of the edit graph on, at most
`fuel`. -/
def run (first second : Array Text) (x y : Nat) : Nat → Nat
  | 0 => 0
  | fuel + 1 =>
    match first[x]?, second[y]? with
    | some a, some b =>
      if a = b then run first second (x + 1) (y + 1) fuel + 1 else 0
    | _, _ => 0

/-- The number of equal lines from a point whose position in the second list may
lie outside it. -/
def runAt (first second : Array Text) (x : Nat) (y : Int) : Nat :=
  if 0 ≤ y then run first second x y.toNat (first.size - x) else 0

/-- The diagonals that a number of edits leads to, the last one first. -/
def diagonals (edits : Nat) : List Int :=
  (List.range (edits + 1)).map fun (i : Nat) => (edits : Int) - 2 * (i : Int)

/-- Both lists, and both lists backwards. -/
structure Graph where
  first : Array Text
  second : Array Text
  firstBack : Array Text
  secondBack : Array Text

namespace Graph

/-- The graph of two lists. -/
def ofLists (first second : List Text) : Graph :=
  ⟨first.toArray, second.toArray, first.reverse.toArray, second.reverse.toArray⟩

/-- The difference of the lengths, the diagonal of the end. -/
def delta (graph : Graph) : Int :=
  (graph.first.size : Int) - graph.second.size

/-- Advance the search from the start on the diagonals given; when it meets the
other one, the point where its last run of equal lines began. -/
def forward (graph : Graph) (edits : Nat) (backward : Frontier) :
    List Int → Frontier → Frontier × Option (Nat × Nat)
  | [], frontier => (frontier, none)
  | k :: rest, frontier =>
    let x := frontier.entry edits k
    let y := (x : Int) - k
    let reached := x + runAt graph.first graph.second x y
    let frontier := frontier.set k reached
    if graph.delta % 2 ≠ 0 ∧ (k - graph.delta).natAbs + 1 ≤ edits ∧
        graph.first.size ≤ reached + backward.get (-(k - graph.delta)) then
      (frontier, some (x, y.toNat))
    else forward graph edits backward rest frontier

/-- Advance the search from the end on the diagonals given; when it meets the
other one, the point where its last run of equal lines ends. -/
def backward (graph : Graph) (edits : Nat) (forward : Frontier) :
    List Int → Frontier → Frontier × Option (Nat × Nat)
  | [], frontier => (frontier, none)
  | k :: rest, frontier =>
    let x := frontier.entry edits k
    let y := (x : Int) - k
    let equal := runAt graph.firstBack graph.secondBack x y
    let reached := x + equal
    let frontier := frontier.set k reached
    if graph.delta % 2 = 0 ∧ (k - graph.delta).natAbs ≤ edits ∧
        graph.first.size ≤ reached + forward.get (-(k - graph.delta)) then
      (frontier, some (graph.first.size - reached, graph.second.size - (y.toNat + equal)))
    else backward graph edits forward rest frontier

/-- Search from both ends with one more edit at a time. -/
def meet (graph : Graph) : Nat → Nat → Frontier → Frontier → Option (Nat × Nat)
  | 0, _, _, _ => none
  | fuel + 1, edits, ahead, back =>
    match graph.forward edits back (diagonals edits) ahead with
    | (_, some point) => some point
    | (ahead, none) =>
      match graph.backward edits ahead (diagonals edits) back with
      | (_, some point) => some point
      | (back, none) => meet graph fuel (edits + 1) ahead back

end Graph

/-- A point that a shortest path from the start to the end of the edit graph
passes. -/
def middle? (first second : List Text) : Option (Nat × Nat) :=
  let graph := Graph.ofLists first second
  let distance := (first.length + second.length + 1) / 2 + 1
  graph.meet distance 0 (.start distance) (.start distance)

/-! ## The script -/

/-- A run of lines with an action, unless there are no lines. -/
def runOf (action : Action) (lines : List Text) : List Edit :=
  if lines = [] then [] else [⟨action, lines⟩]

/-- A script for two lists. Fuel bounds how often the lists are cut; without
fuel everything is removed and inserted anew. -/
def searchFrom : Nat → List Text → List Text → List Edit
  | 0, first, second => runOf .remove first ++ runOf .insert second
  | fuel + 1, first, second =>
    let start := commonStart first second
    let first := first.drop start.length
    let second := second.drop start.length
    let finish := commonEnd first second
    let first := first.take (first.length - finish.length)
    let second := second.take (second.length - finish.length)
    let inner :=
      if first = [] ∨ second = [] then
        runOf .remove first ++ runOf .insert second
      else match middle? first second with
        | some (x, y) =>
          searchFrom fuel (first.take x) (second.take y) ++
            searchFrom fuel (first.drop x) (second.drop y)
        | none => runOf .remove first ++ runOf .insert second
    runOf .keep start ++ inner ++ runOf .keep finish

/-- A shortest script for two lists. -/
def search (first second : List Text) : List Edit :=
  searchFrom (first.length + second.length + 1) first second

end Diff

end LiterateBook
