import LiterateBook.Listing
import LiterateBook.Proofs.FencedListing

/-!
# Remembered indents

A code block remembers its smallest indentation from the first time it is asked
for, and nothing tells whether it does. Blocks are made, cloned, measured,
compared, listed and rendered in any order, and every answer is the one that
lines without any memory give: what is remembered is always what measuring would
give, and measuring leaves everything but the memo as it was.
-/

namespace LiterateBook

namespace CodeBlock

/-! ## Requests and replies -/

/-- Something done with listings, which go by their place in the order in which
they came about. -/
inductive Request where
  | create (lines : List Text)
  | clone (index : Nat)
  | measure (index : Nat)
  | compare (first second : Nat)
  | list (index : Nat)
  | render (options : RenderOptions) (index : Nat)

/-- What a request is answered with; nothing, where it speaks of a listing that
is not there. -/
inductive Reply where
  | none
  | width (width : Nat)
  | same (same : Bool)
  | listed (json : Json)
  | rendered (lines : List Text)

/-- A way to keep listings and to answer requests about them. -/
structure Keeping (α : Type) where
  create : List Text → α
  /-- What asking for the smallest indentation leaves behind. -/
  measured : α → α
  width : α → Nat
  same : α → α → Bool
  listed : α → Json
  rendered : RenderOptions → α → List Text

namespace Keeping

/-- Code blocks remember their smallest indentation. -/
def remembering : Keeping CodeBlock where
  create := ofLines
  measured := CodeBlock.measured
  width := minimumIndent
  same first second := first == second
  listed block := Listing.ofBlock (.code block)
  rendered := RenderOptions.renderCode

/-- Lines that remember nothing are measured again each time. -/
def fresh : Keeping (List Text) where
  create := id
  measured := id
  width := Indent.minimum
  same first second := decide (first = second)
  listed lines := .object [("type".toList, .string "code".toList),
    ("lines".toList, .array (lines.map .string))]
  rendered options lines :=
    "\n".toList ::
      (RenderOptions.fence ++ options.fenceLanguage ++ "\n".toList) ::
      (Indent.remove lines ++ [RenderOptions.fence ++ "\n".toList, "\n".toList])

variable {α : Type}

/-- What a request leaves of the listings kept so far. Rendering asks for the
smallest indentation, too. -/
def after (keeping : Keeping α) (kept : List α) : Request → List α
  | .create lines => kept ++ [keeping.create lines]
  | .clone index => kept ++ kept[index]?.toList
  | .measure index | .render _ index => kept.modify index keeping.measured
  | .compare _ _ | .list _ => kept

/-- The answer to a request. -/
def reply (keeping : Keeping α) (kept : List α) : Request → Reply
  | .create _ | .clone _ => .none
  | .measure index =>
    kept[index]?.elim .none fun listing => .width (keeping.width listing)
  | .compare first second => kept[first]?.elim .none fun listing =>
      kept[second]?.elim .none fun other => .same (keeping.same listing other)
  | .list index =>
    kept[index]?.elim .none fun listing => .listed (keeping.listed listing)
  | .render options index =>
      kept[index]?.elim .none fun listing =>
        .rendered (keeping.rendered options listing)

/-- The listings that requests leave behind, and the answers on the way. -/
def run (keeping : Keeping α) (kept : List α) :
    List Request → List α × List Reply
  | [] => (kept, [])
  | request :: rest =>
    let (last, replies) := keeping.run (keeping.after kept request) rest
    (last, keeping.reply kept request :: replies)

end Keeping

/-! ## One request -/

open Keeping

variable {kept : List CodeBlock} {block : CodeBlock} {index : Nat}

theorem map_lines_modify (kept : List CodeBlock) (index : Nat) :
    (kept.modify index measured).map lines = kept.map lines := by
  apply List.ext_getElem?
  intro place
  rw [List.getElem?_map, List.getElem?_map, List.getElem?_modify]
  cases kept[place]? with
  | none => rfl
  | some block =>
      by_cases asked : index = place
      · simp [asked]
      · simp [asked]

theorem eq_or_eq_measured_of_mem_modify
    (member : block ∈ kept.modify index measured) :
    ∃ other ∈ kept, block = other ∨ block = other.measured := by
  obtain ⟨place, found⟩ := List.mem_iff_getElem?.1 member
  rw [List.getElem?_modify] at found
  obtain ⟨other, stood, same⟩ := Option.map_eq_some_iff.1 found
  refine ⟨other, List.mem_of_getElem? stood, ?_⟩
  by_cases asked : index = place
  · rw [if_pos asked] at same
    exact .inr same.symm
  · rw [if_neg asked] at same
    exact .inl same.symm

/-- A request leaves the lines of the listings as they are without memory. -/
theorem map_lines_after (kept : List CodeBlock) (request : Request) :
    (remembering.after kept request).map lines =
      fresh.after (kept.map lines) request := by
  cases request with
  | create lines => simp [after, remembering, fresh]
  | clone index =>
      rw [after, after, List.map_append, List.getElem?_map]
      cases kept[index]? <;> rfl
  | measure index | render options index =>
      show (kept.modify index measured).map lines =
          (kept.map lines).modify index id
      rw [List.modify_id, map_lines_modify]
  | compare first second | list index => rfl

/-- Whatever a request fills a memo with is what measuring gives. -/
theorem faithful_after (faithful : ∀ block ∈ kept, block.Faithful)
    (request : Request) :
    ∀ block ∈ remembering.after kept request, block.Faithful := by
  cases request with
  | create lines =>
      intro block member
      rcases List.mem_append.1 member with old | new
      · exact faithful block old
      · rw [List.mem_singleton.1 new]
        exact faithful_ofLines lines
  | clone index =>
      intro block member
      rcases List.mem_append.1 member with old | copied
      · exact faithful block old
      · exact faithful block (List.mem_of_getElem? (Option.mem_toList.1 copied))
  | measure index | render options index =>
      intro block member
      obtain ⟨other, stood, rfl | rfl⟩ := eq_or_eq_measured_of_mem_modify member
      · exact faithful block stood
      · exact (faithful other stood).measured
  | compare first second | list index => exact faithful

/-- A faithful memo changes nothing in how a block is rendered. -/
theorem Faithful.renderCode_eq (faithful : block.Faithful)
    (options : RenderOptions) :
    options.renderCode block = fresh.rendered options block.lines := by
  rw [RenderOptions.renderCode, faithful.minimumIndent_eq]
  rfl

theorem reply_eq (faithful : ∀ block ∈ kept, block.Faithful)
    (request : Request) :
    remembering.reply kept request = fresh.reply (kept.map lines) request := by
  have found (place : Nat) : (kept.map lines)[place]? =
      kept[place]?.map lines :=
    List.getElem?_map
  cases request with
  | create lines | clone index => rfl
  | measure index =>
      simp only [reply, found]
      cases stood : kept[index]? with
      | none => rfl
      | some block =>
          exact congrArg Reply.width
            (faithful block (List.mem_of_getElem? stood)).minimumIndent_eq
  | compare first second =>
      simp only [reply, found]
      cases kept[first]? with
      | none => rfl
      | some block =>
          cases kept[second]? with
          | none => rfl
          | some other =>
              apply congrArg Reply.same
              show (block == other) = decide (block.lines = other.lines)
              rw [Bool.eq_iff_iff, decide_eq_true_iff, beq_eq_true_iff]
  | list index =>
      simp only [reply, found]
      cases kept[index]? <;> rfl
  | render options index =>
      simp only [reply, found]
      cases stood : kept[index]? with
      | none => rfl
      | some block =>
          exact congrArg Reply.rendered
            ((faithful block (List.mem_of_getElem? stood)).renderCode_eq options)

/-! ## Any number of requests -/

/-- Requests leave faithful memos behind and are answered as they are without
memory. -/
theorem run_remembering (faithful : ∀ block ∈ kept, block.Faithful)
    (requests : List Request) :
    (∀ block ∈ (remembering.run kept requests).1, block.Faithful) ∧
      fresh.run (kept.map lines) requests =
        ((remembering.run kept requests).1.map lines,
          (remembering.run kept requests).2) := by
  induction requests generalizing kept with
  | nil => exact ⟨faithful, rfl⟩
  | cons request rest ih =>
      obtain ⟨stillFaithful, alike⟩ := ih (faithful_after faithful request)
      refine ⟨stillFaithful, ?_⟩
      rw [run, ← map_lines_after, alike, ← reply_eq faithful]
      rfl

/-- Nothing tells what a code block remembers. Whatever is done with any number
of blocks, every answer is the one that is given without memory; and whatever a
block remembers by then, it is measured, compared, listed and rendered as its
lines are, before and after it is measured. -/
theorem replies_eq_fresh (requests : List Request) :
    (remembering.run [] requests).2 = (fresh.run [] requests).2 ∧
    (remembering.run [] requests).1.map lines = (fresh.run [] requests).1 ∧
    ∀ block ∈ (remembering.run [] requests).1,
      (∀ width ∈ block.memo, width = Indent.minimum block.lines) ∧
      block.minimumIndent = Indent.minimum block.lines ∧
      (∀ other : CodeBlock, ((block == other) = true ↔ block.lines = other.lines) ∧
        (block.measured == other) = (block == other) ∧
        (other == block.measured) = (other == block)) ∧
      Listing.ofBlock (.code block) = fresh.listed block.lines ∧
      Listing.ofBlock (.code block.measured) = Listing.ofBlock (.code block) ∧
      ∀ options : RenderOptions,
        options.renderCode block = fresh.rendered options block.lines ∧
        options.renderCode block.measured = options.renderCode block := by
  have nothing : ∀ block ∈ ([] : List CodeBlock), block.Faithful := by simp
  obtain ⟨faithful, alike⟩ := run_remembering nothing requests
  rw [List.map_nil] at alike
  refine ⟨congrArg Prod.snd alike.symm, congrArg Prod.fst alike.symm, ?_⟩
  intro block member
  have isFaithful := faithful block member
  refine ⟨isFaithful, isFaithful.minimumIndent_eq,
    fun other => ⟨beq_eq_true_iff, rfl, rfl⟩, rfl, rfl, ?_⟩
  intro options
  rw [isFaithful.measured.renderCode_eq, isFaithful.renderCode_eq]
  exact ⟨rfl, rfl⟩

/-- A listing that is measured and cloned, and the same lines once more without
memo. -/
theorem replies_eq_fresh_example :
    let lines : List Text := ["\t  x\n".toList, " \n".toList]
    let requests :=
      [.create lines, .measure 0, .clone 0, .create lines, .compare 1 2,
      .render .default 2]
    let copy : CodeBlock := ⟨lines, some 3⟩
    copy ∈ (remembering.run [] requests).1 ∧
      (remembering.run [] requests).2 = (fresh.run [] requests).2 ∧
      copy.minimumIndent = Indent.minimum lines ∧
      (copy == CodeBlock.ofLines lines) = true ∧
      RenderOptions.default.renderCode copy =
        ["\n".toList, "```kotlin\n".toList, "x\n".toList, " \n".toList,
          "```\n".toList,
          "\n".toList] := by
  intro lines requests copy
  have kept : (remembering.run [] requests).1[1]? = some copy := rfl
  have member := List.mem_of_getElem? kept
  obtain ⟨replies, -, blocks⟩ := replies_eq_fresh requests
  obtain ⟨-, width, same, -, -, rendered⟩ := blocks copy member
  refine ⟨member, replies, width, (same (.ofLines lines)).1.2 rfl, ?_⟩
  rw [(rendered .default).1]
  decide

end CodeBlock

end LiterateBook
