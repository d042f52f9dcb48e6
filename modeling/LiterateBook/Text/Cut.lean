import LiterateBook.Text.White

/-!
# Cutting

A text is cut at each separator into the parts between them. There is one part
more than there are separators, no part holds one, and the parts with separators
between them are the text.
-/

namespace LiterateBook

namespace Text

/-- The parts of a text between separators. -/
def cutAt (separator : Char) : Text → List Text
  | [] => [[]]
  | c :: rest =>
    if c = separator then [] :: cutAt separator rest
    else match cutAt separator rest with
      | [] => [[c]]
      | part :: others => (c :: part) :: others

@[simp] theorem cutAt_nil (separator : Char) : cutAt separator [] = [[]] := rfl

theorem cutAt_ne_nil (separator : Char) (text : Text) :
    cutAt separator text ≠ [] := by
  cases text with
  | nil => simp
  | cons c rest =>
    unfold cutAt
    split
    · simp
    · split <;> simp

/-- The parts with separators between them are the text. -/
@[simp] theorem intercalate_cutAt (separator : Char) (text : Text) :
    [separator].intercalate (cutAt separator text) = text := by
  induction text with
  | nil => simp [List.intercalate]
  | cons c rest ih =>
    unfold cutAt
    cases cut : cutAt separator rest with
    | nil => exact absurd cut (cutAt_ne_nil separator rest)
    | cons part others =>
      rw [cut] at ih
      by_cases same : c = separator
      · rw [if_pos same]
        simpa [List.intercalate, same] using ih
      · rw [if_neg same]
        cases others with
        | nil => simpa [List.intercalate] using ih
        | cons other others => simpa [List.intercalate] using ih

/-- No part holds a separator. -/
theorem not_mem_of_mem_cutAt {separator : Char} {text part : Text}
    (member : part ∈ cutAt separator text) : separator ∉ part := by
  induction text generalizing part with
  | nil => simp_all
  | cons c rest ih =>
    unfold cutAt at member
    split at member
    · rcases List.mem_cons.1 member with rfl | later
      · simp
      · exact ih later
    · rename_i differ
      cases cut : cutAt separator rest with
      | nil => exact absurd cut (cutAt_ne_nil separator rest)
      | cons first others =>
        rw [cut] at member ih
        rcases List.mem_cons.1 member with rfl | later
        · simpa [Ne.symm differ] using ih (List.mem_cons_self ..)
        · exact ih (List.mem_cons_of_mem _ later)

end Text

end LiterateBook
