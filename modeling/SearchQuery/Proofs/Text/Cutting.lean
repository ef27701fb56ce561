import Mathlib.Data.List.DropRight
import SearchQuery.Text.Blank

/-!
What cutting a text leaves: pieces without separators (`Text.split_append`), and a text without
blanks at its ends (`Text.trim_surrounded`).
-/

namespace SearchQuery.Text

/-- That no character of a text passes a test can be decided by looking through them. -/
theorem free_of_all {test : Char → Bool} {text : String} (none : text.toList.all fun c => !test c) :
    ∀ c ∈ text.toList, test c = false := by
  simpa using none

section Pieces

variable {separator : Char → Bool}

private theorem pieces_eq_splitOnP (text : List Char) :
    pieces separator text = text.splitOnP separator := by
  induction text with
  | nil => rfl
  | cons c rest ih =>
    rw [List.splitOnP_cons_eq_if_modifyHead, pieces, ih]
    cases split : rest.splitOnP separator with
    | nil => exact absurd split (List.splitOnP_ne_nil separator rest)
    | cons first others => rfl

/-- The pieces on both sides of a separator are cut on their own. -/
theorem split_append {c : Char} (cut : separator c) (left right : String) :
    split separator (left ++ String.singleton c ++ right) =
      split separator left ++ split separator right := by
  simp only [split, pieces_eq_splitOnP, String.toList_append, String.toList_singleton,
    List.append_assoc, List.singleton_append, List.splitOnP_append_cons _ _ cut, List.map_append]

theorem split_of_free {text : String} (free : ∀ c ∈ text.toList, separator c = false) :
    split separator text = [text] := by
  rw [split, pieces_eq_splitOnP, List.splitOnP_eq_singleton free, List.map_singleton,
    String.ofList_toList]

theorem split_ne_nil (separator : Char → Bool) (text : String) : split separator text ≠ [] := by
  rw [split, pieces_eq_splitOnP, ne_eq, List.map_eq_nil_iff]
  exact List.splitOnP_ne_nil separator _

theorem free_of_mem_split {text piece : String} (member : piece ∈ split separator text) :
    ∀ c ∈ piece.toList, separator c = false := by
  have free (text : List Char) :
      ∀ piece ∈ pieces separator text, ∀ c ∈ piece, separator c = false := by
    induction text with
    | nil => simp [pieces]
    | cons c rest ih =>
      rw [pieces_eq_splitOnP] at ih ⊢
      rw [List.splitOnP_cons_eq_if_modifyHead]
      split
      · exact List.forall_mem_cons.mpr ⟨nofun, ih⟩
      · rename_i other
        cases split : rest.splitOnP separator with
        | nil => exact nofun
        | cons first others =>
          rw [split] at ih
          obtain ⟨own, later⟩ := List.forall_mem_cons.mp ih
          refine List.forall_mem_cons.mpr ⟨List.forall_mem_cons.mpr ⟨?_, own⟩, later⟩
          simpa using other
  obtain ⟨chars, present, rfl⟩ := List.mem_map.mp member
  rw [String.toList_ofList]
  exact free text.toList chars present

end Pieces

section Blanks

private theorem trimChars_trimChars (text : List Char) :
    trimChars (trimChars text) = trimChars text := by
  have front : dropBlanks (trimChars text) = trimChars text := by
    have kept : trimChars text <+: dropBlanks text := List.rdropWhile_prefix isBlank _
    rw [dropBlanks, List.dropWhile_eq_self_iff]
    intro filled
    rw [kept.getElem filled]
    exact List.dropWhile_get_zero_not _ _ _
  have back : dropBlanks (trimChars text).reverse = (trimChars text).reverse := by
    rw [trimChars, List.reverse_reverse]
    exact List.dropWhile_idempotent isBlank _
  rw [trimChars, front, back, List.reverse_reverse]

@[simp]
theorem trim_trim (text : String) : trim (trim text) = trim text := by
  simp [trim, trimChars_trimChars]

private theorem dropBlanks_append {before text : List Char} (blank : ∀ c ∈ before, isBlank c)
    (filled : ∀ c ∈ text.head?, isBlank c = false) : dropBlanks (before ++ text) = text := by
  rw [dropBlanks, List.dropWhile_append_of_pos blank]
  cases text with
  | nil => rfl
  | cons c rest => rw [List.dropWhile_cons_of_neg (by simp [filled c rfl])]

/-- Blanks around a text without blanks fall away. -/
theorem trim_surrounded {before text after : String} (ahead : ∀ c ∈ before.toList, isBlank c)
    (filled : ∀ c ∈ text.toList, isBlank c = false) (behind : ∀ c ∈ after.toList, isBlank c) :
    trim (before ++ text ++ after) = text := by
  have front : dropBlanks (before.toList ++ (text.toList ++ after.toList)) =
      dropBlanks (text.toList ++ after.toList) :=
    List.dropWhile_append_of_pos ahead
  have back : dropBlanks (after.toList.reverse ++ text.toList.reverse) = text.toList.reverse :=
    dropBlanks_append (by simpa using behind) fun c last =>
      filled c (List.mem_reverse.mp (List.mem_of_head? last))
  rw [trim, trimChars, String.toList_append, String.toList_append, List.append_assoc, front]
  cases inner : text.toList with
  | nil =>
    have none : dropBlanks after.toList = [] := List.dropWhile_eq_nil_iff.mpr behind
    rw [List.nil_append, none]
    exact (String.toList_eq_nil_iff.mp inner).symm
  | cons c rest =>
    have start : dropBlanks (c :: rest ++ after.toList) = c :: rest ++ after.toList :=
      List.dropWhile_cons_of_neg (by simp [filled c (inner ▸ List.mem_cons_self)])
    rw [start, ← inner, List.reverse_append, back, List.reverse_reverse, String.ofList_toList]

theorem trim_of_free {text : String} (filled : ∀ c ∈ text.toList, isBlank c = false) :
    trim text = text := by
  have surrounded : trim ("" ++ text ++ "") = text := trim_surrounded nofun filled nofun
  simpa using surrounded

theorem isBlank_of_ascii {c : Char} (above : 32 < c.toNat) (below : c.toNat < 127) :
    isBlank c = false := by
  simp only [isBlank, CodeRanges.has, blankRanges, List.any_cons, List.any_nil, Bool.or_false,
    Bool.or_eq_false_iff, Bool.and_eq_false_iff, decide_eq_false_iff_not]
  omega

theorem mem_of_mem_trim {text : String} {c : Char} (member : c ∈ (trim text).toList) :
    c ∈ text.toList := by
  rw [trim, String.toList_ofList, trimChars, List.mem_reverse] at member
  have inner := List.mem_reverse.mp ((List.dropWhile_sublist isBlank).subset member)
  exact (List.dropWhile_sublist isBlank).subset inner

/-- What is cut off at the ends of a text is blank. -/
theorem mem_trim_or_isBlank {text : String} {c : Char} (member : c ∈ text.toList) :
    c ∈ (trim text).toList ∨ isBlank c := by
  have kept {text : List Char} (member : c ∈ text) : c ∈ dropBlanks text ∨ isBlank c := by
    rw [← List.takeWhile_append_dropWhile (p := isBlank) (l := text), List.mem_append] at member
    exact member.symm.imp_right List.mem_takeWhile_imp
  rw [trim, String.toList_ofList, trimChars, List.mem_reverse]
  rcases kept member with inner | blank
  · exact kept (List.mem_reverse.mpr inner)
  · exact .inr blank

end Blanks

end SearchQuery.Text
