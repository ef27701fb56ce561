import SearchQuery.Proofs.Json.Scalars

/-!
Documents read back from their texts. What nests too deep and what is too large for a double stands
for nothing, and everything else is read as it was (`read_pretty`).
-/

namespace SearchQuery.Json

namespace Value

/-- Every part of a document stands for something, and every number in it is as `holds` says. -/
inductive Numbers (holds : Number → Prop) : Value → Prop where
  | null : Numbers holds .null
  | bool (value : Bool) : Numbers holds (.bool value)
  | number {n : Number} (here : holds n) : Numbers holds (.number n)
  | string (value : String) : Numbers holds (.string value)
  | array {items : List Value} (all : ∀ item ∈ items, Numbers holds item) :
      Numbers holds (.array items)
  | object {members : List (String × Value)} (all : ∀ member ∈ members, Numbers holds member.2) :
      Numbers holds (.object members)

/-- Every number is written as a numeral. -/
abbrev Printable : Value → Prop :=
  Numbers fun n => Numeral n.text

/-- No number is too large for a double. -/
abbrev Fits : Value → Prop :=
  Numbers fun n => n.double?.isSome

mutual

/-- What the text of a document is read as where so many containers may still be opened. -/
def reread (levels : Nat) : Value → Value
  | .number n => if n.double?.isSome then .number n else .unusable
  | .array items => if 0 < levels then .array (rereadItems (levels - 1) items) else .unusable
  | .object members =>
    if 0 < levels then .object (rereadMembers (levels - 1) members) else .unusable
  | value => value

def rereadItems (levels : Nat) : List Value → List Value
  | [] => []
  | item :: rest => item.reread levels :: rereadItems levels rest

def rereadMembers (levels : Nat) : List (String × Value) → List (String × Value)
  | [] => []
  | (name, value) :: rest => (name, value.reread levels) :: rereadMembers levels rest

end

end Value

section Layout

theorem skipSpaces_cons {c : Char} (printed : isSpace c = false) (text : List Char) :
    skipSpaces (c :: text) = c :: text := by
  simp [skipSpaces, printed]

private theorem skipSpaces_newLine (level : Nat) (text : List Char) :
    skipSpaces (Value.newLine level ++ text) = skipSpaces text := by
  refine List.dropWhile_append_of_pos ?_
  intro c member
  rcases List.mem_cons.mp member with rfl | blank
  · rfl
  · rw [List.eq_of_mem_replicate blank]
    rfl

private theorem endsNumeral_newLine (level : Nat) (text : List Char) :
    EndsNumeral (Value.newLine level ++ text) := by
  intro c head
  obtain rfl := Option.some.inj head
  decide

private theorem endsNumeral_comma (text : List Char) : EndsNumeral (',' :: text) := by
  intro c head
  obtain rfl := Option.some.inj head
  decide

private theorem endsNumeral_nil : EndsNumeral [] :=
  nofun

end Layout

namespace Value

/-- A document starts with a character that is neither blank nor the end of an array. -/
theorem exists_first {value : Value} (printable : value.Printable) (level : Nat) :
    ∃ first rest, prettyChars level value = first :: rest ∧ isSpace first = false ∧
      first ≠ ']' := by
  cases printable with
  | null => exact ⟨_, _, rfl, by decide⟩
  | bool value => cases value <;> exact ⟨_, _, rfl, by decide⟩
  | string value => exact ⟨_, _, rfl, by decide⟩
  | @array items _ => cases items <;> exact ⟨_, _, rfl, by decide⟩
  | @object members _ =>
    rcases members with _ | ⟨⟨name, value⟩, rest⟩ <;> exact ⟨_, _, rfl, by decide⟩
  | number numeral =>
    obtain ⟨first, rest, text, starts⟩ := startsNumber_of_numeral numeral
    exact ⟨first, rest, text, isSpace_of_startsNumber starts, startsNumber_ne starts rfl⟩

/-- The text of a document is read to its end, whatever follows that ends a numeral. A character
of it takes two steps at most. -/
def ReadsBack (levels level : Nat) (value : Value) : Prop :=
  ∀ fuel rest, EndsNumeral rest → 2 * (prettyChars level value).length ≤ fuel →
    readValue false fuel levels (prettyChars level value ++ rest) =
      .ok (value.reread levels, rest)

end Value

open Value

variable {levels level : Nat}

private theorem readValue_space (fuel : Nat) (text : List Char) :
    readValue false (fuel + 1) levels (' ' :: text) = readValue false (fuel + 1) levels text := by
  have same : skipSpaces (' ' :: text) = skipSpaces text := rfl
  rw [readValue, readValue, same]

private theorem readValue_number {n : Number} (numeral : Numeral n.text) {rest : List Char}
    (ends : EndsNumeral rest) (fuel : Nat) :
    readValue false (fuel + 1) levels (n.text ++ rest) = ofNumber false n rest := by
  have read := readNumber_append numeral ends
  obtain ⟨first, more, text, starts⟩ := startsNumber_of_numeral numeral
  rw [text, List.cons_append] at read ⊢
  rw [readValue, skipSpaces_cons (isSpace_of_startsNumber starts)]
  split
  case h_1 same => nomatch same
  case h_8 same =>
    obtain ⟨rfl, rfl⟩ := List.cons.inj same
    rw [if_pos starts, read, ← text]
    rfl
  all_goals
    rename_i same
    exact absurd (List.cons.inj same).1 (startsNumber_ne starts rfl)

private theorem contain_ok (text rest : List Char) (value : Value) :
    contain false levels text (.ok (value, rest)) =
      .ok (if 0 < levels then value else .unusable, rest) := by
  rw [contain]
  split <;> rfl

private theorem readItems_pretty {items : List Value}
    (printable : ∀ item ∈ items, item.Printable)
    (reads : ∀ item ∈ items, item.ReadsBack levels level) {item : Value}
    (first : item.ReadsBack levels level) (fuel back : Nat) (rest : List Char)
    (enough : 2 * ((prettyChars level item).length + (prettyItems level items).length) < fuel) :
    readItems false fuel levels
      (prettyChars level item ++ prettyItems level items ++ newLine back ++ ']' :: rest) =
        .ok (item.reread levels :: rereadItems levels items, rest) := by
  induction items generalizing item fuel with
  | nil =>
    obtain ⟨fuel, rfl⟩ := Nat.exists_eq_add_one_of_ne_zero (Nat.ne_zero_of_lt enough)
    have read := first fuel _ (endsNumeral_newLine back (']' :: rest)) (by omega)
    simp only [prettyItems, List.append_nil, List.append_assoc]
    rw [readItems, read]
    simp only [bind, Except.bind]
    rw [skipSpaces_newLine, skipSpaces_cons rfl]
    rfl
  | cons next others ih =>
    obtain ⟨fuel, rfl⟩ := Nat.exists_eq_add_one_of_ne_zero (Nat.ne_zero_of_lt enough)
    rw [prettyItems] at enough
    simp only [List.length_cons, List.length_append] at enough
    have read := first fuel _ (endsNumeral_comma (newLine level ++ (prettyChars level next ++
      (prettyItems level others ++ (newLine back ++ ']' :: rest))))) (by omega)
    obtain ⟨start, more, text, printed, inside⟩ :=
      exists_first (printable next List.mem_cons_self) level
    have further := ih (fun item member => printable item (List.mem_cons_of_mem next member))
      (fun item member => reads item (List.mem_cons_of_mem next member))
      (reads next List.mem_cons_self) fuel (by omega)
    simp only [prettyItems, List.cons_append, List.append_assoc] at further ⊢
    rw [readItems, read]
    simp only [bind, Except.bind]
    rw [skipSpaces_cons rfl]
    simp only
    rw [skipSpaces_newLine, text, List.cons_append, skipSpaces_cons printed]
    split
    · rename_i same
      exact absurd (List.cons.inj same).1 inside
    · rw [← List.cons_append, ← text, further]
      rfl

private theorem readMembers_pretty {members : List (String × Value)}
    (reads : ∀ member ∈ members, member.2.ReadsBack levels level) (name : String) {value : Value}
    (first : value.ReadsBack levels level) (fuel back : Nat) (rest : List Char)
    (enough : 2 * ((prettyChars level value).length + (prettyMembers level members).length) + 1 <
      fuel) :
    readMembers false fuel levels
      (stringText name ++ ':' :: ' ' :: (prettyChars level value ++ prettyMembers level members ++
        newLine back ++ '}' :: rest)) =
        .ok (some ((name, value.reread levels) :: rereadMembers levels members), rest) := by
  induction members generalizing name value fuel with
  | nil =>
    obtain ⟨fuel, rfl⟩ : ∃ more, fuel = more + 2 := ⟨fuel - 2, by omega⟩
    have read := first (fuel + 1) _ (endsNumeral_newLine back ('}' :: rest)) (by omega)
    simp only [prettyMembers, List.append_nil, List.append_assoc, stringText, List.cons_append,
      List.nil_append]
    rw [readMembers, readString_flatMap]
    simp only [bind, Except.bind]
    rw [skipSpaces_cons rfl]
    simp only
    rw [readValue_space, read]
    simp only
    rw [skipSpaces_newLine, skipSpaces_cons rfl]
    simp [rereadMembers, pure, Except.pure]
  | cons next others ih =>
    obtain ⟨fuel, rfl⟩ : ∃ more, fuel = more + 2 := ⟨fuel - 2, by omega⟩
    obtain ⟨nextName, nextValue⟩ := next
    rw [prettyMembers] at enough
    simp only [List.length_cons, List.length_append] at enough
    have read := first (fuel + 1) _ (endsNumeral_comma (newLine level ++ (stringText nextName ++
      ':' :: ' ' :: (prettyChars level nextValue ++ (prettyMembers level others ++
        (newLine back ++ '}' :: rest)))))) (by omega)
    have nextReads : nextValue.ReadsBack levels level :=
      reads (nextName, nextValue) List.mem_cons_self
    have further := ih (fun member present => reads member (List.mem_cons_of_mem _ present))
      nextName nextReads (fuel + 1) (by omega)
    simp only [prettyMembers, stringText, List.append_assoc, List.cons_append,
      List.nil_append] at read further ⊢
    rw [readMembers, readString_flatMap]
    simp only [bind, Except.bind]
    rw [skipSpaces_cons rfl]
    simp only
    rw [readValue_space, read]
    simp only
    rw [skipSpaces_cons rfl]
    simp only
    rw [skipSpaces_newLine, skipSpaces_cons rfl]
    split
    case h_1 none => nomatch none
    case h_2 same => exact absurd (List.cons.inj same).1 (by decide)
    case h_3 =>
      rw [further]
      simp [rereadMembers, pure, Except.pure, Seq.seq]

private theorem ofNumber_eq (n : Number) (rest : List Char) :
    ofNumber false n rest = .ok ((Value.number n).reread levels, rest) := by
  rw [ofNumber, reread]
  split <;> rfl

theorem Value.exists_step {value : Value} (printable : value.Printable) {fuel : Nat}
    (enough : 2 * (prettyChars level value).length ≤ fuel) : ∃ more, fuel = more + 1 := by
  obtain ⟨first, rest, text, _⟩ := exists_first printable level
  rw [text, List.length_cons] at enough
  exact Nat.exists_eq_add_one_of_ne_zero (by omega)

theorem Value.readsBack {value : Value} (printable : value.Printable)
    (levels level : Nat) : value.ReadsBack levels level := by
  induction printable generalizing levels level with
  | null =>
    intro fuel rest _ enough
    obtain ⟨fuel, rfl⟩ := exists_step .null enough
    rw [readValue]
    rfl
  | bool value =>
    intro fuel rest _ enough
    obtain ⟨fuel, rfl⟩ := exists_step (.bool value) enough
    rw [readValue]
    cases value <;> rfl
  | @number n numeral =>
    intro fuel rest ends enough
    obtain ⟨fuel, rfl⟩ := exists_step (.number numeral) enough
    exact (readValue_number numeral ends fuel).trans (ofNumber_eq n rest)
  | string text =>
    intro fuel rest _ enough
    obtain ⟨fuel, rfl⟩ := exists_step (.string text) enough
    have read := readString_flatMap false text.toList rest
    have layout : prettyChars level (.string text) ++ rest =
        '"' :: (text.toList.flatMap stringChar ++ '"' :: rest) := by
      simp [prettyChars, scalarText, stringText]
    rw [layout, readValue, skipSpaces_cons rfl]
    simp [read, bind, Except.bind, pure, Except.pure, ofString, reread]
  | @array items all ih =>
    intro fuel rest _ enough
    obtain ⟨fuel, rfl⟩ := exists_step (.array all) enough
    cases items with
    | nil =>
      rw [prettyChars, List.cons_append, readValue, skipSpaces_cons rfl]
      exact contain_ok _ rest (.array [])
    | cons item items =>
      have printable : item.Printable := all item List.mem_cons_self
      obtain ⟨start, more, text, printed, inside⟩ := exists_first printable (level + 1)
      rw [prettyChars] at enough ⊢
      simp only [List.length_cons, List.length_append] at enough
      have read := readItems_pretty (fun item member => all item (List.mem_cons_of_mem _ member))
        (fun other member => ih other (List.mem_cons_of_mem _ member) (levels - 1) (level + 1))
        (ih item List.mem_cons_self (levels - 1) (level + 1)) fuel level rest (by omega)
      simp only [text, List.cons_append, List.append_assoc, List.nil_append] at read ⊢
      rw [readValue, skipSpaces_cons rfl]
      simp only
      rw [skipSpaces_newLine, skipSpaces_cons printed]
      split
      case h_1 none => nomatch none
      case h_2 same => exact absurd (List.cons.inj same).1 inside
      case h_3 =>
        rw [read]
        exact contain_ok _ rest (.array _)
  | @object members all ih =>
    intro fuel rest _ enough
    obtain ⟨fuel, rfl⟩ := exists_step (.object all) enough
    rcases members with _ | ⟨⟨name, value⟩, members⟩
    · rw [prettyChars, List.cons_append, readValue, skipSpaces_cons rfl]
      exact contain_ok _ rest (.object [])
    · rw [prettyChars] at enough ⊢
      simp only [List.length_cons, List.length_append] at enough
      have first : value.ReadsBack (levels - 1) (level + 1) :=
        ih (name, value) List.mem_cons_self (levels - 1) (level + 1)
      have read := readMembers_pretty
        (fun member present => ih member (List.mem_cons_of_mem _ present) (levels - 1) (level + 1))
        name first fuel level rest (by omega)
      simp only [stringText, List.cons_append, List.append_assoc, List.nil_append] at read ⊢
      rw [readValue, skipSpaces_cons rfl]
      simp only
      rw [skipSpaces_newLine, skipSpaces_cons rfl]
      split
      case h_1 none => nomatch none
      case h_2 same => exact absurd (List.cons.inj same).1 (by decide)
      case h_3 =>
        rw [read]
        exact contain_ok _ rest (.object _)

/-- The text of a document is read as the document, but for what stands for nothing to the
reader. -/
theorem read_pretty {value : Value} (printable : value.Printable) :
    read false value.pretty = .ok (value.reread depthLimit) := by
  have back := readsBack printable depthLimit 0 (2 * (prettyChars 0 value).length + 2) []
    endsNumeral_nil (by omega)
  rw [List.append_nil] at back
  rw [read, pretty, String.toList_ofList, readWholeText, back]
  rfl

namespace Value

theorem rereadItems_eq_map (levels : Nat) (items : List Value) :
    rereadItems levels items = items.map (reread levels) := by
  induction items with
  | nil => rfl
  | cons item rest ih => rw [rereadItems, ih, List.map_cons]

theorem rereadMembers_eq_map (levels : Nat) (members : List (String × Value)) :
    rereadMembers levels members =
      members.map fun member => (member.1, member.2.reread levels) := by
  induction members with
  | nil => rfl
  | cons member rest ih =>
    obtain ⟨name, value⟩ := member
    rw [rereadMembers, ih, List.map_cons]

theorem allUsable_iff {items : List Value} :
    allUsable items ↔ ∀ item ∈ items, item.isUsable := by
  induction items with
  | nil => simp [allUsable]
  | cons item rest ih => simp [allUsable, ih]

theorem membersUsable_iff {members : List (String × Value)} :
    membersUsable members ↔ ∀ member ∈ members, member.2.isUsable := by
  induction members with
  | nil => simp [membersUsable]
  | cons member rest ih =>
    obtain ⟨name, value⟩ := member
    simp [membersUsable, ih]

theorem itemsDepth_le_iff {levels : Nat} {items : List Value} :
    itemsDepth items ≤ levels ↔ ∀ item ∈ items, item.depth ≤ levels := by
  induction items with
  | nil => simp [itemsDepth]
  | cons item rest ih => rw [itemsDepth, Nat.max_le, ih, List.forall_mem_cons]

theorem membersDepth_le_iff {levels : Nat} {members : List (String × Value)} :
    membersDepth members ≤ levels ↔ ∀ member ∈ members, member.2.depth ≤ levels := by
  induction members with
  | nil => simp [membersDepth]
  | cons member rest ih =>
    obtain ⟨name, value⟩ := member
    rw [membersDepth, Nat.max_le, ih, List.forall_mem_cons]

theorem Numbers.isUsable {holds : Number → Prop} {value : Value} (numbers : value.Numbers holds) :
    value.isUsable := by
  induction numbers with
  | null | bool | number | string => rfl
  | array _ ih => exact allUsable_iff.mpr ih
  | object _ ih => exact membersUsable_iff.mpr ih

/-- With levels enough for all of it, a document whose numbers fit is read as it was. -/
theorem Numbers.reread_eq {value : Value} (fits : value.Fits) {levels : Nat}
    (shallow : value.depth ≤ levels) : value.reread levels = value := by
  induction fits generalizing levels with
  | null | bool | string => rfl
  | number here => rw [reread, if_pos here]
  | @array items _ ih =>
    rw [depth] at shallow
    have inner : ∀ item ∈ items, item.depth ≤ levels - 1 := itemsDepth_le_iff.mp (by omega)
    rw [reread, if_pos (by omega), rereadItems_eq_map,
      List.map_congr_left fun item member => ih item member (inner item member), List.map_id']
  | @object members _ ih =>
    rw [depth] at shallow
    have inner : ∀ member ∈ members, member.2.depth ≤ levels - 1 :=
      membersDepth_le_iff.mp (by omega)
    rw [reread, if_pos (by omega), rereadMembers_eq_map]
    have same : ∀ member ∈ members, (member.1, member.2.reread (levels - 1)) = member :=
      fun member present => by rw [ih member present (inner member present)]
    rw [List.map_congr_left same, List.map_id']

/-- What is read without an unusable part is the document itself, and does not nest too deep. -/
theorem Numbers.eq_of_isUsable {holds : Number → Prop} {value : Value}
    (numbers : value.Numbers holds) {levels : Nat} (usable : (value.reread levels).isUsable) :
    value.reread levels = value ∧ value.depth ≤ levels := by
  induction numbers generalizing levels with
  | null | bool | string => exact ⟨rfl, Nat.zero_le _⟩
  | number _ =>
    rw [reread] at usable ⊢
    split at usable
    · rename_i fits
      exact ⟨if_pos fits, Nat.zero_le _⟩
    · nomatch usable
  | @array items _ ih =>
    rw [reread] at usable ⊢
    by_cases left : 0 < levels
    · rw [if_pos left, Value.isUsable, rereadItems_eq_map, allUsable_iff] at usable
      have parts : ∀ item ∈ items, item.reread (levels - 1) = item ∧ item.depth ≤ levels - 1 :=
        fun item member => ih item member (usable _ (List.mem_map_of_mem member))
      have inner := itemsDepth_le_iff.mpr fun item member => (parts item member).2
      rw [if_pos left, rereadItems_eq_map, List.map_congr_left fun item member =>
        (parts item member).1, List.map_id', depth]
      exact ⟨rfl, by omega⟩
    · rw [if_neg left] at usable
      nomatch usable
  | @object members _ ih =>
    rw [reread] at usable ⊢
    by_cases left : 0 < levels
    · rw [if_pos left, Value.isUsable, rereadMembers_eq_map, membersUsable_iff] at usable
      have parts : ∀ member ∈ members, member.2.reread (levels - 1) = member.2 ∧
          member.2.depth ≤ levels - 1 :=
        fun member present => ih member present (usable _ (List.mem_map_of_mem present))
      have inner := membersDepth_le_iff.mpr fun member present => (parts member present).2
      have same : ∀ member ∈ members, (member.1, member.2.reread (levels - 1)) = member :=
        fun member present => by rw [(parts member present).1]
      rw [if_pos left, rereadMembers_eq_map, List.map_congr_left same, List.map_id', depth]
      exact ⟨rfl, by omega⟩
    · rw [if_neg left] at usable
      nomatch usable

end Value

end SearchQuery.Json
