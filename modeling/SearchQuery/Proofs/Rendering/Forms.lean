import Mathlib.Data.List.Forall2
import SearchQuery.Request.Descriptor

/-!
Forms of text, and when they can be read back. A form is delimited if what may follow its texts
shows where they end. Main statement: texts of a delimited form, joined by a connective, are read in
one way (`Form.Joined.unique`).
-/

namespace SearchQuery.Rendering

/-- How the values of a type are written. A value may have several texts. -/
abbrev Form (α : Type) := α → List Char → Prop

namespace Form

variable {α : Type} {form : Form α} {ends : List Char → Prop} {connective : List Char}

/-- In front of what `ends` allows, both the value of a text and the place where it ends are
known. -/
def Delimited (form : Form α) (ends : List Char → Prop) : Prop :=
  ∀ ⦃value other : α⦄ ⦃front last rest tail : List Char⦄, form value front → form other last →
    ends rest → ends tail → front ++ rest = last ++ tail → value = other ∧ rest = tail

theorem Delimited.unique (delimited : form.Delimited ends) (nothing : ends []) {value other : α}
    {text : List Char} (first : form value text) (second : form other text) : value = other :=
  (delimited first second nothing nothing rfl).1

/-- Values one after another, each with a text of its own. -/
inductive Spelled (form : Form α) : Form (List α)
  | nil : Spelled form [] []
  | cons {value : α} {rest : List α} {front text : List Char} (first : form value front)
      (others : Spelled form rest text) : Spelled form (value :: rest) (front ++ text)

/-- A list ends where no text of a further value begins. -/
theorem Delimited.spelled {inner : List Char → Prop} (each : form.Delimited inner)
    (more : ∀ ⦃value front⦄, form value front → ∀ rest, inner (front ++ rest))
    (final : ∀ ⦃rest⦄, ends rest → inner rest)
    (apart : ∀ ⦃value front⦄, form value front → ∀ rest, ¬ ends (front ++ rest)) :
    (Spelled form).Delimited ends := by
  -- what follows a value is either the next one or the end of the list
  have follows {values : List α} {text rest : List Char} (spelled : Spelled form values text)
      (stops : ends rest) : inner (text ++ rest) := by
    cases spelled with
    | nil => exact final stops
    | cons first others =>
      rw [List.append_assoc]
      exact more first _
  intro values others front last rest tail spelled again stops stopsTail same
  induction spelled generalizing others last with
  | nil =>
    cases again with
    | nil => exact ⟨rfl, same⟩
    | cons first _ =>
      rw [List.nil_append, List.append_assoc] at same
      exact absurd (same ▸ stops) (apart first _)
  | cons first spelled ih =>
    cases again with
    | nil =>
      rw [List.nil_append, List.append_assoc] at same
      exact absurd (same ▸ stopsTail) (apart first _)
    | cons second again =>
      rw [List.append_assoc, List.append_assoc] at same
      obtain ⟨rfl, same⟩ :=
        each first second (follows spelled stops) (follows again stopsTail) same
      obtain ⟨rfl, same⟩ := ih again same
      exact ⟨rfl, same⟩

theorem Spelled.flatMap {form : Form Char} {encode : Char → List Char} {text : List Char}
    (each : ∀ c ∈ text, form c (encode c)) : Spelled form text (text.flatMap encode) := by
  induction text with
  | nil => exact .nil
  | cons c rest ih =>
    rw [List.flatMap_cons]
    have tail := ih fun c member => each c (List.mem_cons_of_mem _ member)
    exact .cons (each c List.mem_cons_self) tail

/-- A value after a connective. -/
inductive After (connective : List Char) (form : Form α) : Form α
  | mk {value : α} {text : List Char} (written : form value text) :
      After connective form value (connective ++ text)

/-- Values with a connective between them. -/
inductive Joined (connective : List Char) (form : Form α) : Form (List α)
  | nil : Joined connective form [] []
  | cons {value : α} {rest : List α} {front text : List Char} (first : form value front)
      (others : Spelled (After connective form) rest text) :
      Joined connective form (value :: rest) (front ++ text)

/-- What may stand after one of several texts: nothing, or the connective. -/
def EndsItem (connective rest : List Char) : Prop :=
  rest = [] ∨ ∃ more, rest = connective ++ more

theorem EndsItem.of_spelled {values : List α} {text : List Char}
    (spelled : Spelled (After connective form) values text) : EndsItem connective text := by
  cases spelled with
  | nil => exact .inl rfl
  | cons first _ =>
    obtain ⟨_⟩ := first
    exact .inr ⟨_, List.append_assoc _ _ _⟩

theorem Delimited.after (filled : connective ≠ []) (each : form.Delimited (EndsItem connective)) :
    (Spelled (After connective form)).Delimited (· = []) := by
  have one : (After connective form).Delimited (EndsItem connective) := by
    rintro value other _ _ rest tail ⟨written⟩ ⟨again⟩ stops stopsTail same
    rw [List.append_assoc, List.append_assoc] at same
    exact each written again stops stopsTail (List.append_cancel_left same)
  refine one.spelled ?_ ?_ ?_
  · rintro value _ ⟨_⟩ rest
    exact .inr ⟨_, List.append_assoc _ _ _⟩
  · exact fun rest empty => .inl empty
  · rintro value _ ⟨_⟩ rest empty
    simp [filled] at empty

/-- A text of several values is read in one way: neither their number nor where they part is in
doubt. -/
theorem Joined.unique (filled : connective ≠ []) (visible : ∀ ⦃value⦄, ¬ form value [])
    (each : form.Delimited (EndsItem connective)) {values others : List α} {text : List Char}
    (first : Joined connective form values text) (second : Joined connective form others text) :
    values = others := by
  have never {value : α} {front rest : List Char} (written : form value front) :
      front ++ rest ≠ [] := by
    intro empty
    obtain ⟨rfl, -⟩ := List.append_eq_nil_iff.mp empty
    exact visible written
  generalize same : text = copy at second
  cases first with
  | nil =>
    cases second with
    | nil => rfl
    | cons again _ => exact absurd same.symm (never again)
  | cons written spelled =>
    cases second with
    | nil => exact absurd same (never written)
    | cons again others =>
      obtain ⟨rfl, rfl⟩ :=
        each written again (EndsItem.of_spelled spelled) (EndsItem.of_spelled others) same
      rw [(Delimited.after filled each).unique rfl spelled others]

theorem Joined.intercalate {connective : String} {values : List α} {texts : List String}
    (written : List.Forall₂ (fun value text => form value text.toList) values texts) :
    Joined connective.toList form values (connective.intercalate texts).toList := by
  have later {values : List α} {texts : List String}
      (written : List.Forall₂ (fun value text => form value text.toList) values texts) :
      Spelled (After connective.toList form) values
        (texts.flatMap fun text => connective.toList ++ text.toList) := by
    induction written with
    | nil => exact .nil
    | cons first _ ih =>
      rw [List.flatMap_cons]
      exact .cons ⟨first⟩ ih
  have spread (first : String) (rest : List String) :
      (connective.intercalate (first :: rest)).toList =
        first.toList ++ rest.flatMap fun text => connective.toList ++ text.toList := by
    induction rest generalizing first with
    | nil => simp
    | cons second rest ih =>
      rw [String.intercalate_cons_cons, String.toList_append, String.toList_append, ih,
        List.flatMap_cons, List.append_assoc, List.append_assoc]
  cases written with
  | nil => simpa using Joined.nil
  | cons first others =>
    rw [spread]
    exact .cons first (later others)

end Form

/-- Two runs of one class of characters are equal if something else follows each of them. -/
theorem cut_run {part : Char → Bool} {front last rest tail : List Char}
    (run : ∀ c ∈ front, part c) (other : ∀ c ∈ last, part c)
    (stops : ∀ c ∈ rest.head?, part c = false) (stopsTail : ∀ c ∈ tail.head?, part c = false)
    (same : front ++ rest = last ++ tail) : front = last ∧ rest = tail := by
  have taken {rest : List Char} (stops : ∀ c ∈ rest.head?, part c = false) :
      rest.takeWhile part = [] := by
    cases rest with
    | nil => rfl
    | cons c rest => simp [stops c rfl]
  have fronts := congrArg (List.takeWhile part) same
  rw [List.takeWhile_append_of_pos run, List.takeWhile_append_of_pos other, taken stops,
    taken stopsTail, List.append_nil, List.append_nil] at fronts
  subst fronts
  exact ⟨rfl, List.append_cancel_left same⟩

namespace FieldName

open FilterDescriptor (isFieldName isFieldStart isFieldPart)

variable {field : String}

theorem isFieldPart_of_start {c : Char} (start : isFieldStart c) : isFieldPart c := by
  simp only [isFieldStart, Bool.or_eq_true] at start
  rcases start with letter | underscore
  · simp [isFieldPart, Char.isAlphanum, letter]
  · simp [isFieldPart, underscore]

theorem exists_start (named : isFieldName field) :
    ∃ first rest, field.toList = first :: rest ∧ isFieldStart first := by
  unfold isFieldName at named
  split at named
  · cases named
  · rename_i first rest split
    exact ⟨first, rest, split, (Bool.and_eq_true_iff.mp named).1⟩

theorem all (named : isFieldName field) : ∀ c ∈ field.toList, isFieldPart c := by
  unfold isFieldName at named
  split at named
  · cases named
  · rename_i first rest split
    obtain ⟨start, parts⟩ := Bool.and_eq_true_iff.mp named
    rw [split]
    exact List.forall_mem_cons.mpr ⟨isFieldPart_of_start start, List.all_eq_true.mp parts⟩

/-- A field name ends where a character follows that cannot stand in one. -/
theorem cut {other : String} {c d : Char} {rest tail : List Char} (named : isFieldName field)
    (again : isFieldName other) (stop : isFieldPart c = false) (stopTail : isFieldPart d = false)
    (same : field.toList ++ c :: rest = other.toList ++ d :: tail) :
    field = other ∧ c = d ∧ rest = tail := by
  obtain ⟨fields, rests⟩ := cut_run (all named) (all again) (by simpa using stop)
    (by simpa using stopTail) same
  exact ⟨String.toList_inj.mp fields, List.cons.inj rests⟩

end FieldName

end SearchQuery.Rendering
