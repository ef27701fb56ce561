import Mathlib.Logic.Function.Basic
import SearchQuery.Rendering.Escape

/-!
Where values end in a text. A quoted value ends at the first quote without a backslash before it, a
bare word in front of the first operator or blank without one. Main statement: what is read back is
the value that was written, and what followed it is left (`values_delimit_themselves`).
-/

namespace SearchQuery.Rendering

/-- A character before what was read. -/
def readBefore (c : Char) (reading : List Char × List Char) : List Char × List Char :=
  (c :: reading.1, reading.2)

/-- Reads in front of the first character that stops the reading and has no backslash before it:
what was read, its backslashes undone, and what is left. A backslash at the end is left. -/
def readUntil (stops : Char → Bool) : List Char → List Char × List Char
  | [] => ([], [])
  | ['\\'] => ([], ['\\'])
  | '\\' :: c :: rest => readBefore c (readUntil stops rest)
  | c :: rest => if stops c then ([], c :: rest) else readBefore c (readUntil stops rest)

/-- The characters of a text that have no backslash before them. -/
def unescaped : List Char → List Char
  | [] => []
  | ['\\'] => ['\\']
  | '\\' :: _ :: rest => unescaped rest
  | c :: rest => c :: unescaped rest

/-- The characters with a meaning in query text, but for the backslash. -/
def operators : List Char :=
  ['+', '-', '&', '|', '!', '(', ')', '{', '}', '[', ']', '^', '"', '~', '*', '?', ':', '/']

/-- What ends a bare word: operators and blanks. With `wildcards`, `*` and `?` belong to values. -/
def delimits (wildcards : Bool) (c : Char) : Bool :=
  (operators.contains c || Text.isBlank c) && !(wildcards && isWildcard c)

/-- Reads from an opening quote to the one that closes it. -/
def readQuoted? : List Char → Option (List Char × List Char)
  | '"' :: inner =>
    match readUntil (· == '"') inner with
    | (value, '"' :: left) => some (value, left)
    | _ => none
  | _ => none

section Reading

variable {stops : Char → Bool} {rest : List Char}

theorem readUntil_plain {c : Char} (plain : c ≠ '\\') (goesOn : stops c = false) :
    readUntil stops (c :: rest) = readBefore c (readUntil stops rest) := by
  simp [readUntil, plain, goesOn]

theorem readUntil_stop (ends : ∀ c ∈ rest.head?, c ≠ '\\' ∧ stops c) :
    readUntil stops rest = ([], rest) := by
  cases rest with
  | nil => rfl
  | cons c rest =>
    obtain ⟨plain, stop⟩ := ends c rfl
    simp [readUntil, plain, stop]

private theorem unescaped_plain {c : Char} (plain : c ≠ '\\') :
    unescaped (c :: rest) = c :: unescaped rest := by
  simp [unescaped, plain]

end Reading

/-- Under the encoding no character stops the reading: it has a backslash before it, or it stands
for itself. -/
def Guards (stops : Char → Bool) (encode : Char → List Char) : Prop :=
  ∀ c, encode c = ['\\', c] ∨ encode c = [c] ∧ c ≠ '\\' ∧ stops c = false

namespace Guards

variable {stops : Char → Bool} {encode : Char → List Char}

/-- What is encoded is read through, whatever follows. -/
theorem readUntil_append (guards : Guards stops encode) (text rest : List Char) :
    readUntil stops (text.flatMap encode ++ rest) =
      (text ++ (readUntil stops rest).1, (readUntil stops rest).2) := by
  induction text with
  | nil => rfl
  | cons c later ih =>
    rw [List.flatMap_cons, List.append_assoc]
    rcases guards c with escaped | ⟨bare, plain, goesOn⟩
    · rw [escaped, List.cons_append, List.cons_append, List.nil_append, readUntil, ih]
      rfl
    · rw [bare, List.cons_append, List.nil_append, readUntil_plain plain goesOn, ih]
      rfl

private theorem readUntil_eq (guards : Guards stops encode) (text : List Char) {rest : List Char}
    (ends : ∀ c ∈ rest.head?, c ≠ '\\' ∧ stops c) :
    readUntil stops (text.flatMap encode ++ rest) = (text, rest) := by
  rw [guards.readUntil_append, readUntil_stop ends, List.append_nil]

private theorem of_mem_unescaped (guards : Guards stops encode) {text : List Char} :
    ∀ c ∈ unescaped (text.flatMap encode), c ≠ '\\' ∧ stops c = false := by
  induction text with
  | nil => nofun
  | cons c later ih =>
    rw [List.flatMap_cons]
    rcases guards c with escaped | ⟨bare, plain, goesOn⟩
    · rwa [escaped, List.cons_append, List.cons_append, List.nil_append, unescaped]
    · rw [bare, List.cons_append, List.nil_append, unescaped_plain plain]
      exact List.forall_mem_cons.mpr ⟨⟨plain, goesOn⟩, ih⟩

end Guards

private theorem isOperator_eq (c : Char) : isOperator c = (operators.contains c || c == '\\') := by
  rw [Bool.eq_iff_iff]
  simp only [isOperator, operators, Bool.or_eq_true, List.contains_iff_mem, beq_iff_eq,
    List.mem_cons]
  grind

theorem guards_quoteChar : Guards (· == '"') quoteChar := by
  intro c
  unfold quoteChar
  split
  · exact .inl rfl
  · rename_i plain
    obtain ⟨notQuote, notBackslash⟩ := not_or.mp plain
    exact .inr ⟨rfl, notBackslash, beq_false_of_ne notQuote⟩

/-- Wildcards that keep their meaning are no delimiters either. -/
theorem guards_escapeChar {kept wildcards : Bool} (fewer : kept → wildcards) :
    Guards (delimits wildcards) (escapeChar kept) := by
  intro c
  unfold escapeChar
  split
  · rename_i wild
    obtain ⟨keeps, wild⟩ := Bool.and_eq_true_iff.mp wild
    refine .inr ⟨rfl, ?_, ?_⟩
    · rintro rfl
      revert wild
      decide
    · simp [delimits, fewer keeps, wild]
  · split
    · exact .inl rfl
    · rename_i ordinary
      rw [isOperator_eq] at ordinary
      refine .inr ⟨rfl, ?_, ?_⟩
      · rintro rfl
        simp at ordinary
      · simp_all [delimits]

theorem ne_backslash_of_delimits {wildcards : Bool} {c : Char} (delimiter : delimits wildcards c) :
    c ≠ '\\' := by
  rintro rfl
  revert delimiter
  cases wildcards <;> decide

/-- A bare word is read back in front of a delimiter or the end of the text. -/
theorem readUntil_escape {kept wildcards : Bool} (fewer : kept → wildcards) (text : List Char)
    {rest : List Char} (ends : ∀ c ∈ rest.head?, delimits wildcards c) :
    readUntil (delimits wildcards) (text.flatMap (escapeChar kept) ++ rest) = (text, rest) :=
  (guards_escapeChar fewer).readUntil_eq text fun c first =>
    ⟨ne_backslash_of_delimits (ends c first), ends c first⟩

/-- A quoted value is read back whatever follows. -/
theorem readQuoted?_quote (value : String) (rest : List Char) :
    readQuoted? ((quote value).toList ++ rest) = some (value.toList, rest) := by
  have inside : readUntil (· == '"') (value.toList.flatMap quoteChar ++ '"' :: rest) =
      (value.toList, '"' :: rest) := by
    refine guards_quoteChar.readUntil_eq value.toList ?_
    rintro c ⟨⟩
    decide
  rw [quote, String.toList_ofList, List.append_assoc, List.cons_append, List.singleton_append,
    readQuoted?, inside]
  rfl

/-- Quoted values and bare words show where they end. A quoted value is read back in front of any
text, a bare word in front of a delimiter or nothing; hence no two values are written alike. Without
wildcards, every operator, blank and backslash of a value has a backslash before it. -/
theorem values_delimit_themselves :
    (∀ (value : String) (rest : List Char),
      readQuoted? ((quote value).toList ++ rest) = some (value.toList, rest)) ∧
      (∀ (value : String) (rest : List Char), (∀ c ∈ rest.head?, delimits false c) →
        readUntil (delimits false) ((escapeTerm value).toList ++ rest) = (value.toList, rest)) ∧
      (∀ (value : String) (rest : List Char), (∀ c ∈ rest.head?, delimits true c) →
        readUntil (delimits true) ((escapeWildcard value).toList ++ rest) =
          (value.toList, rest)) ∧
      (Function.Injective quote ∧ Function.Injective escapeTerm ∧
        Function.Injective escapeWildcard) ∧
      ∀ value : String, ∀ c ∈ unescaped (escapeTerm value).toList,
        c ∉ operators ∧ Text.isBlank c = false ∧ c ≠ '\\' := by
  have term (value : String) (rest : List Char) (ends : ∀ c ∈ rest.head?, delimits false c) :
      readUntil (delimits false) ((escapeTerm value).toList ++ rest) = (value.toList, rest) := by
    rw [escapeTerm, String.toList_ofList]
    exact readUntil_escape id value.toList ends
  have wildcard (value : String) (rest : List Char) (ends : ∀ c ∈ rest.head?, delimits true c) :
      readUntil (delimits true) ((escapeWildcard value).toList ++ rest) = (value.toList, rest) := by
    rw [escapeWildcard, String.toList_ofList]
    exact readUntil_escape id value.toList ends
  have injective {write : String → String} {stops : Char → Bool}
      (reads : ∀ value, readUntil stops ((write value).toList ++ []) = (value.toList, [])) :
      Function.Injective write := by
    intro value other same
    have read := reads value
    rw [same, reads other] at read
    exact String.toList_inj.mp (Prod.mk.inj read).1.symm
  refine ⟨readQuoted?_quote, term, wildcard, ⟨?_, ?_, ?_⟩, ?_⟩
  · intro value other same
    have read := readQuoted?_quote value []
    rw [same, readQuoted?_quote other []] at read
    exact String.toList_inj.mp (Prod.mk.inj (Option.some.inj read)).1.symm
  · exact injective fun value => term value [] nofun
  · exact injective fun value => wildcard value [] nofun
  · intro value c member
    rw [escapeTerm, String.toList_ofList] at member
    have guards : Guards (delimits false) (escapeChar false) := guards_escapeChar id
    obtain ⟨plain, free⟩ := guards.of_mem_unescaped c member
    simpa [delimits, plain] using free

theorem values_delimit_themselves_hostile :
    ((∀ c ∈ [')', '"'].head?, delimits false c) ∧ (∀ c ∈ [' ', '*'].head?, delimits true c)) ∧
      escapeTerm "c:\\ \"*" = "c\\:\\\\\\ \\\"\\*" ∧
      readUntil (delimits false) ((escapeTerm "c:\\ \"*").toList ++ [')', '"']) =
        (['c', ':', '\\', ' ', '"', '*'], [')', '"']) ∧
      escapeWildcard "te?t -\\*" = "te?t\\ \\-\\\\*" ∧
      readUntil (delimits true) ((escapeWildcard "te?t -\\*").toList ++ [' ', '*']) =
        (['t', 'e', '?', 't', ' ', '-', '\\', '*'], [' ', '*']) := by
  have ends : (∀ c ∈ [')', '"'].head?, delimits false c) ∧
      ∀ c ∈ [' ', '*'].head?, delimits true c := by
    constructor <;> rintro c ⟨⟩ <;> decide
  obtain ⟨-, term, wildcard, -⟩ := values_delimit_themselves
  exact ⟨ends, by decide +kernel, term "c:\\ \"*" _ ends.1, by decide +kernel,
    wildcard "te?t -\\*" _ ends.2⟩

end SearchQuery.Rendering
