import SearchQuery.Rendering.Leaf

/-!
How query text is read: a backslash makes the next character literal, and in double quotes every
character is. Main statements: an escaped value and a quoted value are read back as they were, and
the scan ends where it began.
-/

namespace SearchQuery.Rendering

/-- Where a scan stands: outside or inside quotes, with or without a backslash that is pending. -/
inductive Scan where
  | outside
  | escaping
  | quoted
  | quotedEscaping
deriving DecidableEq, Repr

/-- A character that was read. A bare one stands outside quotes and has no backslash before it. -/
structure Glyph where
  char : Char
  bare : Bool
deriving DecidableEq, Repr

def Glyph.literal (c : Char) : Glyph := ⟨c, false⟩

namespace Scan

def next (scan : Scan) (c : Char) : Scan :=
  match scan with
  | .outside => if c = '\\' then .escaping else if c = '"' then .quoted else .outside
  | .escaping => .outside
  | .quoted => if c = '\\' then .quotedEscaping else if c = '"' then .outside else .quoted
  | .quotedEscaping => .quoted

/-- What a character is read as. A backslash or a quote that moves the scan is not read itself. -/
def glyph? (scan : Scan) (c : Char) : Option Glyph :=
  match scan with
  | .outside => if c = '\\' ∨ c = '"' then none else some ⟨c, true⟩
  | .escaping => some (.literal c)
  | .quoted => if c = '\\' ∨ c = '"' then none else some (.literal c)
  | .quotedEscaping => some (.literal c)

/-- Where the scan of a text ends. -/
def finish (scan : Scan) (text : List Char) : Scan :=
  text.foldl next scan

/-- What the scan of a text reads. -/
def read (scan : Scan) : List Char → List Glyph
  | [] => []
  | c :: rest => (scan.glyph? c).toList ++ (scan.next c).read rest

private theorem finish_append (scan : Scan) (front back : List Char) :
    scan.finish (front ++ back) = (scan.finish front).finish back :=
  List.foldl_append

private theorem read_append (scan : Scan) (front back : List Char) :
    scan.read (front ++ back) = scan.read front ++ (scan.finish front).read back := by
  induction front generalizing scan with
  | nil => rfl
  | cons c rest ih =>
    rw [List.cons_append, read, ih, read, List.append_assoc]
    rfl

/-- The scan of a text, from one place to another. -/
structure Reads (start : Scan) (text : List Char) (glyphs : List Glyph) (stop : Scan) : Prop where
  read_eq : start.read text = glyphs
  finish_eq : start.finish text = stop

theorem Reads.append {start middle stop : Scan} {front back : List Char} {first last : List Glyph}
    (before : Reads start front first middle) (after : Reads middle back last stop) :
    Reads start (front ++ back) (first ++ last) stop where
  read_eq := by rw [read_append, before.read_eq, before.finish_eq, after.read_eq]
  finish_eq := by rw [finish_append, before.finish_eq, after.finish_eq]

/-- An encoding is read back if it is for each character. -/
theorem reads_flatMap {scan : Scan} {encode : Char → List Char} {glyph : Char → Glyph}
    {text : List Char} (each : ∀ c ∈ text, Reads scan (encode c) [glyph c] scan) :
    Reads scan (text.flatMap encode) (text.map glyph) scan := by
  induction text with
  | nil => exact ⟨rfl, rfl⟩
  | cons c rest ih =>
    rw [List.flatMap_cons, List.map_cons]
    have tail := ih fun c member => each c (List.mem_cons_of_mem _ member)
    exact (each c List.mem_cons_self).append tail

theorem reads_bare {c : Char} (plain : c ≠ '\\' ∧ c ≠ '"') :
    Reads .outside [c] [⟨c, true⟩] .outside := by
  constructor
  · simp [read, glyph?, plain.1, plain.2]
  · simp [finish, next, plain.1, plain.2]

private theorem reads_escaped (c : Char) : Reads .outside ['\\', c] [.literal c] .outside :=
  ⟨rfl, rfl⟩

end Scan

/-- A character of a value that stands as one bare word: with a meaning of its own it is literal.
With `wildcards`, `*` and `?` keep their meaning. -/
def Glyph.word (wildcards : Bool) (c : Char) : Glyph :=
  ⟨c, (wildcards && isWildcard c) || !(isOperator c || Text.isBlank c)⟩

/-- A text that is read as these glyphs wherever it stands outside quotes, and that leaves the scan
there. -/
def ReadsAs (text : String) (glyphs : List Glyph) : Prop :=
  Scan.Reads .outside text.toList glyphs .outside

namespace ReadsAs

theorem empty : ReadsAs "" [] := ⟨rfl, rfl⟩

theorem append {front back : String} {first last : List Glyph} (before : ReadsAs front first)
    (after : ReadsAs back last) : ReadsAs (front ++ back) (first ++ last) := by
  rw [ReadsAs, String.toList_append]
  exact Scan.Reads.append before after

theorem join {α : Type} {text : α → String} {glyphs : α → List Glyph} {items : List α}
    (each : ∀ item ∈ items, ReadsAs (text item) (glyphs item)) :
    ReadsAs (String.join (items.map text)) (items.flatMap glyphs) := by
  induction items with
  | nil => exact empty
  | cons item rest ih =>
    rw [List.map_cons, String.join_cons, List.flatMap_cons]
    have tail := ih fun item member => each item (List.mem_cons_of_mem _ member)
    exact (each item List.mem_cons_self).append tail

end ReadsAs

/-- Neither backslash nor double quote: text that can stand by itself. -/
def Plain (text : String) : Prop :=
  ∀ c ∈ text.toList, c ≠ '\\' ∧ c ≠ '"'

instance (text : String) : Decidable (Plain text) :=
  List.decidableBAll (fun c => c ≠ '\\' ∧ c ≠ '"') text.toList

theorem Plain.append {front back : String} (first : Plain front) (last : Plain back) :
    Plain (front ++ back) := by
  intro c member
  rw [String.toList_append, List.mem_append] at member
  exact member.elim (first c) (last c)

theorem Plain.readsAs {text : String} (plain : Plain text) :
    ReadsAs text (text.toList.map (⟨·, true⟩)) := by
  have each := Scan.reads_flatMap fun c member => Scan.reads_bare (plain c member)
  rwa [List.flatMap_singleton'] at each

section Encoders

theorem reads_escapeChar (wildcards : Bool) (c : Char) :
    Scan.Reads .outside (escapeChar wildcards c) [.word wildcards c] .outside := by
  -- a character that is written as it is cannot be one of the two that move the scan
  have plain (free : isOperator c = false ∨ isWildcard c = true) : c ≠ '\\' ∧ c ≠ '"' := by
    constructor <;> rintro rfl <;> revert free <;> decide
  unfold escapeChar Glyph.word
  split
  · rename_i kept
    have isWild : isWildcard c = true := by simp_all
    rw [kept]
    exact Scan.reads_bare (plain (.inr isWild))
  · rename_i unkept
    have none : (wildcards && isWildcard c) = false := Bool.eq_false_iff.mpr unkept
    split
    · rename_i special
      rw [none, special]
      exact Scan.reads_escaped c
    · rename_i ordinary
      have free : isOperator c = false ∧ Text.isBlank c = false := by simpa using ordinary
      rw [none, free.1, free.2]
      exact Scan.reads_bare (plain (.inl free.1))

theorem readsAs_escapeTerm (value : String) :
    ReadsAs (escapeTerm value) (value.toList.map (.word false)) := by
  rw [ReadsAs, escapeTerm, String.toList_ofList]
  exact Scan.reads_flatMap fun c _ => reads_escapeChar false c

theorem readsAs_escapeWildcard (value : String) :
    ReadsAs (escapeWildcard value) (value.toList.map (.word true)) := by
  rw [ReadsAs, escapeWildcard, String.toList_ofList]
  exact Scan.reads_flatMap fun c _ => reads_escapeChar true c

theorem reads_quoteChar (c : Char) :
    Scan.Reads .quoted (quoteChar c) [.literal c] .quoted := by
  unfold quoteChar
  split
  · exact ⟨rfl, rfl⟩
  · rename_i plain
    rw [not_or] at plain
    constructor
    · simp [Scan.read, Scan.glyph?, plain.1, plain.2]
    · simp [Scan.finish, Scan.next, plain.1, plain.2]

theorem readsAs_quote (value : String) :
    ReadsAs (quote value) (value.toList.map .literal) := by
  have opened : Scan.Reads .outside ['"'] [] .quoted := ⟨rfl, rfl⟩
  have closed : Scan.Reads .quoted ['"'] [] .outside := ⟨rfl, rfl⟩
  have inside := Scan.reads_flatMap fun c (_ : c ∈ value.toList) => reads_quoteChar c
  have whole := (opened.append inside).append closed
  rw [ReadsAs, quote, String.toList_ofList]
  rwa [List.append_nil] at whole

end Encoders

end SearchQuery.Rendering
