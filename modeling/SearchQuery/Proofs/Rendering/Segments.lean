import SearchQuery.Proofs.Rendering.Scan
import SearchQuery.Proofs.Rendering.Tokens

/-!
Query text in segments: some are fixed by the dialect and the shape of the tree, the others come
from the values of leaves. Main statements: the segments join to the text (`textOf_segments`), and
each of them is read by itself (`Segment.readsAs`).
-/

namespace SearchQuery

theorem Decimal.mem_positional {d : Decimal} {c : Char} (member : c ∈ d.positional) :
    c.isDigit = true ∨ c = '-' ∨ c = '.' := by
  have digit {c : Char} (member : c ∈ Nat.toDigits 10 d.digits) : c.isDigit = true :=
    Nat.isDigit_of_mem_toDigits (by decide) (by decide) member
  have zero {n : Nat} {c : Char} (member : c ∈ zeros n) : c.isDigit = true :=
    List.eq_of_mem_replicate member ▸ rfl
  unfold positional at member
  rcases List.mem_append.mp member with minus | member
  · cases negative : d.negative <;> simp_all [sign]
  split at member
  · exact .inl ((List.mem_append.mp member).elim digit zero)
  split at member
  · rcases List.mem_append.mp member with whole | fraction
    · exact .inl (digit (List.mem_of_mem_take whole))
    · rcases List.mem_cons.mp fraction with point | fraction
      · exact .inr (.inr point)
      · exact .inl (digit (List.mem_of_mem_drop fraction))
  · simp only [List.cons_append, List.mem_cons, List.mem_append] at member
    rcases member with rfl | rfl | leading | fraction
    · exact .inl rfl
    · exact .inr (.inr rfl)
    · exact .inl (zero leading)
    · exact .inl (digit fraction)

namespace Rendering

/-- What values write in a leaf: the value of a test, or the values of one run of a phrase. -/
inductive ValuePart where
  | test (matching : Matching) (value : String)
  | run (values : List String)
deriving DecidableEq

namespace ValuePart

def text : ValuePart → String
  | .test .term value => escapeTerm value
  | .test .fuzzy value => escapeTerm value
  | .test .prefixed value => escapeTerm (dropStars value) ++ "*"
  | .test .wildcard value => escapeWildcard value
  | .test .keyword value => quote value
  | .run values => quote (" ".intercalate values)

/-- What is meant: the value itself, the start of a value with one star, values with one space
between them. -/
def value : ValuePart → String
  | .test .prefixed value => dropStars value ++ "*"
  | .test _ value => value
  | .run values => " ".intercalate values

/-- How it is to be read: nothing but the star of a start and wildcards has a meaning. -/
def reading : ValuePart → List Glyph
  | .test .term value => value.toList.map (.word false)
  | .test .fuzzy value => value.toList.map (.word false)
  | .test .prefixed value => (dropStars value).toList.map (.word false) ++ [⟨'*', true⟩]
  | .test .wildcard value => value.toList.map (.word true)
  | .test .keyword value => value.toList.map .literal
  | .run values => (" ".intercalate values).toList.map .literal

theorem readsAs (part : ValuePart) : ReadsAs part.text part.reading := by
  match part with
  | .test .term value => exact readsAs_escapeTerm value
  | .test .fuzzy value => exact readsAs_escapeTerm value
  | .test .prefixed value =>
    have star : ReadsAs "*" [⟨'*', true⟩] := ⟨rfl, rfl⟩
    exact (readsAs_escapeTerm (dropStars value)).append star
  | .test .wildcard value => exact readsAs_escapeWildcard value
  | .test .keyword value => exact readsAs_quote value
  | .run values => exact readsAs_quote (" ".intercalate values)

theorem reading_chars (part : ValuePart) : part.reading.map Glyph.char = part.value.toList := by
  have word (wildcards : Bool) : Glyph.char ∘ Glyph.word wildcards = id := rfl
  have literal : Glyph.char ∘ Glyph.literal = id := rfl
  match part with
  | .test .term value => simp [reading, ValuePart.value, word]
  | .test .fuzzy value => simp [reading, ValuePart.value, word]
  | .test .prefixed value => simp [reading, ValuePart.value, word]
  | .test .wildcard value => simp [reading, ValuePart.value, word]
  | .test .keyword value => simp [reading, ValuePart.value, literal]
  | .run values => simp [reading, ValuePart.value, literal]

end ValuePart

inductive Segment where
  | fixed (text : String)
  | value (part : ValuePart)
deriving DecidableEq

namespace Segment

def text : Segment → String
  | .fixed text => text
  | .value part => part.text

def reading : Segment → List Glyph
  | .fixed text => text.toList.map (⟨·, true⟩)
  | .value part => part.reading

def fixed? : Segment → Option String
  | .fixed text => some text
  | .value _ => none

def part? : Segment → Option ValuePart
  | .fixed _ => none
  | .value part => some part

/-- Segments joined with nothing between them. -/
def textOf (segments : List Segment) : String :=
  String.join (segments.map text)

theorem textOf_append (front back : List Segment) :
    textOf (front ++ back) = textOf front ++ textOf back := by
  rw [textOf, List.map_append, String.join_append, textOf, textOf]

theorem textOf_cons (segment : Segment) (rest : List Segment) :
    textOf (segment :: rest) = segment.text ++ textOf rest := by
  rw [textOf, List.map_cons, String.join_cons, textOf]

theorem textOf_nil : textOf [] = "" := rfl

private theorem textOf_flatMap {α : Type} (segmentsOf : α → List Segment) (items : List α) :
    textOf (items.flatMap segmentsOf) =
      String.join (items.map fun item => textOf (segmentsOf item)) := by
  induction items with
  | nil => rfl
  | cons item rest ih =>
    rw [List.flatMap_cons, textOf_append, ih, List.map_cons, String.join_cons]

/-- Several texts with one space between them. -/
def spaced : List (List Segment) → List Segment
  | [] => []
  | first :: rest => first ++ rest.flatMap (.fixed " " :: ·)

private theorem textOf_spaced (lists : List (List Segment)) :
    textOf (spaced lists) = " ".intercalate (lists.map textOf) := by
  match lists with
  | [] => rfl
  | [single] => simp [spaced]
  | first :: second :: rest =>
    have tail : textOf (spaced (second :: rest)) = _ := textOf_spaced (second :: rest)
    simp only [spaced, textOf_append] at tail
    simp only [spaced, List.flatMap_cons, textOf_append, textOf_cons, text, String.append_assoc, tail,
      List.map_cons, String.intercalate_cons_cons]

/-- Fixed text is plain. -/
def IsPlain : Segment → Prop
  | .fixed text => Plain text
  | .value _ => True

private theorem isPlain_spaced {lists : List (List Segment)}
    (each : ∀ list ∈ lists, ∀ segment ∈ list, segment.IsPlain) :
    ∀ segment ∈ spaced lists, segment.IsPlain := by
  cases lists with
  | nil => exact List.forall_mem_nil _
  | cons first rest =>
    intro segment member
    rcases List.mem_append.mp member with member | member
    · exact each first List.mem_cons_self segment member
    obtain ⟨list, inRest, member⟩ := List.mem_flatMap.mp member
    rcases List.mem_cons.mp member with rfl | member
    · exact (by decide : Plain " ")
    · exact each list (List.mem_cons_of_mem _ inRest) segment member

theorem IsPlain.readsAs {segment : Segment} (plain : segment.IsPlain) :
    ReadsAs segment.text segment.reading := by
  cases segment with
  | fixed text => exact Plain.readsAs plain
  | value part => exact part.readsAs

theorem readsAs_textOf {segments : List Segment} (plain : ∀ segment ∈ segments, segment.IsPlain) :
    ReadsAs (textOf segments) (segments.flatMap reading) :=
  ReadsAs.join fun segment member => (plain segment member).readsAs

end Segment

/-- One run of a phrase, with its slop where there is any. -/
def runSegments (slop : UInt32) (run : String × List String) : List Segment :=
  [.fixed (run.1 ++ ":"), .value (.run run.2),
    .fixed (if slop = 0 then "" else "~" ++ toString slop.toNat)]

def phraseSegments (terms : List Term) (slop : UInt32) : List Segment :=
  match (runs terms).map (runSegments slop) with
  | [single] => single
  | several => .fixed "(" :: Segment.spaced several ++ [.fixed ")"]

theorem textOf_runSegments (slop : UInt32) (run : String × List String) :
    Segment.textOf (runSegments slop run) = runText slop run := by
  simp [runSegments, runText, Segment.textOf, Segment.text, ValuePart.text, String.append_assoc]

theorem textOf_phraseSegments (terms : List Term) (slop : UInt32) :
    Segment.textOf (phraseSegments terms slop) = phraseBody terms slop := by
  unfold phraseSegments phraseBody
  match runs terms with
  | [] => rfl
  | [run] => exact textOf_runSegments slop run
  | first :: second :: rest =>
    simp only [List.map_cons, Segment.textOf_cons, Segment.textOf_append,
      Segment.textOf_spaced, List.map_map, Function.comp_def, textOf_runSegments, Segment.text,
      List.cons_append, Segment.textOf_nil, String.append_empty, String.append_assoc]

/-- The runs of a phrase are on the fields of its terms. -/
theorem field_of_mem_runs {terms : List Term} {run : String × List String}
    (member : run ∈ runs terms) : run.1 ∈ terms.map Term.field := by
  induction terms generalizing run with
  | nil => nomatch member
  | cons term rest ih =>
    rw [List.map_cons, List.mem_cons]
    unfold runs at member
    split at member
    · rename_i field values others tail
      rw [tail] at ih
      split at member
      · rename_i same
        rcases List.mem_cons.mp member with rfl | member
        · exact .inl same
        · exact .inr (ih (List.mem_cons_of_mem _ member))
      · exact (List.mem_cons.mp member).imp (congrArg Prod.fst) ih
    · exact .inl (List.mem_singleton.mp member ▸ rfl)

private theorem plain_natText (n : Nat) : Plain (toString n) := by
  intro c member
  have inDigits : c ∈ Nat.toDigits 10 n := by simpa using member
  have digit : c.isDigit = true := Nat.isDigit_of_mem_toDigits (by decide) (by decide) inDigits
  constructor <;> rintro rfl <;> revert digit <;> decide

theorem isPlain_runSegments (slop : UInt32) {run : String × List String} (field : Plain run.1) :
    ∀ segment ∈ runSegments slop run, segment.IsPlain := by
  have colon : Plain ":" := by decide
  have tilde : Plain "~" := by decide
  simp only [runSegments, List.forall_mem_cons, Segment.IsPlain, true_and]
  refine ⟨field.append colon, ?_, List.forall_mem_nil _⟩
  split
  · decide
  · exact tilde.append (plain_natText slop.toNat)

theorem isPlain_phraseSegments {terms : List Term} (slop : UInt32)
    (fields : ∀ field ∈ terms.map Term.field, Plain field) :
    ∀ segment ∈ phraseSegments terms slop, segment.IsPlain := by
  have each : ∀ list ∈ (runs terms).map (runSegments slop), ∀ segment ∈ list, segment.IsPlain := by
    intro list member
    obtain ⟨run, inRuns, rfl⟩ := List.mem_map.mp member
    exact isPlain_runSegments slop (fields run.1 (field_of_mem_runs inRuns))
  unfold phraseSegments
  split
  · rename_i single only
    exact each single (only ▸ List.mem_singleton_self single)
  · have opener : Segment.IsPlain (.fixed "(") := (by decide : Plain "(")
    have closer : Segment.IsPlain (.fixed ")") := (by decide : Plain ")")
    intro segment member
    simp only [List.mem_append, List.mem_cons, List.not_mem_nil, or_false] at member
    rcases member with (rfl | inside) | rfl
    · exact opener
    · exact Segment.isPlain_spaced each segment inside
    · exact closer

namespace Leaf

def segments : Leaf → List Segment
  | .test t =>
    [.fixed (t.term.field ++ ":"), .value (.test t.matching t.term.value),
      .fixed (if t.matching = .fuzzy then "~" else "")]
  | .phrase p => phraseSegments p.terms p.slop

/-- The fields that a leaf names. -/
def fields : Leaf → List String
  | .test t => [t.term.field]
  | .phrase p => p.terms.map Term.field

theorem textOf_segments (leaf : Leaf) : Segment.textOf leaf.segments = leaf.body := by
  cases leaf with
  | test t =>
    cases matching : t.matching <;>
      simp [segments, body, testBody, valueText, matching, Segment.textOf, Segment.text,
        ValuePart.text, String.append_assoc]
  | phrase p => exact textOf_phraseSegments p.terms p.slop

theorem isPlain_segments {leaf : Leaf} (plain : ∀ field ∈ leaf.fields, Plain field) :
    ∀ segment ∈ leaf.segments, segment.IsPlain := by
  cases leaf with
  | test t =>
    have colon : Plain ":" := by decide
    have field : Plain t.term.field := plain _ List.mem_cons_self
    simp only [segments, List.forall_mem_cons, Segment.IsPlain, true_and]
    refine ⟨field.append colon, ?_, List.forall_mem_nil _⟩
    split <;> decide
  | phrase p => exact isPlain_phraseSegments p.slop plain

end Leaf

theorem plain_plainText {format : BinaryFormat} (x : Binary format) : Plain x.plainText := by
  unfold Binary.plainText
  split
  · intro c member
    rw [String.toList_ofList] at member
    rcases Decimal.mem_positional member with digit | rfl | rfl
    · constructor <;> rintro rfl <;> revert digit <;> decide
    · decide
    · decide
  · split <;> decide
  · decide

namespace Token

def segments : Token → List Segment
  | .leaf token => .fixed token.marker.text :: token.leaf.segments ++ [.fixed token.boostText]
  | token => [.fixed token.text]

/-- A token after another, see `following`. -/
def followingSegments (token : Token) : List Segment :=
  match token with
  | .closer _ => token.segments
  | _ => .fixed " " :: token.segments

/-- The segments of tokens joined to a text. -/
def allSegments : List Token → List Segment
  | [] => []
  | first :: rest => first.segments ++ rest.flatMap followingSegments

theorem textOf_segments (token : Token) : Segment.textOf token.segments = token.text := by
  cases token with
  | leaf token =>
    simp [segments, text, LeafToken.text, Segment.textOf_append, Segment.textOf_cons, Segment.text,
      Segment.textOf_nil, token.leaf.textOf_segments, String.append_assoc]
  | keyword k => simp [segments, Segment.textOf, Segment.text]
  | opener negated => simp [segments, Segment.textOf, Segment.text]
  | closer boost => simp [segments, Segment.textOf, Segment.text]

theorem textOf_followingSegments (token : Token) :
    Segment.textOf token.followingSegments = token.following := by
  cases token <;>
    simp [followingSegments, following, Segment.textOf_cons, Segment.text, textOf_segments]

theorem textOf_allSegments (tokens : List Token) :
    Segment.textOf (allSegments tokens) = textOf tokens := by
  cases tokens with
  | nil => rfl
  | cons first rest =>
    simp only [allSegments, textOf, Segment.textOf_append, Segment.textOf_flatMap, textOf_segments,
      textOf_followingSegments]

/-- The fields of a leaf and the separator before its boost are plain. -/
def IsPlain : Token → Prop
  | .leaf token => (∀ field ∈ token.leaf.fields, Plain field) ∧ Plain token.separator.toString
  | _ => True

theorem isPlain_segments {token : Token} (plain : token.IsPlain) :
    ∀ segment ∈ token.segments, segment.IsPlain := by
  cases token with
  | leaf token =>
    have marker : Plain token.marker.text := by cases token.marker <;> decide
    have boost : Plain token.boostText := by
      unfold LeafToken.boostText
      split
      · exact plain.2.append (plain_plainText _)
      · decide
    intro segment member
    simp only [segments, List.mem_append, List.mem_cons, List.not_mem_nil, or_false] at member
    rcases member with (rfl | body) | rfl
    · exact marker
    · exact Leaf.isPlain_segments plain.1 segment body
    · exact boost
  | keyword k => cases k <;> simp [segments, Segment.IsPlain, text, Keyword.text] <;> decide
  | opener negated => cases negated <;> simp [segments, Segment.IsPlain, text] <;> decide
  | closer boost =>
    have closing : Plain ")^" := by decide
    simp only [segments, List.forall_mem_cons, Segment.IsPlain, text]
    refine ⟨?_, List.forall_mem_nil _⟩
    cases boost with
    | none => decide
    | some boost => exact closing.append (plain_plainText boost)

theorem isPlain_followingSegments {token : Token} (plain : token.IsPlain) :
    ∀ segment ∈ token.followingSegments, segment.IsPlain := by
  have space : Segment.IsPlain (.fixed " ") := (by decide : Plain " ")
  have own := isPlain_segments plain
  cases token with
  | closer boost => exact own
  | leaf token => exact List.forall_mem_cons.mpr ⟨space, own⟩
  | keyword k => exact List.forall_mem_cons.mpr ⟨space, own⟩
  | opener negated => exact List.forall_mem_cons.mpr ⟨space, own⟩

theorem isPlain_allSegments {tokens : List Token} (plain : ∀ token ∈ tokens, token.IsPlain) :
    ∀ segment ∈ allSegments tokens, segment.IsPlain := by
  cases tokens with
  | nil => exact List.forall_mem_nil _
  | cons first rest =>
    intro segment member
    rcases List.mem_append.mp member with member | member
    · exact isPlain_segments (plain first List.mem_cons_self) segment member
    · obtain ⟨token, inRest, member⟩ := List.mem_flatMap.mp member
      have tokenPlain := plain token (List.mem_cons_of_mem _ inRest)
      exact isPlain_followingSegments tokenPlain segment member

end Token

end Rendering

end SearchQuery
