import SearchQuery.Proofs.Number.ReadBack
import SearchQuery.Proofs.Rendering.LeafReadings

/-!
What the text of a leaf says of its score. Boost and slop stand in the one reading that it has, but
not always which of the two a number is: for Azure the boost of a keyword is written like the slop
of a phrase, and that is the only doubt (`text_tells_scoring`).
-/

namespace SearchQuery.Rendering

/-- The marks that tell the score. Each piece of a phrase has those of the first. -/
def LeafReading.marks : LeafReading → Marks
  | .single piece => piece.marks
  | .several pieces caret => ⟨pieces.head?.bind fun piece => piece.marks.tilde, caret⟩

/-- Only a phrase has one. -/
def Leaf.slop : Leaf → UInt32
  | .test _ => 0
  | .phrase p => p.slop

/-- A keyword and a phrase that look for the same, the boost of the one spelled like the slop of the
other. -/
structure BoostSpellsSlop (test : TermTest) (phrase : Phrase) : Prop where
  keyword : test.matching = .keyword
  field : ∀ term ∈ phrase.terms, term.field = test.term.field
  value : " ".intercalate (phrase.terms.map Term.value) = test.term.value
  sloppy : phrase.slop ≠ 0
  number : test.boost.map Binary.plainText = some (toString phrase.slop.toNat)
  unboosted : phrase.boost = none

section Score

variable {backend : Backend} {test : TermTest} {phrase : Phrase}
  {list : List (String × List String)}

theorem slopNumber_injective : Function.Injective slopNumber := by
  intro slop other same
  unfold slopNumber at same
  split at same
  · split at same
    · simp_all
    · cases same
  · split at same
    · cases same
    · have digits : Nat.toDigits 10 slop.toNat = Nat.toDigits 10 other.toNat := by
        rw [← toList_natText, ← toList_natText, Option.some.inj same]
      have value := congrArg digitsValue digits
      rw [digitsValue_toDigits, digitsValue_toDigits] at value
      exact UInt32.toNat_inj.mp value

private theorem slopNumber_ne_empty (slop : UInt32) : slopNumber slop ≠ some "" := by
  unfold slopNumber
  split
  · nofun
  · intro same
    have filled := (bare_natText slop.toNat).filled
    rw [Option.some.inj same] at filled
    exact filled rfl

theorem boost_eq_of_boostNumber {leaf other : Leaf} (same : leaf.boostNumber = other.boostNumber) :
    leaf.boost = other.boost :=
  Option.map_injective Binary.plainText_injective same

private theorem boostNumber_ne_empty (leaf : Leaf) : leaf.boostNumber ≠ some "" := by
  intro same
  obtain ⟨boost, -, text⟩ := Option.map_eq_some_iff.mp same
  have filled := (bare_plainText boost).filled
  rw [text] at filled
  exact filled rfl

theorem marks_phrase (filled : phrase.terms ≠ []) :
    ((Leaf.phrase phrase).reading backend).marks =
      ⟨slopNumber phrase.slop, (Leaf.phrase phrase).boostNumber⟩ := by
  have nonempty := (maximalRuns_runs phrase.terms).ne_nil filled
  rw [Leaf.reading]
  generalize runs phrase.terms = list at nonempty ⊢
  cases list with
  | nil => exact absurd rfl nonempty
  | cons first others => cases others <;> rfl

private theorem exists_run_of_single {piece : Piece} {slop : UInt32} {caret : Option String}
    (same : .single piece = phraseReading slop caret list) :
    ∃ run, list = [run] ∧ piece = runPiece slop caret run := by
  match list with
  | [run] => exact ⟨run, rfl, LeafReading.single.inj same⟩
  | [] => cases same
  | first :: second :: rest => cases same

/-- The marks of a test are its own boost, wherever they stand. -/
theorem testMarks_injective {matching another : Matching} {boost boosted : Option String}
    (filled : boost ≠ some "") (filledAgain : boosted ≠ some "")
    (same : testMarks backend matching boost = testMarks backend another boosted) :
    boost = boosted := by
  by_cases fuzzy : matching = .fuzzy
  · by_cases again : another = .fuzzy
    · simpa [testMarks, fuzzy, again] using same
    · cases backend <;> simp_all [testMarks]
  · by_cases again : another = .fuzzy <;> cases backend <;> simp_all [testMarks]

/-- Only a keyword is in quotes, as a phrase of one run is. -/
theorem quoted_of_contentOf {matching : Matching} {value text : String}
    (same : contentOf matching value = .quoted text) : matching = .keyword ∧ value = text := by
  cases matching with
  | keyword => exact ⟨rfl, Content.quoted.inj same⟩
  | term | prefixed | wildcard | fuzzy => cases same

theorem score_of_readings (filled : phrase.terms ≠ [])
    (same : (Leaf.test test).reading backend = (Leaf.phrase phrase).reading backend) :
    test.boost = phrase.boost ∧ phrase.slop = 0 ∨
      backend = .azure ∧ BoostSpellsSlop test phrase := by
  have parted := maximalRuns_runs phrase.terms
  have marks := congrArg LeafReading.marks same
  rw [Leaf.reading, marks_phrase filled] at marks
  by_cases fuzzy : test.matching = .fuzzy
  · simp only [LeafReading.marks, testMarks, if_pos fuzzy] at marks
    exact absurd (Marks.mk.inj marks).1.symm (slopNumber_ne_empty phrase.slop)
  · simp only [LeafReading.marks, testMarks, if_neg fuzzy] at marks
    cases backend with
    | solr =>
      obtain ⟨none, boosts⟩ := Marks.mk.inj marks
      exact .inl ⟨boost_eq_of_boostNumber boosts, slopNumber_injective none.symm⟩
    | azure =>
      obtain ⟨number, unboosted⟩ := Marks.mk.inj marks
      by_cases sloppy : phrase.slop = 0
      · rw [sloppy] at number
        exact .inl ⟨boost_eq_of_boostNumber (number.trans unboosted), sloppy⟩
      · obtain ⟨run, single, piece⟩ := exists_run_of_single same
        obtain ⟨field, content, -⟩ := Piece.mk.inj piece
        obtain ⟨keyword, value⟩ := quoted_of_contentOf content
        have joined := parted.joined
        rw [single, List.flatMap_singleton, runTerms] at joined
        refine .inr ⟨rfl, keyword, fun term member => ?_, ?_, sloppy, ?_, ?_⟩
        · rw [← joined] at member
          obtain ⟨_, -, rfl⟩ := List.mem_map.mp member
          exact field.symm
        · rw [value, ← joined, List.map_map]
          exact congrArg _ (List.map_id _)
        · exact number.trans (if_neg sloppy)
        · exact Option.map_eq_none_iff.mp unboosted.symm

/-- For Azure such a keyword and such a phrase are written alike. -/
theorem BoostSpellsSlop.text_eq (alike : BoostSpellsSlop test phrase) (filled : phrase.terms ≠ []) :
    (Backend.azure.dialect.leafToken .bare (.test test)).text =
      (Backend.azure.dialect.leafToken .bare (.phrase phrase)).text := by
  have parted : MaximalRuns phrase.terms [(test.term.field, phrase.terms.map Term.value)] := by
    refine ⟨?_, by simpa using filled, .singleton _⟩
    rw [List.flatMap_singleton, runTerms, List.map_map]
    refine (List.map_congr_left fun term member => ?_).trans (List.map_id _)
    rw [Function.comp_apply, ← alike.field term member]
    rfl
  have single := maximalRuns_iff.mp parted
  obtain ⟨boost, boosted, number⟩ := Option.map_eq_some_iff.mp alike.number
  simp [Backend.dialect, azure, azureBoostSeparator, Dialect.leafToken, Token.text, LeafToken.text,
    LeafToken.boostText, Leaf.body, Leaf.boost, Leaf.style, testBody, valueText, phraseBody,
    runText, ← single, alike.keyword, alike.value, alike.sloppy, alike.unboosted, boosted, number,
    String.append_assoc]

end Score

/-- The text of a leaf without marker tells its boost and its slop. For Azure alone there is an
exception: the boost of a keyword can be spelled like the slop of a phrase without boost that has
the value of the keyword in its one run. -/
theorem text_tells_scoring (backend : Backend) {leaf other : Leaf}
    (named : ∀ field ∈ leaf.fields ++ other.fields, FilterDescriptor.isFieldName field)
    (filled : leaf.fields ≠ []) (otherFilled : other.fields ≠ [])
    (same : (backend.dialect.leafToken .bare leaf).text =
      (backend.dialect.leafToken .bare other).text) :
    leaf.boost = other.boost ∧ leaf.slop = other.slop ∨
      backend = .azure ∧ ∃ test phrase, BoostSpellsSlop test phrase ∧
        (leaf = .test test ∧ other = .phrase phrase ∨
          leaf = .phrase phrase ∧ other = .test test) := by
  obtain ⟨names, otherNames⟩ := List.forall_mem_append.mp named
  have first := leafText_reading backend names filled
  have second := leafText_reading backend otherNames otherFilled
  rw [same] at first
  have readings := first.unique second
  cases leaf with
  | test test =>
    cases other with
    | test another =>
      have boosts := testMarks_injective (boostNumber_ne_empty (.test test))
        (boostNumber_ne_empty (.test another)) (congrArg LeafReading.marks readings)
      exact .inl ⟨boost_eq_of_boostNumber boosts, rfl⟩
    | phrase phrase =>
      obtain ⟨boosts, slops⟩ | ⟨azure, alike⟩ :=
        score_of_readings (terms_ne_nil otherFilled) readings
      · exact .inl ⟨boosts, slops.symm⟩
      · exact .inr ⟨azure, test, phrase, alike, .inl ⟨rfl, rfl⟩⟩
  | phrase phrase =>
    cases other with
    | test test =>
      obtain ⟨boosts, slops⟩ | ⟨azure, alike⟩ :=
        score_of_readings (terms_ne_nil filled) readings.symm
      · exact .inl ⟨boosts.symm, slops⟩
      · exact .inr ⟨azure, test, phrase, alike, .inr ⟨rfl, rfl⟩⟩
    | phrase another =>
      have marks := congrArg LeafReading.marks readings
      rw [marks_phrase (terms_ne_nil filled), marks_phrase (terms_ne_nil otherFilled)] at marks
      obtain ⟨slops, boosts⟩ := Marks.mk.inj marks
      exact .inl ⟨boost_eq_of_boostNumber boosts, slopNumber_injective slops⟩

/-- The start of a value and the wildcard that says the same. -/
def startTest : Leaf :=
  .test ⟨.prefixed, ⟨"title", "re"⟩, some (.ofInt 2), .always⟩

def starTest : Leaf :=
  .test ⟨.wildcard, ⟨"title", "re*"⟩, some (.ofInt 2), .always⟩

theorem text_tells_scoring_star :
    (∀ field ∈ startTest.fields ++ starTest.fields, FilterDescriptor.isFieldName field) ∧
      startTest.fields ≠ [] ∧ starTest.fields ≠ [] ∧ startTest ≠ starTest ∧
      (Backend.azure.dialect.leafToken .bare startTest).text =
        (Backend.azure.dialect.leafToken .bare starTest).text ∧
      startTest.boost = starTest.boost ∧ startTest.slop = starTest.slop := by
  have named : ∀ field ∈ startTest.fields ++ starTest.fields,
      FilterDescriptor.isFieldName field := by decide
  have filled : startTest.fields ≠ [] := by decide
  have otherFilled : starTest.fields ≠ [] := by decide
  have same : (Backend.azure.dialect.leafToken .bare startTest).text =
      (Backend.azure.dialect.leafToken .bare starTest).text := by decide +kernel
  refine ⟨named, filled, otherFilled, by decide +kernel, same, ?_⟩
  refine (text_tells_scoring .azure named filled otherFilled same).resolve_right ?_
  rintro ⟨-, test, phrase, -, ⟨-, other⟩ | ⟨leaf, -⟩⟩
  · cases other
  · cases leaf

def boostedKeyword : TermTest :=
  ⟨.keyword, ⟨"title", "red"⟩, some (.ofInt 2), .always⟩

def loosePhrase : Phrase :=
  ⟨[⟨"title", "red"⟩], 2, none, .always⟩

/-- Here a boost cannot be told from a slop. -/
theorem boost_spelled_as_slop :
    (∀ field ∈ (Leaf.test boostedKeyword).fields ++ (Leaf.phrase loosePhrase).fields,
      FilterDescriptor.isFieldName field) ∧
      (∀ boost ∈ boostedKeyword.boost, boost.isFinite) ∧ loosePhrase.terms ≠ [] ∧
      (Backend.azure.dialect.leafToken .bare (.phrase loosePhrase)).text = "title:\"red\"~2" ∧
      (Backend.azure.dialect.leafToken .bare (.test boostedKeyword)).text =
        (Backend.azure.dialect.leafToken .bare (.phrase loosePhrase)).text ∧
      boostedKeyword.boost ≠ loosePhrase.boost ∧
      (Leaf.test boostedKeyword).slop ≠ (Leaf.phrase loosePhrase).slop := by
  have alike : BoostSpellsSlop boostedKeyword loosePhrase :=
    ⟨rfl, by decide, by decide, by decide, by decide +kernel, rfl⟩
  have filled : loosePhrase.terms ≠ [] := by decide
  exact ⟨by decide, by decide +kernel, filled, by decide, alike.text_eq filled, by decide,
    by decide⟩

end SearchQuery.Rendering
