import SearchQuery.Proofs.Query.Documents

/-!
Searches through their texts and back. Nothing is read from a document with an unusable part, so
that a search survives exactly within the limits of its text (`search_survives_text_iff`).
-/

namespace SearchQuery

open Json (Value Number)

section Unusable

private theorem isUsable_of_readBoost {value : Value} {boost : Option Single}
    (read : readBoost (some value) = some boost) : value.isUsable := by
  cases value with
  | null | bool | number | string => rfl
  | array | object | unusable => cases read

theorem FilterValue.isUsable_of_ofJson? {value : Value} {content : FilterValue}
    (read : FilterValue.ofJson? value = some content) : value.isUsable := by
  cases value with
  | bool | number | string => rfl
  | null | array | object | unusable => cases read

theorem Query.isUsable_of_ofJson? {value : Value} {query : Query}
    (read : ofJson? value = some query) : value.isUsable := by
  rw [ofJson?] at read
  split at read
  · assumption
  · cases read

/-- A group is not read from a document with an unusable part. -/
theorem Group.isUsable_of_ofJson? {group other : Group} {levels : Nat}
    (read : ofJson? false Query.ofJson? (group.toJson.reread (levels + 2)) = some other) :
    (group.toJson.reread (levels + 2)).isUsable := by
  have record : (group.toJson.reread (levels + 2)).record?
      [⟨"kind", false⟩, occurField, boostField, ⟨"children", true⟩] =
        some [some (.string group.kind.name), some (.string group.occur.name),
          group.boost.map fun boost => (Value.ofSingle boost).reread (levels + 1),
          some (.array (Value.rereadItems levels (Query.allToJson group.children)))] := by
    obtain ⟨⟨kind, occur, boost⟩, children⟩ := group
    cases boost <;> rfl
  have members : group.toJson.reread (levels + 2) = .object
      ([("kind", .string group.kind.name), ("matches", .string group.occur.name)] ++
        (group.boost.map fun boost =>
          ("boost", (Value.ofSingle boost).reread (levels + 1))).toList ++
        [("children", .array (Value.rereadItems levels (Query.allToJson group.children)))]) := by
    obtain ⟨⟨kind, occur, boost⟩, children⟩ := group
    cases boost <;> rfl
  simp only [ofJson?, record, Value.required, Value.withDefault, Value.list?, Option.bind_eq_bind,
    Option.bind_some, Option.bind_eq_some_iff] at read
  obtain ⟨kind, _, occur, _, boost, boostRead, children, childrenRead, _⟩ := read
  have boosts : ∀ member ∈ (group.boost.map fun boost =>
      ("boost", (Value.ofSingle boost).reread (levels + 1))).toList, member.2.isUsable := by
    cases own : group.boost with
    | none => simp
    | some value =>
      rw [own] at boostRead
      simpa using isUsable_of_readBoost boostRead
  have inner : (Value.array (Value.rereadItems levels (Query.allToJson group.children))).isUsable :=
    Value.allUsable_iff.mpr fun child member => by
      obtain ⟨query, childRead⟩ := List.exists_of_mapM_eq_some childrenRead child member
      exact Query.isUsable_of_ofJson? childRead
  rw [members, Value.isUsable, Value.membersUsable_iff]
  simp only [List.cons_append, List.nil_append, List.forall_mem_cons, List.forall_mem_append]
  exact ⟨rfl, rfl, boosts, inner, List.forall_mem_nil _⟩

theorem Filter.isUsable_of_ofJson? {filter other : Filter} {levels : Nat}
    (read : ofJson? (filter.toJson.reread (levels + 1)) = some other) :
    (filter.toJson.reread (levels + 1)).isUsable := by
  have record : (filter.toJson.reread (levels + 1)).record?
      [⟨"field", false⟩, ⟨"value", false⟩, ⟨"comparator", false⟩] =
        some [some (.string filter.field), some (filter.value.toJson.reread levels),
          some (.string filter.comparator.name)] := rfl
  simp only [ofJson?, record, Value.required, Option.bind_eq_bind, Option.bind_some,
    Option.bind_eq_some_iff] at read
  obtain ⟨field, _, content, contentRead, _⟩ := read
  have usable := FilterValue.isUsable_of_ofJson? contentRead
  have members : filter.toJson.reread (levels + 1) = .object [("field", .string filter.field),
      ("value", filter.value.toJson.reread levels),
      ("comparator", .string filter.comparator.name)] := rfl
  rw [members, Value.isUsable, Value.membersUsable_iff]
  simp [Value.isUsable, usable]

private theorem SortKeys.isUsable_reread (sort : SortKeys) (levels : Nat) :
    (sort.toJson.reread (levels + 3)).isUsable := by
  have keys : Value.itemsDepth (sort.keys.map SortKey.toJson) ≤ 1 :=
    Value.itemsDepth_le_iff.mpr (List.forall_mem_map.mpr fun key _ => Nat.le_refl 1)
  have shallow : sort.toJson.depth ≤ levels + 3 := by
    rw [toJson, Value.depth, Value.membersDepth, Value.membersDepth, Value.depth]
    omega
  have fits : sort.toJson.Fits := sort.numbers_toJson
  rw [fits.reread_eq shallow]
  exact fits.isUsable

/-- A search is not read from a document with an unusable part. -/
theorem Search.isUsable_of_ofJson? {search other : Search} {levels : Nat}
    (read : Search.ofJson? (search.toJson.reread (levels + 4)) = some other) :
    (search.toJson.reread (levels + 4)).isUsable := by
  have record : (search.toJson.reread (levels + 4)).record?
      [⟨"query", false⟩, ⟨"sort", true⟩, ⟨"filter", true⟩] =
        some [some (search.query.toJson.reread (levels + 3)),
          search.sort.map fun sort => sort.toJson.reread (levels + 3),
          search.filter.map fun filter => filter.toJson.reread (levels + 3)] := by
    obtain ⟨query, sort, filter⟩ := search
    cases sort <;> cases filter <;> rfl
  have members : search.toJson.reread (levels + 4) = .object
      (("query", search.query.toJson.reread (levels + 3)) ::
        (search.sort.map fun sort => ("sort", sort.toJson.reread (levels + 3))).toList ++
        (search.filter.map fun filter =>
          ("filter", filter.toJson.reread (levels + 3))).toList) := by
    obtain ⟨query, sort, filter⟩ := search
    cases sort <;> cases filter <;> rfl
  simp only [ofJson?, record, Value.required, Option.bind_eq_bind, Option.bind_some,
    Option.bind_eq_some_iff] at read
  obtain ⟨query, queryRead, sort, _, filter, filterRead, _⟩ := read
  have sorts : ∀ member ∈ (search.sort.map fun sort =>
      ("sort", sort.toJson.reread (levels + 3))).toList, member.2.isUsable := by
    cases search.sort with
    | none => simp
    | some sort => simpa using sort.isUsable_reread levels
  have filters : ∀ member ∈ (search.filter.map fun filter =>
      ("filter", filter.toJson.reread (levels + 3))).toList, member.2.isUsable := by
    cases own : search.filter with
    | none => simp
    | some filter =>
      rw [own] at filterRead
      have present : (Filter.ofJson? (filter.toJson.reread (levels + 3))).map some = some _ :=
        filterRead
      obtain ⟨content, contentRead, _⟩ := Option.map_eq_some_iff.mp present
      simpa using Filter.isUsable_of_ofJson? contentRead
  rw [members, Value.isUsable, Value.membersUsable_iff]
  simp only [List.cons_append, List.forall_mem_cons, List.forall_mem_append]
  exact ⟨Group.isUsable_of_ofJson? queryRead, sorts, filters⟩

end Unusable

section Exchange

variable {search : Search}

private theorem Json.Number.double?_isSome_of_single? {n : Number} {x : Single}
    (read : n.single? = some x) : n.double?.isSome := by
  rw [Number.single?] at read
  split at read
  · rename_i value whole
    rw [Number.double?, whole]
    rfl
  · obtain ⟨double, wide, _⟩ := Option.map_eq_some_iff.mp read
    exact Option.isSome_of_eq_some wide

private theorem whole_numeral : Whole fun n => Numeral n.text :=
  fun n _ _ => Number.numeral_ofInt n

private theorem whole_fits : Whole fun n => n.double?.isSome := by
  intro n least most
  rw [Number.double?, Number.int?_ofInt least most]
  rfl

theorem Search.printable_toJson (search : Search) : search.toJson.Printable :=
  numbers_toJson whole_numeral
    ⟨⟨fun _ _ => numbers_ofBinary fun _ => Binary.numeral_fractionalText,
        fun _ _ _ _ => numbers_ofBinary fun _ => Binary.numeral_fractionalText⟩,
      fun _ _ _ _ => numbers_ofBinary fun _ => Binary.numeral_fractionalText⟩

private theorem finite_of_ofBinary {format : BinaryFormat} (range : Binary.NumeralRange)
    {x : Binary format} (written : Value.ofBinary range x ≠ .null) : x.isFinite := by
  cases x with
  | finite => rfl
  | infinite | nan => exact absurd rfl written

theorem SingleReadsBack.isFinite {x : Single} (back : SingleReadsBack x) : x.isFinite := by
  refine finite_of_ofBinary Value.singleRange fun null => ?_
  rw [SingleReadsBack, Value.ofSingle, null] at back
  cases back

theorem DoubleReadsBack.isFinite {x : Double} (back : DoubleReadsBack x) : x.isFinite := by
  refine finite_of_ofBinary Value.doubleRange fun null => ?_
  rw [DoubleReadsBack, Value.ofDouble, null] at back
  cases back

theorem SingleReadsBack.fits {x : Single} (back : SingleReadsBack x) :
    (Value.ofSingle x).Fits := by
  refine numbers_ofBinary fun text written => ?_
  rw [SingleReadsBack, Value.ofSingle, Value.ofBinary, written] at back
  exact Json.Number.double?_isSome_of_single? back

theorem DoubleReadsBack.fits {x : Double} (back : DoubleReadsBack x) :
    (Value.ofDouble x).Fits := by
  refine numbers_ofBinary fun text written => ?_
  rw [DoubleReadsBack, Value.ofDouble, Value.ofBinary, written] at back
  exact Option.isSome_of_eq_some back

theorem Search.Floats.imp {single single' : Single → Prop} {double double' : Double → Prop}
    (floats : search.Floats single double)
    (step : search.Floats (fun x => single x → single' x) (fun x => double x → double' x)) :
    search.Floats single' double' where
  query := {
    boosts boost member := step.query.boosts boost member (floats.query.boosts boost member)
    bounds range member bound present :=
      step.query.bounds range member bound present
        (floats.query.bounds range member bound present) }
  filter filter member value present :=
    step.filter filter member value present (floats.filter filter member value present)

theorem Search.floats_of_forall {single : Single → Prop} {double : Double → Prop}
    (singles : ∀ x, single x) (doubles : ∀ x, double x) (search : Search) :
    search.Floats single double :=
  ⟨⟨fun boost _ => singles boost, fun _ _ bound _ => doubles bound⟩,
    fun _ _ value _ => doubles value⟩

/-- The text of a search is read back as the search if its floats are and its document does not nest
too deep. -/
theorem Search.decode_toText_iff :
    Json.decode false Search.ofJson? search.toText = .ok search ↔
      search.FloatsReadBack ∧ search.toJson.depth ≤ Json.depthLimit := by
  rw [Json.decode, toText, Json.read_pretty search.printable_toJson]
  constructor
  · intro decoded
    simp only at decoded
    split at decoded
    · cases decoded
    · rename_i read
      cases decoded
      have usable : (search.toJson.reread Json.depthLimit).isUsable :=
        Search.isUsable_of_ofJson? read
      obtain ⟨same, shallow⟩ := search.printable_toJson.eq_of_isUsable usable
      rw [same] at read
      exact ⟨Search.ofJson?_toJson.mp read, shallow⟩
  · rintro ⟨floats, shallow⟩
    have fits : search.toJson.Fits := numbers_toJson whole_fits <|
      floats.imp (search.floats_of_forall (fun _ => SingleReadsBack.fits)
        fun _ => DoubleReadsBack.fits)
    simp only [fits.reread_eq shallow, Search.ofJson?_toJson.mpr floats]

/-- Given that the digits of its finite floats are read back, a search survives its text exactly if
it is valid, all of its floats are finite and its document does not nest too deep. -/
theorem search_survives_text_iff
    (faithful : search.Floats (fun x => x.isFinite → SingleReadsBack x)
      (fun x => x.isFinite → DoubleReadsBack x)) :
    Search.ofText search.toText = .ok search ↔
      search.validate = .ok () ∧ search.Floats (·.isFinite) (·.isFinite) ∧
        search.toJson.depth ≤ 127 := by
  have floats : search.FloatsReadBack ↔ search.Floats (·.isFinite) (·.isFinite) := by
    constructor
    · intro back
      exact back.imp (search.floats_of_forall (fun _ => SingleReadsBack.isFinite)
        fun _ => DoubleReadsBack.isFinite)
    · exact fun finite => finite.imp faithful
  have accepted : Search.ofText search.toText = .ok search ↔
      Json.decode false Search.ofJson? search.toText = .ok search ∧ search.validate = .ok () := by
    rw [Search.ofText]
    cases Json.decode false Search.ofJson? search.toText with
    | error cause => simp [bind, Except.bind]
    | ok other =>
      cases valid : other.validate with
      | error cause =>
        simp only [bind, Except.bind, valid]
        constructor
        · nofun
        · rintro ⟨⟨⟩, accepted⟩
          nomatch valid.symm.trans accepted
      | ok done =>
        simp only [bind, Except.bind, valid]
        constructor
        · rintro ⟨⟩
          exact ⟨rfl, valid⟩
        · rintro ⟨⟨⟩, _⟩
          rfl
  rw [accepted, Search.decode_toText_iff, floats, and_comm]
  rfl

/-- A boosted search with a range of doubles, a nested group and a comparison. -/
def ratedSearch (boost : Single) : Search where
  query := ⟨⟨.root, .always, some boost⟩,
    [.range ⟨"rating", .double (.ofRatio false 1 10) (.ofInt (-3)), true, false, some 8, none,
        .always⟩,
      .group ⟨.or, .sometimes, none⟩
        [.term ⟨.wildcard, ⟨"title", "\"tab\t*"⟩, none, .sometimes⟩,
          .phrase ⟨[⟨"body", "b c"⟩], 2, none, .never⟩]]⟩
  sort := some ⟨[⟨"rating", .double, true⟩]⟩
  filter := some ⟨"price", .number (.ofRatio false 1000000 3), .lte⟩

/-- With a boost of 1.5 all digits are read back; an endless boost is lost. -/
theorem search_survives_text_iff_rated :
    Search.ofText (ratedSearch (.ofRatio false 3 2)).toText =
        .ok (ratedSearch (.ofRatio false 3 2)) ∧
      Search.ofText (ratedSearch (.infinite false)).toText ≠
        .ok (ratedSearch (.infinite false)) := by
  have tenth : DoubleReadsBack (.ofRatio false 1 10) := by decide +kernel
  have minusThree : DoubleReadsBack (.ofInt (-3)) := by decide +kernel
  have third : DoubleReadsBack (.ofRatio false 1000000 3) := by decide +kernel
  have floats {single : Single → Prop} {double : Double → Prop} {boost : Single}
      (own : single boost) (first : double (.ofRatio false 1 10)) (second : double (.ofInt (-3)))
      (compared : double (.ofRatio false 1000000 3)) :
      (ratedSearch boost).Floats single double :=
    ⟨⟨by simpa [ratedSearch, Group.toQuery, Query.boosts, Query.allBoosts] using own,
        by simpa [ratedSearch, Group.toQuery, Query.ranges, Query.allRanges, Interval.doubles]
          using ⟨first, second⟩⟩,
      by simpa [ratedSearch, FilterValue.doubles] using compared⟩
  constructor
  · have own : SingleReadsBack (.ofRatio false 3 2) := by decide +kernel
    refine (search_survives_text_iff
      (floats (fun _ => own) (fun _ => tenth) (fun _ => minusThree) fun _ => third)).mpr
        ⟨rfl, floats own.isFinite tenth.isFinite minusThree.isFinite third.isFinite, ?_⟩
    decide +kernel
  · intro back
    have limits := (search_survives_text_iff
      (floats (fun finite => absurd finite (by decide)) (fun _ => tenth) (fun _ => minusThree)
        fun _ => third)).mp back
    exact absurd (limits.2.1.query.boosts (.infinite false) List.mem_cons_self) (by decide)

end Exchange

end SearchQuery
