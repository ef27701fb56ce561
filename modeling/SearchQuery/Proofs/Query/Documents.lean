import SearchQuery.Proofs.Query.Numbers
import SearchQuery.Proofs.Support

/-!
Documents of searches. A search is read from its own document if the digits of each of its floats
are read back as the float (`Search.ofJson?_toJson`).
-/

namespace SearchQuery

open Json (Value Number)

section Names

theorem Occurrence.ofName?_name (occur : Occurrence) : ofName? occur.name = some occur := by
  cases occur <;> rfl

theorem GroupKind.ofName?_name (kind : GroupKind) : ofName? kind.name = some kind := by
  cases kind <;> rfl

theorem SortType.ofName?_name (sortType : SortType) : ofName? sortType.name = some sortType := by
  cases sortType <;> rfl

theorem Comparator.ofName?_name (comparator : Comparator) :
    ofName? comparator.name = some comparator := by
  cases comparator <;> rfl

theorem QueryTag.ofJson?_name (nested : Bool) (tag : QueryTag) :
    ofJson? nested (.string tag.name) = some tag := by
  rcases tag with ⟨_ | _ | _ | _ | _⟩ | _ | _ | _ | _ | _ | _ <;> rfl

end Names

section Integers

theorem Json.Value.int?_ofInt {least greatest n : Int} (above : least ≤ n) (below : n ≤ greatest)
    (lowest : -(UInt64.size / 2 : Nat) ≤ n) (highest : n < UInt64.size) :
    (Value.ofInt n).int? least greatest = some n := by
  rw [ofInt, int?, Number.int?_ofInt lowest highest]
  simp [above, below]

theorem Json.Value.int32?_ofInt (n : Int32) : (Value.ofInt n.toInt).int32? = some n := by
  have above := n.le_toInt
  have below := n.toInt_lt
  have size : UInt64.size = 18446744073709551616 := rfl
  rw [int32?, int?_ofInt n.minValue_le_toInt n.toInt_le (by omega) (by omega), Option.map_some,
    Int32.ofInt_toInt]

theorem Json.Value.int64?_ofInt (n : Int64) : (Value.ofInt n.toInt).int64? = some n := by
  have above := n.le_toInt
  have below := n.toInt_lt
  have size : UInt64.size = 18446744073709551616 := rfl
  rw [int64?, int?_ofInt n.minValue_le_toInt n.toInt_le (by omega) (by omega), Option.map_some,
    Int64.ofInt_toInt]

theorem Json.Value.uint32?_ofInt (n : UInt32) : (Value.ofInt n.toNat).uint32? = some n := by
  have below := n.toNat_lt
  have size : UInt64.size = 18446744073709551616 := rfl
  have most : UInt32.size = 4294967296 := rfl
  rw [uint32?, int?_ofInt (by omega) (by omega) (by omega) (by omega)]
  simp

end Integers

section Records

theorem Json.Value.nullable?_eq_some_iff {α : Type} {read? : Value → Option α} {result : α}
    (null : read? .null = none) {value : Value} :
    Value.nullable? read? value = some (some result) ↔ read? value = some result := by
  cases value <;> simp [Value.nullable?, null]

theorem readBoost_eq_some_iff {boost : Option Single} :
    readBoost (boost.map Value.ofSingle) = some boost ↔ ∀ value ∈ boost, SingleReadsBack value := by
  cases boost with
  | none => simp [readBoost, Value.optional, Value.withDefault]
  | some value =>
    have read : readBoost (some (Value.ofSingle value)) = some (some value) ↔
        SingleReadsBack value := Value.nullable?_eq_some_iff rfl
    simpa using read

private theorem readOccur_name (tagged : Bool) (occur : Occurrence) :
    readOccur tagged (some (.string occur.name)) = some occur :=
  occur.ofName?_name

theorem Term.ofJson?_toJson (term : Term) : Term.ofJson? term.toJson = some term :=
  rfl

theorem TermTest.ofJson?_members {test : TermTest} :
    ofJson? test.matching (.object test.members) = some test ↔
      ∀ boost ∈ test.boost, SingleReadsBack boost := by
  have record : (Value.object test.members).record? [⟨"term", false⟩, boostField, occurField] =
      some [some test.term.toJson, test.boost.map Value.ofSingle,
        some (.string test.occur.name)] := by
    obtain ⟨matching, term, boost, occur⟩ := test
    cases boost <;> rfl
  rw [← readBoost_eq_some_iff]
  obtain ⟨matching, term, boost, occur⟩ := test
  simp [ofJson?, record, Value.required, Term.ofJson?_toJson, readOccur_name,
    Option.bind_eq_some_iff]

theorem Phrase.ofJson?_members {phrase : Phrase} :
    ofJson? (.object phrase.members) = some phrase ↔
      ∀ boost ∈ phrase.boost, SingleReadsBack boost := by
  have record : (Value.object phrase.members).record?
      [⟨"terms", false⟩, ⟨"slop", true⟩, boostField, occurField] =
        some [some (.array (phrase.terms.map Term.toJson)), some (.ofInt phrase.slop.toNat),
          phrase.boost.map Value.ofSingle, some (.string phrase.occur.name)] := by
    obtain ⟨terms, slop, boost, occur⟩ := phrase
    cases boost <;> rfl
  have terms : (Value.array (phrase.terms.map Term.toJson)).list? Term.ofJson? =
      some phrase.terms :=
    List.mapM_map_eq_some_iff.mpr fun term _ => term.ofJson?_toJson
  rw [← readBoost_eq_some_iff]
  obtain ⟨_, slop, boost, occur⟩ := phrase
  simp only at terms record
  simp [ofJson?, record, terms, Value.required, Value.withDefault, Value.uint32?_ofInt,
    readOccur_name, Option.bind_eq_some_iff]

private theorem Range.record_members (range : Range) :
    (Value.object range.members).record? [⟨"field", false⟩, ⟨"lower", false⟩, ⟨"upper", false⟩,
      ⟨"include_min", false⟩, ⟨"include_max", false⟩, ⟨"precision_step", true⟩, boostField,
      occurField] =
        some [some (.string range.field), some range.interval.toJson.1,
          some range.interval.toJson.2, some (.bool range.includeMin),
          some (.bool range.includeMax),
          range.precisionStep.map fun step => Value.ofInt step.toNat,
          range.boost.map Value.ofSingle, some (.string range.occur.name)] := by
  obtain ⟨field, interval, includeMin, includeMax, step, boost, occur⟩ := range
  cases step <;> cases boost <;> rfl

private theorem readStep (step : Option UInt32) :
    Value.optional Value.uint32? (step.map fun step => Value.ofInt step.toNat) = some step := by
  cases step with
  | none => rfl
  | some step => exact (Value.nullable?_eq_some_iff rfl).mpr (Value.uint32?_ofInt step)

/-- A range is read as it was if its bounds and its boost are. -/
theorem Range.ofJson?_members {α : Type} {bound? : Value → Option α} {interval : α → α → Interval}
    (injective : ∀ {a b c d}, interval a b = interval c d → a = c ∧ b = d) {range : Range}
    {lower upper : α} (shape : range.interval = interval lower upper) :
    ofJson? bound? interval (.object range.members) = some range ↔
      (bound? range.interval.toJson.1 = some lower ∧ bound? range.interval.toJson.2 = some upper) ∧
        ∀ boost ∈ range.boost, SingleReadsBack boost := by
  have record := range.record_members
  rw [← readBoost_eq_some_iff]
  obtain ⟨field, _, includeMin, includeMax, step, boost, occur⟩ := range
  dsimp only at shape
  subst shape
  simp only at record ⊢
  simp only [ofJson?, record, Value.required, Value.bool?, Value.string?, readStep,
    readOccur_name, Option.bind_some, Option.bind_eq_bind, Option.bind_eq_some_iff]
  constructor
  · rintro ⟨first, readFirst, second, readSecond, value, readValue, same⟩
    injection same with same
    injection same with _ bounds _ _ _ boosts _
    obtain ⟨rfl, rfl⟩ := injective bounds
    exact ⟨⟨readFirst, readSecond⟩, boosts ▸ readValue⟩
  · rintro ⟨⟨readLower, readUpper⟩, readBoost⟩
    exact ⟨lower, readLower, upper, readUpper, boost, readBoost, rfl⟩

/-- A group is read as it was if its children and its boost are. -/
theorem Group.ofJson?_members {tagged : Bool} {child? : Value → Option Query} {head : GroupHead}
    {children : List Query} :
    ofJson? tagged child? (.object (head.members ++
        [("children", .array (Query.allToJson children))])) = some ⟨head, children⟩ ↔
      (∀ boost ∈ head.boost, SingleReadsBack boost) ∧
        ∀ child ∈ children, child? child.toJson = some child := by
  have record : (Value.object (head.members ++
      [("children", .array (Query.allToJson children))])).record?
        [⟨"kind", false⟩, occurField, boostField, ⟨"children", true⟩] =
          some [some (.string head.kind.name), some (.string head.occur.name),
            head.boost.map Value.ofSingle, some (.array (Query.allToJson children))] := by
    obtain ⟨kind, occur, boost⟩ := head
    cases boost <;> rfl
  have kind : Value.choice? tagged GroupKind.ofName? (.string head.kind.name) = some head.kind :=
    head.kind.ofName?_name
  rw [← readBoost_eq_some_iff, ← List.mapM_map_eq_some_iff, ← Query.allToJson_eq_map]
  obtain ⟨groupKind, occur, boost⟩ := head
  simp only at record kind ⊢
  simp [ofJson?, record, kind, Value.required, Value.withDefault, Value.list?, readOccur_name,
    Option.bind_eq_some_iff]

end Records

section Tags

theorem untag_tagged (tag : QueryTag) {members : List (String × Value)}
    (untyped : ∀ member ∈ members, member.1 ≠ "type") :
    untag (tagged tag members) = some (.string tag.name, .object members) := by
  have others : members.filter (fun member => member.1 = "type") = [] :=
    List.filter_eq_nil_iff.mpr fun member present => by simpa using untyped member present
  have all : members.filter (fun member => member.1 ≠ "type") = members :=
    List.filter_eq_self.mpr fun member present => by simpa using untyped member present
  have tags : (("type", Value.string tag.name) :: members).filter (fun member =>
      member.1 = "type") = [("type", .string tag.name)] := by
    rw [List.filter_cons_of_pos rfl, others]
  have content : (("type", Value.string tag.name) :: members).filter (fun member =>
      member.1 ≠ "type") = members := by
    rw [List.filter_cons_of_neg (by simp), all]
  rw [tagged, untag, Value.member?, tags, content]
  rfl

theorem TermTest.untyped (test : TermTest) : ∀ member ∈ test.members, member.1 ≠ "type" := by
  obtain ⟨matching, term, boost, occur⟩ := test
  cases boost <;> simp [members, boostMember, occurMember]

theorem Phrase.untyped (phrase : Phrase) : ∀ member ∈ phrase.members, member.1 ≠ "type" := by
  obtain ⟨terms, slop, boost, occur⟩ := phrase
  cases boost <;> simp [members, boostMember, occurMember]

theorem Range.untyped (range : Range) : ∀ member ∈ range.members, member.1 ≠ "type" := by
  obtain ⟨field, interval, includeMin, includeMax, step, boost, occur⟩ := range
  cases step <;> cases boost <;> simp [members, boostMember, occurMember]

theorem GroupHead.untyped (head : GroupHead) (children : Value) :
    ∀ member ∈ head.members ++ [("children", children)], member.1 ≠ "type" := by
  obtain ⟨kind, occur, boost⟩ := head
  cases boost <;> simp [members, boostMember, occurMember]

end Tags

namespace Query

/-- Every float in a query is read back from its digits. -/
abbrev FloatsReadBack : Query → Prop :=
  Floats SingleReadsBack DoubleReadsBack

private theorem ofTagged?_range (nested : Bool) (levels : Nat) (range : Range) :
    ofTagged? nested (levels + 1) (tagged range.interval.tag range.members) =
        some (.range range) ↔ FloatsReadBack (.range range) := by
  have wrap {read : Option Range} : read.map Query.range = some (.range range) ↔
      read = some range :=
    (Option.map_injective fun _ _ same => Query.range.inj same).eq_iff (b := some range)
  rw [ofTagged?, untag_tagged _ range.untyped, FloatsReadBack, floats_range_iff]
  simp only [Option.bind_eq_bind, Option.bind_some, QueryTag.ofJson?_name]
  cases shape : range.interval with
  | int lower upper =>
    refine wrap.trans ((Range.ofJson?_members (by simp) shape).trans ?_)
    simp [shape, Interval.toJson, Interval.doubles, Value.int32?_ofInt]
  | long lower upper =>
    refine wrap.trans ((Range.ofJson?_members (by simp) shape).trans ?_)
    simp [shape, Interval.toJson, Interval.doubles, Value.int64?_ofInt]
  | double lower upper =>
    refine wrap.trans ((Range.ofJson?_members (by simp) shape).trans ?_)
    simp [shape, Interval.toJson, Interval.doubles, DoubleReadsBack]
  | text lower upper =>
    refine wrap.trans ((Range.ofJson?_members (by simp) shape).trans ?_)
    simp [shape, Interval.toJson, Interval.doubles, Value.string?]

private theorem depth_lt_of_mem {head : GroupHead} {children : List Query} {child : Query}
    (member : child ∈ children) :
    child.toJson.depth + 1 < (toJson (.group head children)).depth := by
  have items := Value.itemsDepth_le_iff.mp (Nat.le_refl (Value.itemsDepth (allToJson children)))
  have inner := items child.toJson (by
    rw [allToJson_eq_map]
    exact List.mem_map_of_mem member)
  have members := Value.membersDepth_le_iff.mp (Nat.le_refl (Value.membersDepth
    (("type", .string QueryTag.group.name) :: (head.members ++
      [("children", .array (allToJson children))]))))
  have outer := members ("children", .array (allToJson children)) (by simp)
  rw [toJson, tagged, Value.depth]
  rw [Value.depth] at outer
  omega

/-- With levels enough for its groups, a query is read as it was if its floats are. -/
theorem ofTagged?_toJson (nested : Bool) (levels : Nat) (query : Query)
    (room : query.toJson.depth < levels) :
    ofTagged? nested levels query.toJson = some query ↔ query.FloatsReadBack := by
  obtain ⟨levels, rfl⟩ : ∃ fewer, levels = fewer + 1 := ⟨levels - 1, by omega⟩
  match query with
  | .term test =>
    have wrap := (Option.map_injective fun _ _ same => Query.term.inj same).eq_iff (b := some test)
      (a := TermTest.ofJson? test.matching (.object test.members))
    rw [toJson, ofTagged?, untag_tagged _ test.untyped, FloatsReadBack, floats_leaf_iff rfl rfl]
    simp only [Option.bind_eq_bind, Option.bind_some, QueryTag.ofJson?_name]
    exact wrap.trans TermTest.ofJson?_members
  | .phrase p =>
    have wrap := (Option.map_injective fun _ _ same => Query.phrase.inj same).eq_iff (b := some p)
      (a := Phrase.ofJson? (.object p.members))
    rw [toJson, ofTagged?, untag_tagged _ p.untyped, FloatsReadBack, floats_leaf_iff rfl rfl]
    simp only [Option.bind_eq_bind, Option.bind_some, QueryTag.ofJson?_name]
    exact wrap.trans Phrase.ofJson?_members
  | .range r =>
    rw [toJson]
    exact ofTagged?_range nested levels r
  | .group head children =>
    have inner : ∀ child ∈ children,
        (ofTagged? true levels child.toJson = some child ↔ child.FloatsReadBack) := by
      intro child member
      have smaller := @depth_lt_of_mem head _ _ member
      exact ofTagged?_toJson true levels child (by omega)
    have wrap : Function.Injective Group.toQuery := by
      rintro ⟨first, firstChildren⟩ ⟨second, secondChildren⟩ same
      obtain ⟨rfl, rfl⟩ := Query.group.inj same
      rfl
    rw [toJson, ofTagged?, untag_tagged _ (head.untyped _), FloatsReadBack, floats_group_iff]
    simp only [Option.bind_eq_bind, Option.bind_some, QueryTag.ofJson?_name]
    refine ((Option.map_injective wrap).eq_iff (b := some ⟨head, children⟩)).trans ?_
    rw [Group.ofJson?_members]
    refine and_congr_right fun _ => ?_
    exact forall₂_congr inner
termination_by levels

end Query

section Searches

theorem Query.ofJson?_toJson {query : Query} :
    ofJson? query.toJson = some query ↔ query.FloatsReadBack := by
  rw [ofJson?, if_pos query.isUsable_toJson]
  exact ofTagged?_toJson false _ query (Nat.lt_succ_self _)

theorem Group.ofJson?_toJson {group : Group} :
    ofJson? false Query.ofJson? group.toJson = some group ↔ group.toQuery.FloatsReadBack := by
  rw [Query.FloatsReadBack, Group.toQuery, Query.floats_group_iff]
  refine (@Group.ofJson?_members false Query.ofJson? group.toGroupHead group.children).trans ?_
  exact and_congr_right fun _ => forall₂_congr fun _ _ => Query.ofJson?_toJson

theorem SortKey.ofJson?_toJson (key : SortKey) : SortKey.ofJson? key.toJson = some key := by
  have record : key.toJson.record?
      [⟨"field", false⟩, ⟨"sort_type", true⟩, ⟨"descending", true⟩] =
        some [some (.string key.field), some (.string key.sortType.name),
          some (.bool key.descending)] := rfl
  have sortType : Value.choice? false SortType.ofName? (.string key.sortType.name) =
      some key.sortType := key.sortType.ofName?_name
  simp [ofJson?, record, sortType, Value.required, Value.withDefault, Value.string?, Value.bool?]

theorem SortKeys.ofJson?_toJson (sort : SortKeys) : SortKeys.ofJson? sort.toJson = some sort := by
  have record : sort.toJson.record? [⟨"fields", false⟩] =
      some [some (.array (sort.keys.map SortKey.toJson))] := rfl
  have keys : (Value.array (sort.keys.map SortKey.toJson)).list? SortKey.ofJson? =
      some sort.keys :=
    List.mapM_map_eq_some_iff.mpr fun key _ => key.ofJson?_toJson
  simp [ofJson?, record, keys, Value.required]

theorem FilterValue.ofJson?_toJson {value : FilterValue} :
    FilterValue.ofJson? value.toJson = some value ↔
      ∀ number ∈ value.doubles, DoubleReadsBack number := by
  cases value with
  | flag value => simp [toJson, ofJson?, doubles]
  | text value => simp [toJson, ofJson?, doubles]
  | number value =>
    have plain : ofJson? (.ofDouble value) = (Value.ofDouble value).double?.map .number := by
      rw [Value.ofDouble, Value.ofBinary]
      split <;> rfl
    have wrap := (Option.map_injective fun _ _ same => FilterValue.number.inj same).eq_iff
      (a := (Value.ofDouble value).double?) (b := some value)
    rw [toJson, plain]
    refine wrap.trans ?_
    simp [doubles, DoubleReadsBack]

theorem Filter.ofJson?_toJson {filter : Filter} :
    Filter.ofJson? filter.toJson = some filter ↔
      ∀ number ∈ filter.value.doubles, DoubleReadsBack number := by
  have record : filter.toJson.record?
      [⟨"field", false⟩, ⟨"value", false⟩, ⟨"comparator", false⟩] =
        some [some (.string filter.field), some filter.value.toJson,
          some (.string filter.comparator.name)] := rfl
  have comparator : Value.choice? false Comparator.ofName? (.string filter.comparator.name) =
      some filter.comparator := filter.comparator.ofName?_name
  rw [← FilterValue.ofJson?_toJson]
  obtain ⟨field, value, order⟩ := filter
  simp only at record comparator ⊢
  simp [ofJson?, record, comparator, Value.required, Value.string?, Option.bind_eq_some_iff]

/-- Every float in a search is read back from its digits. -/
abbrev Search.FloatsReadBack : Search → Prop :=
  Search.Floats SingleReadsBack DoubleReadsBack

/-- The document of a search stands for the search if its floats are read back. -/
theorem Search.ofJson?_toJson {search : Search} :
    Search.ofJson? search.toJson = some search ↔ search.FloatsReadBack := by
  have record : search.toJson.record? [⟨"query", false⟩, ⟨"sort", true⟩, ⟨"filter", true⟩] =
      some [some search.query.toJson, search.sort.map SortKeys.toJson,
        search.filter.map Filter.toJson] := by
    obtain ⟨query, sort, filter⟩ := search
    cases sort <;> cases filter <;> rfl
  have sort : Value.optional SortKeys.ofJson? (search.sort.map SortKeys.toJson) =
      some search.sort := by
    cases search.sort with
    | none => rfl
    | some sort => exact (Value.nullable?_eq_some_iff rfl).mpr sort.ofJson?_toJson
  have filter : Value.optional Filter.ofJson? (search.filter.map Filter.toJson) =
      some search.filter ↔
        ∀ filter ∈ search.filter, ∀ value ∈ filter.value.doubles, DoubleReadsBack value := by
    cases search.filter with
    | none => simp [Value.optional, Value.withDefault]
    | some filter =>
      refine (Value.nullable?_eq_some_iff rfl).trans (Filter.ofJson?_toJson.trans ?_)
      simp
  have floats : search.FloatsReadBack ↔ search.query.toQuery.FloatsReadBack ∧
      ∀ filter ∈ search.filter, ∀ value ∈ filter.value.doubles, DoubleReadsBack value :=
    ⟨fun floats => ⟨floats.query, floats.filter⟩, fun floats => ⟨floats.1, floats.2⟩⟩
  rw [floats, ← Group.ofJson?_toJson, ← filter]
  obtain ⟨query, sorts, compared⟩ := search
  simp only at record sort ⊢
  simp [ofJson?, record, sort, Value.required, Option.bind_eq_some_iff]

end Searches

end SearchQuery
