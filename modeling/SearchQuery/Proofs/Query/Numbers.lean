import SearchQuery.Proofs.Json.Reading
import SearchQuery.Query.Json

/-!
The numbers in the documents of searches: those that floats are written as, and whole numbers of 64
bits (`Search.numbers_toJson`).
-/

namespace SearchQuery

open Json (Value Number)

section Floats

/-- The digits of a single are read back as it. -/
def SingleReadsBack (x : Single) : Prop :=
  (Value.ofSingle x).single? = some x

/-- The digits of a double are read back as it. -/
def DoubleReadsBack (x : Double) : Prop :=
  (Value.ofDouble x).double? = some x

instance : DecidablePred SingleReadsBack := fun _ => inferInstanceAs (Decidable (_ = _))

instance : DecidablePred DoubleReadsBack := fun _ => inferInstanceAs (Decidable (_ = _))

def Interval.doubles : Interval → List Double
  | .double lower upper => [lower, upper]
  | _ => []

def FilterValue.doubles : FilterValue → List Double
  | .number value => [value]
  | _ => []

namespace Query

mutual

/-- The boosts in a query, its own first. -/
def boosts : Query → List Single
  | .term test => test.boost.toList
  | .phrase p => p.boost.toList
  | .range r => r.boost.toList
  | .group head children => head.boost.toList ++ allBoosts children

def allBoosts : List Query → List Single
  | [] => []
  | query :: rest => query.boosts ++ allBoosts rest

end

theorem allBoosts_eq_flatMap (queries : List Query) :
    allBoosts queries = queries.flatMap boosts := by
  induction queries with
  | nil => rfl
  | cons query rest ih => rw [allBoosts, ih, List.flatMap_cons]

theorem allToJson_eq_map (queries : List Query) : allToJson queries = queries.map toJson := by
  induction queries with
  | nil => rfl
  | cons query rest ih => rw [allToJson, ih, List.map_cons]

/-- Every float in a query, a boost or a bound, satisfies a property. -/
structure Floats (single : Single → Prop) (double : Double → Prop) (query : Query) : Prop where
  boosts : ∀ boost ∈ query.boosts, single boost
  bounds : ∀ range ∈ query.ranges, ∀ bound ∈ range.interval.doubles, double bound

theorem floats_group_iff {single : Single → Prop} {double : Double → Prop} {head : GroupHead}
    {children : List Query} :
    Floats single double (.group head children) ↔
      (∀ boost ∈ head.boost, single boost) ∧
        ∀ child ∈ children, child.Floats single double := by
  have boosts : (∀ boost ∈ Query.boosts (.group head children), single boost) ↔
      (∀ boost ∈ head.boost, single boost) ∧
        ∀ child ∈ children, ∀ boost ∈ child.boosts, single boost := by
    rw [Query.boosts, List.forall_mem_append, allBoosts_eq_flatMap, List.forall_mem_flatMap]
    simp only [Option.mem_toList, Option.mem_def]
  have bounds {holds : Range → Prop} : (∀ range ∈ ranges (.group head children), holds range) ↔
      ∀ child ∈ children, ∀ range ∈ child.ranges, holds range := by
    rw [ranges, allRanges_eq_flatMap, List.forall_mem_flatMap]
  constructor
  · rintro ⟨single, double⟩
    obtain ⟨own, inner⟩ := boosts.mp single
    exact ⟨own, fun child member => ⟨inner child member, bounds.mp double child member⟩⟩
  · rintro ⟨own, inner⟩
    exact ⟨boosts.mpr ⟨own, fun child member => (inner child member).boosts⟩,
      bounds.mpr fun child member => (inner child member).bounds⟩

theorem floats_range_iff {single : Single → Prop} {double : Double → Prop} {range : Range} :
    Floats single double (.range range) ↔
      (∀ bound ∈ range.interval.doubles, double bound) ∧ ∀ boost ∈ range.boost, single boost := by
  constructor
  · rintro ⟨boosts, bounds⟩
    exact ⟨bounds range List.mem_cons_self, by simpa [Query.boosts] using boosts⟩
  · rintro ⟨bounds, boosts⟩
    exact ⟨by simpa [Query.boosts] using boosts, by simpa [Query.ranges] using bounds⟩

/-- Without ranges the only float is the boost. -/
theorem floats_leaf_iff {single : Single → Prop} {double : Double → Prop} {query : Query}
    {boost : Option Single} (own : query.boosts = boost.toList) (rangeless : query.ranges = []) :
    Floats single double query ↔ ∀ value ∈ boost, single value := by
  constructor
  · rintro ⟨boosts, _⟩
    rw [own] at boosts
    simpa using boosts
  · intro boosts
    exact ⟨by rw [own]; simpa using boosts, by simp [rangeless]⟩

end Query

/-- The floats of a search: those of its query, and the number that its filter compares with. -/
structure Search.Floats (single : Single → Prop) (double : Double → Prop) (search : Search) :
    Prop where
  query : search.query.toQuery.Floats single double
  filter : ∀ filter ∈ search.filter, ∀ value ∈ filter.value.doubles, double value

end Floats

section Numbers

variable {holds : Number → Prop}

/-- A property of the numbers that whole numbers of 64 bits are written as. -/
def Whole (holds : Number → Prop) : Prop :=
  ∀ n : Int, -(UInt64.size / 2 : Nat) ≤ n → n < UInt64.size → holds (.ofInt n)

private theorem numbers_int32 (whole : Whole holds) (n : Int32) :
    (Value.ofInt n.toInt).Numbers holds := by
  have above := n.le_toInt
  have below := n.toInt_lt
  have size : UInt64.size = 18446744073709551616 := rfl
  exact .number (whole _ (by omega) (by omega))

private theorem numbers_int64 (whole : Whole holds) (n : Int64) :
    (Value.ofInt n.toInt).Numbers holds := by
  have above := n.le_toInt
  have below := n.toInt_lt
  have size : UInt64.size = 18446744073709551616 := rfl
  exact .number (whole _ (by omega) (by omega))

private theorem numbers_uint32 (whole : Whole holds) (n : UInt32) :
    (Value.ofInt n.toNat).Numbers holds := by
  have below := n.toNat_lt
  have size : UInt64.size = 18446744073709551616 := rfl
  exact .number (whole _ (by omega) (by omega))

private theorem numbers_boostMember {boost : Option Single}
    (floats : ∀ value ∈ boost, (Value.ofSingle value).Numbers holds) :
    ∀ member ∈ boostMember boost, member.2.Numbers holds := by
  cases boost with
  | none => simp [boostMember]
  | some value => simpa [boostMember] using floats value rfl

theorem Term.numbers_toJson (term : Term) : term.toJson.Numbers holds :=
  .object (by simp [Value.Numbers.string])

theorem TermTest.numbers_members {test : TermTest}
    (floats : ∀ value ∈ test.boost, (Value.ofSingle value).Numbers holds) :
    ∀ member ∈ test.members, member.2.Numbers holds := by
  simp only [members, List.cons_append, List.forall_mem_cons, List.forall_mem_append]
  exact ⟨test.term.numbers_toJson, numbers_boostMember floats, .string _, List.forall_mem_nil _⟩

theorem Phrase.numbers_members (whole : Whole holds) {phrase : Phrase}
    (floats : ∀ value ∈ phrase.boost, (Value.ofSingle value).Numbers holds) :
    ∀ member ∈ phrase.members, member.2.Numbers holds := by
  have terms : (Value.array (phrase.terms.map Term.toJson)).Numbers holds :=
    .array (List.forall_mem_map.mpr fun term _ => term.numbers_toJson)
  simp only [members, List.cons_append, List.nil_append, List.forall_mem_cons,
    List.forall_mem_append]
  exact ⟨terms, numbers_uint32 whole phrase.slop, numbers_boostMember floats, .string _,
    List.forall_mem_nil _⟩

theorem Interval.numbers_toJson (whole : Whole holds) {interval : Interval}
    (floats : ∀ bound ∈ interval.doubles, (Value.ofDouble bound).Numbers holds) :
    interval.toJson.1.Numbers holds ∧ interval.toJson.2.Numbers holds := by
  cases interval with
  | int lower upper => exact ⟨numbers_int32 whole lower, numbers_int32 whole upper⟩
  | long lower upper => exact ⟨numbers_int64 whole lower, numbers_int64 whole upper⟩
  | double lower upper => exact ⟨floats lower (by simp [doubles]), floats upper (by simp [doubles])⟩
  | text lower upper => exact ⟨.string lower, .string upper⟩

theorem Range.numbers_members (whole : Whole holds) {range : Range}
    (bounds : ∀ bound ∈ range.interval.doubles, (Value.ofDouble bound).Numbers holds)
    (floats : ∀ value ∈ range.boost, (Value.ofSingle value).Numbers holds) :
    ∀ member ∈ range.members, member.2.Numbers holds := by
  have steps : ∀ member ∈ (range.precisionStep.map fun step =>
      ("precision_step", Value.ofInt step.toNat)).toList, member.2.Numbers holds := by
    cases range.precisionStep with
    | none => simp
    | some step => simpa using numbers_uint32 whole step
  obtain ⟨lower, upper⟩ := range.interval.numbers_toJson whole bounds
  simp only [members, List.cons_append, List.nil_append, List.forall_mem_cons,
    List.forall_mem_append]
  exact ⟨.string _, lower, upper, .bool _, .bool _, ⟨steps, numbers_boostMember floats⟩,
    .string _, List.forall_mem_nil _⟩

theorem GroupHead.numbers_members {head : GroupHead} {children : List Value}
    (floats : ∀ value ∈ head.boost, (Value.ofSingle value).Numbers holds)
    (inner : ∀ child ∈ children, child.Numbers holds) :
    ∀ member ∈ head.members ++ [("children", .array children)], member.2.Numbers holds := by
  simp only [members, List.cons_append, List.nil_append, List.forall_mem_cons,
    List.forall_mem_append]
  exact ⟨.string _, .string _, numbers_boostMember floats, .array inner, List.forall_mem_nil _⟩

/-- The numbers in the document of a query are those of its floats and whole numbers of 64 bits. -/
theorem Query.numbers_toJson (whole : Whole holds) (query : Query)
    (floats : query.Floats (fun x => (Value.ofSingle x).Numbers holds)
      (fun x => (Value.ofDouble x).Numbers holds)) : query.toJson.Numbers holds := by
  have tagged (tag : QueryTag) {members : List (String × Value)}
      (inner : ∀ member ∈ members, member.2.Numbers holds) :
      (tagged tag members).Numbers holds :=
    .object (List.forall_mem_cons.mpr ⟨.string tag.name, inner⟩)
  match query with
  | .term test =>
    exact tagged _ (TermTest.numbers_members ((floats_leaf_iff rfl rfl).mp floats))
  | .phrase p =>
    exact tagged _ (Phrase.numbers_members whole ((floats_leaf_iff rfl rfl).mp floats))
  | .range r =>
    obtain ⟨bounds, boosts⟩ := floats_range_iff.mp floats
    exact tagged _ (Range.numbers_members whole bounds boosts)
  | .group head children =>
    obtain ⟨boosts, inner⟩ := floats_group_iff.mp floats
    refine tagged _ (GroupHead.numbers_members boosts ?_)
    rw [allToJson_eq_map, List.forall_mem_map]
    exact fun child member => child.numbers_toJson whole (inner child member)

theorem Group.numbers_toJson (whole : Whole holds) {group : Group}
    (floats : group.toQuery.Floats (fun x => (Value.ofSingle x).Numbers holds)
      (fun x => (Value.ofDouble x).Numbers holds)) : group.toJson.Numbers holds := by
  obtain ⟨boosts, inner⟩ := Query.floats_group_iff.mp floats
  refine .object (GroupHead.numbers_members boosts ?_)
  rw [Query.allToJson_eq_map, List.forall_mem_map]
  exact fun child member => child.numbers_toJson whole (inner child member)

theorem SortKeys.numbers_toJson (sort : SortKeys) : sort.toJson.Numbers holds := by
  have keys : (Value.array (sort.keys.map SortKey.toJson)).Numbers holds := by
    refine .array (List.forall_mem_map.mpr fun key _ => .object ?_)
    simp [Value.Numbers.string, Value.Numbers.bool]
  exact .object (by simpa using keys)

theorem Filter.numbers_toJson {filter : Filter}
    (floats : ∀ value ∈ filter.value.doubles, (Value.ofDouble value).Numbers holds) :
    filter.toJson.Numbers holds := by
  have content : filter.value.toJson.Numbers holds := by
    cases value : filter.value with
    | flag flag => exact .bool flag
    | number number => exact floats number (by simp [value, FilterValue.doubles])
    | text text => exact .string text
  exact .object (by simpa [Value.Numbers.string] using content)

theorem Search.numbers_toJson (whole : Whole holds) {search : Search}
    (floats : search.Floats (fun x => (Value.ofSingle x).Numbers holds)
      (fun x => (Value.ofDouble x).Numbers holds)) : search.toJson.Numbers holds := by
  have sort : ∀ member ∈ (search.sort.map fun sort => ("sort", sort.toJson)).toList,
      member.2.Numbers holds := by
    cases search.sort with
    | none => simp
    | some sort => simpa using sort.numbers_toJson
  have filter : ∀ member ∈ (search.filter.map fun filter => ("filter", filter.toJson)).toList,
      member.2.Numbers holds := by
    cases compared : search.filter with
    | none => simp
    | some filter => simpa using Filter.numbers_toJson (floats.filter filter compared)
  refine .object ?_
  simp only [List.cons_append, List.forall_mem_cons, List.forall_mem_append]
  exact ⟨Group.numbers_toJson whole floats.query, sort, filter⟩

theorem numbers_ofBinary {format : BinaryFormat} {range : Binary.NumeralRange} {x : Binary format}
    (written : ∀ text, x.fractionalText? range = some text → holds ⟨text⟩) :
    (Value.ofBinary range x).Numbers holds := by
  rw [Value.ofBinary]
  split
  · rename_i text same
    exact .number (written text same)
  · exact .null

theorem Query.isUsable_toJson (query : Query) : query.toJson.isUsable := by
  have any : query.toJson.Numbers fun _ => True :=
    query.numbers_toJson (fun _ _ _ => trivial)
      ⟨fun _ _ => numbers_ofBinary fun _ _ => trivial,
        fun _ _ _ _ => numbers_ofBinary fun _ _ => trivial⟩
  exact any.isUsable

end Numbers

end SearchQuery
