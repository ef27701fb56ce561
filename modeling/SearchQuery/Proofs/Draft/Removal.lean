import SearchQuery.Proofs.Draft.Entries
import SearchQuery.Proofs.Request.Effects
import SearchQuery.Proofs.Request.Verdict

/-!
A clause can be taken out again as if it had never been there. An operation that names another key
or none does the same to a draft with the clause and to one without it (`Operation.run_remove`), and
keeps the clause (`Operation.mem_run`); so does a script, after which the clause is taken out
(`removal_undoes_insertion`).
-/

namespace SearchQuery

/-- The step to the same draft, but without the clause under a key. -/
def Step.without (key : String) (step : Step) : Step where
  draft := step.draft.remove key
  warnings := step.warnings

section

variable {key : String} (foreign : ∀ number, key ≠ Clauses.autoKey number) (draft : Draft)

namespace Draft

include foreign in
theorem store_remove {place : Option String} (other : place ≠ some key) (query : Query) :
    (draft.remove key).store place query = (draft.store place query).remove key := by
  cases place with
  | some place =>
    have different : place ≠ key := fun same => other (congrArg some same)
    simp only [store, remove, Clauses.insert_erase different]
  | none =>
    have different (number : Nat) : Clauses.autoKey number ≠ key := (foreign number).symm
    simp only [store, remove, Clauses.freeNumber_erase foreign,
      Clauses.insert_erase (different _)]

include foreign in
private theorem addRange_remove (field : String) (interval : Interval) {options : RangeOptions}
    (other : options.key ≠ some key) :
    (draft.remove key).addRange field interval options =
      (draft.addRange field interval options).remove key :=
  store_remove foreign draft other _

include foreign in
theorem addDateRange_remove (field lower upper : String) {options : RangeOptions}
    (other : options.key ≠ some key) :
    (draft.remove key).addDateRange field lower upper options =
      (draft.addDateRange field lower upper options).map (Step.without key) := by
  refine Except.bind_eq_map_bind _ fun lower => Except.bind_eq_map_bind _ fun upper => ?_
  have same := addRange_remove foreign draft field (Calendar.Instant.interval lower upper) other
  exact congrArg (fun draft => Except.ok (Step.mk draft [])) same

theorem replace_remove {other : String} (different : other ≠ key) (query : Query) :
    (draft.remove key).replace other query = (draft.replace other query).remove key := by
  simp only [replace, remove, Clauses.replace_erase different]
  rfl

theorem remove_remove (other : String) :
    (draft.remove key).remove other = (draft.remove other).remove key := by
  simp only [remove, Clauses.erase_comm draft.clauses key other]

theorem junctionChild_remove (junction : Junction) (occur : Occurrence) :
    (draft.remove key).junctionChild junction occur = draft.junctionChild junction occur :=
  rfl

theorem groupChild_remove (occur childrenOccur : Occurrence) :
    (draft.remove key).groupChild occur childrenOccur = draft.groupChild occur childrenOccur :=
  rfl

theorem addGroup_remove (group : Draft) :
    (draft.remove key).addGroup group = (draft.addGroup group).remove key :=
  rfl

theorem addExpansion_remove (matching : Matching) (field : String) (values : List String)
    (options : LeafOptions) :
    (draft.remove key).addExpansion matching field values options =
      (draft.addExpansion matching field values options).remove key := by
  cases values with
  | nil => rfl
  | cons value rest => rfl

private theorem addWords_remove (fields words : List String) :
    words.foldl (fun draft word => draft.addWord fields word) (draft.remove key) =
      (words.foldl (fun draft word => draft.addWord fields word) draft).remove key := by
  induction words generalizing draft with
  | nil => rfl
  | cons word rest ih => exact ih (draft.addWord fields word)

theorem addText_remove (text : String) (fields : List String) :
    (draft.remove key).addText text fields = (draft.addText text fields).without key := by
  by_cases blank : (Text.words text).isEmpty
  · simp only [addText, if_pos blank]
    rfl
  · by_cases unknown : fields.isEmpty
    · simp only [addText, if_neg blank, if_pos unknown]
      rfl
    · simp only [addText, if_neg blank, if_neg unknown, addWords_remove]
      rfl

include foreign in
private theorem on_remove (effect : FilterEffect) :
    effect.on (draft.remove key) = (effect.on draft).without key := by
  cases effect with
  | clause query =>
    have stored := store_remove foreign draft (Option.some_ne_none key).symm query
    exact congrArg (fun draft => Step.mk draft []) stored
  | group group => rfl
  | comparison filter => rfl
  | nothing field => rfl

include foreign in
theorem applyFilter_remove (kind : FieldKind) (descriptor : FilterDescriptor) :
    (draft.remove key).applyFilter kind descriptor =
      (draft.applyFilter kind descriptor).map (Step.without key) := by
  obtain ⟨result, comes⟩ := draft.applyFilter_comesTo kind descriptor
  have plain : (draft.remove key).applyFilter kind descriptor = _ :=
    comes (draft.remove key) ⟨rfl, rfl⟩
  have full : draft.applyFilter kind descriptor = _ := comes draft (.refl draft)
  rw [plain, full]
  cases result with
  | ok effect => exact congrArg Except.ok (on_remove foreign draft effect)
  | error cause => rfl

end Draft

namespace Request

include foreign in
private theorem applyEntry_remove (schema : Schema) (entry : String) :
    applyEntry schema (draft.remove key) entry =
      (applyEntry schema draft entry).map (Step.without key) := by
  refine Except.bind_eq_map_bind _ fun descriptor => ?_
  cases schema.fieldKind? descriptor.field with
  | some kind => exact Draft.applyFilter_remove foreign draft kind descriptor
  | none => rfl

include foreign in
private theorem applyEntries_remove (schema : Schema) (entries : List String) :
    (applyEntries schema (draft.remove key) entries).result =
      (applyEntries schema draft entries).result.map fun after => after.remove key := by
  induction entries generalizing draft with
  | nil => rfl
  | cons entry rest ih =>
    simp only [applyEntries, applyEntry_remove foreign draft schema entry]
    cases applyEntry schema draft entry with
    | ok step => exact ih step.draft
    | error cause => rfl

private theorem applySort_remove (request : Request) (schema : Schema) :
    request.applySort schema (draft.remove key) =
      (request.applySort schema draft).map (Step.without key) := by
  refine Except.bind_eq_map_bind _ fun sort => ?_
  cases sort with
  | some sort => rfl
  | none => rfl

private theorem worded_remove (request : Request) (schema : Schema) :
    request.worded schema (draft.remove key) = (request.worded schema draft).remove key := by
  rw [worded, worded]
  cases request.text with
  | some text => exact congrArg Step.draft (draft.addText_remove text schema.textFields)
  | none => rfl

include foreign in
theorem apply_remove (request : Request) (schema : Schema) :
    (request.apply schema (draft.remove key)).result =
      (request.apply schema draft).result.map fun after => after.remove key := by
  rw [result_apply, result_apply, worded_remove, applyEntries_remove foreign]
  cases (applyEntries schema (request.worded schema draft) request.filters).result with
  | ok between =>
    simp only [Except.map, Except.ok_bind, applySort_remove]
    cases request.applySort schema between with
    | ok step => rfl
    | error cause => rfl
  | error cause => rfl

end Request

namespace Outcome

/-- Two outcomes of which one has in addition a query under a key, and which both fail or both do
not. -/
structure DiffersAt (key : String) (full plain : Outcome) : Prop where
  draft : plain.draft = full.draft.remove key
  failure : plain.answer.failure? = full.answer.failure?

theorem DiffersAt.ofStep {result : Except QueryError Step} :
    DiffersAt key (ofStep draft result) (ofStep (draft.remove key) (result.map (Step.without key))) := by
  cases result with
  | ok step => exact ⟨rfl, rfl⟩
  | error cause => exact ⟨rfl, rfl⟩

theorem DiffersAt.ofAttempt {full plain : Attempt}
    (same : plain.result = full.result.map fun after => after.remove key) :
    DiffersAt key (ofAttempt draft full) (ofAttempt (draft.remove key) plain) := by
  rw [Outcome.ofAttempt, Outcome.ofAttempt, same]
  cases full.result with
  | ok after => exact ⟨rfl, rfl⟩
  | error cause => exact ⟨rfl, rfl⟩

end Outcome

/-- The key that an action names. -/
def KeyAction.key? : KeyAction → Option String
  | .give _ => none
  | .put key _ | .swap key _ | .drop key => some key

namespace Operation

/-- The key that an operation names to store or take out what is under it. -/
def key? : Operation → Option String
  | .test _ _ _ options | .phrase _ _ options => options.key
  | .range _ _ options | .dateRange _ _ _ options => options.key
  | .insert key _ | .replace key _ | .remove key => some key
  | _ => none

variable {operation : Operation}

include foreign in
/-- An operation that does not name a key goes the same way whether there is a query under it or
not. -/
theorem run_remove (other : operation.key? ≠ some key) :
    Outcome.DiffersAt key (operation.run draft) (operation.run (draft.remove key)) := by
  cases operation with
  | test | phrase | range => exact ⟨Draft.store_remove foreign draft other _, rfl⟩
  | dateRange field lower upper options =>
    simp only [run, Draft.addDateRange_remove foreign draft field lower upper other]
    exact .ofStep draft
  | add query => exact ⟨Draft.store_remove foreign draft (Option.some_ne_none key).symm _, rfl⟩
  | insert place query => exact ⟨Draft.store_remove foreign draft other _, rfl⟩
  | replace place query =>
    have different : place ≠ key := fun same => other (congrArg some same)
    exact ⟨Draft.replace_remove draft different query, rfl⟩
  | remove place => exact ⟨Draft.remove_remove draft place, rfl⟩
  | expand matching field values options =>
    exact ⟨draft.addExpansion_remove matching field values options, rfl⟩
  | join | create =>
    simp only [run, Draft.changeGroup_addGroup]
    simp only [Draft.junctionChild_remove, Draft.addGroup_remove]
    exact ⟨rfl, rfl⟩
  | group occur childrenOccur setup inside =>
    simp only [run, Draft.changeGroup_addGroup]
    simp only [Draft.groupChild_remove, Draft.addGroup_remove]
    exact ⟨rfl, rfl⟩
  | tryGroup occur childrenOccur setup inside =>
    simp only [run, Draft.changeGroup_addGroup]
    simp only [Draft.groupChild_remove, Draft.addGroup_remove]
    split
    · exact ⟨rfl, rfl⟩
    · exact ⟨rfl, rfl⟩
  | text source fields =>
    simp only [run, Draft.addText_remove]
    exact ⟨rfl, rfl⟩
  | applyFilter kind descriptor =>
    simp only [run_applyFilter, Draft.applyFilter_remove foreign draft kind descriptor]
    exact .ofStep draft
  | request source schema => exact .ofAttempt draft (Request.apply_remove foreign draft source schema)
  | build | print | render | inspect =>
    -- What is answered may differ, but is no failure.
    exact ⟨rfl, by simp only [run, Answer.failure?]⟩
  | _ => exact ⟨rfl, rfl⟩

include foreign in
theorem runAll_remove (strict : Bool) {script : List Operation}
    (others : ∀ operation ∈ script, operation.key? ≠ some key) :
    (runAll strict (draft.remove key) script).draft =
      (runAll strict draft script).draft.remove key := by
  induction script generalizing draft with
  | nil => rfl
  | cons operation rest ih =>
    obtain ⟨other, others⟩ := List.forall_mem_cons.mp others
    have differs := run_remove foreign draft other
    simp only [runAll, differs.failure, differs.draft]
    split
    · rfl
    · exact ih (operation.run draft).draft others

end Operation

end

private theorem KeyAction.key?_ofStore (place : Option String) (query : Query) :
    (ofStore place query).key? = place := by
  cases place with
  | some place => rfl
  | none => rfl

private theorem Operation.key?_of_keyAction? {draft : Draft} {operation : Operation}
    {action : KeyAction}
    (asks : operation.keyAction? draft = some action) : action.key? = operation.key? := by
  cases operation with
  | test | phrase | range =>
    cases asks
    exact KeyAction.key?_ofStore _ _
  | dateRange field lower upper options =>
    have asks : KeyAction.ofDateRange? draft field lower upper options = some action := asks
    rw [KeyAction.ofDateRange?] at asks
    cases first : readDate lower with
    | error cause =>
      rw [first] at asks
      cases asks
    | ok lower =>
      cases last : readDate upper with
      | error cause =>
        rw [first, last] at asks
        cases asks
      | ok upper =>
        rw [first, last] at asks
        cases asks
        exact KeyAction.key?_ofStore _ _
  | add | insert | replace | remove =>
    cases asks
    rfl
  | _ => cases asks

/-- What stands under another key than the one that is named stays. -/
theorem KeyAction.Leads.mem {before after : Draft} {action : KeyAction}
    (leads : action.Leads before after) {key : String} {query : Query}
    (other : action.key? ≠ some key) (member : (key, query) ∈ before.clauses.entries) :
    (key, query) ∈ after.clauses.entries := by
  have elsewhere {name : String} {old : Query} {front back : List Entry} (different : name ≠ key)
      (there : before.clauses.entries = front ++ (name, old) :: back) :
      (key, query) ∈ front ∨ (key, query) ∈ back := by
    rw [there, List.mem_append, List.mem_cons] at member
    refine member.imp id fun member => member.resolve_left ?_
    rintro ⟨⟩
    exact different rfl
  have different {name : String} (named : action.key? = some name) : name ≠ key :=
    fun same => other (named.trans (congrArg some same))
  cases leads with
  | given _ _ added _ | appended _ added _ =>
    rw [added]
    exact List.mem_append_left _ member
  | placed there changed _ | swapped there changed _ =>
    rw [changed, List.mem_append, List.mem_cons]
    exact (elsewhere (different rfl) there).imp id .inr
  | dropped there changed _ =>
    rw [changed, List.mem_append]
    exact elsewhere (different rfl) there
  | nothingSwapped _ same | nothingDropped _ same =>
    rw [same]
    exact member

namespace Operation

variable {key : String} {query : Query} {draft : Draft}

theorem mem_run {operation : Operation} (other : operation.key? ≠ some key)
    (member : (key, query) ∈ draft.clauses.entries) :
    (key, query) ∈ (operation.run draft).draft.clauses.entries := by
  cases asks : operation.keyAction? draft with
  | none =>
    obtain ⟨added, entries, _⟩ := extends_of_keyAction? asks
    rw [entries]
    exact List.mem_append_left added member
  | some action =>
    rw [← key?_of_keyAction? asks] at other
    rw [run_of_keyAction? asks]
    exact (action.leads draft).mem other member

theorem mem_runAll (strict : Bool) {script : List Operation}
    (others : ∀ operation ∈ script, operation.key? ≠ some key)
    (member : (key, query) ∈ draft.clauses.entries) :
    (key, query) ∈ (runAll strict draft script).draft.clauses.entries := by
  induction script generalizing draft with
  | nil => exact member
  | cons operation rest ih =>
    obtain ⟨other, others⟩ := List.forall_mem_cons.mp others
    have kept := mem_run other member
    simp only [runAll]
    split
    · exact kept
    · exact ih others kept

end Operation

/-- A clause that is inserted under a new key, and taken out after a script that does not name this
key, leaves no trace: draft and search are those of the script alone. It is handed back as it was
stored. -/
theorem removal_undoes_insertion {draft : Draft} {key : String} {script : List Operation}
    (absent : key ∉ draft.clauses.keys) (foreign : ∀ number, key ≠ Clauses.autoKey number)
    (others : ∀ operation ∈ script, operation.key? ≠ some key) (query : Query) (strict : Bool) :
    let inserted := ((Operation.insert key query).run draft).draft
    let removal := (Operation.remove key).run (Operation.runAll strict inserted script).draft
    let plain := (Operation.runAll strict draft script).draft
    removal.draft = plain ∧ removal.draft.build = plain.build ∧
      removal.answer = .query (some (query.resolve draft.childrenOccur)) := by
  intro inserted removal plain
  have undone : inserted.remove key = draft :=
    draft.with_clauses_self (Clauses.erase_insert absent _)
  have same : removal.draft = plain := by
    have commuted := Operation.runAll_remove foreign inserted strict others
    rw [undone] at commuted
    exact commuted.symm
  refine ⟨same, congrArg Draft.build same, ?_⟩
  have stored : (key, query.resolve draft.childrenOccur) ∈ inserted.clauses.entries :=
    Entry.mem_assign_self key _ draft.clauses.entries
  have kept := Operation.mem_runAll strict others stored
  exact congrArg Answer.query (Clauses.get?_eq_some_iff.mpr kept)

/-- A draft with one clause under a key of its own. -/
def brandDraft : Draft :=
  (Draft.root false).insert "brand" (.term ⟨.keyword, ⟨"brand", "acme"⟩, none, .always⟩)

/-- The clause that was there changes in its place, one that was given a key goes again, and a group
has a clause under the key that is in question outside of it. -/
def brandScript : List Operation :=
  [.test .term "title" "red" {}, .test .term "brand" "other" { key := some "brand" },
    .create .or .notSet [.test .term "title" "blue" { key := some "offer" }, .remove "offer"],
    .remove "Query_0", .applyFilter .numeric ⟨"price", .range, ["1", "2"]⟩,
    .filter ⟨"price", .flag true, .eq⟩, .sort ⟨"title", .string, false⟩]

/-- A group that leaves everything to the draft that takes it. -/
def offerQuery (occur inner : Occurrence) : Query :=
  .group ⟨.or, occur, none⟩ [.term ⟨.term, ⟨"offer", "new"⟩, none, inner⟩]

theorem removal_undoes_insertion_offer :
    "offer" ∉ brandDraft.clauses.keys ∧ (∀ number, "offer" ≠ Clauses.autoKey number) ∧
      (∀ operation ∈ brandScript, operation.key? ≠ some "offer") ∧
      let inserted := ((Operation.insert "offer" (offerQuery .notSet .notSet)).run brandDraft).draft
      let removal := (Operation.remove "offer").run (Operation.runAll false inserted brandScript).draft
      removal.draft.clauses.keys = ["brand", "Query_1"] ∧
        removal.draft.build = (Operation.runAll false brandDraft brandScript).draft.build ∧
        removal.answer = .query (some (offerQuery .always .sometimes)) := by
  have absent : "offer" ∉ brandDraft.clauses.keys := by decide +kernel
  have foreign (number : Nat) : "offer" ≠ Clauses.autoKey number := by
    intro same
    have first := congrArg (fun key => key.toList.head?) same
    simp [Clauses.autoKey] at first
  have others : ∀ operation ∈ brandScript, operation.key? ≠ some "offer" := by
    simp [brandScript, Operation.key?]
  obtain ⟨same, built, answer⟩ :=
    removal_undoes_insertion absent foreign others (offerQuery .notSet .notSet) false
  refine ⟨absent, foreign, others, ?_, built, answer⟩
  rw [same]
  decide +kernel

end SearchQuery
