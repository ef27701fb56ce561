import SearchQuery.Proofs.Draft.Operation
import SearchQuery.Proofs.Request.Contribution

/-!
The keys of a draft, through any script. What an operation does to the entries is said by
`KeyAction.Leads`; a key that is given out is new among the keys that are there, and none is given
out twice, whatever is removed in between (`keys_are_given_out_once`).
-/

namespace SearchQuery

namespace Clauses

variable {clauses : Clauses}

/-- The search for a free key, one number after the other. -/
inductive KeySearch (clauses : Clauses) : Nat → Nat → Prop where
  | found {number : Nat} (free : autoKey number ∉ clauses.keys) : KeySearch clauses number number
  | taken {start number : Nat} (taken : autoKey start ∈ clauses.keys)
      (later : KeySearch clauses (start + 1) number) : KeySearch clauses start number

namespace KeySearch

theorem le {start number : Nat} (search : clauses.KeySearch start number) : start ≤ number := by
  induction search with
  | found => exact Nat.le_refl _
  | taken _ _ ih => exact Nat.le_of_succ_le ih

theorem notMem {start number : Nat} (search : clauses.KeySearch start number) :
    autoKey number ∉ clauses.keys := by
  induction search with
  | found free => exact free
  | taken _ _ ih => exact ih

theorem unique {start number other : Nat} (search : clauses.KeySearch start number)
    (again : clauses.KeySearch start other) : number = other := by
  induction search with
  | found free =>
    cases again with
    | found => rfl
    | taken taken => exact absurd taken free
  | taken taken _ ih =>
    cases again with
    | found free => exact absurd taken free
    | taken _ later => exact ih later

private theorem of_find? {start tries number : Nat}
    (first : ((List.range' start tries).find? fun n => !clauses.contains (autoKey n)) =
      some number) : clauses.KeySearch start number := by
  induction tries generalizing start with
  | zero => cases first
  | succ tries ih =>
    rw [List.range'_succ, List.find?_cons] at first
    split at first
    · rename_i free
      cases first
      exact .found (by simpa [contains] using free)
    · rename_i taken
      exact .taken (by simpa [contains] using taken) (ih first)

end KeySearch

private theorem find?_freeNumber (clauses : Clauses) (start : Nat) :
    ((List.range' start (clauses.size + 1)).find? fun n => !clauses.contains (autoKey n)) =
      some (clauses.freeNumber start) := by
  obtain ⟨free, tried, absent⟩ := clauses.exists_free start
  have found : ((List.range' start (clauses.size + 1)).find?
      fun n => !clauses.contains (autoKey n)).isSome :=
    List.find?_isSome.mpr ⟨free, tried, by simpa [contains] using absent⟩
  obtain ⟨number, first⟩ := Option.isSome_iff_exists.mp found
  rw [freeNumber, first, Option.getD_some]

/-- The search ends, and ends with the number that is given out. -/
theorem keySearch_iff (clauses : Clauses) (start number : Nat) :
    clauses.KeySearch start number ↔ clauses.freeNumber start = number := by
  have search := KeySearch.of_find? (clauses.find?_freeNumber start)
  constructor
  · exact search.unique
  · rintro rfl
    exact search

theorem freeNumber_le (clauses : Clauses) (start : Nat) :
    clauses.freeNumber start ≤ start + clauses.size := by
  have tried := List.mem_of_find?_eq_some (clauses.find?_freeNumber start)
  exact Nat.lt_succ_iff.mp (List.mem_range'_1.mp tried).2

/-- A key that is there stands at one place, and is not found on either side of it. -/
theorem exists_split {key : String} (present : key ∈ clauses.keys) :
    ∃ front old back, clauses.entries = front ++ (key, old) :: back ∧
      key ∉ Entry.keysOf front ∧ key ∉ Entry.keysOf back := by
  obtain ⟨⟨_, old⟩, member, rfl⟩ := List.mem_map.mp present
  obtain ⟨front, back, split⟩ := List.append_of_mem member
  have distinct := clauses.distinct
  rw [split, Entry.keysOf, List.map_append, List.map_cons, List.nodup_middle,
    List.nodup_cons, List.mem_append] at distinct
  exact ⟨front, old, back, split, fun early => distinct.1 (.inl early),
    fun late => distinct.1 (.inr late)⟩

end Clauses

namespace Entry

private theorem assign_append_cons {key : String} {query old : Query} {front back : List Entry}
    (absent : key ∉ keysOf front) :
    assign key query (front ++ (key, old) :: back) = front ++ (key, query) :: back := by
  induction front with
  | nil => simp [assign]
  | cons entry rest ih =>
    obtain ⟨other, later⟩ := not_or.mp (mt List.mem_cons.mpr absent)
    rw [List.cons_append, assign, if_neg (Ne.symm other), ih later, List.cons_append]

theorem filter_ne_of_notMem {key : String} {entries : List Entry} (absent : key ∉ keysOf entries) :
    (entries.filter fun entry => entry.1 ≠ key) = entries := by
  refine List.filter_eq_self.mpr fun entry member => decide_eq_true ?_
  rintro rfl
  exact absent (List.mem_map_of_mem member)

namespace Numbered

variable {start stop : Nat} {entries : List Entry}

private theorem exists_number (numbered : Numbered start entries stop) :
    ∀ key ∈ keysOf entries, ∃ number, start ≤ number ∧ key = Clauses.autoKey number := by
  induction numbered with
  | nil => nofun
  | cons later _ ih =>
    refine List.forall_mem_cons.mpr ⟨⟨_, later, rfl⟩, fun key member => ?_⟩
    obtain ⟨number, above, same⟩ := ih key member
    exact ⟨number, Nat.le_trans later (Nat.le_of_succ_le above), same⟩

theorem nodup (numbered : Numbered start entries stop) : (keysOf entries).Nodup := by
  induction numbered with
  | nil => exact List.nodup_nil
  | cons _ numbered ih =>
    refine List.nodup_cons.mpr ⟨fun again => ?_, ih⟩
    obtain ⟨number, above, same⟩ := numbered.exists_number _ again
    rw [Clauses.autoKey_injective same] at above
    exact Nat.not_succ_le_self _ above

end Numbered

end Entry

theorem Draft.with_clauses_self (draft : Draft) {clauses : Clauses}
    (same : clauses = draft.clauses) : { draft with clauses } = draft := by
  subst same
  cases draft
  rfl

/-- What an operation asks of the entries under keys. -/
inductive KeyAction where
  /-- To store a query under a key that is given out. -/
  | give (query : Query)
  | put (key : String) (query : Query)
  | swap (key : String) (query : Query)
  | drop (key : String)

namespace KeyAction

def ofStore (key : Option String) (query : Query) : KeyAction :=
  match key with
  | some key => .put key query
  | none => .give query

def apply (draft : Draft) : KeyAction → Draft
  | .give query => draft.store none query
  | .put key query => draft.store (some key) query
  | .swap key query => { draft with clauses := draft.clauses.replace key query }
  | .drop key => draft.remove key

theorem apply_ofStore (draft : Draft) (key : Option String) (query : Query) :
    (ofStore key query).apply draft = draft.store key query := by
  cases key <;> rfl

/-- What becomes of a draft by an action: one entry is added at the end, changed in its place or
taken out, and the others keep their keys, queries and order. -/
inductive Leads (before after : Draft) : KeyAction → Prop where
  | given {query : Query} {number : Nat}
      (search : before.clauses.KeySearch before.nextKey number)
      (fresh : Clauses.autoKey number ∉ before.clauses.keys)
      (added : after.clauses.entries =
        before.clauses.entries ++ [(Clauses.autoKey number, query)])
      (next : after.nextKey = number + 1) : Leads before after (.give query)
  | placed {key : String} {query old : Query} {front back : List Entry}
      (there : before.clauses.entries = front ++ (key, old) :: back)
      (changed : after.clauses.entries = front ++ (key, query) :: back)
      (next : after.nextKey = before.nextKey) : Leads before after (.put key query)
  | appended {key : String} {query : Query} (absent : key ∉ before.clauses.keys)
      (added : after.clauses.entries = before.clauses.entries ++ [(key, query)])
      (next : after.nextKey = before.nextKey) : Leads before after (.put key query)
  | swapped {key : String} {query old : Query} {front back : List Entry}
      (there : before.clauses.entries = front ++ (key, old) :: back)
      (changed : after.clauses.entries = front ++ (key, query) :: back)
      (next : after.nextKey = before.nextKey) : Leads before after (.swap key query)
  | nothingSwapped {key : String} {query : Query} (absent : key ∉ before.clauses.keys)
      (same : after = before) : Leads before after (.swap key query)
  | dropped {key : String} {old : Query} {front back : List Entry}
      (there : before.clauses.entries = front ++ (key, old) :: back)
      (changed : after.clauses.entries = front ++ back)
      (next : after.nextKey = before.nextKey) : Leads before after (.drop key)
  | nothingDropped {key : String} (absent : key ∉ before.clauses.keys)
      (same : after = before) : Leads before after (.drop key)

private theorem leads_give (draft : Draft) (query : Query) :
    (give query).Leads draft ((give query).apply draft) := by
  have search := (draft.clauses.keySearch_iff draft.nextKey _).mpr rfl
  exact .given search search.notMem (Entry.assign_of_notMem search.notMem) rfl

/-- Under a key that is there, a query takes the place of the one before. -/
theorem exists_place {clauses : Clauses} {key : String} (present : key ∈ clauses.keys)
    (query : Query) :
    ∃ front old back, clauses.entries = front ++ (key, old) :: back ∧
      (clauses.insert key query).entries = front ++ (key, query) :: back := by
  obtain ⟨front, old, back, there, absent, _⟩ := Clauses.exists_split present
  refine ⟨front, old, back, there, ?_⟩
  exact (congrArg (Entry.assign key query) there).trans (Entry.assign_append_cons absent)

private theorem leads_put (draft : Draft) (key : String) (query : Query) :
    (put key query).Leads draft ((put key query).apply draft) := by
  by_cases present : key ∈ draft.clauses.keys
  · obtain ⟨front, old, back, there, changed⟩ := exists_place present query
    exact .placed there changed rfl
  · exact .appended present (Entry.assign_of_notMem present) rfl

private theorem leads_swap (draft : Draft) (key : String) (query : Query) :
    (swap key query).Leads draft ((swap key query).apply draft) := by
  by_cases present : key ∈ draft.clauses.keys
  · obtain ⟨front, old, back, there, changed⟩ := exists_place present query
    have stored : draft.clauses.replace key query = draft.clauses.insert key query :=
      if_pos (List.contains_iff_mem.mpr present)
    exact .swapped there ((congrArg Clauses.entries stored).trans changed) rfl
  · have kept : draft.clauses.replace key query = draft.clauses :=
      if_neg (mt List.contains_iff_mem.mp present)
    exact .nothingSwapped present (draft.with_clauses_self kept)

private theorem leads_drop (draft : Draft) (key : String) :
    (drop key).Leads draft ((drop key).apply draft) := by
  by_cases present : key ∈ draft.clauses.keys
  · obtain ⟨front, old, back, there, early, late⟩ := Clauses.exists_split present
    refine .dropped there ?_ rfl
    simp only [apply, Draft.remove, Clauses.erase]
    rw [there, List.filter_append, List.filter_cons_of_neg (by simp),
      Entry.filter_ne_of_notMem early, Entry.filter_ne_of_notMem late]
  · have kept : draft.clauses.erase key = draft.clauses := by
      simp only [Clauses.erase, Entry.filter_ne_of_notMem present]
    exact .nothingDropped present (draft.with_clauses_self kept)

theorem leads (draft : Draft) (action : KeyAction) : action.Leads draft (action.apply draft) := by
  cases action with
  | give query => exact leads_give draft query
  | put key query => exact leads_put draft key query
  | swap key query => exact leads_swap draft key query
  | drop key => exact leads_drop draft key

end KeyAction

/-- `after` is `before` with further entries at the end, under keys that were given out. -/
def Draft.Extends (before after : Draft) : Prop :=
  ∃ added, after.clauses.entries = before.clauses.entries ++ added ∧
    Entry.Numbered before.nextKey added after.nextKey

namespace Draft

theorem Extends.refl (draft : Draft) : draft.Extends draft :=
  ⟨[], (List.append_nil _).symm, .nil _⟩

private theorem Extends.of_eq {before after : Draft} (same : after = before) :
    before.Extends after :=
  same ▸ .refl before

theorem Extends.addGroup (draft group : Draft) : draft.Extends (draft.addGroup group) :=
  ⟨[], (List.append_nil _).symm, .nil _⟩

theorem Extends.addExpansion (draft : Draft) (matching : Matching) (field : String)
    (values : List String) (options : LeafOptions) :
    draft.Extends (draft.addExpansion matching field values options) := by
  rw [Draft.addExpansion]
  split
  · exact .refl draft
  · exact .addGroup draft _

theorem Extends.of_growsTo {before after : Draft} {additions : Additions}
    (grows : before.GrowsTo after additions) : before.Extends after := by
  obtain ⟨added, entries, _, numbered⟩ := grows.clauses
  exact ⟨added, entries, numbered⟩

private theorem Extends.ofRequest (draft : Draft) (request : Request) (schema : Schema) :
    draft.Extends (Outcome.ofAttempt draft (request.apply schema draft)).draft := by
  cases result : (request.apply schema draft).result with
  | error cause =>
    simp only [Outcome.ofAttempt, result]
    exact .refl draft
  | ok after =>
    simp only [Outcome.ofAttempt, result]
    obtain ⟨between, step, entries, sorted, rfl⟩ := Request.apply_eq_ok_iff.mp result
    obtain ⟨_, _, filtered⟩ := Request.applyEntries_names entries
    obtain ⟨_, _, last⟩ := GrowsTo.applySort between sorted
    exact .of_growsTo (((GrowsTo.worded draft request schema).trans filtered).trans last)

private theorem Extends.ofFilter (draft : Draft) (kind : FieldKind)
    (descriptor : FilterDescriptor) :
    draft.Extends (Outcome.ofStep draft (draft.applyFilter kind descriptor)).draft := by
  cases result : draft.applyFilter kind descriptor with
  | error _ => exact .refl draft
  | ok step =>
    obtain ⟨_, _, grows⟩ := applyFilter_names result
    exact .of_growsTo grows

end Draft

/-- To store a range with these choices, as a draft completes them. -/
def KeyAction.ofRange (draft : Draft) (field : String) (interval : Interval)
    (options : RangeOptions) : KeyAction :=
  .ofStore options.key <| .range {
    field
    interval
    includeMin := options.includeMin
    includeMax := options.includeMax
    precisionStep := options.precisionStep
    boost := options.boost
    occur := draft.resolveOccur options.occur }

/-- The same for a range of dates, which is stored if both dates can be read. -/
def KeyAction.ofDateRange? (draft : Draft) (field lower upper : String) (options : RangeOptions) :
    Option KeyAction :=
  Except.toOption do
    let lower ← readDate lower
    let upper ← readDate upper
    return .ofRange draft field (Calendar.Instant.interval lower upper) options

theorem KeyAction.ofStep_addDateRange (draft : Draft) (field lower upper : String)
    (options : RangeOptions) :
    (Outcome.ofStep draft (draft.addDateRange field lower upper options)).draft =
      match ofDateRange? draft field lower upper options with
      | some action => action.apply draft
      | none => draft := by
  rw [Draft.addDateRange, ofDateRange?]
  cases readDate lower with
  | error _ => rfl
  | ok =>
    cases readDate upper with
    | error _ => rfl
    | ok => exact (apply_ofStore draft _ _).symm

namespace Operation

/-- What an operation asks of the entries of its draft, if it stores or removes one. -/
def keyAction? (draft : Draft) : Operation → Option KeyAction
  | .test matching field value options =>
    some <| .ofStore options.key <| .term {
      matching
      term := ⟨field, draft.fold options.caseSensitive value⟩
      boost := options.boost
      occur := draft.resolveOccur options.occur }
  | .phrase slop terms options =>
    some <| .ofStore options.key <| .phrase {
      terms := terms.map fun term =>
        { term with value := draft.fold options.caseSensitive term.value }
      slop
      boost := options.boost
      occur := draft.resolveOccur options.occur }
  | .range field interval options => some (.ofRange draft field interval options)
  | .dateRange field lower upper options =>
    KeyAction.ofDateRange? draft field lower upper options
  | .add query => some (.give (draft.resolve query))
  | .insert key query => some (.put key (draft.resolve query))
  | .replace key query => some (.swap key (draft.resolve query))
  | .remove key => some (.drop key)
  | _ => none

theorem run_of_keyAction? {draft : Draft} {operation : Operation} {action : KeyAction}
    (asks : operation.keyAction? draft = some action) :
    (operation.run draft).draft = action.apply draft := by
  cases operation with
  | test | phrase | range =>
    cases asks
    exact (KeyAction.apply_ofStore draft _ _).symm
  | dateRange field lower upper options =>
    have asks : KeyAction.ofDateRange? draft field lower upper options = some action := asks
    have ran := KeyAction.ofStep_addDateRange draft field lower upper options
    rw [asks] at ran
    exact ran
  | add | insert | replace | remove =>
    cases asks
    rfl
  | _ => cases asks

/-- Any other operation adds entries under keys that are given out, or none. -/
theorem extends_of_keyAction? {draft : Draft} {operation : Operation}
    (asks : operation.keyAction? draft = none) :
    draft.Extends (operation.run draft).draft := by
  cases operation with
  | test | phrase | range | add | insert | replace | remove => cases asks
  | dateRange field lower upper options =>
    have asks : KeyAction.ofDateRange? draft field lower upper options = none := asks
    have ran := KeyAction.ofStep_addDateRange draft field lower upper options
    rw [asks] at ran
    exact .of_eq ran
  | expand matching field values options => exact .addExpansion draft matching field values options
  | join => exact .addGroup draft _
  | create | group =>
    rw [run, Draft.changeGroup_addGroup]
    exact .addGroup draft _
  | tryGroup occur childrenOccur setup inside =>
    simp only [run, Draft.changeGroup_addGroup]
    split
    · exact .refl draft
    · exact .addGroup draft _
  | text source fields => exact .of_growsTo (.addText draft source fields)
  | applyFilter kind descriptor =>
    rw [run_applyFilter]
    exact .ofFilter draft kind descriptor
  | request source schema => exact .ofRequest draft source schema
  | _ => exact .refl draft

/-- The entries that an operation adds under keys that it gives out. -/
def givesOut (draft : Draft) (operation : Operation) : List Entry :=
  match operation.keyAction? draft with
  | some (.put ..) | some (.swap ..) | some (.drop _) => []
  | some (.give _) | none =>
    (operation.run draft).draft.clauses.entries.drop draft.clauses.entries.length

/-- The same for a script, in order. -/
def allGivenOut (draft : Draft) : List Operation → List Entry
  | [] => []
  | operation :: rest =>
    operation.givesOut draft ++ allGivenOut (operation.run draft).draft rest

/-- The keys that an operation gives out have numbers between those that the draft counts. -/
theorem numbered_givesOut (draft : Draft) (operation : Operation) :
    Entry.Numbered draft.nextKey (operation.givesOut draft)
      (operation.run draft).draft.nextKey := by
  rw [givesOut]
  cases asks : operation.keyAction? draft with
  | none =>
    obtain ⟨added, entries, numbered⟩ := extends_of_keyAction? asks
    rw [entries, List.drop_left]
    exact numbered
  | some action =>
    have leads := action.leads draft
    rw [← run_of_keyAction? asks] at leads
    cases leads with
    | given search fresh added next =>
      rw [added, List.drop_left, next]
      exact .cons search.le (.nil _)
    | placed _ _ next | appended _ _ next | swapped _ _ next | dropped _ _ next =>
      rw [next]
      exact .nil _
    | nothingSwapped _ same | nothingDropped _ same =>
      rw [same]
      exact .nil _

theorem numbered_allGivenOut (draft : Draft) (script : List Operation) :
    Entry.Numbered draft.nextKey (allGivenOut draft script)
      (runAll false draft script).draft.nextKey := by
  induction script generalizing draft with
  | nil => exact .nil _
  | cons operation rest ih =>
    exact (operation.numbered_givesOut draft).append (ih (operation.run draft).draft)

end Operation

/-- A key that is given out is new among the keys that are there, and comes to the end of them; the
search for it ends after one try more than there are keys at most. Storing, replacing and removing
under a key change the entry with this key only, and all other operations leave the entries that
are there as they are. Through a whole script no key is given out twice. -/
theorem keys_are_given_out_once :
    (∀ (clauses : Clauses) (start : Nat), ∃ number ≤ start + clauses.size,
      ∀ other, clauses.KeySearch start other ↔ other = number) ∧
    (∀ (draft : Draft) (operation : Operation),
      match operation.keyAction? draft with
      | some action => action.Leads draft (operation.run draft).draft
      | none => draft.Extends (operation.run draft).draft) ∧
    ∀ (start : Draft) (script : List Operation),
      (Entry.keysOf (Operation.allGivenOut start script)).Nodup := by
  refine ⟨?_, ?_, ?_⟩
  · intro clauses start
    refine ⟨clauses.freeNumber start, clauses.freeNumber_le start, fun other => ?_⟩
    rw [clauses.keySearch_iff, eq_comm]
  · intro draft operation
    cases asks : operation.keyAction? draft with
    | none => exact Operation.extends_of_keyAction? asks
    | some action =>
      rw [Operation.run_of_keyAction? asks]
      exact action.leads draft
  · intro start script
    exact (Operation.numbered_allGivenOut start script).nodup

/-- A key of the kind that is given out is put in the way, and one that was given out is taken
away. -/
def keyScript : List Operation :=
  [.text "red" ["title"], .test .term "title" "red" {}, .test .term "title" "blue" { key := "Query_1" },
    .phrase 0 [⟨"body", "red"⟩] {}, .remove "Query_2", .range "year" (.int 1990 2000) {}]

example : Entry.keysOf (Operation.allGivenOut (Draft.root false) keyScript) =
      ["Query_0", "Query_2", "Query_3"] ∧
    (Operation.runAll false (Draft.root false) keyScript).draft.clauses.keys =
      ["Query_0", "Query_1", "Query_3"] := by
  decide +kernel

end SearchQuery
