import SearchQuery.Proofs.Draft.Operation
import SearchQuery.Proofs.Query.Resolution
import SearchQuery.Proofs.Support

/-!
Whatever is done to a draft, nothing in it is left undecided. Main statement: the search that any
script builds is valid and both backends can render it (`script_leaves_nothing_undecided`).
-/

namespace SearchQuery

namespace Entry

private theorem mem_assign {key : String} {query : Query} {entries : List Entry} {entry : Entry}
    (member : entry ∈ assign key query entries) : entry.2 = query ∨ entry ∈ entries := by
  induction entries with
  | nil =>
    simp only [assign, List.mem_singleton] at member
    exact .inl (congrArg Prod.snd member)
  | cons first rest ih =>
    rw [assign] at member
    split at member
    · rcases List.mem_cons.mp member with rfl | later
      · exact .inl rfl
      · exact .inr (List.mem_cons_of_mem first later)
    · rcases List.mem_cons.mp member with rfl | later
      · exact .inr List.mem_cons_self
      · exact (ih later).imp id (List.mem_cons_of_mem first)

end Entry

namespace Clauses

private theorem mem_insert {clauses : Clauses} {key : String} {stored query : Query}
    (member : query ∈ (clauses.insert key stored).queries) :
    query = stored ∨ query ∈ clauses.queries := by
  obtain ⟨entry, present, rfl⟩ := List.mem_map.mp member
  exact (Entry.mem_assign present).imp id (List.mem_map_of_mem (f := Prod.snd))

private theorem mem_replace {clauses : Clauses} {key : String} {stored query : Query}
    (member : query ∈ (clauses.replace key stored).queries) :
    query = stored ∨ query ∈ clauses.queries := by
  rw [replace] at member
  split at member
  · exact mem_insert member
  · exact .inr member

private theorem mem_erase {clauses : Clauses} {key : String} {query : Query}
    (member : query ∈ (clauses.erase key).queries) : query ∈ clauses.queries := by
  obtain ⟨entry, present, rfl⟩ := List.mem_map.mp member
  exact List.mem_map_of_mem (List.mem_filter.mp present).1

end Clauses

namespace Draft

/-- The occurrence of a draft and that of its children are set, and so is every occurrence in what
it stores and in the drafts of its groups. -/
inductive Decided : Draft → Prop where
  | intro {draft : Draft} (own : draft.occur.isSet) (children : draft.childrenOccur.isSet)
      (stored : ∀ query ∈ draft.clauses.queries, query.Resolved)
      (nested : ∀ group ∈ draft.groups, Decided group) : Decided draft

namespace Decided

variable {draft group : Draft}

theorem empty (kind : GroupKind) {occur childrenOccur : Occurrence} (caseSensitive : Bool)
    (own : occur.isSet) (children : childrenOccur.isSet) :
    (Draft.empty kind occur childrenOccur caseSensitive).Decided :=
  .intro own children (by simp [Draft.empty, Clauses.empty, Clauses.queries]) (by simp [Draft.empty])

theorem root (caseSensitive : Bool) : (Draft.root caseSensitive).Decided :=
  .empty .root caseSensitive rfl rfl

theorem resolveOccur (decided : draft.Decided) (occur : Occurrence) :
    (draft.resolveOccur occur).isSet := by
  obtain ⟨_, children, _, _⟩ := decided
  exact Occurrence.isSet_orElse children occur

theorem resolve (decided : draft.Decided) (query : Query) : (draft.resolve query).Resolved := by
  obtain ⟨_, children, _, _⟩ := decided
  exact Query.resolved_resolve children query

theorem store (decided : draft.Decided) (key : Option String) {query : Query}
    (resolved : query.Resolved) : (draft.store key query).Decided := by
  obtain ⟨own, children, stored, nested⟩ := decided
  cases key with
  | some key =>
    refine .intro own children ?_ nested
    intro other member
    exact (Clauses.mem_insert member).elim (fun same => same ▸ resolved) (stored other)
  | none =>
    refine .intro own children ?_ nested
    intro other member
    exact (Clauses.mem_insert member).elim (fun same => same ▸ resolved) (stored other)

theorem replace (decided : draft.Decided) (key : String) (query : Query) :
    (draft.replace key query).Decided := by
  have resolved := decided.resolve query
  obtain ⟨own, children, stored, nested⟩ := decided
  refine .intro own children ?_ nested
  intro other member
  exact (Clauses.mem_replace member).elim (fun same => same ▸ resolved) (stored other)

theorem remove (decided : draft.Decided) (key : String) : (draft.remove key).Decided := by
  obtain ⟨own, children, stored, nested⟩ := decided
  exact .intro own children (fun other member => stored other (Clauses.mem_erase member)) nested

theorem addTest (decided : draft.Decided) (matching : Matching) (field value : String)
    (options : LeafOptions) : (draft.addTest matching field value options).Decided :=
  decided.store options.key (.term (decided.resolveOccur options.occur))

theorem addPhrase (decided : draft.Decided) (slop : UInt32) (terms : List Term)
    (options : LeafOptions) : (draft.addPhrase slop terms options).Decided :=
  decided.store options.key (.phrase (decided.resolveOccur options.occur))

theorem addRange (decided : draft.Decided) (field : String) (interval : Interval)
    (options : RangeOptions) : (draft.addRange field interval options).Decided :=
  decided.store options.key (.range (decided.resolveOccur options.occur))

theorem junctionChild (draft : Draft) (junction : Junction) (occur : Occurrence) :
    (draft.junctionChild junction occur).Decided := by
  have set : junction.occur.isSet := by cases junction <;> rfl
  exact .empty junction.kind draft.caseSensitive (Occurrence.isSet_orElse set occur) set

theorem groupChild (decided : draft.Decided) (occur childrenOccur : Occurrence) :
    (draft.groupChild occur childrenOccur).Decided :=
  .empty _ draft.caseSensitive (decided.resolveOccur occur) (decided.resolveOccur childrenOccur)

theorem addGroup (decided : draft.Decided) (inner : group.Decided) :
    (draft.addGroup group).Decided := by
  obtain ⟨own, children, stored, nested⟩ := decided
  refine .intro own children stored ?_
  intro other member
  rcases List.mem_append.mp member with old | new
  · exact nested other old
  · exact List.mem_singleton.mp new ▸ inner

/-- Adding a test for each item keeps a draft decided, whatever the items are. -/
theorem foldl_addTest {α : Type} (decided : draft.Decided) (matching : Matching)
    (field value : α → String) (options : LeafOptions) (items : List α) :
    (items.foldl (fun draft item => draft.addTest matching (field item) (value item) options)
      draft).Decided := by
  induction items generalizing draft with
  | nil => exact decided
  | cons item rest ih => exact ih (decided.addTest matching (field item) (value item) options)

theorem addExpansion (decided : draft.Decided) (matching : Matching) (field : String)
    (values : List String) (options : LeafOptions) :
    (draft.addExpansion matching field values options).Decided := by
  rw [Draft.addExpansion]
  split
  · exact decided
  · exact decided.addGroup
      ((junctionChild draft .or .sometimes).foldl_addTest matching (fun _ => field) id _ values)

theorem setFilter (decided : draft.Decided) (filter : Filter) : (draft.setFilter filter).Decided := by
  obtain ⟨own, children, stored, nested⟩ := decided
  exact .intro own children stored nested

theorem addSort (decided : draft.Decided) (key : SortKey) : (draft.addSort key).Decided := by
  obtain ⟨own, children, stored, nested⟩ := decided
  exact .intro own children stored nested

theorem compare (decided : draft.Decided) (filter : Filter) :
    (draft.compare filter).draft.Decided :=
  decided.setFilter filter

theorem addBounds {α : Type} (decided : draft.Decided) (kind : OrderedKind α) (field : String)
    (lower upper : Option α) : (draft.addBounds kind field lower upper).draft.Decided := by
  cases lower <;> cases upper
  · exact decided
  · exact decided.compare _
  · exact decided.compare _
  · exact decided.addRange field (kind.interval _ _) {}

theorem applyOrdered {α : Type} (decided : draft.Decided) (kind : OrderedKind α)
    (descriptor : FilterDescriptor) {step : Step}
    (applied : draft.applyOrdered kind descriptor = .ok step) : step.draft.Decided := by
  rw [Draft.applyOrdered_eq] at applied
  cases operator : descriptor.operator <;> simp only [operator] at applied
  case eq | notEq =>
    obtain ⟨text, _, applied⟩ := Except.exists_of_bind_eq_ok applied
    obtain ⟨value, _, applied⟩ := Except.exists_of_bind_eq_ok applied
    cases applied
    dsimp only
    exact decided.addRange _ _ _
  case gt | gte | lt | lte =>
    obtain ⟨text, _, applied⟩ := Except.exists_of_bind_eq_ok applied
    obtain ⟨value, _, applied⟩ := Except.exists_of_bind_eq_ok applied
    cases applied
    exact decided.compare _
  case range =>
    obtain ⟨lower, _, applied⟩ := Except.exists_of_bind_eq_ok applied
    obtain ⟨upper, _, applied⟩ := Except.exists_of_bind_eq_ok applied
    cases applied
    exact decided.addBounds kind _ lower upper
  case prefixed | exact | fuzzy => cases applied

theorem addAnyKeyword (decided : draft.Decided) (field : String) (values : List String) :
    (draft.addAnyKeyword field values).Decided :=
  decided.addGroup
    ((junctionChild draft .or .sometimes).foldl_addTest .keyword (fun _ => field) id {} values)

theorem applyText (decided : draft.Decided) (descriptor : FilterDescriptor) {step : Step}
    (applied : draft.applyText descriptor = .ok step) : step.draft.Decided := by
  rw [Draft.applyText_eq] at applied
  split at applied
  · cases applied
    exact decided.addAnyKeyword _ _
  · split at applied
    · obtain ⟨value, _, applied⟩ := Except.exists_of_bind_eq_ok applied
      cases applied
      dsimp only
      exact decided.addTest _ _ _ _
    · cases applied

theorem applyFilter (decided : draft.Decided) (kind : FieldKind) (descriptor : FilterDescriptor)
    {step : Step} (applied : draft.applyFilter kind descriptor = .ok step) :
    step.draft.Decided := by
  cases kind with
  | numeric => exact decided.applyOrdered numericKind descriptor applied
  | date => exact decided.applyOrdered dateKind descriptor applied
  | text => exact decided.applyText descriptor applied
  | keyword => exact decided.applyText descriptor applied

theorem addWord (decided : draft.Decided) (fields : List String) (word : String) :
    (draft.addWord fields word).Decided :=
  decided.addGroup
    ((junctionChild draft .or .sometimes).foldl_addTest .prefixed id (fun _ => word) {} fields)

theorem addWords (decided : draft.Decided) (fields words : List String) :
    (words.foldl (fun draft word => draft.addWord fields word) draft).Decided := by
  induction words generalizing draft with
  | nil => exact decided
  | cons word rest ih => exact ih (decided.addWord fields word)

theorem addText (decided : draft.Decided) (text : String) (fields : List String) :
    (draft.addText text fields).draft.Decided := by
  rw [Draft.addText]
  split
  · exact decided
  · split
    · exact decided
    · exact decided.addWords fields _

theorem addDateRange (decided : draft.Decided) (field lower upper : String)
    (options : RangeOptions) {step : Step}
    (added : draft.addDateRange field lower upper options = .ok step) : step.draft.Decided := by
  obtain ⟨first, _, added⟩ := Except.exists_of_bind_eq_ok added
  obtain ⟨last, _, added⟩ := Except.exists_of_bind_eq_ok added
  cases added
  exact decided.addRange _ _ _

theorem applyEntry (decided : draft.Decided) (schema : Schema) (entry : String) {step : Step}
    (applied : Request.applyEntry schema draft entry = .ok step) : step.draft.Decided := by
  obtain ⟨descriptor, _, applied⟩ := Except.exists_of_bind_eq_ok applied
  split at applied
  · exact decided.applyFilter _ descriptor applied
  · cases applied

theorem applyEntries (decided : draft.Decided) (schema : Schema) (entries : List String)
    {result : Draft} (applied : (Request.applyEntries schema draft entries).result = .ok result) :
    result.Decided := by
  induction entries generalizing draft with
  | nil =>
    cases applied
    exact decided
  | cons entry rest ih =>
    rw [Request.applyEntries] at applied
    split at applied
    · cases applied
    · rename_i step first
      exact ih (decided.applyEntry schema entry first) applied

theorem applySort (decided : draft.Decided) (request : Request) (schema : Schema) {step : Step}
    (applied : request.applySort schema draft = .ok step) : step.draft.Decided := by
  obtain ⟨chosen, _, applied⟩ := Except.exists_of_bind_eq_ok applied
  cases chosen with
  | some sort =>
    cases applied
    exact decided.addSort _
  | none =>
    cases applied
    exact decided

theorem applyRequest (decided : draft.Decided) (request : Request) (schema : Schema)
    {result : Draft} (applied : (request.apply schema draft).result = .ok result) :
    result.Decided := by
  unfold Request.apply at applied
  extract_lets text filtered at applied
  have start : text.draft.Decided := by
    simp only [text]
    split
    · exact decided.addText _ _
    · exact decided
  split at applied
  · cases applied
  · rename_i between entries
    split at applied
    · cases applied
    · rename_i step sorted
      cases applied
      exact (start.applyEntries schema request.filters entries).applySort request schema sorted

end Decided

theorem groupQueries_eq_map (groups : List Draft) :
    groupQueries groups =
      groups.map fun draft => .group ⟨draft.kind, draft.occur, draft.boost⟩ draft.children := by
  induction groups with
  | nil => rfl
  | cons draft rest ih => rw [groupQueries, ih, List.map_cons]

theorem children_eq (draft : Draft) :
    draft.children = draft.clauses.queries ++ groupQueries draft.groups := by
  cases draft
  rfl

theorem Decided.resolved_children {draft : Draft} (decided : draft.Decided) :
    ∀ query ∈ draft.children, query.Resolved := by
  induction decided with
  | @intro draft _ _ stored nested ih =>
    intro query member
    rw [children_eq, groupQueries_eq_map] at member
    rcases List.mem_append.mp member with own | inner
    · exact stored query own
    · obtain ⟨group, present, rfl⟩ := List.mem_map.mp inner
      obtain ⟨set, _, _, _⟩ := nested group present
      exact .group set (ih group present)

theorem Decided.resolved_build {draft : Draft} (decided : draft.Decided) :
    draft.build.query.toQuery.Resolved := by
  have children := decided.resolved_children
  obtain ⟨own, _, _, _⟩ := decided
  exact .group own children

end Draft

namespace Outcome

private theorem decided_ofStep {draft : Draft} (decided : draft.Decided)
    {step : Except QueryError Step}
    (kept : ∀ done, step = .ok done → done.draft.Decided) : (ofStep draft step).draft.Decided := by
  cases step with
  | error _ => exact decided
  | ok done => exact kept done rfl

private theorem decided_ofAttempt {draft : Draft} (decided : draft.Decided) {attempt : Attempt}
    (kept : ∀ result, attempt.result = .ok result → result.Decided) :
    (ofAttempt draft attempt).draft.Decided := by
  rw [ofAttempt]
  split
  · rename_i result done
    exact kept result done
  · exact decided

end Outcome

namespace Operation

mutual

/-- No operation leaves anything undecided. -/
theorem decided_run {draft : Draft} (decided : draft.Decided) (operation : Operation) :
    (operation.run draft).draft.Decided := by
  match operation with
  | .test matching field value options => exact decided.addTest matching field value options
  | .expand matching field values options => exact decided.addExpansion matching field values options
  | .phrase slop terms options => exact decided.addPhrase slop terms options
  | .range field interval options => exact decided.addRange field interval options
  | .dateRange field lower upper options =>
    rw [run]
    exact Outcome.decided_ofStep decided fun _ done => decided.addDateRange field lower upper options done
  | .join junction occur setup =>
    exact decided.addGroup (decided_runAll (.junctionChild draft junction occur) false setup)
  | .create junction occur inside =>
    rw [run_create]
    exact decided.addGroup (decided_runAll (.junctionChild draft junction occur) false inside)
  | .group occur childrenOccur setup inside =>
    have first := decided_runAll (decided.groupChild occur childrenOccur) false setup
    rw [run, Draft.changeGroup_addGroup]
    exact decided.addGroup (decided_runAll first false inside)
  | .tryGroup occur childrenOccur setup inside =>
    have first := decided_runAll (decided.groupChild occur childrenOccur) true setup
    simp only [run, Draft.changeGroup_addGroup]
    split
    · exact decided
    · exact decided.addGroup (decided_runAll first false inside)
  | .fail _ => exact decided
  | .reject _ => exact decided
  | .add query => exact decided.store none (decided.resolve query)
  | .insert key query => exact decided.store (some key) (decided.resolve query)
  | .replace key query => exact decided.replace key query
  | .remove key => exact decided.remove key
  | .get _ => exact decided
  | .contains _ => exact decided
  | .filter value => exact decided.setFilter value
  | .clearFilter =>
    obtain ⟨own, children, stored, nested⟩ := decided
    exact .intro own children stored nested
  | .sort key => exact decided.addSort key
  | .setCaseSensitive _ =>
    obtain ⟨own, children, stored, nested⟩ := decided
    exact .intro own children stored nested
  | .setBoost _ =>
    obtain ⟨own, children, stored, nested⟩ := decided
    exact .intro own children stored nested
  | .text source fields => exact decided.addText source fields
  | .applyFilter kind descriptor =>
    rw [run_applyFilter]
    exact Outcome.decided_ofStep decided fun _ done => decided.applyFilter kind descriptor done
  | .request source schema =>
    exact Outcome.decided_ofAttempt decided fun _ done => decided.applyRequest source schema done
  | .build => exact decided
  | .print => exact decided
  | .render => exact decided
  | .inspect => exact decided

theorem decided_runAll {draft : Draft} (decided : draft.Decided) (strict : Bool)
    (script : List Operation) : (runAll strict draft script).draft.Decided := by
  match script with
  | [] => exact decided
  | operation :: rest =>
    have next := decided_run decided operation
    simp only [runAll]
    split
    · exact next
    · exact decided_runAll next strict rest

end

end Operation

open Rendering in
/-- Whatever a script does to a new draft, everything in it is decided; the search it builds is
valid, and neither backend meets a leaf without occurrence. -/
theorem script_leaves_nothing_undecided (caseSensitive strict : Bool) (script : List Operation) :
    let draft := (Operation.runAll strict (.root caseSensitive) script).draft
    draft.Decided ∧ draft.build.validate = .ok () ∧
      (∀ settings, ∃ request, AzureRequest.ofSearch settings draft.build = .ok request) ∧
      ∀ settings, ∃ request, SolrRequest.ofSearch settings draft.build = .ok request := by
  intro draft
  have decided : draft.Decided := Operation.decided_runAll (.root caseSensitive) strict script
  have resolved := decided.resolved_build
  refine ⟨decided, (Search.validate_eq_ok_iff _).mpr resolved, ?_, ?_⟩
  · intro settings
    rw [AzureRequest.ofSearch, azure.render_of_resolved resolved.leaves]
    exact ⟨_, rfl⟩
  · intro settings
    rw [SolrRequest.ofSearch, solr.render_of_resolved resolved.leaves]
    exact ⟨_, rfl⟩

end SearchQuery
