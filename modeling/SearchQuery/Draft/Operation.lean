import SearchQuery.Query.Json
import SearchQuery.Rendering.Azure
import SearchQuery.Request.Basic

/-!
Building a draft as a script: operations, some with scripts for nested groups, and what each of
them answers.
-/

namespace SearchQuery

inductive Operation where
  | test (matching : Matching) (field value : String) (options : LeafOptions)
  | expand (matching : Matching) (field : String) (values : List String) (options : LeafOptions)
  | phrase (slop : UInt32) (terms : List Term) (options : LeafOptions)
  | range (field : String) (interval : Interval) (options : RangeOptions)
  | dateRange (field lower upper : String) (options : RangeOptions)
  /-- Adds a group after its setup. -/
  | join (junction : Junction) (occur : Occurrence) (setup : List Operation)
  /-- Adds an empty group and goes on inside it. -/
  | create (junction : Junction) (occur : Occurrence) (inside : List Operation)
  /-- Adds a group after its setup and goes on inside it. -/
  | group (occur childrenOccur : Occurrence) (setup inside : List Operation)
  /-- As `group`, but the first operation of the setup that fails undoes the whole. -/
  | tryGroup (occur childrenOccur : Occurrence) (setup inside : List Operation)
  /-- Fails with a message. -/
  | fail (message : String)
  /-- Fails because its input could not be read. -/
  | reject (error : QueryError)
  | add (query : Query)
  | insert (key : String) (query : Query)
  | replace (key : String) (query : Query)
  | remove (key : String)
  | get (key : String)
  | contains (key : String)
  | filter (filter : Filter)
  | clearFilter
  | sort (key : SortKey)
  | setCaseSensitive (value : Bool)
  | setBoost (value : Single)
  | text (text : String) (fields : List String)
  | applyFilter (kind : FieldKind) (descriptor : FilterDescriptor)
  | request (request : Request) (schema : Schema)
  | build
  | print
  | render
  | inspect

/-- What an operation answers. -/
inductive Answer where
  | done
  | failed (message : String)
  | error (error : QueryError)
  | query (query : Option Query)
  | flag (value : Bool)
  | script (answers : List Answer)
  | group (setup inside : List Answer) (draft : Draft)
  | search (search : Search)
  | text (text : String)
  | rendering (search : Search)
  | draft (draft : Draft)

namespace Answer

/-- The message of an answer that says that an operation failed. -/
def failure? : Answer → Option String
  | .failed message => some message
  | .error cause => some cause.message
  | _ => none

end Answer

/-- A draft after an operation. -/
structure Outcome where
  draft : Draft
  answer : Answer
  warnings : List Warning := []

/-- A draft after a script: the answers so far, and why it stopped if it did. -/
structure ScriptOutcome where
  draft : Draft
  answers : List Answer
  warnings : List Warning
  failure : Option String := none

namespace Outcome

def ofStep (draft : Draft) : Except QueryError Step → Outcome
  | .ok step => ⟨step.draft, .done, step.warnings⟩
  | .error cause => ⟨draft, .error cause, []⟩

def ofAttempt (draft : Draft) (attempt : Attempt) : Outcome :=
  match attempt.result with
  | .ok result => ⟨result, .done, attempt.warnings⟩
  | .error cause => ⟨draft, .error cause, attempt.warnings⟩

/-- The draft as the work leaves it, also where a fault stops it. -/
def ofRevision (draft : Draft) (revision : Revision Unit) : Outcome :=
  match revision.run ⟨draft, []⟩ with
  | .ok _ step => ⟨step.draft, .done, step.warnings⟩
  | .error cause step => ⟨step.draft, .error cause, step.warnings⟩

end Outcome

namespace Draft

/-- A date range, the lower bound read first. -/
def addDateRange (draft : Draft) (field lower upper : String) (options : RangeOptions) :
    Except QueryError Step := do
  let lower ← readDate lower
  let upper ← readDate upper
  return ⟨draft.addRange field (Calendar.Instant.interval lower upper) options, []⟩

/-- What rendering a search for the backends warns of. -/
def renderingWarnings (search : Search) : List Warning :=
  match Rendering.azure.render search with
  | .ok _ => Rendering.AzureRequest.warnings search
  | .error _ => []

end Draft

namespace Operation

mutual

/-- Runs an operation. Where it goes on inside a group, the group is in its place before that and
changes there. -/
def run (draft : Draft) : Operation → Outcome
  | .test matching field value options => ⟨draft.addTest matching field value options, .done, []⟩
  | .expand matching field values options =>
    ⟨draft.addExpansion matching field values options, .done, []⟩
  | .phrase slop terms options => ⟨draft.addPhrase slop terms options, .done, []⟩
  | .range field interval options => ⟨draft.addRange field interval options, .done, []⟩
  | .dateRange field lower upper options =>
    .ofStep draft (draft.addDateRange field lower upper options)
  | .join junction occur setup =>
    let outcome := runAll false (draft.junctionChild junction occur) setup
    ⟨draft.addGroup outcome.draft, .script outcome.answers, outcome.warnings⟩
  | .create junction occur inside =>
    let child := draft.junctionChild junction occur
    let outcome := runAll false child inside
    ⟨(draft.addGroup child).changeGroup draft.groups.length fun _ => outcome.draft,
      .script outcome.answers, outcome.warnings⟩
  | .group occur childrenOccur setup inside =>
    let first := runAll false (draft.groupChild occur childrenOccur) setup
    let second := runAll false first.draft inside
    ⟨(draft.addGroup first.draft).changeGroup draft.groups.length fun _ => second.draft,
      .group first.answers second.answers second.draft, first.warnings ++ second.warnings⟩
  | .tryGroup occur childrenOccur setup inside =>
    let first := runAll true (draft.groupChild occur childrenOccur) setup
    match first.failure with
    | some reason => ⟨draft, .error (.groupCreation reason), first.warnings⟩
    | none =>
      let second := runAll false first.draft inside
      ⟨(draft.addGroup first.draft).changeGroup draft.groups.length fun _ => second.draft,
        .group first.answers second.answers second.draft, first.warnings ++ second.warnings⟩
  | .fail message => ⟨draft, .failed message, []⟩
  | .reject cause => ⟨draft, .error cause, []⟩
  | .add query => ⟨draft.add query, .done, []⟩
  | .insert key query => ⟨draft.insert key query, .query (draft.clauses.get? key), []⟩
  | .replace key query => ⟨draft.replace key query, .query (draft.clauses.get? key), []⟩
  | .remove key => ⟨draft.remove key, .query (draft.clauses.get? key), []⟩
  | .get key => ⟨draft, .query (draft.clauses.get? key), []⟩
  | .contains key => ⟨draft, .flag (draft.clauses.contains key), []⟩
  | .filter value => ⟨draft.setFilter value, .done, []⟩
  | .clearFilter => ⟨{ draft with filter := none }, .done, []⟩
  | .sort key => ⟨draft.addSort key, .done, []⟩
  | .setCaseSensitive value => ⟨{ draft with caseSensitive := value }, .done, []⟩
  | .setBoost value => ⟨{ draft with boost := some value }, .done, []⟩
  | .text source fields =>
    let step := draft.addText source fields
    ⟨step.draft, .done, step.warnings⟩
  | .applyFilter kind descriptor => .ofRevision draft (Revision.filter kind descriptor)
  | .request source schema => .ofAttempt draft (source.apply schema draft)
  | .build => ⟨draft, .search draft.build, []⟩
  | .print => ⟨draft, .text draft.build.toText, []⟩
  | .render => ⟨draft, .rendering draft.build, Draft.renderingWarnings draft.build⟩
  | .inspect => ⟨draft, .draft draft, []⟩

/-- Runs operations in order. A `strict` script stops at the first that fails. -/
def runAll (strict : Bool) (draft : Draft) : List Operation → ScriptOutcome
  | [] => ⟨draft, [], [], none⟩
  | operation :: rest =>
    let outcome := run draft operation
    match if strict then outcome.answer.failure? else none with
    | some reason => ⟨outcome.draft, [outcome.answer], outcome.warnings, some reason⟩
    | none =>
      let others := runAll strict outcome.draft rest
      ⟨others.draft, outcome.answer :: others.answers, outcome.warnings ++ others.warnings,
        others.failure⟩

end

end Operation

end SearchQuery
