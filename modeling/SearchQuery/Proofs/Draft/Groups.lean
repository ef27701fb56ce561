import Mathlib.Data.List.ModifyLast
import SearchQuery.Proofs.Draft.Operation

/-!
A nested group is the same however it is spelled: set up before it is added or from within after it,
in an attempt that does not fail, or as an expansion of values. An attempt that fails leaves nothing
behind, however far it came (`group_spellings_agree`).
-/

namespace SearchQuery

namespace Operation

variable {draft : Draft} {before script : List Operation} {reason : String}

/-- No operation of the script fails. -/
inductive Passes : Draft → List Operation → Prop where
  | nil (draft : Draft) : Passes draft []
  | cons {draft : Draft} {operation : Operation} {rest : List Operation}
      (fine : (operation.run draft).answer.failure? = none)
      (passes : Passes (operation.run draft).draft rest) : Passes draft (operation :: rest)

/-- The first operation that fails does so for this reason, after any number that do not. -/
def Breaks (draft : Draft) (script : List Operation) (reason : String) : Prop :=
  ∃ before operation after, script = before ++ operation :: after ∧ Passes draft before ∧
    (operation.run (runAll false draft before).draft).answer.failure? = some reason

theorem Breaks.cons {operation : Operation} (fine : (operation.run draft).answer.failure? = none)
    (breaks : Breaks (operation.run draft).draft script reason) :
    Breaks draft (operation :: script) reason := by
  obtain ⟨before, last, after, rfl, passes, failed⟩ := breaks
  exact ⟨operation :: before, last, after, rfl, .cons fine passes, failed⟩

theorem passes_or_breaks (draft : Draft) (script : List Operation) :
    Passes draft script ∨ ∃ reason, Breaks draft script reason := by
  induction script generalizing draft with
  | nil => exact .inl (.nil draft)
  | cons operation rest ih =>
    cases failure : (operation.run draft).answer.failure? with
    | some reason => exact .inr ⟨reason, [], operation, rest, rfl, .nil draft, failure⟩
    | none =>
      rcases ih (operation.run draft).draft with passes | ⟨reason, breaks⟩
      · exact .inl (.cons failure passes)
      · exact .inr ⟨reason, breaks.cons failure⟩

private theorem failure_runAll_false (draft : Draft) (script : List Operation) :
    (runAll false draft script).failure = none := by
  induction script generalizing draft with
  | nil => rfl
  | cons operation rest ih => exact ih (operation.run draft).draft

/-- Strictness is not noticed where nothing fails. -/
theorem Passes.runAll_eq (passes : Passes draft script) :
    runAll true draft script = runAll false draft script := by
  induction passes with
  | nil draft => rfl
  | cons fine _ ih => simp only [runAll, fine, ih, ite_self]

/-- A strict script comes to the operation on which it breaks with what those before it did. -/
theorem Passes.failure_append (passes : Passes draft before) (script : List Operation) :
    (runAll true draft (before ++ script)).failure =
      (runAll true (runAll false draft before).draft script).failure := by
  induction passes with
  | nil draft => rfl
  | cons fine _ ih =>
    rw [List.cons_append, runAll, fine]
    exact ih

theorem Breaks.failure_eq (breaks : Breaks draft script reason) :
    (runAll true draft script).failure = some reason := by
  obtain ⟨before, operation, after, rfl, passes, failed⟩ := breaks
  rw [passes.failure_append, runAll, if_pos rfl, failed]

private theorem draft_runAll_tests (matching : Matching) (field : String) (options : LeafOptions)
    (draft : Draft) (values : List String) :
    (runAll false draft (values.map fun value => test matching field value options)).draft =
      values.foldl (fun group value => group.addTest matching field value options) draft := by
  induction values generalizing draft with
  | nil => rfl
  | cons value rest ih => exact ih (draft.addTest matching field value options)

theorem run_tryGroup_of_passes {occur childrenOccur : Occurrence} {setup : List Operation}
    (passes : Passes (draft.groupChild occur childrenOccur) setup) (inside : List Operation) :
    (tryGroup occur childrenOccur setup inside).run draft =
      (group occur childrenOccur setup inside).run draft := by
  rw [run, run, passes.runAll_eq, failure_runAll_false]

theorem run_tryGroup_of_breaks {occur childrenOccur : Occurrence} {setup : List Operation}
    (breaks : Breaks (draft.groupChild occur childrenOccur) setup reason)
    (inside : List Operation) :
    (tryGroup occur childrenOccur setup inside).run draft =
      ⟨draft, .error (.groupCreation reason),
        (runAll true (draft.groupChild occur childrenOccur) setup).warnings⟩ := by
  rw [run, breaks.failure_eq]

private theorem run_expand_of_ne_nil {values : List String} (some : values ≠ []) (draft : Draft)
    (matching : Matching) (field : String) (options : LeafOptions) :
    ((expand matching field values options).run draft).draft =
      ((join .or .sometimes (values.map fun value =>
        test matching field value { options with key := none })).run draft).draft := by
  rw [run, run, draft_runAll_tests, Draft.addExpansion, if_neg (by simpa using some)]

end Operation

namespace Draft

/-- A change of the group that was added last. -/
def changeLastGroup (change : Draft → Draft) (draft : Draft) : Draft :=
  { draft with groups := draft.groups.modifyLast change }

private theorem changeLastGroup_addGroup (change : Draft → Draft) (draft group : Draft) :
    (draft.addGroup group).changeLastGroup change = draft.addGroup (change group) := by
  rw [changeLastGroup, addGroup, List.modifyLast_concat, addGroup]

private theorem applyFilter_anyOf {kind : FieldKind} (textual : kind = .text ∨ kind = .keyword)
    {values : List String} (several : 2 ≤ values.length) (draft : Draft) (field : String) :
    draft.applyFilter kind ⟨field, .eq, values⟩ =
      .ok ⟨draft.addExpansion .keyword field values {}, []⟩ := by
  have some : values ≠ [] := List.ne_nil_of_length_pos (by omega)
  have whole : draft.applyFilter kind ⟨field, .eq, values⟩ =
      draft.applyText ⟨field, .eq, values⟩ := by
    rcases textual with rfl | rfl <;> rfl
  rw [whole, applyText_eq, if_pos ⟨rfl, several⟩, addExpansion, if_neg (by simpa using some)]
  rfl

end Draft

/-- On every draft the spellings of a group come to the same. A group that is set up before it is
added is the group that is added empty and then changed from within. An attempt whose setup does not
fail is the plain group; one whose setup breaks leaves the draft as it was and answers with the
reason; and every setup does one or the other. An expansion is an or-group of one test for each
value, in order and under keys that are given out, and without values nothing. Equality with several
values of a field of text is an expansion into keywords. -/
theorem group_spellings_agree (draft : Draft) :
    (∀ junction occur setup,
      (Operation.join junction occur setup).run draft =
        (Operation.create junction occur setup).run draft ∧
      ((Operation.join junction occur setup).run draft).draft =
        ((Operation.create junction occur []).run draft).draft.changeLastGroup fun child =>
          (Operation.runAll false child setup).draft) ∧
    (∀ occur childrenOccur setup inside,
      let child := draft.groupChild occur childrenOccur
      let attempt := (Operation.tryGroup occur childrenOccur setup inside).run draft
      (Operation.Passes child setup ∨ ∃ reason, Operation.Breaks child setup reason) ∧
      (Operation.Passes child setup →
        attempt = (Operation.group occur childrenOccur setup inside).run draft) ∧
      ∀ reason, Operation.Breaks child setup reason →
        attempt.draft = draft ∧ attempt.answer = .error (.groupCreation reason)) ∧
    (∀ matching field values options,
      ((Operation.expand matching field values options).run draft).draft =
        if values = [] then draft
        else ((Operation.join .or .sometimes (values.map fun value =>
          .test matching field value { options with key := none })).run draft).draft) ∧
    ∀ kind field values, (kind = .text ∨ kind = .keyword) → 2 ≤ values.length →
      (Operation.applyFilter kind ⟨field, .eq, values⟩).run draft =
        (Operation.expand .keyword field values {}).run draft := by
  refine ⟨fun junction occur setup => ⟨(Operation.run_create draft junction occur setup).symm, ?_⟩,
    fun occur childrenOccur setup inside => ?_, ?_, ?_⟩
  · rw [Operation.run_create]
    exact (Draft.changeLastGroup_addGroup (fun child => (Operation.runAll false child setup).draft)
      draft (draft.junctionChild junction occur)).symm
  · refine ⟨Operation.passes_or_breaks _ setup, fun passes => ?_, fun reason breaks => ?_⟩
    · exact Operation.run_tryGroup_of_passes passes inside
    · rw [Operation.run_tryGroup_of_breaks breaks inside]
      exact ⟨rfl, rfl⟩
  · intro matching field values options
    split
    · rename_i none
      rw [none]
      rfl
    · rename_i some
      exact Operation.run_expand_of_ne_nil some draft matching field options
  · intro kind field values textual several
    rw [Operation.run_applyFilter, Draft.applyFilter_anyOf textual several]
    rfl

/-- Some work, and a nested group with a failure in it that stays there. -/
def soundSetup : List Operation :=
  [.test .term "title" "red" {}, .join .or .notSet [.fail "inner", .test .term "title" "blue" {}],
    .sort ⟨"title", .string, false⟩]

/-- A failure of its own after all that work. -/
def brokenSetup : List Operation :=
  soundSetup ++ [.fail "outer", .test .term "title" "green" {}]

theorem group_spellings_agree_outer :
    let child := (Draft.root false).groupChild .notSet .sometimes
    Operation.Passes child soundSetup ∧ Operation.Breaks child brokenSetup "outer" ∧
      (Operation.tryGroup .notSet .sometimes soundSetup []).run (Draft.root false) =
        (Operation.group .notSet .sometimes soundSetup []).run (Draft.root false) ∧
      ((Operation.tryGroup .notSet .sometimes brokenSetup []).run (Draft.root false)).draft =
        Draft.root false ∧
      (Operation.applyFilter .text ⟨"brand", .eq, ["acme", "zest"]⟩).run (Draft.root false) =
        (Operation.expand .keyword "brand" ["acme", "zest"] {}).run (Draft.root false) := by
  intro child
  have passes : Operation.Passes child soundSetup := .cons rfl (.cons rfl (.cons rfl (.nil _)))
  have breaks : Operation.Breaks child brokenSetup "outer" :=
    ⟨soundSetup, .fail "outer", [.test .term "title" "green" {}], rfl, passes, rfl⟩
  obtain ⟨_, attempts, _, filters⟩ := group_spellings_agree (Draft.root false)
  obtain ⟨_, kept, _⟩ := attempts .notSet .sometimes soundSetup []
  obtain ⟨_, _, undone⟩ := attempts .notSet .sometimes brokenSetup []
  exact ⟨passes, breaks, kept passes, (undone "outer" breaks).1,
    filters .text "brand" ["acme", "zest"] (.inl rfl) (by decide)⟩

end SearchQuery
