import SearchQuery.Draft.Operation
import SearchQuery.Proofs.Request.Revision

/-!
What operations come to as a whole: a filter to what it adds or its fault, and a group that is gone
on with in its place to one that is added when it is complete. An operation that answers with an
error leaves the draft as it was (`Operation.draft_run_of_error`).
-/

namespace SearchQuery

theorem Draft.changeGroup_addGroup (draft group : Draft) (change : Draft → Draft) :
    (draft.addGroup group).changeGroup draft.groups.length change =
      draft.addGroup (change group) := by
  simp [changeGroup, addGroup, List.modify_eq_take_drop]

namespace Outcome

private theorem ofRevision_eq_ofStep {revision : Revision Unit} (whole : revision.Whole)
    (draft : Draft) : ofRevision draft revision = .ofStep draft (revision.outcome draft) := by
  rw [ofRevision, whole]
  cases revision.outcome draft with
  | ok step => rfl
  | error cause => rfl

variable {draft : Draft} {cause : QueryError}

private theorem draft_ofStep_of_error {step : Except QueryError Step}
    (failed : (ofStep draft step).answer = .error cause) : (ofStep draft step).draft = draft := by
  cases step with
  | ok step => cases failed
  | error _ => rfl

private theorem draft_ofAttempt_of_error {attempt : Attempt}
    (failed : (ofAttempt draft attempt).answer = .error cause) :
    (ofAttempt draft attempt).draft = draft := by
  obtain ⟨result, warnings⟩ := attempt
  cases result with
  | ok after => cases failed
  | error _ => rfl

end Outcome

namespace Operation

variable (draft : Draft)

theorem run_applyFilter (kind : FieldKind) (descriptor : FilterDescriptor) :
    (applyFilter kind descriptor).run draft = .ofStep draft (draft.applyFilter kind descriptor) :=
  Outcome.ofRevision_eq_ofStep (Revision.whole_filter kind descriptor) draft

theorem run_create (junction : Junction) (occur : Occurrence) (inside : List Operation) :
    (create junction occur inside).run draft = (join junction occur inside).run draft := by
  rw [run, run, Draft.changeGroup_addGroup]

/-- With an error the draft stays as it was, however much of a setup or a request came before. -/
theorem draft_run_of_error {operation : Operation} {cause : QueryError}
    (failed : (operation.run draft).answer = .error cause) :
    (operation.run draft).draft = draft := by
  cases operation with
  | dateRange field lower upper options =>
    rw [run] at failed ⊢
    exact Outcome.draft_ofStep_of_error failed
  | request source schema =>
    rw [run] at failed ⊢
    exact Outcome.draft_ofAttempt_of_error failed
  | applyFilter kind descriptor =>
    rw [run_applyFilter] at failed ⊢
    exact Outcome.draft_ofStep_of_error failed
  | tryGroup occur childrenOccur setup inside =>
    rw [run] at failed ⊢
    cases failure : (runAll true (draft.groupChild occur childrenOccur) setup).failure with
    | some reason => rfl
    | none =>
      simp only [failure] at failed
      cases failed
  | reject => rfl
  | _ => cases failed

end Operation

end SearchQuery
