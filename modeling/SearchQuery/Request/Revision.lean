import SearchQuery.Draft.Basic
import SearchQuery.Error
import SearchQuery.Warning

/-!
Work on a draft, one action after the other. A fault stops the work, and what was done and warned
of before it stays.
-/

namespace SearchQuery

/-- A draft after a step, and what the step left out or replaced. -/
structure Step where
  draft : Draft
  warnings : List Warning

/-- Work on a draft and on the warnings so far. -/
abbrev Revision (α : Type) :=
  EStateM QueryError Step α

namespace Revision

/-- Goes on with a result, or stops at its fault. -/
def need {α : Type} : Except QueryError α → Revision α
  | .ok value => pure value
  | .error cause => throw cause

/-- Takes a step from the draft as it is by now, and adds what it warns of. -/
def take (step : Draft → Step) : Revision Unit :=
  modify fun before =>
    let after := step before.draft
    ⟨after.draft, before.warnings ++ after.warnings⟩

def edit (change : Draft → Draft) : Revision Unit :=
  take fun draft => ⟨change draft, []⟩

/-- What work comes to on a draft of which nothing has been warned. With a fault the draft is not
given back. -/
def outcome (revision : Revision Unit) (draft : Draft) : Except QueryError Step :=
  match revision.run ⟨draft, []⟩ with
  | .ok _ step => .ok step
  | .error cause _ => .error cause

end Revision

end SearchQuery
