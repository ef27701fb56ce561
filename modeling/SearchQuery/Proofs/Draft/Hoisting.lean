import SearchQuery.Proofs.Draft.Built

/-!
What a tree of drafts is built to. Its groups become groups of the query in the same place, and
sort keys and filters come up from all depths: the keys in the order of a walk that visits a draft
before its groups, the filter as the last one of a walk that visits a draft after them
(`sorts_and_filters_come_up`).
-/

namespace SearchQuery

namespace Draft

/-- What holds of a draft if it holds of its groups holds of all drafts. -/
@[elab_as_elim]
theorem inductionOnGroups {motive : Draft → Prop}
    (step : ∀ draft : Draft, (∀ group ∈ draft.groups, motive group) → motive draft)
    (draft : Draft) : motive draft := by
  apply step
  intro group member
  have smaller : sizeOf group < sizeOf draft := by
    have inside := List.sizeOf_lt_of_mem member
    cases draft
    simp only [Draft.mk.sizeOf_spec]
    simp only at inside
    omega
  exact inductionOnGroups step group
termination_by sizeOf draft

mutual

/-- A draft and all inside it, each before its groups. -/
def preorder : Draft → List Draft
  | draft@⟨_, _, _, _, _, _, _, groups, _, _⟩ => draft :: allPreorder groups

def allPreorder : List Draft → List Draft
  | [] => []
  | draft :: rest => preorder draft ++ allPreorder rest

end

mutual

/-- A draft and all inside it, each after its groups. -/
def postorder : Draft → List Draft
  | draft@⟨_, _, _, _, _, _, _, groups, _, _⟩ => allPostorder groups ++ [draft]

def allPostorder : List Draft → List Draft
  | [] => []
  | draft :: rest => postorder draft ++ allPostorder rest

end

/-- A draft is within itself, and what is within a group is within the draft of that group. -/
inductive Within (inner : Draft) : Draft → Prop where
  | self : Within inner inner
  | nested {group draft : Draft} (member : group ∈ draft.groups) (inside : Within inner group) :
      Within inner draft

/-- The group that a draft stands for: its clauses in the order of their keys, then the groups that
its groups stand for, in the same order. -/
inductive Builds : Draft → Group → Prop where
  | intro {draft : Draft} {groups : List Group} (nested : List.Forall₂ Builds draft.groups groups) :
      Builds draft ⟨⟨draft.kind, draft.occur, draft.boost⟩,
        draft.clauses.entries.map Prod.snd ++ groups.map Group.toQuery⟩

/-- A walk over groups that goes through each of them in turn. -/
theorem eq_flatMap {α : Type} {walk : List Draft → List α} {visit : Draft → List α}
    (nil : walk [] = []) (cons : ∀ group rest, walk (group :: rest) = visit group ++ walk rest)
    (groups : List Draft) : walk groups = groups.flatMap visit := by
  induction groups with
  | nil => exact nil
  | cons group rest ih => rw [cons, ih, List.flatMap_cons]

theorem preorder_eq (draft : Draft) : draft.preorder = draft :: draft.groups.flatMap preorder := by
  cases draft
  exact congrArg (List.cons _) (eq_flatMap rfl (fun _ _ => rfl) _)

theorem postorder_eq (draft : Draft) :
    draft.postorder = draft.groups.flatMap postorder ++ [draft] := by
  cases draft
  exact congrArg (· ++ [_]) (eq_flatMap rfl (fun _ _ => rfl) _)

private theorem allSortKeys_eq (draft : Draft) :
    draft.allSortKeys = draft.sortKeys ++ draft.groups.flatMap allSortKeys := by
  cases draft
  exact congrArg (_ ++ ·) (eq_flatMap rfl (fun _ _ => rfl) _)

theorem within_iff {inner draft : Draft} :
    inner.Within draft ↔ inner = draft ∨ ∃ group ∈ draft.groups, inner.Within group := by
  constructor
  · rintro (_ | ⟨member, inside⟩)
    · exact .inl rfl
    · exact .inr ⟨_, member, inside⟩
  · rintro (rfl | ⟨group, member, inside⟩)
    · exact .self
    · exact .nested member inside

private theorem mem_preorder_iff {inner : Draft} (draft : Draft) :
    inner ∈ draft.preorder ↔ inner.Within draft := by
  induction draft using Draft.inductionOnGroups with
  | step draft ih =>
    rw [preorder_eq, within_iff, List.mem_cons, List.mem_flatMap]
    exact or_congr_right (exists_congr fun group => and_congr_right fun member => ih group member)

private theorem mem_postorder_iff {inner : Draft} (draft : Draft) :
    inner ∈ draft.postorder ↔ inner.Within draft := by
  induction draft using Draft.inductionOnGroups with
  | step draft ih =>
    rw [postorder_eq, within_iff, List.mem_append, List.mem_singleton, or_comm, List.mem_flatMap]
    exact or_congr_right (exists_congr fun group => and_congr_right fun member => ih group member)

theorem allSortKeys_eq_preorder (draft : Draft) :
    draft.allSortKeys = draft.preorder.flatMap Draft.sortKeys := by
  induction draft using Draft.inductionOnGroups with
  | step draft ih =>
    rw [allSortKeys_eq, preorder_eq, List.flatMap_cons, List.flatMap_assoc]
    exact congrArg (draft.sortKeys ++ ·) (List.flatMap_congr ih)

/-- Looking through the groups from the last one on finds the last filter of the walk. -/
theorem lastFilter_eq_postorder {groups : List Draft}
    (each : ∀ group ∈ groups,
      group.effectiveFilter = (group.postorder.filterMap Draft.filter).getLast?) :
    lastFilter groups = ((groups.flatMap postorder).filterMap Draft.filter).getLast? := by
  induction groups with
  | nil => rfl
  | cons group rest ih =>
    obtain ⟨first, later⟩ := List.forall_mem_cons.mp each
    rw [List.flatMap_cons, List.filterMap_append, List.getLast?_append, ← ih later, ← first,
      lastFilter]
    cases lastFilter rest <;> rfl

theorem effectiveFilter_eq_postorder (draft : Draft) :
    draft.effectiveFilter = (draft.postorder.filterMap Draft.filter).getLast? := by
  induction draft using Draft.inductionOnGroups with
  | step draft ih =>
    rw [effectiveFilter_eq, lastFilter_eq_postorder ih, postorder_eq, List.filterMap_append,
      List.getLast?_append]
    cases own : draft.filter <;> simp [own]

private theorem forall₂_builds_iff {drafts : List Draft} {groups : List Group}
    (each : ∀ draft ∈ drafts, ∀ group, draft.Builds group ↔ group = draft.build.query) :
    List.Forall₂ Builds drafts groups ↔ groups = drafts.map fun draft => draft.build.query := by
  induction drafts generalizing groups with
  | nil => simp
  | cons draft rest ih =>
    obtain ⟨first, later⟩ := List.forall_mem_cons.mp each
    rw [List.forall₂_cons_left_iff, List.map_cons]
    constructor
    · rintro ⟨group, others, builds, all, rfl⟩
      rw [(first group).mp builds, (ih later).mp all]
    · rintro rfl
      exact ⟨_, _, (first _).mpr rfl, (ih later).mpr rfl, rfl⟩

private theorem query_build (draft : Draft) :
    draft.build.query = ⟨⟨draft.kind, draft.occur, draft.boost⟩,
      draft.clauses.entries.map Prod.snd ++
        (draft.groups.map fun group => group.build.query).map Group.toQuery⟩ := by
  rw [build, children_eq, groupQueries_eq_map, List.map_map]
  rfl

theorem builds_iff (draft : Draft) (group : Group) :
    draft.Builds group ↔ group = draft.build.query := by
  induction draft using Draft.inductionOnGroups generalizing group with
  | step draft ih =>
    rw [query_build]
    constructor
    · rintro ⟨nested⟩
      rw [(forall₂_builds_iff ih).mp nested]
    · rintro rfl
      exact .intro ((forall₂_builds_iff ih).mpr rfl)

end Draft

open Draft in
/-- A search is built from all its drafts. The query has the clauses of each draft and after them
its groups. The sort keys are those of all drafts, each before its groups, and there is no order
only if no draft has any. The filter is the last one of all drafts, each after its groups, so the
draft's own comes before that of any group, and that of a later group before that of an earlier
one, however deep; there is none only if no draft has one. -/
theorem sorts_and_filters_come_up (draft : Draft) :
    (∀ group, draft.Builds group ↔ group = draft.build.query) ∧
    draft.build.sort.elim [] SortKeys.keys = draft.preorder.flatMap Draft.sortKeys ∧
    (draft.build.sort = none ↔ ∀ inner : Draft, inner.Within draft → inner.sortKeys = []) ∧
    draft.build.filter = (draft.postorder.filterMap Draft.filter).getLast? ∧
    (draft.build.filter = none ↔ ∀ inner : Draft, inner.Within draft → inner.filter = none) := by
  refine ⟨builds_iff draft, ?_, ?_, effectiveFilter_eq_postorder draft, ?_⟩
  · rw [← allSortKeys_eq_preorder, build, SortKeys.ofList?]
    cases draft.allSortKeys <;> rfl
  · have none : draft.build.sort = none ↔ draft.allSortKeys = [] := by
      rw [build, SortKeys.ofList?]
      cases draft.allSortKeys <;> simp
    rw [none, allSortKeys_eq_preorder, List.flatMap_eq_nil_iff]
    exact forall_congr' fun inner => imp_congr_left (mem_preorder_iff draft)
  · rw [build, effectiveFilter_eq_postorder, List.getLast?_eq_none_iff, List.filterMap_eq_nil_iff]
    exact forall_congr' fun inner => imp_congr_left (mem_postorder_iff draft)

/-- A tree with two filters: that of the first group is further up, that of the second lies in a
group inside it. -/
def hoistingDraft : Draft :=
  let root := Draft.root true
  let group := root.junctionChild .or .notSet
  let deep := (group.junctionChild .and .never).addSort ⟨"price", .double, false⟩
  let first := group.setFilter ⟨"brand", .flag true, .notEq⟩
  let second := (group.addTest .term "color" "red" {}).addSort ⟨"year", .int, true⟩
  let nested := second.addGroup (deep.setFilter ⟨"price", .text "low", .eq⟩)
  ((root.addGroup first).addGroup nested).addSort ⟨"title", .string, false⟩

/-- The deep filter of the later group comes up. -/
theorem sorts_and_filters_come_up_deep :
    hoistingDraft.Builds hoistingDraft.build.query ∧
      hoistingDraft.build.sort.elim [] SortKeys.keys =
        [⟨"title", .string, false⟩, ⟨"year", .int, true⟩, ⟨"price", .double, false⟩] ∧
      hoistingDraft.build.filter = some ⟨"price", .text "low", .eq⟩ ∧
      ¬ ∀ inner : Draft, inner.Within hoistingDraft → inner.filter = none := by
  obtain ⟨builds, sorted, _, last, unfiltered⟩ := sorts_and_filters_come_up hoistingDraft
  have deep : hoistingDraft.build.filter = some ⟨"price", .text "low", .eq⟩ := last.trans rfl
  refine ⟨(builds _).mpr rfl, sorted.trans rfl, deep, ?_⟩
  intro absent
  have missing := unfiltered.mpr absent
  rw [deep] at missing
  cases missing

end SearchQuery
