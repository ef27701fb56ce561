import Mathlib.Data.List.Chain
import SearchQuery.Rendering.Leaf

/-!
The runs of a phrase. There is one way to part terms into runs, each on one field, of which no two
neighbours are on the same field (`maximalRuns_iff`), and a phrase is written as these runs
(`phrase_is_maximal_runs`).
-/

namespace SearchQuery.Rendering

/-- The terms of a run: its values, all on its field. -/
def runTerms (run : String × List String) : List Term :=
  run.2.map (Term.mk run.1)

/-- Terms parted into runs that are as long as they can be. -/
structure MaximalRuns (terms : List Term) (list : List (String × List String)) : Prop where
  joined : list.flatMap runTerms = terms
  filled : ∀ run ∈ list, run.2 ≠ []
  apart : list.IsChain fun run next => run.1 ≠ next.1

namespace MaximalRuns

variable {terms : List Term} {list : List (String × List String)}

theorem nil : MaximalRuns [] [] :=
  ⟨rfl, nofun, .nil⟩

theorem ne_nil (parted : MaximalRuns terms list) (filled : terms ≠ []) : list ≠ [] := by
  rintro rfl
  exact filled parted.joined.symm

/-- A term on the field of the first run joins it. -/
theorem join {field : String} {values : List String} (value : String)
    (parted : MaximalRuns terms ((field, values) :: list)) :
    MaximalRuns (⟨field, value⟩ :: terms) ((field, value :: values) :: list) := by
  obtain ⟨rfl, filled, apart⟩ := parted
  refine ⟨rfl, ?_, ?_⟩
  · exact List.forall_mem_cons.mpr ⟨List.cons_ne_nil _ _, (List.forall_mem_cons.mp filled).2⟩
  · cases apart with
    | singleton => exact .singleton _
    | cons_cons next later => exact .cons_cons next later

/-- A term on another field than the first run begins a run of its own. -/
theorem begin {term : Term} (parted : MaximalRuns terms list)
    (other : ∀ run ∈ list.head?, term.field ≠ run.1) :
    MaximalRuns (term :: terms) ((term.field, [term.value]) :: list) := by
  obtain ⟨rfl, filled, apart⟩ := parted
  exact ⟨rfl, List.forall_mem_cons.mpr ⟨List.cons_ne_nil _ _, filled⟩,
    List.isChain_cons.mpr ⟨other, apart⟩⟩

/-- The first term comes from the first run, which it joined or began. -/
theorem exists_first {term : Term} (parted : MaximalRuns (term :: terms) list) :
    ∃ values others, list = (term.field, term.value :: values) :: others ∧
      (values ≠ [] ∧ MaximalRuns terms ((term.field, values) :: others) ∨
        values = [] ∧ MaximalRuns terms others ∧ ∀ run ∈ others.head?, term.field ≠ run.1) := by
  obtain ⟨joined, filled, apart⟩ := parted
  cases list with
  | nil => cases joined
  | cons run others =>
    obtain ⟨field, values⟩ := run
    obtain ⟨nonempty, othersFilled⟩ := List.forall_mem_cons.mp filled
    cases values with
    | nil => exact absurd rfl nonempty
    | cons value values =>
      obtain ⟨rfl, rfl⟩ := List.cons.inj joined
      obtain ⟨next, later⟩ := List.isChain_cons.mp apart
      refine ⟨values, others, rfl, ?_⟩
      cases values with
      | nil => exact .inr ⟨rfl, ⟨rfl, othersFilled, later⟩, next⟩
      | cons second values =>
        refine .inl ⟨List.cons_ne_nil _ _, rfl, ?_, List.isChain_cons.mpr ⟨next, later⟩⟩
        exact List.forall_mem_cons.mpr ⟨List.cons_ne_nil _ _, othersFilled⟩

theorem unique {other : List (String × List String)} (parted : MaximalRuns terms list)
    (again : MaximalRuns terms other) : list = other := by
  induction terms generalizing list other with
  | nil =>
    have none {list : List (String × List String)} (parted : MaximalRuns [] list) : list = [] := by
      cases list with
      | nil => rfl
      | cons run others =>
        obtain ⟨empty, -⟩ := List.append_eq_nil_iff.mp parted.joined
        exact absurd (List.map_eq_nil_iff.mp empty) (parted.filled run List.mem_cons_self)
    rw [none parted, none again]
  | cons term rest ih =>
    obtain ⟨values, others, rfl, here⟩ := parted.exists_first
    obtain ⟨more, later, rfl, there⟩ := again.exists_first
    rcases here with ⟨-, parted⟩ | ⟨rfl, parted, apart⟩
    · rcases there with ⟨-, again⟩ | ⟨rfl, again, apart⟩
      · obtain ⟨same, rfl⟩ := List.cons.inj (ih parted again)
        rw [(Prod.mk.inj same).2]
      · obtain rfl := ih parted again
        exact absurd rfl (apart _ rfl)
    · rcases there with ⟨-, again⟩ | ⟨rfl, again, -⟩
      · obtain rfl := ih parted again
        exact absurd rfl (apart _ rfl)
      · rw [ih parted again]

end MaximalRuns

theorem maximalRuns_runs (terms : List Term) : MaximalRuns terms (runs terms) := by
  induction terms with
  | nil => exact .nil
  | cons term rest ih =>
    rw [runs]
    split
    · rename_i parted
      rw [parted] at ih
      split
      · rename_i same
        subst same
        exact ih.join term.value
      · rename_i other
        refine ih.begin ?_
        rintro run ⟨⟩
        exact Ne.symm other
    · rename_i parted
      rw [parted] at ih
      exact ih.begin nofun

theorem maximalRuns_iff {terms : List Term} {list : List (String × List String)} :
    MaximalRuns terms list ↔ list = runs terms := by
  constructor
  · exact fun parted => parted.unique (maximalRuns_runs terms)
  · rintro rfl
    exact maximalRuns_runs terms

/-- Terms on different fields next to each other part a phrase into several runs, and nothing else
does. -/
theorem MaximalRuns.two_le_length_iff {terms : List Term} {list : List (String × List String)}
    (parted : MaximalRuns terms list) :
    2 ≤ list.length ↔ ∃ front first second back,
      terms = front ++ first :: second :: back ∧ first.field ≠ second.field := by
  obtain ⟨rfl, filled, apart⟩ := parted
  match list with
  | [] => simp
  | [run] =>
    have onField {term : Term} (member : term ∈ [run].flatMap runTerms) : term.field = run.1 := by
      rw [List.flatMap_singleton, runTerms] at member
      obtain ⟨value, -, rfl⟩ := List.mem_map.mp member
      rfl
    refine iff_of_false (by simp) ?_
    rintro ⟨front, first, second, back, split, different⟩
    rw [split] at onField
    exact different ((onField (by simp)).trans (onField (by simp)).symm)
  | run :: next :: others =>
    refine iff_of_true (by simp) ?_
    obtain ⟨fills, fillsLater⟩ := List.forall_mem_cons.mp filled
    obtain ⟨values, last, ends⟩ := (List.eq_nil_or_concat' run.2).resolve_left fills
    obtain ⟨first, more, starts⟩ :=
      List.exists_cons_of_ne_nil (fillsLater next List.mem_cons_self)
    refine ⟨values.map (Term.mk run.1), ⟨run.1, last⟩, ⟨next.1, first⟩,
      more.map (Term.mk next.1) ++ others.flatMap runTerms, ?_, ?_⟩
    · simp [runTerms, ends, starts]
    · exact (List.isChain_cons_cons.mp apart).1

/-- A phrase with terms is written as its maximal runs: each of them as its field, its values in one
pair of quotes with a space between them, and the slop where there is any. Where there are several,
that is where two neighbouring terms are on different fields, they stand in one pair of parentheses
with a space between them. -/
theorem phrase_is_maximal_runs {terms : List Term} (filled : terms ≠ []) (slop : UInt32) :
    ∃ list texts, (∀ other, MaximalRuns terms other ↔ other = list) ∧ list ≠ [] ∧
      texts = list.map (fun (field, values) => field ++ ":" ++ quote (" ".intercalate values) ++
        if 0 < slop then "~" ++ toString slop.toNat else "") ∧
      phraseBody terms slop =
        (if 2 ≤ list.length then "(" ++ " ".intercalate texts ++ ")" else " ".intercalate texts) ∧
      (2 ≤ list.length ↔ ∃ front first second back,
        terms = front ++ first :: second :: back ∧ first.field ≠ second.field) := by
  have parted := maximalRuns_runs terms
  have nonempty := parted.ne_nil filled
  refine ⟨runs terms, (runs terms).map (runText slop), fun _ => maximalRuns_iff, nonempty, ?_, ?_,
    parted.two_le_length_iff⟩
  · refine List.map_congr_left fun run _ => ?_
    by_cases none : slop = 0
    · simp [runText, none]
    · have some : 0 < slop := UInt32.pos_iff_ne_zero.mpr none
      simp [runText, none, some]
  · rw [phraseBody]
    match runs terms, nonempty with
    | [run], _ => simp
    | first :: second :: rest, _ => simp

/-- A field that comes back after another one. -/
def returningTerms : List Term :=
  [⟨"a", "x"⟩, ⟨"a", "y"⟩, ⟨"b", "z"⟩, ⟨"a", "say \"x\""⟩]

theorem phrase_is_maximal_runs_returning :
    returningTerms ≠ [] ∧
      MaximalRuns returningTerms [("a", ["x", "y"]), ("b", ["z"]), ("a", ["say \"x\""])] ∧
      phraseBody returningTerms 2 = "(a:\"x y\"~2 b:\"z\"~2 a:\"say \\\"x\\\"\"~2)" := by
  have filled : returningTerms ≠ [] := by decide
  have parted : MaximalRuns returningTerms
      [("a", ["x", "y"]), ("b", ["z"]), ("a", ["say \"x\""])] :=
    maximalRuns_iff.mpr (by decide)
  obtain ⟨list, texts, runs, -, written, body, -⟩ := phrase_is_maximal_runs filled 2
  obtain rfl := (runs _).mp parted
  refine ⟨filled, parted, ?_⟩
  rw [body, written]
  decide

end SearchQuery.Rendering
