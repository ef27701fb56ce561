import Mathlib.Data.List.Forall2

/-!
Facts about results, options, lists and strings that hold of any program.
-/

namespace SearchQuery

namespace Except

variable {ε α β γ : Type}

theorem ok_bind (value : α) (next : α → Except ε β) : (.ok value >>= next) = next value :=
  rfl

theorem error_bind (error : ε) (next : α → Except ε β) :
    (Except.error error >>= next) = .error error :=
  rfl

theorem exists_of_bind_eq_ok {first : Except ε α} {next : α → Except ε β} {result : β}
    (done : (first >>= next) = .ok result) :
    ∃ value, first = .ok value ∧ next value = .ok result := by
  cases first with
  | error _ => cases done
  | ok value => exact ⟨value, rfl, done⟩

/-- If what is done with a value gives the same but for a change, so does the whole. -/
theorem bind_eq_map_bind (result : Except ε α) {next : α → Except ε β} {other : α → Except ε γ}
    {change : γ → β} (rest : ∀ value, next value = (other value).map change) :
    (result >>= next) = (result >>= other).map change := by
  cases result with
  | ok value => exact rest value
  | error cause => rfl

theorem map_eq_ok_iff {result : Except ε α} {next : α → β} {value : β} :
    result.map next = .ok value ↔ ∃ source, result = .ok source ∧ next source = value := by
  cases result <;> simp [Except.map]

theorem eq_ok_of_toOption {result : Except ε α} {value : α}
    (present : result.toOption = some value) : result = .ok value := by
  cases result with
  | error _ => cases present
  | ok other =>
    cases present
    rfl

end Except

theorem Option.bind_of_eq_some {α β : Type} {first : Option α} {value : α}
    (same : first = some value) (next : α → Option β) : (first >>= next) = next value := by
  rw [same]
  rfl

namespace List

variable {α β : Type}

theorem Forall₂.exists_mem_of_mem {relation : α → β → Prop} {items : List α} {others : List β}
    (all : List.Forall₂ relation items others) :
    ∀ item ∈ items, ∃ other ∈ others, relation item other := by
  induction all with
  | nil => nofun
  | cons first _ ih =>
    refine List.forall_mem_cons.mpr ⟨⟨_, List.mem_cons_self, first⟩, fun item member => ?_⟩
    obtain ⟨other, there, related⟩ := ih item member
    exact ⟨other, List.mem_cons_of_mem _ there, related⟩

theorem mapM_eq_some_iff {read? : α → Option β} {items : List α} {results : List β} :
    items.mapM read? = some results ↔
      List.Forall₂ (fun item result => read? item = some result) items results := by
  induction items generalizing results with
  | nil => simp [eq_comm]
  | cons item rest ih =>
    simp only [List.mapM_cons, Option.bind_eq_bind, Option.bind_eq_some_iff, ih, Option.pure_def,
      Option.some.injEq, List.forall₂_cons_left_iff]
    grind

theorem mapM_map_eq_some_iff {write : α → β} {read? : β → Option α} {items : List α} :
    (items.map write).mapM read? = some items ↔ ∀ item ∈ items, read? (write item) = some item := by
  rw [mapM_eq_some_iff, List.forall₂_map_left_iff, List.forall₂_same]

theorem exists_of_mapM_eq_some {read? : α → Option β} {items : List α} {results : List β}
    (read : items.mapM read? = some results) :
    ∀ item ∈ items, ∃ result, read? item = some result := by
  intro item member
  obtain ⟨result, _, same⟩ := Forall₂.exists_mem_of_mem (mapM_eq_some_iff.mp read) item member
  exact ⟨result, same⟩

end List

theorem String.append_inj_of_length {first second rest other : String}
    (same : first ++ rest = second ++ other) (length : first.length = second.length) :
    first = second ∧ rest = other := by
  have lists : first.toList ++ rest.toList = second.toList ++ other.toList := by
    simpa using congrArg String.toList same
  obtain ⟨fronts, backs⟩ := List.append_inj lists (by simp only [String.length_toList, length])
  exact ⟨String.toList_inj.mp fronts, String.toList_inj.mp backs⟩

end SearchQuery
