import SearchQuery.Proofs.Support
import SearchQuery.Rendering.Solr

/-!
Clauses of ranges in both backends. Either clause tells whether the range is negated and which of
its bounds are included.
-/

namespace SearchQuery

open Rendering

/-- What a range clause says besides its field and its bounds. -/
structure RangeSense where
  negated : Bool
  includeMin : Bool
  includeMax : Bool
deriving DecidableEq, Repr

def Range.sense (range : Range) : RangeSense :=
  ⟨range.occur = .never, range.includeMin, range.includeMax⟩

/-- A clause in which a mark tells that it is negated, and one of two words at either bound that the
bound is included. -/
def RangeSense.clause (mark front : String) (lower : String × String) (middle : String)
    (upper : String × String) (back : String) (sense : RangeSense) : String :=
  (if sense.negated then mark else "") ++ front ++
    (if sense.includeMin then lower.1 else lower.2) ++ middle ++
    (if sense.includeMax then upper.1 else upper.2) ++ back

/-- The length tells whether a clause is negated; then the words at the bounds stand at known
places. -/
theorem RangeSense.clause_eq_iff {mark : String} {lower upper : String × String}
    (marked : mark ≠ "") (lowers : lower.1 ≠ lower.2) (uppers : upper.1 ≠ upper.2)
    (lowerLength : lower.1.length = lower.2.length) (upperLength : upper.1.length = upper.2.length)
    (front middle back : String) (sense other : RangeSense) :
    other.clause mark front lower middle upper back =
      sense.clause mark front lower middle upper back ↔ other = sense := by
  have word {pair : String × String} (lengths : pair.1.length = pair.2.length) (first : Bool) :
      (if first then pair.1 else pair.2).length = pair.2.length := by
    split <;> simp [lengths]
  refine ⟨fun same => ?_, fun same => same ▸ rfl⟩
  have lengths := congrArg String.length same
  simp only [clause, String.length_append, word lowerLength, word upperLength] at lengths
  have marks : (if other.negated then mark else "").length =
      (if sense.negated then mark else "").length := by omega
  simp only [clause, String.append_left_inj] at same
  obtain ⟨same, last⟩ := String.append_inj_of_length same
    (by simp only [String.length_append, word lowerLength, marks])
  simp only [String.append_left_inj] at same
  obtain ⟨same, first⟩ := String.append_inj_of_length same
    (by simp only [String.length_append, marks])
  simp only [String.append_left_inj] at same
  obtain ⟨negated, min, max⟩ := sense
  obtain ⟨otherNegated, otherMin, otherMax⟩ := other
  congr
  · cases negated <;> cases otherNegated <;> simp_all
  · cases min <;> cases otherMin <;> simp_all
  · cases max <;> cases otherMax <;> simp_all

theorem azureRangeClause_eq (range : Range) :
    azureRangeClause range = range.sense.clause "not " ("(" ++ range.field ++ " ") ("ge", "gt")
      (" " ++ odataLiteral range.lower ++ " and " ++ range.field ++ " ") ("le", "lt")
      (" " ++ odataLiteral range.upper ++ ")") := by
  simp only [azureRangeClause, RangeSense.clause, Range.sense, String.append_assoc,
    decide_eq_true_eq]
  rfl

theorem solrRangeClause_eq (range : Range) :
    solrRangeClause range = range.sense.clause "-" (range.field ++ ":") ("[", "\x7b")
      (solrLiteral range.lower ++ " TO " ++ solrLiteral range.upper) ("]", "\x7d") "" := by
  simp only [solrRangeClause, RangeSense.clause, Range.sense, String.append_assoc,
    decide_eq_true_eq, String.append_empty]
  rfl

theorem azureRangeClause_eq_iff {range other : Range} (field : other.field = range.field)
    (interval : other.interval = range.interval) :
    azureRangeClause other = azureRangeClause range ↔ other.sense = range.sense := by
  rw [azureRangeClause_eq, azureRangeClause_eq, Range.lower, Range.upper, field, interval]
  exact RangeSense.clause_eq_iff (by simp) (by simp) (by simp) (by decide +kernel)
    (by decide +kernel) _ _ _ _ _

theorem solrRangeClause_eq_iff {range other : Range} (field : other.field = range.field)
    (interval : other.interval = range.interval) :
    solrRangeClause other = solrRangeClause range ↔ other.sense = range.sense := by
  rw [solrRangeClause_eq, solrRangeClause_eq, Range.lower, Range.upper, field, interval]
  exact RangeSense.clause_eq_iff (by simp) (by simp) (by simp) (by decide +kernel)
    (by decide +kernel) _ _ _ _ _

end SearchQuery
