import Mathlib.Data.List.Basic

/-!
# Percentiles by nearest rank

A percentile of a list is one of its values: so many in a hundred of the values
are at most as large, and fewer are smaller.  There is one such value at most,
a larger percentile is no smaller, and in a sorted list the value stands at the
place that the rank tells.
-/

namespace MiniMiddleware.Library

universe u

section NearestRank

variable {Value : Type u} [LE Value] [LT Value] [DecidableLE Value]
  [DecidableLT Value]

/-- How many values are at most as large. -/
def countUpTo (values : List Value) (value : Value) : Nat :=
  values.countP fun other => decide (other ≤ value)

/-- How many values are smaller. -/
def countBelow (values : List Value) (value : Value) : Nat :=
  values.countP fun other => decide (other < value)

/-- A value of the list that at least `percentile` percent of the values do not
exceed, and fewer than `percentile` percent are smaller. -/
structure NearestRank (values : List Value) (percentile : Nat)
    (value : Value) : Prop where
  member : value ∈ values
  reached : percentile * values.length ≤ 100 * countUpTo values value
  least : 100 * countBelow values value < percentile * values.length

theorem NearestRank.of_perm
    {values others : List Value} {percentile : Nat} {value : Value}
    (nearest : NearestRank values percentile value)
    (same : values.Perm others) :
    NearestRank others percentile value where
  member := same.mem_iff.mp nearest.member
  reached := by
    have upTo : countUpTo others value = countUpTo values value :=
      (same.countP_eq _).symm
    rw [upTo, ← same.length_eq]
    exact nearest.reached
  least := by
    have below : countBelow others value = countBelow values value :=
      (same.countP_eq _).symm
    rw [below, ← same.length_eq]
    exact nearest.least

variable [Std.IsLinearOrder Value] [Std.LawfulOrderLT Value]

theorem NearestRank.mono
    {values : List Value} {small large : Nat} {first second : Value}
    (one : NearestRank values small first)
    (other : NearestRank values large second) (le : small ≤ large) :
    first ≤ second := by
  rw [← Std.not_lt]
  intro less
  have counts : countUpTo values second ≤ countBelow values first :=
    List.countP_mono_left fun value _ upTo =>
      decide_eq_true
        (Std.lt_of_le_of_lt (of_decide_eq_true upTo) less)
  have ranks := Nat.mul_le_mul_right values.length le
  have least := one.least
  have reached := other.reached
  omega

omit [LT Value] [DecidableLT Value] [Std.LawfulOrderLT Value] in
/-- In a sorted list the values up to a place do not exceed the one there. -/
theorem succ_le_countUpTo
    {sorted : List Value} (ordered : sorted.Pairwise (· ≤ ·))
    {index : Nat} {value : Value} (found : sorted[index]? = some value) :
    index + 1 ≤ countUpTo sorted value := by
  obtain ⟨inside, rfl⟩ := List.getElem?_eq_some_iff.mp found
  have front :
      (sorted.take (index + 1)).countP
          (fun other => decide (other ≤ sorted[index])) = index + 1 := by
    rw [List.countP_eq_length.mpr, List.length_take]
    · omega
    · intro other member
      obtain ⟨place, bound, rfl⟩ := List.mem_take_iff_getElem.mp member
      refine decide_eq_true ?_
      rcases Nat.lt_or_eq_of_le (show place ≤ index by omega) with before | rfl
      · exact List.pairwise_iff_getElem.mp ordered _ _ _ _ before
      · exact Std.le_refl _
  rw [← front]
  exact (List.take_sublist _ _).countP_le

omit [DecidableLE Value] in
/-- In a sorted list the values smaller than the one at a place are in front of
it. -/
theorem countBelow_le
    {sorted : List Value} (ordered : sorted.Pairwise (· ≤ ·))
    {index : Nat} {value : Value} (found : sorted[index]? = some value) :
    countBelow sorted value ≤ index := by
  obtain ⟨inside, rfl⟩ := List.getElem?_eq_some_iff.mp found
  have behind :
      (sorted.drop index).countP
          (fun other => decide (other < sorted[index])) = 0 := by
    rw [List.countP_eq_zero]
    intro other member
    obtain ⟨place, bound, rfl⟩ := List.mem_drop_iff_getElem.mp member
    rw [decide_eq_true_eq, Std.not_lt]
    rcases Nat.eq_zero_or_pos place with rfl | after
    · exact Std.le_refl _
    · exact List.pairwise_iff_getElem.mp ordered _ _ _ _ (by omega)
  have cut := List.take_append_drop index sorted
  have whole :
      countBelow sorted sorted[index] =
        (sorted.take index).countP
            (fun other => decide (other < sorted[index])) +
          (sorted.drop index).countP
            (fun other => decide (other < sorted[index])) := by
    rw [← List.countP_append, cut]
    rfl
  have front :
      (sorted.take index).countP
          (fun other => decide (other < sorted[index])) ≤
        (sorted.take index).length :=
    List.countP_le_length
  rw [List.length_take] at front
  omega

/-- The value at the place that the rank tells is the percentile. -/
theorem nearestRank_of_sorted
    {sorted : List Value} (ordered : sorted.Pairwise (· ≤ ·))
    {percentile index : Nat} {value : Value}
    (found : sorted[index]? = some value)
    (reached : percentile * sorted.length ≤ 100 * (index + 1))
    (least : 100 * index < percentile * sorted.length) :
    NearestRank sorted percentile value where
  member := List.mem_of_getElem? found
  reached := by
    have upTo := succ_le_countUpTo ordered found
    omega
  least := by
    have below := countBelow_le ordered found
    omega

end NearestRank

end MiniMiddleware.Library
