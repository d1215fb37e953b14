import MiniMiddleware.Library.NearestRank
import Mathlib.Algebra.Group.Nat.Defs
import Mathlib.Data.List.Sort
import Mathlib.Data.Rat.Defs

/-!
# The statistics of a benchmark

The samples are sorted, and a percentile is the sample at the place that its
rank tells.  Sizes are 64-bit words.  The sums and quotients are floating-point
numbers; their arithmetic is a parameter, and no percentile depends on it.
-/

namespace MiniMiddleware.Bench

open MiniMiddleware.Library

/-- The floating-point arithmetic of the statistics. -/
structure Floating (Double LongDouble : Type) where
  /-- `double`: a literal and conversions of a duration and of a size. -/
  literal : Nat → Double
  ofDuration : Int64 → Double
  ofSize : Nat → Double
  divide : Double → Double → Double
  /-- `long double`: the sum of the samples. -/
  zero : LongDouble
  addSample : LongDouble → UInt64 → LongDouble
  /-- The quotient of a sum and a size, as a `double`. -/
  average : LongDouble → Nat → Double

/-- `LatencyStats`. -/
structure LatencyStats (Double : Type) where
  count : Nat
  avgUs : Double
  p50Us : UInt64
  p95Us : UInt64
  p99Us : UInt64
  durationMs : Double
  throughputMsgS : Double
  deriving DecidableEq, Repr

/-- The index `rank - 1` of `nearest_rank_percentile`. -/
def nearestRankIndex (count percentile : Nat) : Nat :=
  let rank := (count * percentile % 2 ^ 64 + 99) % 2 ^ 64 / 100
  (rank + 2 ^ 64 - 1) % 2 ^ 64

/-- `nearest_rank_percentile`, without a value where the index is out of
bounds. -/
def nearestRankPercentile (sortedSamples : List UInt64) (percentile : Nat) :
    Option UInt64 :=
  sortedSamples[nearestRankIndex sortedSamples.length percentile]?

/-- `std::sort`. -/
def sortSamples (samples : List UInt64) : List UInt64 :=
  samples.insertionSort (· ≤ ·)

section Compute

variable {Double LongDouble : Type} (floating : Floating Double LongDouble)

/-- `compute_latency_stats`, without a result where a percentile reads out of
bounds. -/
def computeLatencyStats (samplesUs : List UInt64) (durationUs : Int64) :
    Option (LatencyStats Double) :=
  let stats : LatencyStats Double :=
    { count := samplesUs.length
      avgUs := floating.literal 0
      p50Us := 0
      p95Us := 0
      p99Us := 0
      durationMs :=
        floating.divide (floating.ofDuration durationUs) (floating.literal 1000)
      throughputMsgS := floating.literal 0 }
  if samplesUs = [] then
    some stats
  else do
    let sorted := sortSamples samplesUs
    let totalUs := sorted.foldl floating.addSample floating.zero
    let p50Us ← nearestRankPercentile sorted 50
    let p95Us ← nearestRankPercentile sorted 95
    let p99Us ← nearestRankPercentile sorted 99
    let throughputMsgS :=
      if 0 < durationUs then
        let seconds :=
          floating.divide (floating.ofDuration durationUs)
            (floating.literal 1000000)
        floating.divide (floating.ofSize stats.count) seconds
      else
        stats.throughputMsgS
    return {
      stats with
      avgUs := floating.average totalUs sorted.length
      p50Us
      p95Us
      p99Us
      throughputMsgS }

end Compute

/-! ## The rank -/

/-- The rank rounds up, without overflow. -/
theorem nearestRankIndex_bounds
    {count percentile : Nat} (some : 0 < count) (small : count < 2 ^ 57)
    (positive : 0 < percentile) (within : percentile ≤ 99) :
    percentile * count ≤ 100 * (nearestRankIndex count percentile + 1) ∧
      100 * nearestRankIndex count percentile < percentile * count ∧
        nearestRankIndex count percentile < count := by
  have lower : 1 ≤ count * percentile := Nat.mul_pos some positive
  have upper : count * percentile ≤ count * 99 :=
    Nat.mul_le_mul_left count within
  rw [Nat.mul_comm percentile count]
  simp only [nearestRankIndex]
  omega

/-! ## Percentiles -/

theorem sortSamples_perm (samples : List UInt64) :
    (sortSamples samples).Perm samples :=
  List.perm_insertionSort _ _

theorem pairwise_sortSamples (samples : List UInt64) :
    (sortSamples samples).Pairwise (· ≤ ·) :=
  List.pairwise_insertionSort _ _

/-- Sorting forgets the order of the samples. -/
theorem sortSamples_eq_of_perm
    {samples others : List UInt64} (same : samples.Perm others) :
    sortSamples samples = sortSamples others :=
  (((sortSamples_perm samples).trans same).trans
    (sortSamples_perm others).symm).eq_of_pairwise'
      (pairwise_sortSamples samples) (pairwise_sortSamples others)

/-- A percentile exists and is the nearest rank. -/
theorem exists_nearestRankPercentile
    {samples : List UInt64} (some : samples ≠ [])
    (small : samples.length < 2 ^ 57) {percentile : Nat}
    (positive : 0 < percentile) (within : percentile ≤ 99) :
    ∃ value,
      nearestRankPercentile (sortSamples samples) percentile = .some value ∧
        NearestRank samples percentile value := by
  have sameLength : (sortSamples samples).length = samples.length :=
    (sortSamples_perm samples).length_eq
  obtain ⟨reached, least, inside⟩ :=
    nearestRankIndex_bounds (List.length_pos_iff.mpr some) small positive within
  rw [← sameLength] at reached least inside
  have found := List.getElem?_eq_getElem inside
  exact ⟨_, found,
    (nearestRank_of_sorted (pairwise_sortSamples samples) found reached
      least).of_perm (sortSamples_perm samples)⟩

section Reports

variable {Double LongDouble : Type} (floating : Floating Double LongDouble)

theorem exists_computeLatencyStats
    {samples : List UInt64} (some : samples ≠ [])
    (small : samples.length < 2 ^ 57) (durationUs : Int64) :
    ∃ stats,
      computeLatencyStats floating samples durationUs = .some stats ∧
        NearestRank samples 50 stats.p50Us ∧
        NearestRank samples 95 stats.p95Us ∧
        NearestRank samples 99 stats.p99Us := by
  obtain ⟨p50, read50, nearest50⟩ :=
    @exists_nearestRankPercentile samples some small 50 (by omega) (by omega)
  obtain ⟨p95, read95, nearest95⟩ :=
    @exists_nearestRankPercentile samples some small 95 (by omega) (by omega)
  obtain ⟨p99, read99, nearest99⟩ :=
    @exists_nearestRankPercentile samples some small 99 (by omega) (by omega)
  simp only [computeLatencyStats, if_neg some, read50, read95, read99,
    Option.bind_eq_bind, Option.bind_some]
  exact ⟨_, rfl, nearest50, nearest95, nearest99⟩

theorem computeLatencyStats_of_perm
    {samples others : List UInt64} (same : samples.Perm others)
    (durationUs : Int64) :
    computeLatencyStats floating samples durationUs =
      computeLatencyStats floating others durationUs := by
  have empty : samples = [] ↔ others = [] := by
    rw [← List.length_eq_zero_iff, ← List.length_eq_zero_iff, same.length_eq]
  simp only [computeLatencyStats, sortSamples_eq_of_perm same, same.length_eq,
    empty]

/-- The reported percentiles are the nearest ranks of the samples: they are
read within bounds, ascend and do not depend on the order of the samples. -/
theorem percentiles_nearestRank
    (samples : List UInt64) (some : samples ≠ [])
    (small : samples.length < 2 ^ 57) (durationUs : Int64) :
    (∀ percentile ∈ [50, 95, 99],
      nearestRankIndex samples.length percentile < samples.length) ∧
    ∃ stats,
      computeLatencyStats floating samples durationUs = .some stats ∧
        NearestRank samples 50 stats.p50Us ∧
        NearestRank samples 95 stats.p95Us ∧
        NearestRank samples 99 stats.p99Us ∧
        stats.p50Us ≤ stats.p95Us ∧ stats.p95Us ≤ stats.p99Us ∧
        ∀ others : List UInt64, samples.Perm others →
          computeLatencyStats floating others durationUs = .some stats := by
  have positive := List.length_pos_iff.mpr some
  constructor
  · intro percentile reported
    have bounds : 0 < percentile ∧ percentile ≤ 99 := by
      simp only [List.mem_cons, List.not_mem_nil, or_false] at reported
      omega
    exact (nearestRankIndex_bounds positive small bounds.1 bounds.2).2.2
  · obtain ⟨stats, computed, nearest50, nearest95, nearest99⟩ :=
      exists_computeLatencyStats floating some small durationUs
    refine ⟨stats, computed, nearest50, nearest95, nearest99,
      nearest50.mono nearest95 (by omega), nearest95.mono nearest99 (by omega),
      ?_⟩
    intro others same
    rw [← computeLatencyStats_of_perm floating same, computed]

end Reports

/-- Arithmetic that does not round. -/
def exactNumbers : Floating ℚ ℚ where
  literal number := number
  ofDuration durationUs := durationUs.toInt
  ofSize count := count
  divide dividend divisor := dividend / divisor
  zero := 0
  addSample total sample := total + sample.toNat
  average total count := total / count

theorem percentiles_nearestRank_four :
    ∃ stats,
      computeLatencyStats exactNumbers [40, 10, 30, 20] 2000 = some stats ∧
        NearestRank [40, 10, 30, 20] 50 stats.p50Us ∧
        stats.p50Us ≤ stats.p95Us := by
  obtain ⟨_, stats, computed, nearest50, _, _, ascending, _⟩ :=
    percentiles_nearestRank exactNumbers [40, 10, 30, 20] (by decide)
      (by decide) 2000
  exact ⟨stats, computed, nearest50, ascending⟩

example :
    computeLatencyStats exactNumbers [40, 10, 30, 20] 2000 =
      some ⟨4, 25, 20, 40, 40, 2, 2000⟩ := by
  decide +kernel

end MiniMiddleware.Bench
