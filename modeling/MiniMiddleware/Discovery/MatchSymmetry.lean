import MiniMiddleware.Discovery.EndpointMatcher
import Mathlib.Data.List.Sort

/-!
# Which pairs of endpoints match

Two agents that know each other's endpoints call `match_endpoints` from
opposite sides.  `Matching` says in the words of the middleware which two
endpoints belong together; the calls return these pairs, each of them once and
in the order of the loops, and the two sides agree.
-/

namespace MiniMiddleware.Discovery

/-- The writer offers best effort while the reader asks for more. -/
def Underserves (writer reader : EndpointInfo) : Prop :=
  (writer.kind = .publisher ∨ writer.kind = .service) ∧
    (reader.kind = .subscriber ∨ reader.kind = .client) ∧
    writer.reliability = 0 ∧ reader.reliability ≠ 0

/-- A publisher and a subscriber of one topic and type, or a service and a
client of one topic and of the same request and response types, of which the
writing side does not underserve the reading side. -/
def Matching (le re : EndpointInfo) : Prop :=
  (((le.kind = .publisher ∧ re.kind = .subscriber ∨
        le.kind = .subscriber ∧ re.kind = .publisher) ∧
      le.topic = re.topic ∧ le.typeName = re.typeName) ∨
    ((le.kind = .service ∧ re.kind = .client ∨
        le.kind = .client ∧ re.kind = .service) ∧
      le.topic = re.topic ∧ le.typeName = re.typeName ∧
      le.responseTypeName = re.responseTypeName)) ∧
    ¬ Underserves le re ∧ ¬ Underserves re le

/-- What the writer offers covers what the reader asks for, in terms of the
transmitted numbers. -/
theorem compatible_relOf (writer reader : EndpointInfo) :
    compatible (relOf writer) (relOf reader) = true ↔
      ¬ (writer.reliability = 0 ∧ reader.reliability ≠ 0) := by
  unfold relOf
  split_ifs with offered requested requested
  · simp [compatible, Reliability.value, requested]
  · simp [compatible, Reliability.value, offered, requested]
  · simp [compatible, Reliability.value, offered]
  · simp [compatible, Reliability.value, offered]

/-- The body of the inner loop decides whether two endpoints belong together. -/
theorem pairMatches_iff (le re : EndpointInfo) :
    pairMatches le re = true ↔ Matching le re := by
  have covers := compatible_relOf le re
  have covered := compatible_relOf re le
  cases localKind : le.kind <;> cases remoteKind : re.kind <;>
    simp [pairMatches, Matching, Underserves, pubsubPair, rpcPair, writerOf,
      readerOf, localKind, remoteKind, covers, covered, and_assoc]

theorem matching_comm (le re : EndpointInfo) :
    Matching le re ↔ Matching re le := by
  rw [← pairMatches_iff, ← pairMatches_iff, pairMatches_comm]

/-! ## The pairs of two lists -/

/-- The places of the pairs that match, local places in the outer loop. -/
def matchedPairs (own other : List EndpointInfo) :
    List (Fin own.length × Fin other.length) :=
  (List.finRange own.length).flatMap fun i =>
    ((List.finRange other.length).filter fun j =>
        pairMatches (own.get i) (other.get j)).map fun j => (i, j)

theorem mem_matchedPairs
    {own other : List EndpointInfo} {i : Fin own.length}
    {j : Fin other.length} :
    (i, j) ∈ matchedPairs own other ↔ Matching (own.get i) (other.get j) := by
  simp [matchedPairs, pairMatches_iff]

theorem matchedPairs_pairwise (own other : List EndpointInfo) :
    (matchedPairs own other).Pairwise (Prod.Lex (· < ·) (· < ·)) := by
  rw [matchedPairs, List.pairwise_flatMap]
  constructor
  · intro i _
    rw [List.pairwise_map]
    have increasing := (List.sortedLT_finRange other.length).pairwise
    exact (increasing.filter _).imp fun less => Prod.Lex.right _ less
  · have increasing := (List.sortedLT_finRange own.length).pairwise
    refine increasing.imp fun less first firstMember second secondMember => ?_
    obtain ⟨_, _, rfl⟩ := List.mem_map.mp firstMember
    obtain ⟨_, _, rfl⟩ := List.mem_map.mp secondMember
    exact Prod.Lex.left _ _ less

/-- The two loops visit the pairs of places. -/
theorem matchEndpoints_eq_map
    (own other : List EndpointInfo) (remoteId : Nat) (remoteLocator : Locator)
    (remoteHostId : Text) :
    matchEndpoints own remoteId remoteLocator other remoteHostId =
      (matchedPairs own other).map fun pair =>
        ⟨own.get pair.1, other.get pair.2, remoteLocator, remoteId,
          remoteHostId⟩ := by
  have outer := List.map_get_finRange own
  have inner := List.map_get_finRange other
  conv_lhs => rw [matchEndpoints, ← outer, ← inner]
  simp only [matchedPairs, List.flatMap_map, List.filter_map, List.map_map,
    List.map_flatMap]
  rfl

/-- The result of `match_endpoints` as a list of places: every pair that
belongs together occurs once, in lexicographic order, with the given identity
and locator. -/
structure MatchesExactly (own : List EndpointInfo) (remoteId : Nat)
    (remoteLocator : Locator) (other : List EndpointInfo)
    (remoteHostId : Text)
    (pairs : List (Fin own.length × Fin other.length)) : Prop where
  ordered : pairs.Pairwise (Prod.Lex (· < ·) (· < ·))
  exact : ∀ i j, (i, j) ∈ pairs ↔ Matching (own.get i) (other.get j)
  entries :
    matchEndpoints own remoteId remoteLocator other remoteHostId =
      pairs.map fun pair =>
        ⟨own.get pair.1, other.get pair.2, remoteLocator, remoteId,
          remoteHostId⟩

/-- `match_endpoints` is exact, and the pairs that one agent computes are the
mirror image of those that the other computes. -/
theorem matchEndpoints_exact_and_symmetric
    (own other : List EndpointInfo)
    (otherId : Nat) (otherLocator : Locator) (otherHostId : Text)
    (ownId : Nat) (ownLocator : Locator) (ownHostId : Text) :
    ∃ pairs mirrored,
      MatchesExactly own otherId otherLocator other otherHostId pairs ∧
        MatchesExactly other ownId ownLocator own ownHostId mirrored ∧
        ∀ i j, (i, j) ∈ pairs ↔ (j, i) ∈ mirrored := by
  refine ⟨matchedPairs own other, matchedPairs other own,
    ⟨matchedPairs_pairwise own other, fun _ _ => mem_matchedPairs,
      matchEndpoints_eq_map own other otherId otherLocator otherHostId⟩,
    ⟨matchedPairs_pairwise other own, fun _ _ => mem_matchedPairs,
      matchEndpoints_eq_map other own ownId ownLocator ownHostId⟩,
    fun i j => ?_⟩
  rw [mem_matchedPairs, mem_matchedPairs, matching_comm]

end MiniMiddleware.Discovery
