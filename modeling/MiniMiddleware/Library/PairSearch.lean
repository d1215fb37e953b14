import MiniMiddleware.Library.Lists
import Mathlib.Order.Minimal
import Mathlib.Data.List.Basic

/-!
# First pairs of nested loops

Two nested loops over lists meet their pairs of positions in lexicographic
order.  The first pair that passes a test is therefore minimal among all
passing pairs in the componentwise order, whichever of the lists is walked in
the outer loop, and it stays minimal when either list grows at its end.
-/

namespace MiniMiddleware.Library

universe u v w

section PairSearch

variable {Left : Type u} {Right : Type v}

/-- The positions of two lists whose elements pass a test. -/
def Passing (test : Left → Right → Prop) (lefts : List Left)
    (rights : List Right) (position : ℕ × ℕ) : Prop :=
  ∃ left right,
    lefts[position.1]? = some left ∧ rights[position.2]? = some right ∧
      test left right

variable {test : Left → Right → Prop} {lefts moreLefts : List Left}
  {rights moreRights : List Right} {position : ℕ × ℕ}

theorem minimal_passing_congr
    {other : Left → Right → Prop}
    (same : ∀ left right, test left right ↔ other left right)
    (minimal : Minimal (Passing test lefts rights) position) :
    Minimal (Passing other lefts rights) position := by
  have equal : test = other := by
    funext left right
    exact propext (same left right)
  rwa [← equal]

/-- Walking the lists in the other order only swaps the positions. -/
theorem passing_swap :
    Passing (fun right left => test left right) rights lefts position ↔
      Passing test lefts rights position.swap := by
  constructor
  · rintro ⟨right, left, rightAt, leftAt, passes⟩
    exact ⟨left, right, leftAt, rightAt, passes⟩
  · rintro ⟨left, right, leftAt, rightAt, passes⟩
    exact ⟨right, left, rightAt, leftAt, passes⟩

theorem minimal_passing_swap
    (minimal :
      Minimal (Passing (fun right left => test left right) rights lefts)
        position) :
    Minimal (Passing test lefts rights) position.swap := by
  refine ⟨passing_swap.mp minimal.1, fun other passing below => ?_⟩
  have swapped :=
    minimal.2 (passing_swap.mpr (by simpa using passing))
      (show other.swap ≤ position from ⟨below.2, below.1⟩)
  exact ⟨swapped.2, swapped.1⟩

/-- A minimal position stays minimal when the lists grow. -/
theorem minimal_passing_extend
    (leftGrows : lefts <+: moreLefts) (rightGrows : rights <+: moreRights)
    (minimal : Minimal (Passing test lefts rights) position) :
    Minimal (Passing test moreLefts moreRights) position := by
  obtain ⟨left, right, leftAt, rightAt, passes⟩ := minimal.1
  refine ⟨⟨left, right, getElem?_of_prefix leftGrows leftAt,
    getElem?_of_prefix rightGrows rightAt, passes⟩, ?_⟩
  rintro other ⟨otherLeft, otherRight, otherLeftAt, otherRightAt, otherPasses⟩
    below
  have leftInside : other.1 < lefts.length :=
    Nat.lt_of_le_of_lt below.1 (List.getElem?_eq_some_iff.mp leftAt).1
  have rightInside : other.2 < rights.length :=
    Nat.lt_of_le_of_lt below.2 (List.getElem?_eq_some_iff.mp rightAt).1
  obtain ⟨leftRest, rfl⟩ := leftGrows
  obtain ⟨rightRest, rfl⟩ := rightGrows
  rw [List.getElem?_append_left leftInside] at otherLeftAt
  rw [List.getElem?_append_left rightInside] at otherRightAt
  exact
    minimal.2 ⟨otherLeft, otherRight, otherLeftAt, otherRightAt, otherPasses⟩
      below

/-- The first result of two nested loops sits at a minimal position. -/
theorem minimal_of_find?
    {Result : Type w} {admits : Left → Right → Bool}
    {make : Left → Right → Result} {wanted : Result → Bool} {result : Result}
    (found :
      (lefts.flatMap fun left =>
          (rights.filter (admits left)).map (make left)).find? wanted =
        some result) :
    ∃ position left right,
      lefts[position.1]? = some left ∧ rights[position.2]? = some right ∧
        result = make left right ∧
        Minimal
          (Passing
            (fun left right => admits left right ∧ wanted (make left right))
            lefts rights)
          position := by
  rw [List.find?_flatMap, List.findSome?_eq_some_iff] at found
  obtain ⟨skipped, left, later, rfl, inner, none⟩ := found
  rw [List.find?_map, List.find?_filter, Option.map_eq_some_iff] at inner
  obtain ⟨right, first, rfl⟩ := inner
  rw [List.find?_eq_some_iff_append] at first
  obtain ⟨passes, passed, rest, rfl, failing⟩ := first
  refine ⟨(skipped.length, passed.length), left, right, by simp, by simp, rfl,
    ⟨left, right, by simp, by simp, by simpa using passes⟩, ?_⟩
  rintro ⟨row, column⟩ ⟨otherLeft, otherRight, leftAt, rightAt, both⟩
    ⟨rowBelow, columnBelow⟩
  dsimp only at leftAt rightAt rowBelow columnBelow
  have sameRow : row = skipped.length := by
    by_contra different
    rw [List.getElem?_append_left (by omega)] at leftAt
    have nothing := none otherLeft (List.mem_of_getElem? leftAt)
    rw [List.find?_eq_none] at nothing
    refine nothing (make otherLeft otherRight) ?_ both.2
    exact
      List.mem_map.mpr
        ⟨otherRight,
          List.mem_filter.mpr ⟨List.mem_of_getElem? rightAt, both.1⟩, rfl⟩
  subst sameRow
  have sameLeft : left = otherLeft := by simpa using leftAt
  subst sameLeft
  have sameColumn : column = passed.length := by
    by_contra different
    rw [List.getElem?_append_left (by omega)] at rightAt
    have fails := failing otherRight (List.mem_of_getElem? rightAt)
    simp [both.1, both.2] at fails
  rw [sameColumn]

end PairSearch

end MiniMiddleware.Library
