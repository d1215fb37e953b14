import Mathlib.Data.List.Basic

/-!
# Lists of objects

Objects are listed in the order of their creation and named by their place.
They are changed in place and never removed, so a place keeps its meaning, and
what no change touches is the same list of data at all times.
-/

namespace MiniMiddleware.Library

universe u v

variable {Item : Type u} {Data : Type v}

/-- Where an object comes from after a change in place. -/
theorem getElem?_modify_eq_some
    {items : List Item} {change : Item → Item} {index other : Nat}
    {item : Item} :
    (items.modify index change)[other]? = some item ↔
      ∃ before, items[other]? = some before ∧
        item = if index = other then change before else before := by
  rw [List.getElem?_modify, Option.map_eq_map, Option.map_eq_some_iff]
  simp only [eq_comm]

theorem map_modify_of_kept
    {dataOf : Item → Data} {change : Item → Item}
    (kept : ∀ item, dataOf (change item) = dataOf item)
    (items : List Item) (index : Nat) :
    (items.modify index change).map dataOf = items.map dataOf := by
  apply List.ext_getElem?
  intro other
  simp only [List.getElem?_map, List.getElem?_modify, Option.map_eq_map,
    Option.map_map]
  congr 1
  funext item
  by_cases here : index = other <;> simp [here, kept]

/-- A place keeps its meaning when the list grows. -/
theorem getElem?_of_prefix
    {items more : List Item} {index : Nat} {item : Item}
    (grows : items <+: more) (found : items[index]? = some item) :
    more[index]? = some item := by
  obtain ⟨rest, rfl⟩ := grows
  obtain ⟨bound, _⟩ := List.getElem?_eq_some_iff.mp found
  rwa [List.getElem?_append_left bound]

/-- A list with one object added, cut in two. -/
theorem concat_eq_append_iff
    {items front after : List Item} {last : Item} :
    items ++ [last] = front ++ after ↔
      after = [] ∧ front = items ++ [last] ∨
        ∃ rest, after = rest ++ [last] ∧ items = front ++ rest := by
  constructor
  · intro equality
    rcases List.eq_nil_or_concat after with rfl | ⟨rest, item, rfl⟩
    · exact Or.inl ⟨rfl, by simpa using equality.symm⟩
    · rw [List.concat_eq_append, ← List.append_assoc] at equality
      obtain ⟨itemsEq, lastEq⟩ := List.append_inj' equality rfl
      cases lastEq
      exact Or.inr ⟨rest, by simp, itemsEq⟩
  · rintro (⟨rfl, rfl⟩ | ⟨rest, rfl, rfl⟩)
    · exact (List.append_nil _).symm
    · exact List.append_assoc _ _ _

theorem getElem?_concat_eq_some
    {items : List Item} {added item : Item} {index : Nat} :
    (items ++ [added])[index]? = some item ↔
      items[index]? = some item ∨ index = items.length ∧ item = added := by
  rw [List.getElem?_append]
  split
  · rename_i bound
    simp [Nat.ne_of_lt bound]
  · rename_i past
    rw [List.getElem?_singleton, List.getElem?_eq_none (by omega)]
    split
    · simp only [Option.some.injEq, reduceCtorEq, false_or]
      constructor
      · rintro rfl
        exact ⟨by omega, rfl⟩
      · rintro ⟨_, rfl⟩
        rfl
    · simp only [reduceCtorEq, false_or, false_iff, not_and]
      omega

/-- An item that is never followed by another copy of itself occurs at most
once. -/
theorem count_le_one_of_pairwise [BEq Item] [LawfulBEq Item]
    {items : List Item} {item : Item}
    (once : items.Pairwise fun first later => first = item → later ≠ item) :
    items.count item ≤ 1 := by
  induction items with
  | nil =>
      exact Nat.zero_le 1
  | cons first rest inductionHypothesis =>
      obtain ⟨fromFirst, fromRest⟩ := List.pairwise_cons.mp once
      by_cases same : first = item
      · have absent : item ∉ rest := fun member =>
          fromFirst item member same rfl
        have alone : rest.count item = 0 := List.count_eq_zero.mpr absent
        rw [same, List.count_cons_self]
        omega
      · rw [List.count_cons_of_ne same]
        exact inductionHypothesis fromRest

/-- Items with increasing numbers, looked up number by number. -/
theorem filterMap_find?_range'
    {number : Item → Nat} {items : List Item} {start count : Nat}
    (increasing : (items.map number).Pairwise (· < ·))
    (bounded :
      ∀ item ∈ items, start ≤ number item ∧ number item < start + count) :
    ((List.range' start count).filterMap fun index =>
        items.find? fun item => number item = index) =
      items := by
  induction count generalizing start items with
  | zero =>
      cases items with
      | nil =>
          rfl
      | cons first rest =>
          have impossible := bounded first List.mem_cons_self
          omega
  | succ count inductionHypothesis =>
      rw [List.range'_succ, List.filterMap_cons]
      cases items with
      | nil =>
          simp
      | cons first rest =>
          have low := bounded first List.mem_cons_self
          have least (item : Item) (member : item ∈ rest) :
              number first < number item :=
            (List.pairwise_cons.mp increasing).1 _
              (List.mem_map_of_mem member)
          by_cases here : number first = start
          · -- the first item is the one with this number
            have others :
                ((List.range' (start + 1) count).filterMap fun index =>
                    (first :: rest).find? fun item => number item = index) =
                  rest := by
              have later :
                  ((List.range' (start + 1) count).filterMap fun index =>
                      rest.find? fun item => number item = index) =
                    rest := by
                refine inductionHypothesis (List.pairwise_cons.mp increasing).2
                  fun item member => ?_
                have inside := bounded item (List.mem_cons_of_mem first member)
                have above := least item member
                omega
              refine Eq.trans (List.filterMap_congr fun index member => ?_)
                later
              have above := (List.mem_range'_1.mp member).1
              exact List.find?_cons_of_neg (by simp; omega)
            simp [here, others]
          · -- nobody has this number
            have past (item : Item) (member : item ∈ first :: rest) :
                start < number item := by
              rcases List.mem_cons.mp member with rfl | later
              · omega
              · have above := least item later
                omega
            have missing :
                ((first :: rest).find? fun item => number item = start) =
                  none := by
              rw [List.find?_eq_none]
              intro item member
              simpa using Nat.ne_of_gt (past item member)
            rw [missing]
            refine inductionHypothesis increasing fun item member => ?_
            have inside := bounded item member
            have above := past item member
            omega

end MiniMiddleware.Library
