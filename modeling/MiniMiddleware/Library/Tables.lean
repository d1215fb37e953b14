import Mathlib.Data.List.Basic
import Std.Data.TreeMap.Lemmas

/-!
# Ordered tables

What is found behind an insertion or an erasure is said once for all tables.
`recordAll` walks a list and enters every item whose key is not yet in the
table, so that the first item of a key wins.  It returns the table and the
items that were entered, in order.  `eraseWhere` walks the table itself and
erases the items that meet a condition.
-/

namespace MiniMiddleware.Library

universe u v w

section Tables

variable {Key : Type u} {Item : Type v} [Ord Key]

/-- Enter the items with new keys. -/
def recordAll (keyOf : Item → Key) :
    List Item → Std.TreeMap Key Item → Std.TreeMap Key Item × List Item
  | [], table => (table, [])
  | item :: items, table =>
      if keyOf item ∈ table then
        recordAll keyOf items table
      else
        let rest := recordAll keyOf items (table.insert (keyOf item) item)
        (rest.1, item :: rest.2)

/-- The rule for an effect of each entered item: a relation between the table
and a state that is kept by every single entry is kept by the whole walk. -/
theorem recordAll_rule {State : Type w} (keyOf : Item → Key)
    (relation : Std.TreeMap Key Item → State → Prop)
    (effect : State → Item → State)
    (items : List Item)
    (entered :
      ∀ table state item, item ∈ items → keyOf item ∉ table →
        relation table state →
        relation (table.insert (keyOf item) item) (effect state item))
    (table : Std.TreeMap Key Item) (state : State)
    (before : relation table state) :
    relation (recordAll keyOf items table).1
      ((recordAll keyOf items table).2.foldl effect state) := by
  induction items generalizing table state with
  | nil =>
      exact before
  | cons item items inductionHypothesis =>
      have later :=
        fun table state other member =>
          entered table state other (List.mem_cons_of_mem item member)
      rw [recordAll]
      split
      · exact inductionHypothesis later table state before
      · rename_i fresh
        exact
          inductionHypothesis later _ _
            (entered table state item List.mem_cons_self fresh before)

theorem mem_of_mem_recordAll
    {keyOf : Item → Key} {items : List Item} {table : Std.TreeMap Key Item}
    {item : Item} (entered : item ∈ (recordAll keyOf items table).2) :
    item ∈ items := by
  induction items generalizing table with
  | nil =>
      cases entered
  | cons first items inductionHypothesis =>
      rw [recordAll] at entered
      split at entered
      · exact List.mem_cons_of_mem first (inductionHypothesis entered)
      · rcases List.mem_cons.mp entered with rfl | later
        · exact List.mem_cons_self
        · exact List.mem_cons_of_mem first (inductionHypothesis later)

section Entries

variable [Std.TransOrd Key] [Std.LawfulEqOrd Key]
  {table : Std.TreeMap Key Item} {key other : Key} {item found : Item}

/-- What is found behind an insertion is the new item at its key, or an old one
elsewhere. -/
theorem getElem?_insert_eq_some :
    (table.insert key item)[other]? = some found ↔
      (key = other ∧ item = found) ∨
        (key ≠ other ∧ table[other]? = some found) := by
  rw [Std.TreeMap.getElem?_insert]
  by_cases same : key = other
  · rw [if_pos (Std.compare_eq_iff_eq.mpr same), Option.some.injEq]
    simp [same]
  · rw [if_neg (Std.compare_eq_iff_eq.not.mpr same)]
    simp [same]

theorem getElem?_erase_eq_some :
    (table.erase key)[other]? = some found ↔
      key ≠ other ∧ table[other]? = some found := by
  rw [Std.TreeMap.getElem?_erase]
  by_cases same : key = other
  · rw [if_pos (Std.compare_eq_iff_eq.mpr same)]
    simp [same]
  · rw [if_neg (Std.compare_eq_iff_eq.not.mpr same)]
    simp [same]

end Entries

variable [Std.TransOrd Key] [Std.LawfulEqOrd Key] [DecidableEq Key]
  {keyOf : Item → Key}

/-- A key finds its old item, or else the first new one. -/
theorem getElem?_recordAll
    (items : List Item) (table : Std.TreeMap Key Item)
    (key : Key) :
    (recordAll keyOf items table).1[key]? =
      table[key]?.or (items.find? fun item => keyOf item = key) := by
  induction items generalizing table with
  | nil =>
      simp [recordAll]
  | cons item items inductionHypothesis =>
      rw [recordAll]
      by_cases same : keyOf item = key
      · subst same
        split
        · rename_i member
          obtain ⟨value, found⟩ :=
            Option.isSome_iff_exists.mp
              (Std.TreeMap.mem_iff_isSome_getElem?.mp member)
          rw [inductionHypothesis, found]
          rfl
        · rename_i fresh
          have missing := Std.TreeMap.getElem?_eq_none fresh
          dsimp only
          rw [inductionHypothesis, missing,
            Std.TreeMap.getElem?_insert_self]
          simp
      · rw [List.find?_cons_of_neg (by simpa using same)]
        split
        · rw [inductionHypothesis]
        · dsimp only
          rw [inductionHypothesis, Std.TreeMap.getElem?_insert,
            if_neg (by simpa using same)]

theorem mem_recordAll
    {items : List Item} {item : Item}
    (member : item ∈ items) (table : Std.TreeMap Key Item) :
    keyOf item ∈ (recordAll keyOf items table).1 := by
  rw [Std.TreeMap.mem_iff_isSome_getElem?, getElem?_recordAll,
    Option.isSome_or, Bool.or_eq_true]
  right
  rw [List.find?_isSome]
  exact ⟨item, member, by simp⟩

theorem getElem?_recordAll_of_some
    {items : List Item} {table : Std.TreeMap Key Item} {key : Key}
    {item : Item} (found : table[key]? = some item) :
    (recordAll keyOf items table).1[key]? = some item := by
  rw [getElem?_recordAll, found]
  rfl

/-- Erase the items that meet a condition. -/
def eraseWhere (condition : Item → Bool) (table : Std.TreeMap Key Item) :
    Std.TreeMap Key Item :=
  table.toList.foldl
    (fun table entry =>
      if condition entry.2 then table.erase entry.1 else table)
    table

omit [DecidableEq Key] in
private theorem getElem?_foldl_erase
    (condition : Item → Bool) (entries : List (Key × Item))
    (table : Std.TreeMap Key Item) (key : Key) (item : Item) :
    (entries.foldl
        (fun table entry =>
          if condition entry.2 then table.erase entry.1 else table)
        table)[key]? = some item ↔
      table[key]? = some item ∧
        ∀ other, (key, other) ∈ entries → condition other = false := by
  induction entries generalizing table with
  | nil =>
      simp
  | cons entry entries inductionHypothesis =>
      obtain ⟨first, value⟩ := entry
      rw [List.foldl_cons, inductionHypothesis]
      by_cases meets : condition value
      · by_cases same : first = key
        · subst same
          simp [meets]
        · have different : ¬ compare first key = .eq := by simpa using same
          have reversed : ¬ key = first := fun equal => same equal.symm
          simp [meets, Std.TreeMap.getElem?_erase, different, reversed]
      · by_cases same : first = key
        · subst same
          simp [meets]
        · have reversed : ¬ key = first := fun equal => same equal.symm
          simp [meets, reversed]

omit [DecidableEq Key] in
/-- What is left is what does not meet the condition. -/
theorem getElem?_eraseWhere
    (condition : Item → Bool) (table : Std.TreeMap Key Item)
    (key : Key) (item : Item) :
    (eraseWhere condition table)[key]? = some item ↔
      table[key]? = some item ∧ condition item = false := by
  rw [eraseWhere, getElem?_foldl_erase]
  refine and_congr_right fun found => ?_
  simp only [Std.TreeMap.mem_toList_iff_getElem?_eq_some, found,
    Option.some.injEq, forall_eq']

end Tables

end MiniMiddleware.Library
