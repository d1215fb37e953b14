import MiniMiddleware.Library.Tables

/-!
# Items that are opened and closed

A history of brackets, in which items are opened and later closed.  An item is
known by its key; the history of one key alternates when it starts with an
opening bracket, opens nothing twice, and closes each item with the very item
that was opened.

`Ledger` ties a table to a history: every key alternates, and the table holds
exactly the items that are still open.  The two walks over tables keep a
ledger if each entered item is written down as opened and each erased one as
closed.
-/

namespace MiniMiddleware.Library

universe u v

/-- An item is opened or closed. -/
inductive Bracket (Item : Type v) where
  | opened (item : Item)
  | closed (item : Item)
  deriving DecidableEq, Repr

namespace Bracket

variable {Item : Type v}

/-- The item of a bracket. -/
def item : Bracket Item → Item
  | .opened item => item
  | .closed item => item

/-- Openings and closings take turns, and each closing repeats the item that
was opened before it. -/
inductive Alternating : List (Bracket Item) → Prop
  | nil : Alternating []
  | opened (item : Item) : Alternating [.opened item]
  | pair (item : Item) {rest : List (Bracket Item)} :
      Alternating rest → Alternating (.opened item :: .closed item :: rest)

/-- The item that is open at the end. -/
def stillOpen (history : List (Bracket Item)) : Option Item :=
  match history.getLast? with
  | some (.opened item) => some item
  | _ => none

theorem stillOpen_eq_some_iff
    {history : List (Bracket Item)} {item : Item} :
    stillOpen history = some item ↔
      history.getLast? = some (.opened item) := by
  unfold stillOpen
  split
  · rename_i other last
    simp [last]
  · rename_i notOpened
    constructor
    · intro impossible
      cases impossible
    · intro last
      exact absurd last (notOpened item)

@[simp]
theorem stillOpen_append_opened
    (history : List (Bracket Item)) (item : Item) :
    stillOpen (history ++ [.opened item]) = some item := by
  simp [stillOpen]

@[simp]
theorem stillOpen_append_closed
    (history : List (Bracket Item)) (item : Item) :
    stillOpen (history ++ [.closed item]) = none := by
  simp [stillOpen]

/-- Behind a closed pair the last bracket is that of the rest. -/
theorem stillOpen_pair
    (item other : Item) (rest : List (Bracket Item)) :
    stillOpen (.opened item :: .closed other :: rest) = stillOpen rest := by
  cases rest with
  | nil =>
      rfl
  | cons next later =>
      simp [stillOpen, List.getLast?_cons_cons]

theorem Alternating.append_opened
    {history : List (Bracket Item)} (alternating : Alternating history)
    (closed : stillOpen history = none) (item : Item) :
    Alternating (history ++ [.opened item]) := by
  induction alternating with
  | nil =>
      exact Alternating.opened item
  | opened first =>
      cases closed
  | pair first _ inductionHypothesis =>
      rw [stillOpen_pair] at closed
      exact Alternating.pair first (inductionHypothesis closed)

theorem Alternating.append_closed
    {history : List (Bracket Item)} (alternating : Alternating history)
    {item : Item} (isOpen : stillOpen history = some item) :
    Alternating (history ++ [.closed item]) := by
  induction alternating with
  | nil =>
      cases isOpen
  | opened first =>
      cases isOpen
      exact Alternating.pair item Alternating.nil
  | pair first _ inductionHypothesis =>
      rw [stillOpen_pair] at isOpen
      exact Alternating.pair first (inductionHypothesis isOpen)

/-- The bracket behind an open item closes it. -/
theorem Alternating.closed_next
    {history earlier later : List (Bracket Item)} {bracket : Bracket Item}
    (alternating : Alternating history)
    (split : history = earlier ++ bracket :: later)
    {item : Item} (isOpen : stillOpen earlier = some item) :
    bracket = .closed item := by
  induction alternating generalizing earlier with
  | nil =>
      simp at split
  | opened first =>
      cases earlier with
      | nil =>
          cases isOpen
      | cons other rest =>
          simp at split
  | pair first _ inductionHypothesis =>
      match earlier with
      | [] =>
          cases isOpen
      | [other] =>
          simp only [List.cons_append, List.nil_append, List.cons.injEq]
            at split
          obtain ⟨rfl, rfl, _⟩ := split
          cases isOpen
          rfl
      | other :: next :: rest =>
          simp only [List.cons_append, List.cons.injEq] at split
          obtain ⟨rfl, rfl, behind⟩ := split
          rw [stillOpen_pair] at isOpen
          exact inductionHypothesis behind isOpen

/-- Whatever is closed was opened. -/
theorem Alternating.opened_of_closed
    {history : List (Bracket Item)} {item : Item}
    (alternating : Alternating history)
    (closed : .closed item ∈ history) : .opened item ∈ history := by
  induction alternating with
  | nil =>
      cases closed
  | opened first =>
      simp at closed
  | pair first _ inductionHypothesis =>
      simp only [List.mem_cons, reduceCtorEq, false_or, Bracket.closed.injEq,
        Bracket.opened.injEq] at closed ⊢
      exact closed.imp id inductionHypothesis

/-- Unless an item is open, it has been closed as often as opened. -/
theorem Alternating.count_eq [DecidableEq Item]
    {history : List (Bracket Item)} (alternating : Alternating history)
    {item : Item} (notOpen : stillOpen history ≠ some item) :
    history.count (.opened item) = history.count (.closed item) := by
  induction alternating with
  | nil =>
      rfl
  | opened first =>
      have different : first ≠ item := fun same => notOpen (by rw [same]; rfl)
      simp [different]
  | pair first _ inductionHypothesis =>
      rw [stillOpen_pair] at notOpen
      have rest := inductionHypothesis notOpen
      by_cases same : first = item
      · simp [same, rest]
      · simp [same, rest]

end Bracket

section Ledgers

variable {Key : Type u} {Item : Type v} [DecidableEq Key]

/-- The brackets of one key. -/
def historyOf (keyOf : Item → Key) (key : Key)
    (history : List (Bracket Item)) : List (Bracket Item) :=
  history.filter fun bracket => keyOf bracket.item = key

theorem count_historyOf [DecidableEq Item]
    (keyOf : Item → Key) (history : List (Bracket Item))
    (bracket : Bracket Item) :
    (historyOf keyOf (keyOf bracket.item) history).count bracket =
      history.count bracket :=
  List.count_filter (by simp)

theorem historyOf_append
    (keyOf : Item → Key) (key : Key) (earlier later : List (Bracket Item)) :
    historyOf keyOf key (earlier ++ later) =
      historyOf keyOf key earlier ++ historyOf keyOf key later :=
  List.filter_append _ _

theorem historyOf_singleton
    (keyOf : Item → Key) (key : Key) (bracket : Bracket Item) :
    historyOf keyOf key [bracket] =
      if keyOf bracket.item = key then [bracket] else [] := by
  simp [historyOf, List.filter_singleton]

variable [Ord Key]

/-- Every key alternates, and the table holds what is still open. -/
structure Ledger (keyOf : Item → Key) (table : Std.TreeMap Key Item)
    (history : List (Bracket Item)) : Prop where
  alternating : ∀ key, Bracket.Alternating (historyOf keyOf key history)
  stillOpen : ∀ key, Bracket.stillOpen (historyOf keyOf key history) = table[key]?

variable [Std.TransOrd Key] [Std.LawfulEqOrd Key] {keyOf : Item → Key}
  {table : Std.TreeMap Key Item} {history : List (Bracket Item)}

omit [Std.TransOrd Key] [Std.LawfulEqOrd Key] in
theorem Ledger.start
    (empty : ∀ key : Key, table[key]? = none) : Ledger keyOf table [] :=
  ⟨fun _ => Bracket.Alternating.nil, fun key => (empty key).symm⟩

theorem Ledger.opened
    (ledger : Ledger keyOf table history) {item : Item}
    (fresh : keyOf item ∉ table) :
    Ledger keyOf (table.insert (keyOf item) item)
      (history ++ [.opened item]) := by
  have missing : table[keyOf item]? = none :=
    Std.TreeMap.getElem?_eq_none fresh
  refine ⟨fun key => ?_, fun key => ?_⟩
  · rw [historyOf_append, historyOf_singleton]
    by_cases same : keyOf item = key
    · subst same
      rw [Bracket.item, if_pos rfl]
      exact (ledger.alternating _).append_opened
        ((ledger.stillOpen _).trans missing) item
    · rw [Bracket.item, if_neg same, List.append_nil]
      exact ledger.alternating key
  · rw [historyOf_append, historyOf_singleton, Std.TreeMap.getElem?_insert]
    by_cases same : keyOf item = key
    · subst same
      simp [Bracket.item]
    · rw [Bracket.item, if_neg same, List.append_nil, if_neg (by simpa)]
      exact ledger.stillOpen key

theorem Ledger.closed
    (ledger : Ledger keyOf table history) {item : Item}
    (found : table[keyOf item]? = some item) :
    Ledger keyOf (table.erase (keyOf item)) (history ++ [.closed item]) := by
  refine ⟨fun key => ?_, fun key => ?_⟩
  · rw [historyOf_append, historyOf_singleton]
    by_cases same : keyOf item = key
    · subst same
      rw [Bracket.item, if_pos rfl]
      exact (ledger.alternating _).append_closed
        ((ledger.stillOpen _).trans found)
    · rw [Bracket.item, if_neg same, List.append_nil]
      exact ledger.alternating key
  · rw [historyOf_append, historyOf_singleton, Std.TreeMap.getElem?_erase]
    by_cases same : keyOf item = key
    · subst same
      simp [Bracket.item]
    · rw [Bracket.item, if_neg same, List.append_nil, if_neg (by simpa)]
      exact ledger.stillOpen key

/-- `recordAll` opens the items that it enters. -/
theorem Ledger.recordAll
    (ledger : Ledger keyOf table history) (items : List Item) :
    Ledger keyOf (recordAll keyOf items table).1
      (history ++ (recordAll keyOf items table).2.map .opened) := by
  have rule :=
    recordAll_rule keyOf (fun table history => Ledger keyOf table history)
      (fun history item => history ++ [.opened item]) items
      (fun _ _ _ _ fresh before => before.opened fresh) table history ledger
  have appended (entered : List Item) (start : List (Bracket Item)) :
      entered.foldl (fun history item => history ++ [.opened item]) start =
        start ++ entered.map .opened := by
    induction entered generalizing start with
    | nil =>
        simp
    | cons item later inductionHypothesis =>
        rw [List.foldl_cons, inductionHypothesis]
        simp
  rwa [appended] at rule

/-- The walk of `eraseWhere` over entries with different keys, each of which
stands in the table under its own key. -/
private theorem ledger_of_entries
    (condition : Item → Bool) (entries : List (Key × Item))
    (distinct : entries.Pairwise fun first second => first.1 ≠ second.1)
    (ledger : Ledger keyOf table history)
    (stored :
      ∀ entry ∈ entries,
        table[entry.1]? = some entry.2 ∧ keyOf entry.2 = entry.1) :
    Ledger keyOf
      (entries.foldl
        (fun table entry =>
          if condition entry.2 then table.erase entry.1 else table)
        table)
      (history ++ ((entries.map Prod.snd).filter condition).map .closed) := by
  induction entries generalizing table history with
  | nil =>
      simpa using ledger
  | cons entry entries inductionHypothesis =>
      obtain ⟨key, item⟩ := entry
      obtain ⟨first, later⟩ := List.pairwise_cons.mp distinct
      obtain ⟨⟨found, ownKey⟩, others⟩ := List.forall_mem_cons.mp stored
      dsimp only at first found ownKey
      cases meets : condition item with
      | false =>
          simpa [meets] using inductionHypothesis later ledger others
      | true =>
          subst ownKey
          have kept :
              ∀ entry ∈ entries,
                (table.erase (keyOf item))[entry.1]? = some entry.2 ∧
                  keyOf entry.2 = entry.1 := by
            intro entry member
            have different := first entry member
            rw [Std.TreeMap.getElem?_erase, if_neg (by simpa using different)]
            exact others entry member
          simpa [meets] using
            inductionHypothesis later (ledger.closed found) kept

theorem Ledger.eraseWhere
    (ledger : Ledger keyOf table history)
    (ownKeys :
      ∀ (key : Key) (item : Item), table[key]? = some item → keyOf item = key)
    (condition : Item → Bool) :
    Ledger keyOf (eraseWhere condition table)
      (history ++
        ((table.toList.map Prod.snd).filter condition).map .closed) := by
  refine ledger_of_entries condition table.toList ?_ ledger ?_
  · refine table.distinct_keys_toList.imp ?_
    intro first second different equal
    exact different (by simp [equal])
  · intro entry member
    have found := Std.TreeMap.mem_toList_iff_getElem?_eq_some.mp member
    exact ⟨found, ownKeys _ _ found⟩

end Ledgers

end MiniMiddleware.Library
