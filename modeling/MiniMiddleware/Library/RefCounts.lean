import MiniMiddleware.Library.Tables

/-!
# Reference counts

Items of a table use resources.  A reference count is right when it is, for
every resource, the number of items that use it, and absent for a resource
without users.  Counting up when an item is entered and counting down when it
is erased, where a count that falls to zero is dropped, keeps it right.
-/

namespace MiniMiddleware.Library

universe u v w

section RefCounts

variable {Key : Type u} {Item : Type v} {Resource : Type w} [Ord Key]

/-- The number of items that meet a condition. -/
def countWhere (condition : Item → Bool) (table : Std.TreeMap Key Item) : Nat :=
  (table.toList.map Prod.snd).countP condition

variable [Std.TransOrd Key] [Std.LawfulEqOrd Key]

theorem nodup_toList (table : Std.TreeMap Key Item) : table.toList.Nodup := by
  refine table.distinct_keys_toList.imp ?_
  intro first second different equal
  exact different (by simp [equal])

/-- A table with one entry more lists that entry and those of the other. -/
theorem toList_perm_cons
    {table smaller : Std.TreeMap Key Item} {key : Key} {item : Item}
    (found : table[key]? = some item) (missing : smaller[key]? = none)
    (others : ∀ other, other ≠ key → smaller[other]? = table[other]?) :
    table.toList.Perm ((key, item) :: smaller.toList) := by
  refine (List.perm_ext_iff_of_nodup (nodup_toList table) ?_).mpr ?_
  · refine List.nodup_cons.mpr ⟨?_, nodup_toList smaller⟩
    intro member
    rw [Std.TreeMap.mem_toList_iff_getElem?_eq_some, missing] at member
    cases member
  · rintro ⟨other, value⟩
    rw [List.mem_cons, Std.TreeMap.mem_toList_iff_getElem?_eq_some,
      Std.TreeMap.mem_toList_iff_getElem?_eq_some]
    by_cases same : other = key
    · subst same
      simp [found, missing, eq_comm]
    · simp [same, others other same]

theorem countWhere_eq_add
    {table smaller : Std.TreeMap Key Item} {key : Key} {item : Item}
    (found : table[key]? = some item) (missing : smaller[key]? = none)
    (others : ∀ other, other ≠ key → smaller[other]? = table[other]?)
    (condition : Item → Bool) :
    countWhere condition table =
      countWhere condition smaller + if condition item then 1 else 0 := by
  unfold countWhere
  rw [((toList_perm_cons found missing others).map Prod.snd).countP_eq]
  simp [List.countP_cons]

theorem countWhere_insert
    {table : Std.TreeMap Key Item} {key : Key} (fresh : key ∉ table)
    (item : Item) (condition : Item → Bool) :
    countWhere condition (table.insert key item) =
      countWhere condition table + if condition item then 1 else 0 := by
  refine countWhere_eq_add Std.TreeMap.getElem?_insert_self
    (Std.TreeMap.getElem?_eq_none fresh) ?_ condition
  intro other different
  rw [Std.TreeMap.getElem?_insert, if_neg]
  simpa using fun equal => different equal.symm

theorem countWhere_erase
    {table : Std.TreeMap Key Item} {key : Key} {item : Item}
    (found : table[key]? = some item) (condition : Item → Bool) :
    countWhere condition table =
      countWhere condition (table.erase key) +
        if condition item then 1 else 0 := by
  refine countWhere_eq_add found Std.TreeMap.getElem?_erase_self ?_ condition
  intro other different
  rw [Std.TreeMap.getElem?_erase, if_neg]
  simpa using fun equal => different equal.symm

/-- A count only depends on the entries that are counted. -/
theorem countWhere_congr
    {table other : Std.TreeMap Key Item} {condition counted : Item → Bool}
    (same :
      ∀ (key : Key) (item : Item),
        table[key]? = some item ∧ condition item = true ↔
          other[key]? = some item ∧ counted item = true) :
    countWhere condition table = countWhere counted other := by
  unfold countWhere
  rw [List.countP_map, List.countP_map, List.countP_eq_length_filter,
    List.countP_eq_length_filter]
  refine List.Perm.length_eq ?_
  refine (List.perm_ext_iff_of_nodup ((nodup_toList table).filter _)
    ((nodup_toList other).filter _)).mpr ?_
  rintro ⟨key, item⟩
  simp only [List.mem_filter, Std.TreeMap.mem_toList_iff_getElem?_eq_some,
    Function.comp_apply]
  exact same key item

theorem countWhere_pos
    {table : Std.TreeMap Key Item} {condition : Item → Bool} :
    0 < countWhere condition table ↔
      ∃ (key : Key) (item : Item),
        table[key]? = some item ∧ condition item = true := by
  unfold countWhere
  rw [List.countP_pos_iff]
  simp only [List.mem_map, Prod.exists, exists_eq_right,
    Std.TreeMap.mem_toList_iff_getElem?_eq_some]
  constructor
  · rintro ⟨item, ⟨key, found⟩, meets⟩
    exact ⟨key, item, found, meets⟩
  · rintro ⟨key, item, found, meets⟩
    exact ⟨item, ⟨key, found⟩, meets⟩

/-- A count as it is stored: nothing for a resource without users. -/
def storedCount (users : Nat) : Option Int :=
  if users = 0 then none else some users

variable [DecidableEq Resource]

/-- The items of the table that use a resource. -/
def users (uses : Item → Option Resource) (table : Std.TreeMap Key Item)
    (resource : Resource) : Nat :=
  countWhere (fun item => uses item = some resource) table

/-- The stored counts are the numbers of users. -/
def Counted (stored : Resource → Option Int)
    (uses : Item → Option Resource) (table : Std.TreeMap Key Item) : Prop :=
  ∀ resource, stored resource = storedCount (users uses table resource)

variable {stored after : Resource → Option Int} {uses : Item → Option Resource}
  {table : Std.TreeMap Key Item} {key : Key} {item : Item}
  {resource : Resource}

theorem Counted.start
    (nothing : ∀ resource, stored resource = none)
    (empty : ∀ key : Key, table[key]? = none) : Counted stored uses table := by
  intro resource
  have nobody : users uses table resource = 0 := by
    by_contra somebody
    obtain ⟨key, item, found, _⟩ :=
      countWhere_pos.mp (Nat.pos_of_ne_zero somebody)
    rw [empty] at found
    cases found
  rw [nothing, nobody]
  rfl

theorem Counted.insert_none
    (counted : Counted stored uses table) (fresh : key ∉ table)
    (nothing : uses item = none) :
    Counted stored uses (table.insert key item) := by
  intro other
  rw [counted other, users, users, countWhere_insert fresh]
  simp [nothing]

/-- An item is entered and the count of its resource goes up. -/
theorem Counted.insert
    (counted : Counted stored uses table) (fresh : key ∉ table)
    (used : uses item = some resource)
    (up : after resource = some ((stored resource).getD 0 + 1))
    (same : ∀ other, other ≠ resource → after other = stored other) :
    Counted after uses (table.insert key item) := by
  intro other
  rw [users, countWhere_insert fresh]
  by_cases equal : other = resource
  · subst equal
    rw [up, counted other, users, storedCount, storedCount, used]
    split <;> simp_all
  · have different : ¬ uses item = some other := by
      rw [used]
      simpa using fun reversed => equal reversed.symm
    rw [same other equal, counted other, users]
    simp [different]

theorem Counted.erase_none
    (counted : Counted stored uses table) (found : table[key]? = some item)
    (nothing : uses item = none) :
    Counted stored uses (table.erase key) := by
  intro other
  rw [counted other, users, users, countWhere_erase found]
  simp [nothing]

theorem Counted.erase_missing
    (counted : Counted stored uses table) (missing : table[key]? = none) :
    Counted stored uses (table.erase key) := by
  intro other
  rw [counted other, users, users]
  refine congrArg storedCount (countWhere_congr fun found item => ?_)
  rw [Std.TreeMap.getElem?_erase]
  split
  · rename_i same
    rw [← Std.compare_eq_iff_eq.mp same, missing]
  · rfl

/-- The count of a resource in use is positive. -/
theorem Counted.found
    (counted : Counted stored uses table) (found : table[key]? = some item)
    (used : uses item = some resource) :
    stored resource =
      some ((users uses (table.erase key) resource : Int) + 1) := by
  rw [counted resource, users, countWhere_erase found, storedCount]
  simp [used, users]

/-- An item is erased and the count of its resource goes down, to nothing if
it was the last user. -/
theorem Counted.erase
    (counted : Counted stored uses table) (found : table[key]? = some item)
    (used : uses item = some resource)
    (down :
      after resource =
        if (stored resource).getD 0 - 1 ≤ 0 then none
        else some ((stored resource).getD 0 - 1))
    (same : ∀ other, other ≠ resource → after other = stored other) :
    Counted after uses (table.erase key) := by
  intro other
  by_cases equal : other = resource
  · subst equal
    rw [down, counted.found found used, storedCount]
    have back :
        (some ((users uses (table.erase key) other : Int) + 1)).getD 0 - 1 =
          users uses (table.erase key) other := by
      simp
    rw [back]
    by_cases last : users uses (table.erase key) other = 0
    · simp [last]
    · have remaining :
          ¬ (users uses (table.erase key) other : Int) ≤ 0 := by
        omega
      rw [if_neg remaining, if_neg last]
  · have different : ¬ uses item = some other := by
      rw [used]
      simpa using fun reversed => equal reversed.symm
    rw [same other equal, counted other, users, users, countWhere_erase found]
    simp [different]

end RefCounts

end MiniMiddleware.Library
