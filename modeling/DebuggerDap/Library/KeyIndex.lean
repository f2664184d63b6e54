import Mathlib.Data.List.Basic
import Mathlib.Logic.Function.Basic

/-!
# Shared objects and indexes by key

Objects live in a heap and are named by references, so that several
containers can hold the same object.

An index of a list files each member under its key.  It has one drawer for
every key in use and none for the other keys; a drawer may hold its members
in any order.
-/

namespace DebuggerDap.Library.KeyIndex

/-! ## The heap -/

/-- Objects by reference; the references below `size` are in use. -/
structure Heap (α : Type*) where
  size : Nat
  read : Nat → α

namespace Heap

variable {α β : Type*}

/-- A new object gets the reference `heap.size`. -/
def allocate (value : α) (heap : Heap α) : Heap α where
  size := heap.size + 1
  read := Function.update heap.read heap.size value

def modify (ref : Nat) (change : α → α) (heap : Heap α) : Heap α :=
  { heap with
    read := Function.update heap.read ref (change (heap.read ref)) }

@[simp]
theorem read_modify_self (ref : Nat) (change : α → α) (heap : Heap α) :
    (heap.modify ref change).read ref = change (heap.read ref) :=
  Function.update_self ref _ heap.read

theorem read_modify_of_ne
    {ref other : Nat}
    (different : other ≠ ref)
    (change : α → α)
    (heap : Heap α) :
    (heap.modify ref change).read other = heap.read other :=
  Function.update_of_ne different _ heap.read

/-- A field a change leaves alone is unchanged in every object. -/
theorem field_modify
    (field : α → β)
    {change : α → α}
    (kept : ∀ value, field (change value) = field value)
    (ref other : Nat)
    (heap : Heap α) :
    field ((heap.modify ref change).read other) =
      field (heap.read other) := by
  by_cases same : other = ref
  · subst same
    rw [read_modify_self, kept]
  · rw [read_modify_of_ne same]

@[simp]
theorem read_allocate_new (value : α) (heap : Heap α) :
    (heap.allocate value).read heap.size = value :=
  Function.update_self heap.size _ heap.read

theorem read_allocate_of_lt
    {ref : Nat}
    {heap : Heap α}
    (inUse : ref < heap.size)
    (value : α) :
    (heap.allocate value).read ref = heap.read ref :=
  Function.update_of_ne (Nat.ne_of_lt inUse) _ heap.read

end Heap

/-! ## Searching a drawer -/

/-- Erasing the first hit of a search erases what the search finds. -/
theorem eraseP_eq_erase
    {α : Type*}
    [DecidableEq α]
    {test : α → Bool}
    {items : List α}
    {item : α}
    (found : items.find? test = some item) :
    items.eraseP test = items.erase item := by
  induction items with
  | nil => rfl
  | cons head rest ih =>
      cases hit : test head with
      | true =>
          rw [List.find?_cons_of_pos hit] at found
          cases found
          rw [List.eraseP_cons_of_pos hit, List.erase_cons_head]
      | false =>
          have miss : ¬ test head = true := by simp [hit]
          rw [List.find?_cons_of_neg miss] at found
          have different : head ≠ item := by
            rintro rfl
            exact miss (List.find?_some found)
          rw [List.eraseP_cons_of_neg miss, ih found,
            List.erase_cons_tail (by simpa using different)]

/-- Erasing a hit of one search does not disturb a search for others. -/
theorem find?_eraseP_of_disjoint
    {α : Type*}
    {test other : α → Bool}
    (disjoint : ∀ item, test item = true → other item = false)
    (items : List α) :
    (items.eraseP test).find? other = items.find? other := by
  induction items with
  | nil => rfl
  | cons head rest ih =>
      cases hit : test head with
      | true =>
          rw [List.eraseP_cons_of_pos hit,
            List.find?_cons_of_neg (by simp [disjoint head hit])]
      | false =>
          rw [List.eraseP_cons_of_neg (by simp [hit]), List.find?_cons,
            List.find?_cons, ih]

/--
A search finds a hit exactly when it does not accept anything in front of it.
-/
theorem find?_eq_some_iff_takeWhile
    {α : Type*}
    [DecidableEq α]
    {test : α → Bool}
    {items : List α}
    {item : α}
    (member : item ∈ items)
    (hit : test item = true) :
    items.find? test = some item ↔
      ∀ earlier ∈ items.takeWhile (· ≠ item), test earlier = false := by
  induction items with
  | nil => cases member
  | cons head rest ih =>
      by_cases same : head = item
      · subst same
        rw [List.find?_cons_of_pos hit, List.takeWhile_cons_of_neg (by simp)]
        simp
      · have later : item ∈ rest :=
          (List.mem_cons.mp member).resolve_left (Ne.symm same)
        rw [List.takeWhile_cons_of_pos (by simpa using same)]
        cases accepted : test head with
        | true =>
            rw [List.find?_cons_of_pos accepted]
            simp [same, accepted]
        | false =>
            rw [List.find?_cons_of_neg (by simp [accepted]), ih later]
            simp [accepted]

/-- A test that accepts more, and one more member, selects more members. -/
theorem length_filter_lt
    {α : Type*}
    {items : List α}
    {fewer more : α → Bool}
    (weaker : ∀ item ∈ items, fewer item = true → more item = true)
    {extra : α}
    (member : extra ∈ items)
    (accepted : more extra = true)
    (rejected : fewer extra = false) :
    (items.filter fewer).length < (items.filter more).length := by
  have rest : items.filter fewer = (items.filter more).filter fewer := by
    rw [List.filter_filter]
    apply List.filter_congr
    intro item inside
    cases fewerItem : fewer item with
    | true => rw [weaker item inside fewerItem]; rfl
    | false => rfl
  have shorter :
      ((items.filter more).filter fewer).length <
        (items.filter more).length := by
    rw [List.length_filter_lt_length_iff_exists]
    exact ⟨extra, List.mem_filter.mpr ⟨member, accepted⟩, by simp [rejected]⟩
  rwa [← rest] at shorter

/-- Taking out what meets a test, one by one, leaves what does not. -/
theorem diff_filter
    {α : Type*}
    [DecidableEq α]
    (test : α → Bool)
    (items : List α) :
    items.diff (items.filter test) = items.filter fun item => !test item := by
  induction items with
  | nil => rfl
  | cons item items ih =>
      by_cases meets : test item = true
      · rw [List.filter_cons_of_pos meets, List.diff_cons,
          List.erase_cons_head, ih, List.filter_cons_of_neg (by simp [meets])]
      · have absent : item ∉ items.filter test :=
          fun member => meets (List.of_mem_filter member)
        rw [List.filter_cons_of_neg meets, List.cons_diff_of_not_mem absent,
          ih, List.filter_cons_of_pos (by simp [meets])]

/-- Erasing one entry leaves a filtered list if the filter drops just it. -/
theorem erase_eq_filter_iff
    {α : Type*}
    [DecidableEq α]
    {item : α}
    {items : List α}
    (member : item ∈ items)
    (test : α → Bool) :
    items.erase item = (items.filter fun other => !test other) ↔
      items.filter test = [item] := by
  constructor
  · intro same
    have parts := List.length_eq_length_filter_add (l := items) test
    have shorter := List.length_erase_of_mem member
    have positive := List.length_pos_of_mem member
    rw [same] at shorter
    have single : (items.filter test).length = 1 := by omega
    rcases List.length_eq_one_iff.mp single with ⟨only, dropped⟩
    have meets : test only = true ∧ only ∈ items := by
      have inside : only ∈ items.filter test := by
        rw [dropped]
        exact List.mem_cons_self
      exact ⟨List.of_mem_filter inside, List.mem_of_mem_filter inside⟩
    have different : only ∉ items.erase item := by
      rw [same, List.mem_filter]
      simp [meets.1]
    have equal : only = item := by
      by_contra apart
      exact different ((List.mem_erase_of_ne apart).mpr meets.2)
    rw [dropped, equal]
  · intro only
    rw [← diff_filter, only, List.diff_cons, List.diff_nil]

/-! ## Indexes -/

variable {α κ : Type*} [DecidableEq κ]

/-- The members with a key, in the order of the list. -/
def having (key : α → κ) (items : List α) (wanted : κ) : List α :=
  items.filter fun item => key item = wanted

section Having

variable {key : α → κ} {items : List α} {item : α} {wanted : κ}

theorem mem_having :
    item ∈ having key items wanted ↔ item ∈ items ∧ key item = wanted := by
  simp [having]

theorem having_congr
    {other : α → κ}
    (same : ∀ item ∈ items, other item = key item)
    (wanted : κ) :
    having other items wanted = having key items wanted :=
  List.filter_congr fun item member => by rw [same item member]

theorem having_append_self (key : α → κ) (items : List α) (item : α) :
    having key (items ++ [item]) (key item) =
      having key items (key item) ++ [item] := by
  simp [having]

theorem having_append_of_ne
    (different : wanted ≠ key item)
    (items : List α) :
    having key (items ++ [item]) wanted = having key items wanted := by
  simp [having, different.symm]

theorem having_erase [DecidableEq α] (item : α) (wanted : κ) :
    having key (items.erase item) wanted =
      (having key items wanted).erase item :=
  List.erase_filter.symm

theorem having_erase_of_ne
    [DecidableEq α]
    (different : wanted ≠ key item) :
    having key (items.erase item) wanted = having key items wanted := by
  rw [having_erase, List.erase_of_not_mem]
  exact fun member => different (mem_having.mp member).2.symm

end Having

/-- The index has a drawer with the members of every key in use. -/
structure Indexes
    (key : α → κ)
    (items : List α)
    (lookup : κ → Option (List α)) : Prop where
  filed :
    ∀ wanted, ((lookup wanted).getD []).Perm (having key items wanted)
  inhabited : ∀ wanted, lookup wanted ≠ some []

namespace Indexes

variable {key : α → κ} {items : List α}
variable {lookup after : κ → Option (List α)}
variable {item : α} {wanted : κ} {drawer : List α}

theorem nil (key : α → κ) : Indexes key [] fun _ => none where
  filed _ := List.Perm.refl []
  inhabited _ := nofun

theorem perm_of_lookup
    (indexes : Indexes key items lookup)
    (found : lookup wanted = some drawer) :
    drawer.Perm (having key items wanted) := by
  have filed := indexes.filed wanted
  rwa [found] at filed

/-- A member has a drawer, and is in it. -/
theorem exists_drawer
    (indexes : Indexes key items lookup)
    (member : item ∈ items) :
    ∃ drawer, lookup (key item) = some drawer ∧ item ∈ drawer := by
  have inside : item ∈ having key items (key item) :=
    mem_having.mpr ⟨member, rfl⟩
  cases found : lookup (key item) with
  | none =>
      have filed := indexes.filed (key item)
      rw [found] at filed
      exact absurd (filed.mem_iff.mpr inside) List.not_mem_nil
  | some drawer =>
      exact ⟨drawer, rfl, (indexes.perm_of_lookup found).mem_iff.mpr inside⟩

theorem lookup_eq_none_iff (indexes : Indexes key items lookup) :
    lookup wanted = none ↔ ∀ item ∈ items, key item ≠ wanted := by
  constructor
  · intro absent item member same
    rcases indexes.exists_drawer member with ⟨drawer, found, -⟩
    rw [same, absent] at found
    cases found
  · intro unused
    cases found : lookup wanted with
    | none => rfl
    | some drawer =>
        have empty : having key items wanted = [] :=
          List.filter_eq_nil_iff.mpr fun item member => by
            simpa using unused item member
        have none := (indexes.perm_of_lookup found).trans (.of_eq empty)
        exact absurd (by rw [found, none.eq_nil]) (indexes.inhabited wanted)

/-- An index depends on the keys of the members only. -/
theorem of_key_eq
    (indexes : Indexes key items lookup)
    {other : α → κ}
    (same : ∀ item ∈ items, other item = key item) :
    Indexes other items lookup where
  filed wanted := by
    rw [having_congr same]
    exact indexes.filed wanted
  inhabited := indexes.inhabited

/-- File one more member. -/
theorem push
    (indexes : Indexes key items lookup)
    (here :
      after (key item) = some ((lookup (key item)).getD [] ++ [item]))
    (elsewhere : ∀ wanted, wanted ≠ key item → after wanted = lookup wanted) :
    Indexes key (items ++ [item]) after where
  filed wanted := by
    by_cases same : wanted = key item
    · subst same
      rw [here, having_append_self]
      exact (indexes.filed (key item)).append_right [item]
    · rw [elsewhere wanted same, having_append_of_ne same]
      exact indexes.filed wanted
  inhabited wanted := by
    by_cases same : wanted = key item
    · subst same
      simp [here]
    · rw [elsewhere wanted same]
      exact indexes.inhabited wanted

/-- Take a member out; its drawer goes with the last member. -/
theorem erase
    [DecidableEq α]
    (indexes : Indexes key items lookup)
    (found : lookup (key item) = some drawer)
    (here :
      after (key item) =
        if drawer.erase item = [] then none else some (drawer.erase item))
    (elsewhere : ∀ wanted, wanted ≠ key item → after wanted = lookup wanted) :
    Indexes key (items.erase item) after where
  filed wanted := by
    by_cases same : wanted = key item
    · subst same
      have erased := (indexes.perm_of_lookup found).erase item
      rw [← having_erase] at erased
      rw [here]
      split
      · next empty => rwa [empty] at erased
      · exact erased
    · rw [elsewhere wanted same, having_erase_of_ne same]
      exact indexes.filed wanted
  inhabited wanted := by
    by_cases same : wanted = key item
    · subst same
      rw [here]
      split
      · nofun
      · next nonempty => simpa using nonempty
    · rw [elsewhere wanted same]
      exact indexes.inhabited wanted

end Indexes

end DebuggerDap.Library.KeyIndex
