import TextureGraph.Document.Basic

/-!
# Counters of numbers

The counter of a graph lies above every number in use until it reaches the last number of 32 bits,
where it stays and no further number is given out.
-/

namespace TextureGraph

/-- The last number of 32 bits, which is never given out. -/
def lastId : UInt32 := 4294967295

theorem nextId?_eq_none_iff {id : UInt32} : nextId? id = none ↔ id = lastId := by
  simp only [nextId?, ite_eq_right_iff, reduceCtorEq, imp_false, UInt32.size, lastId]
  rw [← UInt32.toNat_inj]
  have bound := id.toNat_lt
  simp only [UInt32.reduceToNat]
  omega

theorem ne_lastId_iff {id : UInt32} : id ≠ lastId ↔ id.toNat + 1 < UInt32.size := by
  rw [ne_eq, ← nextId?_eq_none_iff, nextId?]
  by_cases room : id.toNat + 1 < UInt32.size <;> simp [room]

theorem toNat_add_one {id : UInt32} (unfinished : id ≠ lastId) : (id + 1).toNat = id.toNat + 1 := by
  rw [UInt32.toNat_add]
  exact Nat.mod_eq_of_lt (ne_lastId_iff.mp unfinished)

theorem toNat_nextId?_getD (id : UInt32) :
    ((nextId? id).getD id).toNat = min (id.toNat + 1) lastId.toNat := by
  by_cases last : id = lastId
  · rw [last]
    rfl
  · have room : id.toNat + 1 ≤ lastId.toNat := Nat.le_of_lt_succ (ne_lastId_iff.mp last)
    rw [nextId?, if_pos (ne_lastId_iff.mp last), Option.getD_some, toNat_add_one last,
      Nat.min_eq_left room]

theorem nextId?_eq_some_iff {id next : UInt32} :
    nextId? id = some next ↔ id ≠ lastId ∧ id + 1 = next := by
  by_cases last : id = lastId
  · simp [last, nextId?_eq_none_iff.mpr]
  · simp [nextId?, ne_lastId_iff.mp last, last]

/-- Every number of a list lies below a counter, unless the counter has reached its end. -/
def CounterAbove (next : UInt32) (ids : List UInt32) : Prop :=
  next = lastId ∨ ∀ id ∈ ids, id < next

namespace CounterAbove

theorem nil (next : UInt32) : CounterAbove next [] :=
  .inr (by simp)

theorem anti {next : UInt32} {fewer more : List UInt32} (subset : fewer ⊆ more)
    (above : CounterAbove next more) : CounterAbove next fewer := by
  rcases above with last | below
  · exact .inl last
  · exact .inr fun id member => below id (subset member)

/-- The number that is given out next is not in use. -/
theorem next_notMem {next : UInt32} {ids : List UInt32} (above : CounterAbove next ids)
    (unfinished : next ≠ lastId) : next ∉ ids := by
  intro member
  rcases above with last | below
  · exact unfinished last
  · exact UInt32.lt_irrefl next (below next member)

/-- Giving out the next number keeps the counter above all numbers in use. -/
theorem append_next {next : UInt32} {ids : List UInt32} (above : CounterAbove next ids)
    (unfinished : next ≠ lastId) : CounterAbove (next + 1) (ids ++ [next]) := by
  have step : next < next + 1 := by grind [lastId]
  rcases above with last | below
  · exact absurd last unfinished
  · refine .inr fun id member => ?_
    rcases List.mem_append.mp member with old | new
    · exact UInt32.lt_trans (below id old) step
    · exact List.mem_singleton.mp new ▸ step

end CounterAbove

theorem max_eq_ite (left right : UInt32) :
    max left right = if left ≤ right then right else left := rfl

theorem toNat_max (left right : UInt32) : (max left right).toNat = max left.toNat right.toNat := by
  simp only [max_eq_ite, UInt32.le_iff_toNat_le, Nat.max_def]
  split <;> rfl

theorem toNat_foldl_max (start : UInt32) (ids : List UInt32) :
    (ids.foldl max start).toNat = (ids.map UInt32.toNat).foldl max start.toNat := by
  induction ids generalizing start with
  | nil => rfl
  | cons id ids induction =>
      rw [List.foldl_cons, List.map_cons, List.foldl_cons, induction, toNat_max]

theorem toNat_foldl_max_zero (ids : List UInt32) :
    (ids.foldl max 0).toNat = (ids.map UInt32.toNat).max?.getD 0 := by
  cases ids with
  | nil => rfl
  | cons id ids =>
      rw [List.foldl_cons, toNat_foldl_max, List.map_cons, List.max?_cons', Option.getD_some]
      rfl

theorem le_foldl_max (start : UInt32) (ids : List UInt32) :
    start ≤ ids.foldl max start ∧ ∀ id ∈ ids, id ≤ ids.foldl max start := by
  induction ids generalizing start with
  | nil => exact ⟨UInt32.le_refl start, by simp⟩
  | cons id ids induction =>
      obtain ⟨raised, members⟩ := induction (max start id)
      have start_le : start ≤ max start id := by grind [max_eq_ite]
      have id_le : id ≤ max start id := by grind [max_eq_ite]
      exact ⟨UInt32.le_trans start_le raised,
        List.forall_mem_cons.mpr ⟨UInt32.le_trans id_le raised, members⟩⟩

theorem foldl_max_lt {start bound : UInt32} {ids : List UInt32} (start_lt : start < bound)
    (below : ∀ id ∈ ids, id < bound) : ids.foldl max start < bound := by
  induction ids generalizing start with
  | nil => exact start_lt
  | cons id ids induction =>
      obtain ⟨id_lt, below⟩ := List.forall_mem_cons.mp below
      refine induction ?_ below
      rw [max_eq_ite]
      split
      · exact id_lt
      · exact start_lt

namespace Document

theorem raisedPast_eq (next : UInt32) (ids : List UInt32) :
    toGraph.raisedPast next ids =
      max next ((nextId? (ids.foldl max 0)).getD (ids.foldl max 0)) := rfl

/-- A stored counter raised past the largest of some numbers, as far as 32 bits allow, and to one at
least. -/
def repairedCounter (stored : UInt32) (ids : List UInt32) : Nat :=
  max (max stored.toNat (min ((ids.map UInt32.toNat).max?.getD 0 + 1) lastId.toNat)) 1

theorem toNat_raisedPast (stored : UInt32) (ids : List UInt32) :
    (toGraph.raisedPast stored ids).toNat = repairedCounter stored ids := by
  rw [raisedPast_eq, toNat_max, toNat_nextId?_getD, toNat_foldl_max_zero, repairedCounter]
  have last : lastId.toNat = 4294967295 := rfl
  omega

theorem raisedPast_pos (stored : UInt32) (ids : List UInt32) :
    0 < toGraph.raisedPast stored ids := by
  rw [UInt32.lt_iff_toNat_lt, toNat_raisedPast]
  exact Nat.le_max_right _ _

/-- A counter that lies above all numbers is not raised. -/
theorem raisedPast_eq_self {next : UInt32} {ids : List UInt32} (positive : 0 < next)
    (above : CounterAbove next ids) : toGraph.raisedPast next ids = next := by
  have last : lastId.toNat = 4294967295 := rfl
  have positive_toNat : 0 < next.toNat := UInt32.lt_iff_toNat_lt.mp positive
  rw [← UInt32.toNat_inj, toNat_raisedPast, repairedCounter, ← toNat_foldl_max_zero]
  rcases above with rfl | below
  · omega
  · have := UInt32.lt_iff_toNat_lt.mp (foldl_max_lt positive below)
    omega

/-- A loaded counter lies above every loaded number or has reached its end. -/
theorem counterAbove_raisedPast (next : UInt32) (ids : List UInt32) :
    CounterAbove (toGraph.raisedPast next ids) ids := by
  have largest := (le_foldl_max 0 ids).2
  rw [raisedPast_eq]
  generalize ids.foldl max 0 = bound at largest ⊢
  cases raised : nextId? bound with
  | none =>
      obtain rfl := nextId?_eq_none_iff.mp raised
      left
      change max next lastId = lastId
      grind [lastId, max_eq_ite]
  | some successor =>
      obtain ⟨unfinished, rfl⟩ := nextId?_eq_some_iff.mp raised
      right
      intro id member
      have below := largest id member
      change id < max next (bound + 1)
      grind [lastId, max_eq_ite]

end Document
end TextureGraph
