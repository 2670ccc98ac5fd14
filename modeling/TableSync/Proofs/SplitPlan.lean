import TableSync.Model.Window
import TableSync.Text.Unicode

/-!
Planning a table read: the splits partition the table's rows in order, and their 64-bit window ends
are exact precisely when the row count rounded up to a whole page fits.
-/

namespace TableSync

def TableSplit.rows (s : TableSplit) : List Nat := List.range' s.offset s.expectedRows

def plannedSplit (table : String) (recordCount pageSize index : Nat) : TableSplit :=
  { table, index, offset := index * pageSize, limit := pageSize,
    expectedRows := min pageSize (recordCount - index * pageSize), range := none }

section Plan

variable {table : String} {recordCount pageSize : Nat}

theorem planSplits_eq_ok (atLeast : 0 < pageSize) (atMost : pageSize ≤ maxPageSize) :
    planSplits table recordCount pageSize =
      .ok ((List.range (splitCount recordCount pageSize)).map (plannedSplit table recordCount pageSize)) := by
  have inside : (pageSize == 0 || decide (pageSize > maxPageSize)) = false := by
    simp only [Bool.or_eq_false_iff, beq_eq_false_iff_ne, decide_eq_false_iff_not]
    omega
  simp only [planSplits, validatePageSize, inside, Bool.false_eq_true, if_false]
  rfl

theorem planSplits_eq_error (outside : pageSize = 0 ∨ maxPageSize < pageSize) :
    planSplits table recordCount pageSize = .error (.invalidPageSize pageSize) := by
  have refused : (pageSize == 0 || decide (pageSize > maxPageSize)) = true := by
    simp only [Bool.or_eq_true, beq_iff_eq, decide_eq_true_eq]
    omega
  simp only [planSplits, validatePageSize, refused, if_true]
  rfl

theorem splitCount_mul_bounds (atLeast : 0 < pageSize) :
    recordCount ≤ splitCount recordCount pageSize * pageSize ∧
      splitCount recordCount pageSize * pageSize < recordCount + pageSize := by
  have parts := Nat.div_add_mod (recordCount + pageSize - 1) pageSize
  have rest := Nat.mod_lt (recordCount + pageSize - 1) atLeast
  unfold splitCount
  rw [Nat.mul_comm]
  generalize pageSize * ((recordCount + pageSize - 1) / pageSize) = rounded at parts ⊢
  omega

theorem offset_lt_of_lt_splitCount (atLeast : 0 < pageSize) {index : Nat}
    (planned : index < splitCount recordCount pageSize) : index * pageSize < recordCount := by
  have above := (@splitCount_mul_bounds recordCount pageSize atLeast).2
  have next : (index + 1) * pageSize ≤ splitCount recordCount pageSize * pageSize :=
    Nat.mul_le_mul_right pageSize planned
  rw [Nat.succ_mul] at next
  omega

theorem expectedRows_eq_pageSize (atLeast : 0 < pageSize) {index : Nat}
    (notLast : index + 1 < splitCount recordCount pageSize) :
    min pageSize (recordCount - index * pageSize) = pageSize := by
  have next := offset_lt_of_lt_splitCount atLeast notLast
  rw [Nat.succ_mul] at next
  omega

theorem flatMap_rows_range (count : Nat) :
    ((List.range count).map (plannedSplit table recordCount pageSize)).flatMap TableSplit.rows =
      List.range (min recordCount (count * pageSize)) := by
  induction count with
  | zero => simp
  | succ count ih =>
    rw [List.range_succ, List.map_append, List.flatMap_append, ih]
    simp only [List.map_cons, List.map_nil, List.flatMap_cons, List.flatMap_nil, List.append_nil,
      TableSplit.rows, plannedSplit, Nat.succ_mul]
    by_cases below : count * pageSize < recordCount
    · -- the next split continues where the others stopped
      have joined := @List.range'_append_1 0 (count * pageSize) (min pageSize (recordCount - count * pageSize))
      rw [Nat.zero_add] at joined
      rw [Nat.min_eq_right (Nat.le_of_lt below), List.range_eq_range', List.range_eq_range', joined]
      congr 1
      omega
    · have empty : min pageSize (recordCount - count * pageSize) = 0 := by omega
      rw [empty, List.range'_zero, List.append_nil]
      congr 1
      omega

theorem foldr_expectedRows (splits : List TableSplit) :
    (splits.map (·.expectedRows)).foldr (· + ·) 0 = (splits.flatMap TableSplit.rows).length := by
  induction splits with
  | nil => rfl
  | cons s rest ih => simp [TableSplit.rows, ih]

/-- Split planning partitions the table's rows into pages, in order. -/
theorem planSplits_partitions_rows (table : String) (recordCount pageSize : Nat) :
    (planSplits table recordCount pageSize = .error (.invalidPageSize pageSize) ↔
        pageSize = 0 ∨ maxPageSize < pageSize) ∧
    (0 < pageSize → pageSize ≤ maxPageSize →
      ∃ splits, planSplits table recordCount pageSize = .ok splits ∧
        recordCount ≤ splits.length * pageSize ∧ splits.length * pageSize < recordCount + pageSize ∧
        (∀ i (lt : i < splits.length),
          splits[i] = { table, index := i, offset := i * pageSize, limit := pageSize,
                        expectedRows := min pageSize (recordCount - i * pageSize), range := none } ∧
          i * pageSize < recordCount ∧ 0 < splits[i].expectedRows ∧
          (i + 1 < splits.length → splits[i].expectedRows = pageSize)) ∧
        splits.flatMap TableSplit.rows = List.range recordCount ∧
        (splits.map (·.expectedRows)).foldr (· + ·) 0 = recordCount) := by
  constructor
  · constructor
    · intro refused
      by_cases outside : pageSize = 0 ∨ maxPageSize < pageSize
      · exact outside
      · rw [planSplits_eq_ok (by omega) (by omega)] at refused
        cases refused
    · exact planSplits_eq_error
  · intro atLeast atMost
    have bounds := @splitCount_mul_bounds recordCount pageSize atLeast
    have covered : ((List.range (splitCount recordCount pageSize)).map
        (plannedSplit table recordCount pageSize)).flatMap TableSplit.rows = List.range recordCount := by
      rw [flatMap_rows_range, Nat.min_eq_left bounds.1]
    refine ⟨_, planSplits_eq_ok atLeast atMost, ?_⟩
    simp only [List.length_map, List.length_range]
    refine ⟨bounds.1, bounds.2, fun i lt => ?_, covered, by rw [foldr_expectedRows, covered, List.length_range]⟩
    have below := offset_lt_of_lt_splitCount atLeast lt
    simp only [List.getElem_map, List.getElem_range]
    refine ⟨rfl, below, ?_, fun notLast => expectedRows_eq_pageSize atLeast notLast⟩
    show 0 < min pageSize (recordCount - i * pageSize)
    omega

theorem twelve_thousand_rows_in_three_splits :
    0 < 5000 ∧ 5000 ≤ maxPageSize ∧
      ∃ splits, planSplits "sys_user" 12000 5000 = .ok splits ∧ splits.length = 3 ∧
        splits.flatMap TableSplit.rows = List.range 12000 := by
  obtain ⟨splits, planned, atLeastRows, belowNext, -, covered, -⟩ :=
    (planSplits_partitions_rows "sys_user" 12000 5000).2 (by decide) (by decide)
  exact ⟨by decide, by decide, splits, planned, by omega, covered⟩

end Plan

section WindowEnd

theorem FetchWindow.finish_eq_iff (w : FetchWindow) :
    w.finish = w.offset + w.limit ↔ w.offset + w.limit ≤ u64Bound := by
  have word : Nat.pow 2 64 = u64Bound + 1 := by decide
  unfold FetchWindow.finish
  rw [word]
  constructor
  · intro exact
    have bound : (w.offset + w.limit) % (u64Bound + 1) < u64Bound + 1 := Nat.mod_lt _ (by omega)
    omega
  · intro fits
    exact Nat.mod_eq_of_lt (by omega)

@[simp] theorem TableSplit.window_offset (s : TableSplit) : s.window.offset = s.offset := rfl

@[simp] theorem TableSplit.window_limit (s : TableSplit) : s.window.limit = s.limit := rfl

variable {table : String} {recordCount pageSize : Nat}

theorem plannedSplit_end (index : Nat) :
    (plannedSplit table recordCount pageSize index).offset + (plannedSplit table recordCount pageSize index).limit =
      (index + 1) * pageSize := by
  simp [plannedSplit, Nat.succ_mul]

/-- A plan's windows end exactly precisely when the row count rounded up to a whole page fits in
64 bits. -/
theorem window_ends_exact_iff_rounded_count_fits (table : String) (recordCount pageSize : Nat)
    (atLeast : 0 < pageSize) (atMost : pageSize ≤ maxPageSize) (splits : List TableSplit)
    (planned : planSplits table recordCount pageSize = .ok splits) :
    ((∀ s ∈ splits, s.offset + s.limit ≤ u64Bound) ↔ splits.length * pageSize ≤ u64Bound) ∧
      ((∀ s ∈ splits, s.window.finish = s.offset + s.limit) ↔ splits.length * pageSize ≤ u64Bound) ∧
      (recordCount + pageSize ≤ u64Bound + 1 → splits.length * pageSize ≤ u64Bound) := by
  rw [planSplits_eq_ok atLeast atMost, Except.ok.injEq] at planned
  subst planned
  have ends : (∀ s ∈ (List.range (splitCount recordCount pageSize)).map (plannedSplit table recordCount pageSize),
      s.offset + s.limit ≤ u64Bound) ↔ splitCount recordCount pageSize * pageSize ≤ u64Bound := by
    simp only [List.mem_map, List.mem_range, forall_exists_index, and_imp, forall_apply_eq_imp_iff₂,
      plannedSplit_end]
    constructor
    · intro fits
      cases count : splitCount recordCount pageSize with
      | zero => simp
      | succ last =>
        -- the last split's window ends furthest
        exact fits last (by omega)
    · intro fits index planned
      exact Nat.le_trans (Nat.mul_le_mul_right pageSize planned) fits
  simp only [List.length_map, List.length_range]
  refine ⟨ends, ?_, ?_⟩
  · rw [← ends]
    exact forall₂_congr fun s _ => FetchWindow.finish_eq_iff s.window
  · intro small
    have := (@splitCount_mul_bounds recordCount pageSize atLeast).2
    omega

theorem twelve_thousand_rows_end_exactly :
    0 < 5000 ∧ 5000 ≤ maxPageSize ∧
      ∃ splits, planSplits "incident" 12000 5000 = .ok splits ∧
        ∀ s ∈ splits, s.window.finish = s.offset + s.limit := by
  have planned := @planSplits_eq_ok "incident" 12000 5000 (by decide) (by decide)
  obtain ⟨-, exact, rounded⟩ :=
    window_ends_exact_iff_rounded_count_fits "incident" 12000 5000 (by decide) (by decide) _ planned
  exact ⟨by decide, by decide, _, planned, exact.mpr (rounded (by decide))⟩

/-- For the largest row count, the last window's end wraps around below its start. -/
theorem largest_count_last_window_wraps :
    ∃ splits, planSplits "incident" u64Bound 5000 = .ok splits ∧
      ∃ s ∈ splits, s.index = 3689348814741910 ∧ s.offset = 18446744073709550000 ∧
        s.expectedRows = 1615 ∧ u64Bound < s.offset + s.limit ∧ s.window.finish = 3384 := by
  refine ⟨_, planSplits_eq_ok (by decide) (by decide),
    plannedSplit "incident" u64Bound 5000 3689348814741910, ?_, ?_⟩
  · exact List.mem_map.mpr ⟨_, List.mem_range.mpr (by decide), rfl⟩
  · decide

end WindowEnd

end TableSync
