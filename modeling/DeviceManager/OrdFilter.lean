import DeviceManager.Floating
import Mathlib.Data.List.GetD
import Mathlib.Data.List.Count
import Mathlib.Order.Monotone.Basic
import Mathlib.Data.Fintype.Basic
import Mathlib.Tactic.FinCases
import Mathlib.Tactic.Linarith
import Mathlib.Data.Fin.VecNotation

namespace DeviceManager.OrdFilter

open Floating

def FILTER_WINDOW_SIZE : Nat := 7

structure Level (α : Type) where
  tanAngleThreshold : α
  neighbors : Nat
  pointNumThreshold : Nat

structure Resolution (α : Type) where
  angleResSin : α
  angleResCos : α
  abnormalPointDiff : UInt16

section

variable {α : Type} [LT α] [DecidableLT α] [Sub α] [Mul α] [Div α] [Floating α]

def float (q : ℚ) : α := single (literal q)

/-- The first `switch`; a level that it does not know sets nothing but a threshold of zero. -/
def levelOf (filterLevel : UInt32) : Level α :=
  if filterLevel = 1 then ⟨float 0.03492076949175, 0, 4⟩
  else if filterLevel = 2 then ⟨float 0.03492076949175, 0, 3⟩
  else if filterLevel = 3 then ⟨float 0.052407779283041, 0, 3⟩
  else if filterLevel = 4 then ⟨float 0.052407779283041, 1, 3⟩
  else if filterLevel = 5 then ⟨float 0.096289048197539, 1, 3⟩
  else ⟨float 0, 0, 0⟩

/-- The second `switch`, and the test in front of it. -/
def resolutionOf (motorSpeed : UInt32) : Option (Resolution α) :=
  if motorSpeed = 10 then some ⟨float (-0.002073449665673), float 0.999997850400932, 15⟩
  else if motorSpeed = 15 then some ⟨float (-0.003110171712830), float 0.999995163404262, 30⟩
  else if motorSpeed = 20 then some ⟨float (-0.004146890417175), float 0.999991401612968, 25⟩
  else if motorSpeed = 25 then some ⟨float (-0.005183604664443), float 0.999986565031092, 35⟩
  else if motorSpeed = 30 then some ⟨float (-0.006220313340373), float 0.999980653663833, 40⟩
  else none

def absDiff (a b : UInt16) : UInt16 := if b < a then a - b else b - a

/-- The tangent of the angle between two points, computed in `float`. -/
def tanAngle (r : Resolution α) (cur cmp : UInt16) : α :=
  single (single (ofNat cur.toNat * r.angleResSin) /
    single (ofNat cmp.toNat - single (ofNat cur.toNat * r.angleResCos)))

def abnormal (l : Level α) (r : Resolution α) (cur cmp : UInt16) : Bool :=
  decide (tanAngle r cur cmp < l.tanAngleThreshold) &&
    decide (single (literal (-1) * l.tanAngleThreshold) < tanAngle r cur cmp)

/-- The loop over the window with its two sums. -/
def window (l : Level α) (r : Resolution α) (temp : List UInt16) (i : Nat) :
    List Nat → Nat → Nat → Bool
  | [], _, _ => false
  | pos :: poss, left, right =>
    if pos = i ∨ temp.getD i 0 = 0 then window l r temp i poss left right
    else
      let hit := abnormal l r (temp.getD i 0) (temp.getD pos 0)
      let left := if hit && decide (pos < i) then left + 1 else left
      let right := if hit && !decide (pos < i) then right + 1 else right
      if l.pointNumThreshold ≤ left ∨ l.pointNumThreshold ≤ right then true
      else window l r temp i poss left right

/-- A point close to both of its neighbours that is not near. -/
def smooth (r : Resolution α) (temp : List UInt16) (i : Nat) : Bool :=
  decide (absDiff (temp.getD i 0) (temp.getD (i + 1) 0) < r.abnormalPointDiff) &&
    decide (absDiff (temp.getD i 0) (temp.getD (i - 1) 0) < r.abnormalPointDiff) &&
      decide (500 < temp.getD i 0)

/-- The loop that sets a point and its neighbours to zero. -/
def clear (neighbors : Nat) (distances : List UInt16) (i : Nat) : List UInt16 :=
  (List.range (2 * neighbors + 1)).foldl (fun d num => d.set (i - neighbors + num) 0) distances

/-- A turn of the outer loop. -/
def turn (l : Level α) (r : Resolution α) (temp distances : List UInt16) (i : Nat) :
    List UInt16 :=
  if smooth r temp i then distances
  else if window l r temp i (List.range' (i - FILTER_WINDOW_SIZE / 2) FILTER_WINDOW_SIZE) 0 0 then
    clear l.neighbors distances i
  else distances

end

/-- `point_cloud_filter`; the computations of angles are done in `α`. -/
def pointCloudFilter (α : Type) [LT α] [DecidableLT α] [Sub α] [Mul α] [Div α] [Floating α]
    (filterLevel motorSpeed : UInt32) (distances : List UInt16) : List UInt16 :=
  if distances.length < FILTER_WINDOW_SIZE then distances
  else if filterLevel = 0 then distances
  else
    match (resolutionOf motorSpeed : Option (Resolution α)) with
    | none => distances
    | some r =>
      (List.range' (FILTER_WINDOW_SIZE / 2)
        (distances.length - 2 * (FILTER_WINDOW_SIZE / 2))).foldl
          (turn (levelOf filterLevel) r distances) distances

section

variable {α : Type} [LT α] [DecidableLT α] [Sub α] [Mul α] [Div α] [Floating α]

def hits (l : Level α) (r : Resolution α) (temp : List UInt16) (i : Nat) (poss : List Nat) : Nat :=
  poss.countP fun pos => abnormal l r (temp.getD i 0) (temp.getD pos 0)

/-- A point that the filter takes for an outlier: it is not smooth, and enough of the three points
on one side make a small angle with it. -/
def Outlier (l : Level α) (r : Resolution α) (temp : List UInt16) (i : Nat) : Prop :=
  smooth r temp i = false ∧ temp.getD i 0 ≠ 0 ∧
    (l.pointNumThreshold ≤ hits l r temp i (List.range' (i - 3) 3) ∨
      l.pointNumThreshold ≤ hits l r temp i (List.range' (i + 1) 3))

variable (l : Level α) (r : Resolution α) (temp : List UInt16)

def removes (i : Nat) : Bool :=
  !smooth r temp i &&
    window l r temp i (List.range' (i - FILTER_WINDOW_SIZE / 2) FILTER_WINDOW_SIZE) 0 0

theorem turn_eq (distances : List UInt16) (i : Nat) : turn l r temp distances i =
    if removes l r temp i then clear l.neighbors distances i else distances := by
  unfold turn removes
  cases smooth r temp i with
  | true => rfl
  | false => rfl

theorem getD_foldl_set (f : Nat → Nat) (nums : List Nat) (distances : List UInt16) (j : Nat) :
    (nums.foldl (fun d num => d.set (f num) 0) distances).getD j 0 =
      if j ∈ nums.map f then 0 else distances.getD j 0 := by
  induction nums generalizing distances with
  | nil => rfl
  | cons num nums ih =>
    rw [List.foldl_cons, ih, List.map_cons]
    by_cases hmem : j ∈ nums.map f
    · rw [if_pos hmem, if_pos (List.mem_cons_of_mem _ hmem)]
    · rw [if_neg hmem]
      by_cases hj : j = f num
      · rw [if_pos (by rw [hj]; exact List.mem_cons_self ..), hj, List.getD_eq_getElem?_getD,
          List.getElem?_set_self']
        cases distances[f num]? with
        | none => rfl
        | some => rfl
      · rw [if_neg (by rw [List.mem_cons, not_or]; exact ⟨hj, hmem⟩), List.getD_eq_getElem?_getD,
          List.getElem?_set_ne (Ne.symm hj), List.getD_eq_getElem?_getD]

theorem length_foldl_set (f : Nat → Nat) (nums : List Nat) (distances : List UInt16) :
    (nums.foldl (fun d num => d.set (f num) 0) distances).length = distances.length := by
  induction nums generalizing distances with
  | nil => rfl
  | cons num nums ih => rw [List.foldl_cons, ih, List.length_set]

theorem mem_cleared {neighbors i j : Nat} (h : neighbors ≤ i) :
    j ∈ (List.range (2 * neighbors + 1)).map (fun num => i - neighbors + num) ↔
      i ≤ j + neighbors ∧ j ≤ i + neighbors := by
  rw [List.mem_map]
  constructor
  · rintro ⟨num, hnum, rfl⟩
    rw [List.mem_range] at hnum
    omega
  · rintro ⟨hle, hge⟩
    refine ⟨j + neighbors - i, ?_, by omega⟩
    rw [List.mem_range]
    omega

/-- Some point of a list that is removed takes the point at `j` with it. -/
def Reached (is : List Nat) (j : Nat) : Prop :=
  ∃ i ∈ is, removes l r temp i = true ∧ i ≤ j + l.neighbors ∧ j ≤ i + l.neighbors

instance (is : List Nat) (j : Nat) : Decidable (Reached l r temp is j) :=
  inferInstanceAs (Decidable (∃ i ∈ is, _))

theorem getD_turns {is : List Nat} (his : ∀ i ∈ is, l.neighbors ≤ i) (distances : List UInt16)
    (j : Nat) : (is.foldl (turn l r temp) distances).getD j 0 =
      if Reached l r temp is j then 0 else distances.getD j 0 := by
  induction is generalizing distances with
  | nil =>
    rw [if_neg]
    · rfl
    · rintro ⟨i, hi, -⟩
      cases hi
  | cons i is ih =>
    have hi := his i (List.mem_cons_self ..)
    rw [List.foldl_cons, ih fun k hk => his k (List.mem_cons_of_mem _ hk), turn_eq]
    by_cases hlater : Reached l r temp is j
    · have hall : Reached l r temp (i :: is) j := by
        obtain ⟨k, hk, hreach⟩ := hlater
        exact ⟨k, List.mem_cons_of_mem _ hk, hreach⟩
      rw [if_pos hlater, if_pos hall]
    · rw [if_neg hlater]
      by_cases hremoved : removes l r temp i = true
      · rw [if_pos hremoved, clear, getD_foldl_set (fun num => i - l.neighbors + num)]
        by_cases hreach : i ≤ j + l.neighbors ∧ j ≤ i + l.neighbors
        · rw [if_pos ((mem_cleared hi).mpr hreach),
            if_pos ⟨i, List.mem_cons_self .., hremoved, hreach⟩]
        · rw [if_neg (mt (mem_cleared hi).mp hreach), if_neg]
          rintro ⟨k, hk, hkeep⟩
          rcases List.mem_cons.mp hk with rfl | hk
          · exact hreach hkeep.2
          · exact hlater ⟨k, hk, hkeep⟩
      · rw [if_neg hremoved, if_neg]
        rintro ⟨k, hk, hkeep⟩
        rcases List.mem_cons.mp hk with rfl | hk
        · exact hremoved hkeep.1
        · exact hlater ⟨k, hk, hkeep⟩

theorem length_turns (is : List Nat) (distances : List UInt16) :
    (is.foldl (turn l r temp) distances).length = distances.length := by
  induction is generalizing distances with
  | nil => rfl
  | cons i is ih =>
    rw [List.foldl_cons, ih, turn_eq]
    split
    · exact length_foldl_set _ _ _
    · rfl

theorem hits_cons (i pos : Nat) (poss : List Nat) : hits l r temp i (pos :: poss) =
    hits l r temp i poss +
      if abnormal l r (temp.getD i 0) (temp.getD pos 0) = true then 1 else 0 := List.countP_cons

theorem hits_filter {i : Nat} {poss : List Nat} (h : ¬ ∃ pos ∈ poss, pos ≠ i) :
    hits l r temp i (poss.filter (· < i)) = 0 ∧ hits l r temp i (poss.filter (i < ·)) = 0 := by
  have hall : ∀ pos ∈ poss, pos = i := fun pos hpos => by
    by_contra hne
    exact h ⟨pos, hpos, hne⟩
  constructor
  · rw [List.filter_eq_nil_iff.mpr fun pos hpos => by simp [hall pos hpos]]
    rfl
  · rw [List.filter_eq_nil_iff.mpr fun pos hpos => by simp [hall pos hpos]]
    rfl

/-- Sums that only grow: to stop once one is large enough is to look at the ends. -/
theorem stop_iff {c left right moreLeft moreRight : Nat} {more : Prop} {rest : Bool}
    (hnone : ¬ more → moreLeft = 0 ∧ moreRight = 0)
    (hrest : rest = true ↔ more ∧ (c ≤ left + moreLeft ∨ c ≤ right + moreRight)) :
    (if c ≤ left ∨ c ≤ right then true else rest) = true ↔
      c ≤ left + moreLeft ∨ c ≤ right + moreRight := by
  by_cases hstop : c ≤ left ∨ c ≤ right
  · rw [if_pos hstop]
    simp only [true_iff]
    omega
  · rw [if_neg hstop, hrest]
    constructor
    · exact And.right
    · intro hlarge
      refine ⟨?_, hlarge⟩
      by_contra hmore
      obtain ⟨hleft, hright⟩ := hnone hmore
      rw [hleft, hright] at hlarge
      exact hstop hlarge

/-- The early exit of the loop over the window makes no difference. -/
theorem window_iff {i : Nat} (hcur : temp.getD i 0 ≠ 0) (poss : List Nat) (left right : Nat) :
    window l r temp i poss left right = true ↔ (∃ pos ∈ poss, pos ≠ i) ∧
      (l.pointNumThreshold ≤ left + hits l r temp i (poss.filter (· < i)) ∨
        l.pointNumThreshold ≤ right + hits l r temp i (poss.filter (i < ·))) := by
  induction poss generalizing left right with
  | nil => simp [window]
  | cons pos poss ih =>
    rw [window]
    by_cases heq : pos = i
    · have hskip : pos = i ∨ temp.getD i 0 = 0 := Or.inl heq
      have hex : (∃ p ∈ pos :: poss, p ≠ i) ↔ ∃ p ∈ poss, p ≠ i := by
        simp [heq]
      rw [if_pos hskip, ih, hex, List.filter_cons_of_neg (by simp [heq]),
        List.filter_cons_of_neg (by simp [heq])]
    · have hne : ¬ (pos = i ∨ temp.getD i 0 = 0) := by
        rw [not_or]
        exact ⟨heq, hcur⟩
      have hex : ∃ p ∈ pos :: poss, p ≠ i := ⟨pos, List.mem_cons_self .., heq⟩
      rw [if_neg hne]
      simp only [hex, true_and]
      rw [stop_iff (hits_filter l r temp) (ih _ _)]
      rcases Nat.lt_or_gt_of_ne heq with hlt | hgt
      · have hnot : ¬ i < pos := Nat.not_lt.mpr (Nat.le_of_lt hlt)
        simp only [hlt, hnot, decide_true, decide_false, Bool.and_true, Bool.not_true,
          Bool.and_false, List.filter_cons, if_true, Bool.false_eq_true, if_false, hits_cons]
        split <;> simp only [Nat.add_zero, Nat.add_assoc, Nat.add_comm 1]
      · have hnot : ¬ pos < i := Nat.not_lt.mpr (Nat.le_of_lt hgt)
        simp only [hgt, hnot, decide_true, decide_false, Bool.and_true, Bool.not_false,
          Bool.and_false, List.filter_cons, if_true, Bool.false_eq_true, if_false, hits_cons]
        split <;> simp only [Nat.add_zero, Nat.add_assoc, Nat.add_comm 1]

theorem window_zero {i : Nat} (hcur : temp.getD i 0 = 0) (poss : List Nat) (left right : Nat) :
    window l r temp i poss left right = false := by
  induction poss generalizing left right with
  | nil => rfl
  | cons pos poss ih => rw [window, if_pos (Or.inr hcur), ih]

theorem filter_window (k : Nat) :
    (List.range' k FILTER_WINDOW_SIZE).filter (· < 3 + k) = List.range' k 3 ∧
      (List.range' k FILTER_WINDOW_SIZE).filter (3 + k < ·) = List.range' (3 + k + 1) 3 := by
  have hsplit : List.range' k FILTER_WINDOW_SIZE =
      List.range' k 3 ++ (3 + k) :: List.range' (3 + k + 1) 3 := by
    rw [Nat.add_comm 3]
    rfl
  have hlow : ∀ pos ∈ List.range' k 3, pos < 3 + k := fun pos hpos => by
    rw [List.mem_range'_1] at hpos
    omega
  have hhigh : ∀ pos ∈ List.range' (3 + k + 1) 3, 3 + k < pos := fun pos hpos => by
    rw [List.mem_range'_1] at hpos
    omega
  rw [hsplit, List.filter_append, List.filter_append, List.filter_cons_of_neg (by simp),
    List.filter_cons_of_neg (by simp)]
  constructor
  · rw [List.filter_eq_self.mpr fun pos hpos => decide_eq_true (hlow pos hpos),
      List.filter_eq_nil_iff.mpr fun pos hpos => by simpa using Nat.le_of_lt (hhigh pos hpos),
      List.append_nil]
  · rw [List.filter_eq_self.mpr fun pos hpos => decide_eq_true (hhigh pos hpos),
      List.filter_eq_nil_iff.mpr fun pos hpos => by simpa using Nat.le_of_lt (hlow pos hpos),
      List.nil_append]

theorem removes_iff {i : Nat} (hi : 3 ≤ i) :
    removes l r temp i = true ↔ Outlier l r temp i := by
  obtain ⟨k, rfl⟩ := Nat.exists_eq_add_of_le hi
  unfold removes Outlier
  rw [Bool.and_eq_true, Bool.not_eq_true']
  apply and_congr_right
  intro _
  by_cases hcur : temp.getD (3 + k) 0 = 0
  · simp only [window_zero _ _ _ hcur, hcur, ne_eq, not_true_eq_false, false_and,
      Bool.false_eq_true]
  · obtain ⟨hleft, hright⟩ := filter_window k
    have hstart : 3 + k - FILTER_WINDOW_SIZE / 2 = k := Nat.add_sub_cancel_left 3 k
    have hother : ∃ pos ∈ List.range' k FILTER_WINDOW_SIZE, pos ≠ 3 + k :=
      ⟨k, List.mem_range'_1.mpr ⟨Nat.le_refl k, by rw [FILTER_WINDOW_SIZE]; omega⟩, by omega⟩
    rw [hstart, window_iff _ _ _ hcur, hleft, hright, Nat.zero_add, Nat.zero_add,
      Nat.add_sub_cancel_left]
    simp only [hother, true_and, ne_eq, hcur, not_false_eq_true]

/-- A point that the filter sets to zero: it or a neighbour is an outlier that is not among the
first or the last three. -/
def Filtered (j : Nat) : Prop :=
  ∃ i, 3 ≤ i ∧ i + 3 < temp.length ∧ Outlier l r temp i ∧ i ≤ j + l.neighbors ∧ j ≤ i + l.neighbors

theorem reached_iff (h : FILTER_WINDOW_SIZE ≤ temp.length) (j : Nat) :
    Reached l r temp (List.range' (FILTER_WINDOW_SIZE / 2)
      (temp.length - 2 * (FILTER_WINDOW_SIZE / 2))) j ↔ Filtered l r temp j := by
  have hwindow : FILTER_WINDOW_SIZE / 2 = 3 := rfl
  rw [FILTER_WINDOW_SIZE] at h
  rw [hwindow]
  constructor
  · rintro ⟨i, hi, hremoved, hreach⟩
    rw [List.mem_range'_1] at hi
    exact ⟨i, hi.1, by omega, (removes_iff l r temp hi.1).mp hremoved, hreach⟩
  · rintro ⟨i, hfirst, hlast, houtlier, hreach⟩
    exact ⟨i, List.mem_range'_1.mpr ⟨hfirst, by omega⟩, (removes_iff l r temp hfirst).mpr houtlier,
      hreach⟩

omit [LT α] [DecidableLT α] [Sub α] [Mul α] [Div α] in
theorem neighbors_le (filterLevel : UInt32) : (levelOf filterLevel : Level α).neighbors ≤ 1 := by
  unfold levelOf
  split_ifs <;> simp

end

section

variable (α : Type) [LT α] [DecidableLT α] [Sub α] [Mul α] [Div α] [Floating α]

theorem length_pointCloudFilter (filterLevel motorSpeed : UInt32) (distances : List UInt16) :
    (pointCloudFilter α filterLevel motorSpeed distances).length = distances.length := by
  unfold pointCloudFilter
  split_ifs
  · rfl
  · rfl
  · cases (resolutionOf motorSpeed : Option (Resolution α)) with
    | none => rfl
    | some r => exact length_turns _ _ _ _ _

theorem pointCloudFilter_eq {filterLevel motorSpeed : UInt32} (hlevel : filterLevel ≠ 0)
    {r : Resolution α} (hspeed : resolutionOf motorSpeed = some r) {distances : List UInt16}
    (h : FILTER_WINDOW_SIZE ≤ distances.length) :
    pointCloudFilter α filterLevel motorSpeed distances =
      (List.range' (FILTER_WINDOW_SIZE / 2)
        (distances.length - 2 * (FILTER_WINDOW_SIZE / 2))).foldl
          (turn (levelOf filterLevel) r distances) distances := by
  unfold pointCloudFilter
  rw [if_neg (Nat.not_lt.mpr h), if_neg hlevel, hspeed]

theorem getD_pointCloudFilter {filterLevel motorSpeed : UInt32} (hlevel : filterLevel ≠ 0)
    {r : Resolution α} (hspeed : resolutionOf motorSpeed = some r) (distances : List UInt16)
    (j : Nat) : Filtered (levelOf filterLevel) r distances j ∧
        (pointCloudFilter α filterLevel motorSpeed distances).getD j 0 = 0 ∨
      ¬ Filtered (levelOf filterLevel) r distances j ∧
        (pointCloudFilter α filterLevel motorSpeed distances).getD j 0 = distances.getD j 0 := by
  by_cases hshort : distances.length < FILTER_WINDOW_SIZE
  · right
    rw [pointCloudFilter, if_pos hshort]
    refine ⟨?_, rfl⟩
    rintro ⟨i, hfirst, hlast, -⟩
    rw [FILTER_WINDOW_SIZE] at hshort
    omega
  · have his : ∀ i ∈ List.range' (FILTER_WINDOW_SIZE / 2)
        (distances.length - 2 * (FILTER_WINDOW_SIZE / 2)),
        (levelOf filterLevel : Level α).neighbors ≤ i := fun i hi => by
      have hle := neighbors_le (α := α) filterLevel
      have hwindow : FILTER_WINDOW_SIZE / 2 = 3 := rfl
      rw [hwindow, List.mem_range'_1] at hi
      omega
    rw [pointCloudFilter_eq α hlevel hspeed (Nat.not_lt.mp hshort), getD_turns _ _ _ his]
    have hreached := reached_iff (levelOf filterLevel) r distances (Nat.not_lt.mp hshort) j
    by_cases hfiltered : Filtered (levelOf filterLevel) r distances j
    · exact Or.inl ⟨hfiltered, if_pos (hreached.mpr hfiltered)⟩
    · exact Or.inr ⟨hfiltered, if_neg (mt hreached.mp hfiltered)⟩

def Removed (filterLevel motorSpeed : UInt32) (distances : List UInt16) (j : Nat) : Prop :=
  filterLevel ≠ 0 ∧ ∃ r : Resolution α, resolutionOf motorSpeed = some r ∧
    Filtered (levelOf filterLevel) r distances j

theorem pointCloudFilter_cases (filterLevel motorSpeed : UInt32) (distances : List UInt16)
    (j : Nat) : Removed α filterLevel motorSpeed distances j ∧
        (pointCloudFilter α filterLevel motorSpeed distances).getD j 0 = 0 ∨
      ¬ Removed α filterLevel motorSpeed distances j ∧
        (pointCloudFilter α filterLevel motorSpeed distances).getD j 0 = distances.getD j 0 := by
  by_cases hlevel : filterLevel = 0
  · refine Or.inr ⟨fun h => h.1 hlevel, ?_⟩
    rw [pointCloudFilter, if_pos hlevel, ite_self]
  · cases hspeed : (resolutionOf motorSpeed : Option (Resolution α)) with
    | none =>
      refine Or.inr ⟨?_, ?_⟩
      · rintro ⟨-, r, hr, -⟩
        rw [hspeed] at hr
        cases hr
      · rw [pointCloudFilter, hspeed, ite_self, ite_self]
    | some r =>
      rcases getD_pointCloudFilter α hlevel hspeed distances j with ⟨hin, hzero⟩ | ⟨hnot, hsame⟩
      · exact Or.inl ⟨⟨hlevel, r, hspeed, hin⟩, hzero⟩
      · refine Or.inr ⟨?_, hsame⟩
        rintro ⟨-, r', hr', hin⟩
        rw [hspeed] at hr'
        cases hr'
        exact hnot hin

/-- The filter only sets points to zero: those that are outliers of the unfiltered turn, with their
neighbours. -/
theorem pointCloudFilter_points (filterLevel motorSpeed : UInt32) (distances : List UInt16) :
    (pointCloudFilter α filterLevel motorSpeed distances).length = distances.length ∧
      ∀ j, Removed α filterLevel motorSpeed distances j ∧
          (pointCloudFilter α filterLevel motorSpeed distances).getD j 0 = 0 ∨
        ¬ Removed α filterLevel motorSpeed distances j ∧
          (pointCloudFilter α filterLevel motorSpeed distances).getD j 0 = distances.getD j 0 :=
  ⟨length_pointCloudFilter α filterLevel motorSpeed distances,
    pointCloudFilter_cases α filterLevel motorSpeed distances⟩

theorem hits_le (l : Level α) (r : Resolution α) (temp : List UInt16) (i : Nat)
    (poss : List Nat) : hits l r temp i poss ≤ poss.length := List.countP_le_length

/-- The first level asks for four of three points and removes none; a level that the filter does not
know asks for none and removes every point that is not smooth, but the first and the last three. -/
theorem pointCloudFilter_extremes (motorSpeed : UInt32) (distances : List UInt16) :
    pointCloudFilter α 1 motorSpeed distances = distances ∧
      ∀ filterLevel, 5 < filterLevel → ∀ r : Resolution α, resolutionOf motorSpeed = some r →
        ∀ j, (pointCloudFilter α filterLevel motorSpeed distances).getD j 0 =
          if 3 ≤ j ∧ j + 3 < distances.length ∧ smooth r distances j = false then 0
          else distances.getD j 0 := by
  constructor
  · apply List.ext_getElem (length_pointCloudFilter α 1 motorSpeed distances)
    intro j hj hj'
    rw [← List.getD_eq_getElem _ 0 hj, ← List.getD_eq_getElem _ 0 hj']
    rcases pointCloudFilter_cases α 1 motorSpeed distances j with ⟨hremoved, -⟩ | ⟨-, hsame⟩
    · obtain ⟨-, r, -, i, -, -, ⟨-, -, hmany⟩, -⟩ := hremoved
      have hleft := hits_le α (levelOf 1) r distances i (List.range' (i - 3) 3)
      have hright := hits_le α (levelOf 1) r distances i (List.range' (i + 1) 3)
      rw [List.length_range'] at hleft hright
      change 4 ≤ _ ∨ 4 ≤ _ at hmany
      omega
    · exact hsame
  · intro filterLevel hlevel r hspeed j
    have hunknown : (levelOf filterLevel : Level α) = ⟨float 0, 0, 0⟩ := by
      unfold levelOf
      rw [if_neg, if_neg, if_neg, if_neg, if_neg]
      all_goals
        rintro rfl
        exact absurd hlevel (by decide)
    have hzero : filterLevel ≠ 0 := by
      rintro rfl
      exact absurd hlevel (by decide)
    have hfiltered : Filtered (levelOf filterLevel) r distances j ↔ 3 ≤ j ∧
        j + 3 < distances.length ∧ smooth r distances j = false ∧ distances.getD j 0 ≠ 0 := by
      rw [hunknown]
      constructor
      · rintro ⟨i, hfirst, hlast, ⟨hsmooth, hcur, -⟩, hle, hge⟩
        obtain rfl : i = j := Nat.le_antisymm hle hge
        exact ⟨hfirst, hlast, hsmooth, hcur⟩
      · rintro ⟨hfirst, hlast, hsmooth, hcur⟩
        exact ⟨j, hfirst, hlast, ⟨hsmooth, hcur, Or.inl (Nat.zero_le _)⟩, Nat.le_refl j,
          Nat.le_refl j⟩
    have hpoint := getD_pointCloudFilter α hzero hspeed distances j
    rw [hfiltered] at hpoint
    split
    · next hinner =>
      rcases hpoint with ⟨-, hremoved⟩ | ⟨hnot, hsame⟩
      · exact hremoved
      · rw [hsame]
        by_contra hcur
        exact hnot ⟨hinner.1, hinner.2.1, hinner.2.2, hcur⟩
    · next houter =>
      rcases hpoint with ⟨hinner, -⟩ | ⟨-, hsame⟩
      · exact absurd ⟨hinner.1, hinner.2.1, hinner.2.2.1⟩ houter
      · exact hsame

end

section

variable {α : Type} [Preorder α] [DecidableLT α] [Sub α] [Mul α] [Div α] [Floating α]

structure Milder (l l' : Level α) : Prop where
  tan : l.tanAngleThreshold ≤ l'.tanAngleThreshold
  negTan : single (literal (-1) * l'.tanAngleThreshold) ≤
    single (literal (-1) * l.tanAngleThreshold)
  neighbors : l.neighbors ≤ l'.neighbors
  count : l'.pointNumThreshold ≤ l.pointNumThreshold

theorem Milder.abnormal {l l' : Level α} (h : Milder l l') {r : Resolution α} {cur cmp : UInt16}
    (habnormal : abnormal l r cur cmp = true) : OrdFilter.abnormal l' r cur cmp = true := by
  unfold OrdFilter.abnormal at habnormal ⊢
  rw [Bool.and_eq_true, decide_eq_true_eq, decide_eq_true_eq] at habnormal ⊢
  exact ⟨lt_of_lt_of_le habnormal.1 h.tan, lt_of_le_of_lt h.negTan habnormal.2⟩

theorem Milder.hits {l l' : Level α} (h : Milder l l') (r : Resolution α) (temp : List UInt16)
    (i : Nat) (poss : List Nat) : hits l r temp i poss ≤ OrdFilter.hits l' r temp i poss :=
  List.countP_mono_left fun _ _ => h.abnormal

theorem Milder.filtered {l l' : Level α} (h : Milder l l') {r : Resolution α}
    {temp : List UInt16} {j : Nat} (hin : Filtered l r temp j) : Filtered l' r temp j := by
  obtain ⟨i, hfirst, hlast, ⟨hsmooth, hcur, hmany⟩, hle, hge⟩ := hin
  have hneighbors := h.neighbors
  have hcount := h.count
  have hleft := h.hits r temp i (List.range' (i - 3) 3)
  have hright := h.hits r temp i (List.range' (i + 1) 3)
  exact ⟨i, hfirst, hlast, ⟨hsmooth, hcur, by omega⟩, by omega, by omega⟩

def steps : Fin 5 → ℚ × Nat × Nat :=
  ![(0.03492076949175, 0, 4), (0.03492076949175, 0, 3), (0.052407779283041, 0, 3),
    (0.052407779283041, 1, 3), (0.096289048197539, 1, 3)]

omit [Preorder α] [DecidableLT α] [Sub α] [Mul α] [Div α] in
theorem levelOf_step (k : Fin 5) : (levelOf (UInt32.ofNat (k + 1)) : Level α) =
    ⟨float (steps k).1, (steps k).2.1, (steps k).2.2⟩ := by
  fin_cases k <;> rfl

theorem steps_mono : ∀ k k' : Fin 5, k ≤ k' → (steps k).1 ≤ (steps k').1 ∧
    (steps k).2.1 ≤ (steps k').2.1 ∧ (steps k').2.2 ≤ (steps k).2.2 := by
  decide +kernel

theorem exists_step {level : UInt32} (hfirst : 1 ≤ level) (hlast : level ≤ 5) :
    ∃ k : Fin 5, level = UInt32.ofNat (k + 1) ∧ level.toNat = k + 1 := by
  rw [UInt32.le_iff_toNat_le] at hfirst hlast
  change 1 ≤ level.toNat at hfirst
  change level.toNat ≤ 5 at hlast
  refine ⟨⟨level.toNat - 1, by omega⟩, ?_, ?_⟩
  · rw [← UInt32.toNat_inj, Nat.sub_add_cancel hfirst, UInt32.ofNat_toNat]
  · exact (Nat.sub_add_cancel hfirst).symm

omit [DecidableLT α] [Sub α] [Div α] in
theorem milder_levels (hround : Monotone fun q => (float q : α))
    (hneg : Antitone fun x : α => single (literal (-1) * x)) {level level' : UInt32}
    (hfirst : 1 ≤ level) (hle : level ≤ level') (hlast : level' ≤ 5) :
    Milder (levelOf level : Level α) (levelOf level') := by
  obtain ⟨k, rfl, hk⟩ := exists_step hfirst (UInt32.le_trans hle hlast)
  obtain ⟨k', rfl, hk'⟩ := exists_step (UInt32.le_trans hfirst hle) hlast
  have hkk : k ≤ k' := by
    rw [UInt32.le_iff_toNat_le, hk, hk'] at hle
    exact Fin.le_def.mpr (by omega)
  obtain ⟨htan, hneighbors, hcount⟩ := steps_mono k k' hkk
  rw [levelOf_step, levelOf_step]
  exact ⟨hround htan, hneg (hround htan), hneighbors, hcount⟩

/-- Of the first five levels a higher one removes every point that a lower one removes. -/
theorem pointCloudFilter_mono (hround : Monotone fun q => (float q : α))
    (hneg : Antitone fun x : α => single (literal (-1) * x)) {level level' : UInt32}
    (hfirst : 1 ≤ level) (hle : level ≤ level') (hlast : level' ≤ 5) (motorSpeed : UInt32)
    (distances : List UInt16) (j : Nat)
    (h : (pointCloudFilter α level motorSpeed distances).getD j 0 = 0) :
    (pointCloudFilter α level' motorSpeed distances).getD j 0 = 0 := by
  have hmilder := milder_levels hround hneg hfirst hle hlast
  rcases pointCloudFilter_cases α level' motorSpeed distances j with ⟨-, hzero⟩ | ⟨hnot, hsame⟩
  · exact hzero
  · rcases pointCloudFilter_cases α level motorSpeed distances j with ⟨hin, -⟩ | ⟨-, hsame'⟩
    · obtain ⟨-, r, hspeed, hfiltered⟩ := hin
      refine absurd ⟨?_, r, hspeed, hmilder.filtered hfiltered⟩ hnot
      rintro rfl
      exact absurd (UInt32.le_trans hfirst hle) (by decide)
    · rw [hsame, ← hsame', h]

end

def fallingAway : List UInt16 := [400, 400, 400, 400, 430, 480, 560, 640, 640, 640]

theorem pointCloudFilter_mono_fallingAway : (pointCloudFilter ℚ 5 10 fallingAway).getD 4 0 = 0 :=
  pointCloudFilter_mono (α := ℚ) (fun _ _ h => h)
    (fun x y h => by
      change (-1 : ℚ) * y ≤ -1 * x
      linarith) (by decide) (by decide) (by decide) 10 fallingAway 4
    (by decide +kernel : (pointCloudFilter ℚ 3 10 fallingAway).getD 4 0 = 0)

end DeviceManager.OrdFilter
