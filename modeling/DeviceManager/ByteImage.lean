import DeviceManager.ShiftRegister

namespace DeviceManager.ByteImage

variable {α : Type*} {xs values : List α} {a b c d start : Nat}

/-- The elements from the place `a` up to the place `b`. -/
def slice (xs : List α) (a b : Nat) : List α := (xs.take b).drop a

/-- `std::copy` to a place that has room for the values. -/
def overwrite (xs : List α) (start : Nat) (values : List α) : List α :=
  xs.take start ++ values ++ xs.drop (start + values.length)

theorem length_slice (h : b ≤ xs.length) : (slice xs a b).length = b - a := by
  rw [slice, List.length_drop, List.length_take, Nat.min_eq_left h]

theorem getElem?_slice {i : Nat} (h : i < b - a) : (slice xs a b)[i]? = xs[a + i]? := by
  rw [slice, List.getElem?_drop, List.getElem?_take_of_lt (by omega)]

theorem getD_slice {i : Nat} (h : i < b - a) (e : α) : (slice xs a b).getD i e = xs.getD (a + i) e := by
  rw [List.getD_eq_getElem?_getD, getElem?_slice h, List.getD_eq_getElem?_getD]

theorem slice_append (hab : a ≤ b) (hbc : b ≤ c) : slice xs a b ++ slice xs b c = slice xs a c := by
  have htake : xs.take b = (xs.take c).take b := by rw [List.take_take, Nat.min_eq_left hbc]
  obtain ⟨n, rfl⟩ := Nat.exists_eq_add_of_le hab
  rw [slice, slice, slice, htake, List.drop_take, ← List.drop_drop, Nat.add_sub_cancel_left,
    List.take_append_drop]

theorem slice_zero : slice xs 0 b = xs.take b := rfl

theorem slice_slice {i j : Nat} (h : a + j ≤ b) :
    slice (slice xs a b) i j = slice xs (a + i) (a + j) := by
  rw [slice, slice, slice, List.take_drop, List.take_take, Nat.min_eq_left h, List.drop_drop]

theorem slice_within {ys : List α} (h : slice xs a b = slice ys a b) (hac : a ≤ c) (hdb : d ≤ b) :
    slice xs c d = slice ys c d := by
  obtain hlt | hge := Nat.lt_or_ge d a
  · have hnil : ∀ zs : List α, slice zs c d = [] := fun zs => by
      rw [slice, List.drop_eq_nil_iff, List.length_take]
      omega
    rw [hnil, hnil]
  · obtain ⟨i, rfl⟩ := Nat.exists_eq_add_of_le hac
    obtain ⟨j, rfl⟩ := Nat.exists_eq_add_of_le hge
    rw [← slice_slice hdb, ← slice_slice hdb, h]

theorem getD_within {ys : List α} (h : slice xs a b = slice ys a b) {i : Nat} (hai : a ≤ i)
    (hib : i < b) (e : α) : xs.getD i e = ys.getD i e := by
  obtain ⟨j, rfl⟩ := Nat.exists_eq_add_of_le hai
  rw [← getD_slice (by omega : j < b - a), ← getD_slice (by omega : j < b - a), h]

/-- A slice of what stands behind `ys`. -/
theorem slice_append_right {ys : List α} (h : ys.length ≤ a) :
    slice (ys ++ xs) a b = slice xs (a - ys.length) (b - ys.length) := by
  rw [slice, slice, List.take_append, List.drop_append]
  have hnil : (ys.take b).drop a = [] := by
    rw [List.drop_eq_nil_iff, List.length_take]
    omega
  rw [hnil, List.nil_append, List.length_take]
  obtain hle | hgt := Nat.le_total ys.length b
  · rw [Nat.min_eq_right hle]
  · have hzero : b - ys.length = 0 := by omega
    simp [hzero]

theorem slice_append_left {ys : List α} (h : b ≤ xs.length) : slice (xs ++ ys) a b = slice xs a b := by
  rw [slice, slice, List.take_append_of_le_length h]

section Overwriting

variable (hfits : start + values.length ≤ xs.length)
include hfits

theorem length_overwrite : (overwrite xs start values).length = xs.length := by
  rw [overwrite, List.length_append, List.length_append, List.length_take, List.length_drop]
  omega

theorem slice_overwrite : slice (overwrite xs start values) start (start + values.length) = values := by
  have htake : (xs.take start).length = start := by
    rw [List.length_take]
    omega
  have hfirst : (xs.take start ++ values).length = start + values.length := by
    rw [List.length_append, htake]
  rw [slice, overwrite, List.take_left' hfirst, List.drop_left' htake]

theorem slice_overwrite_before (h : b ≤ start) :
    slice (overwrite xs start values) a b = slice xs a b := by
  rw [overwrite, List.append_assoc, slice_append_left (by rw [List.length_take]; omega), slice, slice,
    List.take_take, Nat.min_eq_left h]

theorem slice_overwrite_behind (h : start + values.length ≤ a) :
    slice (overwrite xs start values) a b = slice xs a b := by
  have hfirst : (xs.take start ++ values).length = start + values.length := by
    rw [List.length_append, List.length_take]
    omega
  rw [overwrite, slice_append_right (by omega), hfirst]
  have hback : slice xs a b =
      slice (xs.take (start + values.length) ++ xs.drop (start + values.length)) a b := by
    rw [List.take_append_drop]
  have htake : (xs.take (start + values.length)).length = start + values.length := by
    rw [List.length_take]
    omega
  rw [hback, slice_append_right (by omega), htake]

end Overwriting

def writeAll (xs : List α) (fields : List (Nat × List α)) : List α :=
  fields.foldl (fun xs field => overwrite xs field.1 field.2) xs

def Laid : Nat → Nat → List (Nat × List α) → Prop
  | low, high, [] => low ≤ high
  | low, high, field :: fields => low ≤ field.1 ∧ Laid (field.1 + field.2.length) high fields

theorem laid_le {low high : Nat} {fields : List (Nat × List α)} (h : Laid low high fields) :
    low ≤ high := by
  induction fields generalizing low with
  | nil => exact h
  | cons field fields ih =>
    have hrest := ih h.2
    have hlow := h.1
    omega

section Fields

variable {low high : Nat} {fields : List (Nat × List α)} (hhigh : high ≤ xs.length)
include hhigh

theorem length_writeAll (h : Laid low high fields) : (writeAll xs fields).length = xs.length := by
  induction fields generalizing low xs with
  | nil => rfl
  | cons field fields ih =>
    have hfits : field.1 + field.2.length ≤ xs.length := Nat.le_trans (laid_le h.2) hhigh
    have hlen := length_overwrite hfits
    have hrest := ih (by rwa [hlen]) h.2
    exact hrest.trans hlen

theorem slice_writeAll_before (h : Laid low high fields) (hb : b ≤ low) :
    slice (writeAll xs fields) a b = slice xs a b := by
  induction fields generalizing low xs with
  | nil => rfl
  | cons field fields ih =>
    have hfits : field.1 + field.2.length ≤ xs.length := Nat.le_trans (laid_le h.2) hhigh
    have hlow := h.1
    have hrest := ih (by rwa [length_overwrite hfits]) h.2 (by omega)
    rw [slice_overwrite_before hfits (by omega)] at hrest
    exact hrest

theorem slice_writeAll_behind (h : Laid low high fields) (ha : high ≤ a) :
    slice (writeAll xs fields) a b = slice xs a b := by
  induction fields generalizing low xs with
  | nil => rfl
  | cons field fields ih =>
    have hfits : field.1 + field.2.length ≤ xs.length := Nat.le_trans (laid_le h.2) hhigh
    have hbehind := laid_le h.2
    have hrest := ih (by rwa [length_overwrite hfits]) h.2
    rw [slice_overwrite_behind hfits (by omega)] at hrest
    exact hrest

theorem slice_writeAll (h : Laid low high fields) {field : Nat × List α} (hfield : field ∈ fields) :
    slice (writeAll xs fields) field.1 (field.1 + field.2.length) = field.2 := by
  induction fields generalizing low xs with
  | nil => exact absurd hfield List.not_mem_nil
  | cons first fields ih =>
    have hfits : first.1 + first.2.length ≤ xs.length := Nat.le_trans (laid_le h.2) hhigh
    have hhigh' : high ≤ (overwrite xs first.1 first.2).length := by rwa [length_overwrite hfits]
    rcases List.mem_cons.mp hfield with rfl | hin
    · have hrest := slice_writeAll_before (a := field.1) hhigh' h.2 (Nat.le_refl _)
      rw [slice_overwrite hfits] at hrest
      exact hrest
    · exact ih hhigh' h.2 hin

end Fields

section Bursts

open ShiftRegister

variable {k : Nat} {ys : List α}

theorem burst_take (n : Nat) (h : Burst k xs ys) : Burst k (xs.take n) (ys.take n) := by
  obtain ⟨before, inner, inner', after, rfl, rfl, hlen, hle⟩ := h
  refine ⟨before.take n, inner.take (n - before.length), inner'.take (n - before.length),
    after.take (n - (before ++ inner).length), ?_, ?_, ?_, ?_⟩
  · rw [List.take_append, List.take_append]
  · rw [List.take_append, List.take_append, List.length_append, List.length_append, hlen]
  · rw [List.length_take, List.length_take, hlen]
  · rw [List.length_take]
    omega

theorem burst_drop (n : Nat) (h : Burst k xs ys) : Burst k (xs.drop n) (ys.drop n) := by
  obtain ⟨before, inner, inner', after, rfl, rfl, hlen, hle⟩ := h
  refine ⟨before.drop n, inner.drop (n - before.length), inner'.drop (n - before.length),
    after.drop (n - (before ++ inner).length), ?_, ?_, ?_, ?_⟩
  · rw [List.drop_append, List.drop_append]
  · rw [List.drop_append, List.drop_append, List.length_append, List.length_append, hlen]
  · rw [List.length_drop, List.length_drop, hlen]
  · rw [List.length_drop]
    omega

theorem burst_slice (h : Burst k xs ys) : Burst k (slice xs a b) (slice ys a b) :=
  burst_drop a (burst_take b h)

/-- Of two slices that are further apart than a burst is long, one is as it was. -/
theorem burst_far (h : Burst k xs ys) (hfar : b + k ≤ c) :
    slice xs a b = slice ys a b ∨ slice xs c d = slice ys c d := by
  obtain ⟨before, inner, inner', after, rfl, rfl, hlen, hle⟩ := h
  obtain hin | hout := Nat.le_total b before.length
  · left
    rw [List.append_assoc, List.append_assoc, slice_append_left hin, slice_append_left hin]
  · right
    have hfirst : (before ++ inner).length ≤ c := by
      rw [List.length_append]
      omega
    have hsame : (before ++ inner').length = (before ++ inner).length := by
      rw [List.length_append, List.length_append, hlen]
    rw [slice_append_right hfirst, slice_append_right (by omega), hsame]

theorem expand_take {bits : UInt8 → List Bool} (hsize : ∀ b, (bits b).length = 8)
    (bytes : List UInt8) (n : Nat) :
    (bytes.take n).flatMap bits = (bytes.flatMap bits).take (8 * n) := by
  induction n generalizing bytes with
  | zero => simp
  | succ n ih =>
    cases bytes with
    | nil => simp
    | cons b bytes =>
      have hroom : 8 * (n + 1) - (bits b).length = 8 * n := by
        rw [hsize]
        omega
      have hfull : (bits b).take (8 * (n + 1)) = bits b :=
        List.take_of_length_le (by rw [hsize]; omega)
      rw [List.take_succ_cons, List.flatMap_cons, List.flatMap_cons, List.take_append, hroom, ih,
        hfull]

theorem expand_drop {bits : UInt8 → List Bool} (hsize : ∀ b, (bits b).length = 8)
    (bytes : List UInt8) (n : Nat) :
    (bytes.drop n).flatMap bits = (bytes.flatMap bits).drop (8 * n) := by
  induction n generalizing bytes with
  | zero => simp
  | succ n ih =>
    cases bytes with
    | nil => simp
    | cons b bytes =>
      have hroom : 8 * (n + 1) - (bits b).length = 8 * n := by
        rw [hsize]
        omega
      have hnone : (bits b).drop (8 * (n + 1)) = [] :=
        List.drop_of_length_le (by rw [hsize]; omega)
      rw [List.drop_succ_cons, List.flatMap_cons, List.drop_append, hroom, ih, hnone,
        List.nil_append]

theorem expand_slice {bits : UInt8 → List Bool} (hsize : ∀ b, (bits b).length = 8)
    (bytes : List UInt8) (a b : Nat) :
    (slice bytes a b).flatMap bits = slice (bytes.flatMap bits) (8 * a) (8 * b) := by
  rw [slice, slice, expand_drop hsize, expand_take hsize]

theorem burst_overwrite {bits : UInt8 → List Bool} (hsize : ∀ b, (bits b).length = 8)
    {bytes written : List UInt8} (hfits : start + written.length ≤ bytes.length)
    (hk : 8 * written.length ≤ k) :
    Burst k (bytes.flatMap bits) ((overwrite bytes start written).flatMap bits) := by
  have hold : (slice bytes start (start + written.length)).length = written.length := by
    rw [length_slice hfits, Nat.add_sub_cancel_left]
  have hsplit : bytes = bytes.take start ++ slice bytes start (start + written.length) ++
      bytes.drop (start + written.length) := by
    rw [← slice_zero, slice_append (Nat.zero_le start) (Nat.le_add_right _ _), slice_zero,
      List.take_append_drop]
  refine ⟨(bytes.take start).flatMap bits,
    (slice bytes start (start + written.length)).flatMap bits, written.flatMap bits,
    (bytes.drop (start + written.length)).flatMap bits, ?_, ?_, ?_, ?_⟩
  · rw [← List.flatMap_append, ← List.flatMap_append, ← hsplit]
  · rw [overwrite, List.flatMap_append, List.flatMap_append]
  · rw [length_expand hsize, length_expand hsize, hold]
  · rw [length_expand hsize, hold]
    exact hk

end Bursts

end DeviceManager.ByteImage
