import DeviceManager.ScanSegments
import DeviceManager.SmitPublisher
import Mathlib.Algebra.Order.Round
import Mathlib.Tactic.FieldSimp
import Mathlib.Tactic.Linarith
import Mathlib.Tactic.Ring

namespace DeviceManager.ScanPublishing

open Floating Segments SmitProtocol SmitAssembly SmitPublisher ScanSegments

def offset (angleMinDeg angleDeg : ℚ) : ℚ :=
  angleDeg - angleMinDeg - 360 * ⌊(angleDeg - angleMinDeg) / 360⌋

def increment (scan : SmitScan ℚ) : ℚ := 360 * scan.motorSpeed / scan.lidarFreq

def width (angleMinDeg angleMaxDeg : ℚ) : ℚ :=
  if isFullCircleWindow angleMinDeg angleMaxDeg then 360 else angleMaxDeg - angleMinDeg

def Holds (points : List (SmitPoint ℚ)) (intensity : ℚ) : Option ℚ → Prop
  | none => points = [] ∧ intensity = 0
  | some range =>
    ∃ p ∈ points, p.distanceM = range ∧ p.intensity = intensity ∧ ∀ q ∈ points, range ≤ q.distanceM

/-- Every point is in the sample nearest to it. -/
structure Agrees (scan : SmitScan ℚ) (message : LaserScan) : Prop where
  count : (message.ranges.length : ℤ) =
    round (width scan.angleMinDeg scan.angleMaxDeg / increment scan) + 1
  positive : 1 ≤ message.ranges.length
  samples : ∃ cell : SmitPoint ℚ → Nat,
    (∀ p ∈ scan.points, cell p < message.ranges.length ∧
      ∀ k < message.ranges.length,
        |offset scan.angleMinDeg p.angleDeg - cell p * increment scan| ≤
          |offset scan.angleMinDeg p.angleDeg - k * increment scan|) ∧
    ∀ i < message.ranges.length,
      Holds (scan.points.filter fun p => cell p = i) (message.intensities.getD i 0)
        (message.ranges.getD i none)

theorem normalize_eq (a : ℚ) : normalizeRawAngle a = a - 360 * ⌊a / 360⌋ := by
  have hfloor := Int.floor_le (a / 360)
  show (if a - 360 * (truncate (a / 360) : ℚ) < 0 then a - 360 * (truncate (a / 360) : ℚ) + 360
    else a - 360 * (truncate (a / 360) : ℚ)) = _
  unfold truncate
  by_cases hsign : 0 ≤ a / 360
  · rw [if_pos hsign, if_neg (by linarith)]
  · rw [if_neg hsign]
    have hceil := Int.le_ceil (a / 360)
    by_cases hlt : a - 360 * (⌈a / 360⌉ : ℚ) < 0
    · have hne : (⌊a / 360⌋ : ℤ) + 1 = ⌈a / 360⌉ := by
        refine (Int.ceil_eq_iff.mpr ⟨?_, ?_⟩).symm
        · have hne : (⌊a / 360⌋ : ℚ) ≠ a / 360 := by
            intro he
            have hle : (⌈a / 360⌉ : ℚ) ≤ ⌊a / 360⌋ := by exact_mod_cast Int.ceil_le.mpr he.ge
            linarith
          push_cast
          linarith [lt_of_le_of_ne hfloor hne]
        · push_cast
          exact (Int.lt_floor_add_one (a / 360)).le
      rw [if_pos hlt, ← hne]
      push_cast
      ring
    · have hle : ⌈a / 360⌉ ≤ ⌊a / 360⌋ := Int.le_floor.mpr (by linarith)
      rw [if_neg hlt, le_antisymm hle (Int.floor_le_ceil _)]

theorem normalize_nonneg (a : ℚ) : 0 ≤ normalizeRawAngle a := by
  have hfloor := Int.floor_le (a / 360)
  rw [normalize_eq]
  linarith

theorem normalize_lt (a : ℚ) : normalizeRawAngle a < 360 := by
  have hfloor := Int.lt_floor_add_one (a / 360)
  rw [normalize_eq]
  linarith

theorem normalize_of_lt {a : ℚ} (h : 0 ≤ a) (hlt : a < 360) : normalizeRawAngle a = a := by
  have hfloor : ⌊a / 360⌋ = 0 := by
    rw [Int.floor_eq_zero_iff]
    exact ⟨by positivity, by linarith⟩
  rw [normalize_eq, hfloor]
  simp

theorem normalize_unique {a b : ℚ} (k : ℤ) (h : a = b + 360 * k) (hb : 0 ≤ b) (hlt : b < 360) :
    normalizeRawAngle a = b := by
  have hfloor : ⌊a / 360⌋ = k := by
    rw [Int.floor_eq_iff, h]
    constructor <;> linarith
  rw [normalize_eq, hfloor, h]
  ring

theorem normalize_normalize (a : ℚ) : normalizeRawAngle (normalizeRawAngle a) = normalizeRawAngle a :=
  normalize_of_lt (normalize_nonneg a) (normalize_lt a)

theorem offset_eq {angleMinDeg angleDeg b : ℚ} (k : ℤ) (h : angleDeg = angleMinDeg + b + 360 * k)
    (hb : 0 ≤ b) (hlt : b < 360) : offset angleMinDeg angleDeg = b := by
  rw [offset, ← normalize_eq]
  exact normalize_unique k (by rw [h]; ring) hb hlt

theorem signed_eq (a : ℚ) :
    rawAngleToSigned a =
      if 180 ≤ normalizeRawAngle a then normalizeRawAngle a - 360 else normalizeRawAngle a := rfl

theorem signed_turns (a : ℚ) : ∃ k : ℤ, a = rawAngleToSigned a + 360 * k := by
  rw [signed_eq, normalize_eq]
  split
  · refine ⟨⌊a / 360⌋ + 1, ?_⟩
    push_cast
    ring
  · exact ⟨⌊a / 360⌋, by ring⟩

theorem signed_range (a : ℚ) : -180 ≤ rawAngleToSigned a ∧ rawAngleToSigned a < 180 := by
  have hlow := normalize_nonneg a
  have hhigh := normalize_lt a
  rw [signed_eq]
  split <;> constructor <;> linarith

theorem normalize_bound {a : ℚ} (hlow : -180 ≤ a) (hhigh : a < 180) :
    normalizeRawAngle a = if 0 ≤ a then a else a + 360 := by
  split
  · exact normalize_of_lt ‹_› (by linarith)
  · refine normalize_unique (-1) ?_ ?_ ?_
    · push_cast
      ring
    · linarith
    · linarith

/-- What the assembler takes into such a window lies in it for the publisher as well. -/
theorem signed_of_inside {angleMinDeg angleMaxDeg : ℚ} {p : Sample ℚ} (hmin : -180 ≤ angleMinDeg)
    (hle : angleMinDeg ≤ angleMaxDeg) (hmax : angleMaxDeg < 180)
    (hin : inside angleMinDeg angleMaxDeg p = true) :
    angleMinDeg ≤ rawAngleToSigned p.point.angleDeg ∧
      rawAngleToSigned p.point.angleDeg ≤ angleMaxDeg := by
  have hstart := normalize_bound hmin (lt_of_le_of_lt hle hmax)
  have hend := normalize_bound (le_trans hmin hle) hmax
  have hlow := normalize_nonneg p.point.angleDeg
  have hhigh := normalize_lt p.point.angleDeg
  rw [signed_eq]
  unfold inside isRawAngleInWindow at hin
  simp only [Bool.false_eq_true, if_false, normalize_normalize, hstart, hend] at hin
  generalize normalizeRawAngle p.point.angleDeg = raw at *
  by_cases hsign : 0 ≤ angleMinDeg
  · rw [if_pos hsign, if_pos (le_trans hsign hle), if_pos hle, decide_eq_true_eq] at hin
    rw [if_neg (by linarith [hin.2])]
    exact hin
  · rw [if_neg hsign] at hin
    by_cases hpos : 0 ≤ angleMaxDeg
    · -- the folded window passes zero
      rw [if_pos hpos, if_neg (by linarith), decide_eq_true_eq] at hin
      obtain hin | hin := hin
      · rw [if_pos (by linarith)]
        constructor <;> linarith
      · rw [if_neg (by linarith)]
        constructor <;> linarith
    · rw [if_neg hpos, if_pos (by linarith), decide_eq_true_eq] at hin
      obtain ⟨hlower, hupper⟩ := hin
      rw [if_pos (by linarith)]
      constructor <;> linarith

theorem scaled {scan : SmitScan ℚ} (x : ℚ) :
    x * kDegreesToRadians / angleIncrement scan = x / increment scan := by
  have hpi : kPi ≠ 0 := by norm_num [kPi]
  unfold kDegreesToRadians angleIncrement increment
  by_cases hs : (scan.motorSpeed : ℚ) = 0
  · simp [hs]
  · by_cases hf : (scan.lidarFreq : ℚ) = 0
    · simp [hf]
    · field_simp
      ring

theorem llround_eq {q : ℚ} (h : 0 ≤ q) : llround q = round q := by
  rw [llround, if_pos h, round_eq]

/-- A scan with a speed and a frequency that the protocol reports. -/
structure Reported (scan : SmitScan ℚ) : Prop where
  speed : 10 ≤ scan.motorSpeed
  freqPos : 0 < scan.lidarFreq
  freq : scan.lidarFreq ≤ 40000

namespace Reported

variable {scan : SmitScan ℚ} (h : Reported scan)
include h

theorem increment_pos : 0 < increment scan := by
  have hs : (0 : ℚ) < scan.motorSpeed := by exact_mod_cast Nat.lt_of_lt_of_le (by decide) h.speed
  have hf : (0 : ℚ) < scan.lidarFreq := by exact_mod_cast h.freqPos
  unfold increment
  positivity

theorem angleIncrement_pos : 0 < angleIncrement scan := by
  have hs : (0 : ℚ) < scan.motorSpeed := by exact_mod_cast Nat.lt_of_lt_of_le (by decide) h.speed
  have hf : (0 : ℚ) < scan.lidarFreq := by exact_mod_cast h.freqPos
  have hpi : 0 < kPi := by norm_num [kPi]
  unfold angleIncrement
  positivity

theorem div_le {x : ℚ} (hx : x ≤ 360) : x / increment scan ≤ 4000 := by
  have hs : (10 : ℚ) ≤ scan.motorSpeed := by exact_mod_cast h.speed
  have hf : (0 : ℚ) < scan.lidarFreq := by exact_mod_cast h.freqPos
  have hmax : (scan.lidarFreq : ℚ) ≤ 40000 := by exact_mod_cast h.freq
  have hstep : (9 : ℚ) / 100 ≤ increment scan := by
    unfold increment
    rw [div_le_div_iff₀ (by norm_num) hf]
    linarith
  rw [div_le_iff₀ h.increment_pos]
  linarith

theorem sampleIndex_eq {x : ℚ} (hx : 0 ≤ x) (hmax : x ≤ 360) :
    (sampleIndex scan x : ℤ) = round (x / increment scan) := by
  have hnonneg : 0 ≤ x / increment scan := div_nonneg hx h.increment_pos.le
  have hle := h.div_le hmax
  have hlow : 0 ≤ round (x / increment scan) := by
    rw [round_eq]
    exact Int.floor_nonneg.mpr (by linarith)
  have hhigh : round (x / increment scan) < 2 ^ 64 := by
    rw [round_eq, Int.floor_lt]
    push_cast
    linarith
  unfold sampleIndex wrapSize
  rw [scaled, llround_eq hnonneg, Int.emod_eq_of_lt hlow hhigh, Int.toNat_of_nonneg hlow]

theorem sampleCount_eq (hwidth : 0 ≤ windowWidthDeg scan) (hmax : windowWidthDeg scan ≤ 360) :
    ∃ count, sampleCount scan = some count ∧ 1 ≤ count ∧
      (count : ℤ) = round (windowWidthDeg scan / increment scan) + 1 := by
  have hnonneg : 0 ≤ windowWidthDeg scan / increment scan := div_nonneg hwidth h.increment_pos.le
  have hle := h.div_le hmax
  have hlow : 0 ≤ ⌊windowWidthDeg scan / increment scan + 1 / 2⌋ :=
    Int.floor_nonneg.mpr (by linarith)
  have hhigh : ⌊windowWidthDeg scan / increment scan + 1 / 2⌋ < 2 ^ 64 := by
    rw [Int.floor_lt]
    push_cast
    linarith
  refine ⟨_, ?_, Nat.le_add_left 1 ⌊windowWidthDeg scan / increment scan + 1 / 2⌋.toNat, ?_⟩
  · rw [sampleCount, scaled, toSize, if_pos ⟨hlow, hhigh⟩]
    rfl
  · push_cast
    rw [Int.toNat_of_nonneg hlow, round_eq]

end Reported

theorem width_eq (scan : SmitScan ℚ) :
    windowWidthDeg scan = width scan.angleMinDeg scan.angleMaxDeg := rfl

theorem width_lt {angleMinDeg angleMaxDeg : ℚ}
    (h : isFullCircleWindow angleMinDeg angleMaxDeg = false) : angleMaxDeg - angleMinDeg < 360 := by
  have hlt := lt_of_not_ge (of_decide_eq_false h)
  have hfull : (kFullCircleDegrees - kFullCircleToleranceDegrees : ℚ) = 359.999 := by
    show (360 - 0.001 : ℚ) = 359.999
    norm_num
  rw [hfull] at hlt
  linarith

theorem offsetDeg_full {scan : SmitScan ℚ} (h : isFullCircle scan = true) (p : SmitPoint ℚ) :
    offsetDeg scan p = some (offset scan.angleMinDeg p.angleDeg) := by
  have hlow := normalize_nonneg p.angleDeg
  have hhigh := normalize_lt p.angleDeg
  have hlow' := normalize_nonneg scan.angleMinDeg
  have hhigh' := normalize_lt scan.angleMinDeg
  have hpoint := normalize_eq p.angleDeg
  have hstart := normalize_eq scan.angleMinDeg
  have hfold : (if normalizeRawAngle p.angleDeg - normalizeRawAngle scan.angleMinDeg < 0 then
      normalizeRawAngle p.angleDeg - normalizeRawAngle scan.angleMinDeg + 360
      else normalizeRawAngle p.angleDeg - normalizeRawAngle scan.angleMinDeg) =
      offset scan.angleMinDeg p.angleDeg := by
    symm
    split
    · refine offset_eq (⌊p.angleDeg / 360⌋ - ⌊scan.angleMinDeg / 360⌋ - 1) ?_ ?_ ?_
      · push_cast
        linarith
      · linarith
      · linarith
    · refine offset_eq (⌊p.angleDeg / 360⌋ - ⌊scan.angleMinDeg / 360⌋) ?_ ?_ ?_
      · push_cast
        linarith
      · linarith
      · linarith
  rw [offsetDeg, if_pos h]
  exact congrArg some hfold

theorem offsetDeg_partial {scan : SmitScan ℚ} (h : isFullCircle scan = false) {p : SmitPoint ℚ}
    (hlow : scan.angleMinDeg ≤ rawAngleToSigned p.angleDeg)
    (hhigh : rawAngleToSigned p.angleDeg ≤ scan.angleMaxDeg) :
    offsetDeg scan p = some (offset scan.angleMinDeg p.angleDeg) ∧
      offset scan.angleMinDeg p.angleDeg = rawAngleToSigned p.angleDeg - scan.angleMinDeg := by
  have hwidth := width_lt h
  obtain ⟨k, hk⟩ := signed_turns p.angleDeg
  have hoffset : offset scan.angleMinDeg p.angleDeg =
      rawAngleToSigned p.angleDeg - scan.angleMinDeg := by
    refine offset_eq k ?_ ?_ ?_ <;> linarith
  refine ⟨?_, hoffset⟩
  have hinside : ¬(rawAngleToSigned p.angleDeg < scan.angleMinDeg ∨
      scan.angleMaxDeg < rawAngleToSigned p.angleDeg) := by
    rintro (hl | hh) <;> linarith
  have hfalse : ¬isFullCircle scan = true := by rw [h]; decide
  rw [offsetDeg, if_neg hfalse, hoffset]
  simp only [if_neg hinside]
  rw [if_neg (by linarith)]

theorem offsetDeg_skipped {scan : SmitScan ℚ} (h : isFullCircle scan = false) {p : SmitPoint ℚ}
    (hout : rawAngleToSigned p.angleDeg < scan.angleMinDeg ∨
      scan.angleMaxDeg < rawAngleToSigned p.angleDeg) : offsetDeg scan p = none := by
  have hfalse : ¬isFullCircle scan = true := by rw [h]; decide
  rw [offsetDeg, if_neg hfalse]
  simp only [if_pos hout]

structure Filled (cell : SmitPoint ℚ → Nat) (count : Nat) (points : List (SmitPoint ℚ))
    (samples : Samples) : Prop where
  ranges : samples.1.length = count
  intensities : samples.2.length = count
  holds : ∀ i < count, Holds (points.filter fun p => cell p = i) (samples.2.getD i 0)
    (samples.1.getD i none)

theorem Holds.smaller {points : List (SmitPoint ℚ)} {intensity : ℚ} {range : Option ℚ}
    (h : Holds points intensity range) {p : SmitPoint ℚ}
    (hp : range.all (p.distanceM < ·) = true) :
    Holds (points ++ [p]) p.intensity (some p.distanceM) := by
  refine ⟨p, by simp, rfl, rfl, fun q hq => ?_⟩
  rw [List.mem_append, List.mem_singleton] at hq
  obtain hq | rfl := hq
  · cases range with
    | none =>
      rw [h.1] at hq
      cases hq
    | some r =>
      obtain ⟨-, -, -, -, hall⟩ := h
      exact le_trans (of_decide_eq_true hp).le (hall q hq)
  · exact le_refl _

theorem Holds.larger {points : List (SmitPoint ℚ)} {intensity : ℚ} {range : Option ℚ}
    (h : Holds points intensity range) {p : SmitPoint ℚ}
    (hp : ¬range.all (p.distanceM < ·) = true) : Holds (points ++ [p]) intensity range := by
  cases range with
  | none => exact absurd rfl hp
  | some r =>
    obtain ⟨q, hq, hr, hi, hall⟩ := h
    refine ⟨q, List.mem_append_left _ hq, hr, hi, fun t ht => ?_⟩
    rw [List.mem_append, List.mem_singleton] at ht
    obtain ht | rfl := ht
    · exact hall t ht
    · exact le_of_not_gt (by simpa using hp)

theorem placePoint_filled {scan : SmitScan ℚ} {cell : SmitPoint ℚ → Nat} {count : Nat}
    {points : List (SmitPoint ℚ)} {samples : Samples} (h : Filled cell count points samples)
    {p : SmitPoint ℚ} {x : ℚ} (hx : offsetDeg scan p = some x) (hcell : sampleIndex scan x = cell p)
    (hlt : cell p < count) : Filled cell count (points ++ [p]) (placePoint scan count samples p) := by
  have hown : (points ++ [p]).filter (fun q => cell q = cell p) =
      points.filter (fun q => cell q = cell p) ++ [p] := by
    rw [List.filter_append, List.filter_cons_of_pos (by simp), List.filter_nil]
  have hother : ∀ i, i ≠ cell p → (points ++ [p]).filter (fun q => cell q = i) =
      points.filter (fun q => cell q = i) := by
    intro i hi
    rw [List.filter_append, List.filter_cons_of_neg (by simpa using hi.symm), List.filter_nil,
      List.append_nil]
  have hheld := h.holds (cell p) hlt
  have hroom : ¬count ≤ cell p := Nat.not_le.mpr hlt
  unfold placePoint
  simp only [hx, hcell, if_neg hroom]
  by_cases hsmaller : ((samples.1.getD (cell p) none).all fun range => p.distanceM < range) = true
  · rw [if_pos hsmaller]
    refine ⟨by rw [List.length_set, h.ranges], by rw [List.length_set, h.intensities], ?_⟩
    intro i hi
    by_cases he : i = cell p
    · have hrange : (samples.1.set (cell p) (some p.distanceM)).getD (cell p) none =
          some p.distanceM := by
        rw [List.getD_eq_getElem?_getD, List.getElem?_set_self (by rw [h.ranges]; exact hlt)]
        rfl
      have hintensity : (samples.2.set (cell p) p.intensity).getD (cell p) 0 = p.intensity := by
        rw [List.getD_eq_getElem?_getD, List.getElem?_set_self (by rw [h.intensities]; exact hlt)]
        rfl
      rw [he, hown, hrange, hintensity]
      exact hheld.smaller hsmaller
    · have hrange : (samples.1.set (cell p) (some p.distanceM)).getD i none =
          samples.1.getD i none := by
        rw [List.getD_eq_getElem?_getD, List.getElem?_set_ne (Ne.symm he),
          List.getD_eq_getElem?_getD]
      have hintensity : (samples.2.set (cell p) p.intensity).getD i 0 = samples.2.getD i 0 := by
        rw [List.getD_eq_getElem?_getD, List.getElem?_set_ne (Ne.symm he),
          List.getD_eq_getElem?_getD]
      rw [hother i he, hrange, hintensity]
      exact h.holds i hi
  · rw [if_neg hsmaller]
    refine ⟨h.ranges, h.intensities, fun i hi => ?_⟩
    by_cases he : i = cell p
    · rw [he, hown]
      exact hheld.larger hsmaller
    · rw [hother i he]
      exact h.holds i hi

theorem foldl_filled {scan : SmitScan ℚ} {cell : SmitPoint ℚ → Nat} {count : Nat}
    {more points : List (SmitPoint ℚ)} {samples : Samples} (h : Filled cell count points samples)
    (hmore : ∀ p ∈ more, ∃ x, offsetDeg scan p = some x ∧ sampleIndex scan x = cell p ∧
      cell p < count) :
    Filled cell count (points ++ more) (more.foldl (placePoint scan count) samples) := by
  induction more generalizing points samples with
  | nil =>
    rw [List.append_nil]
    exact h
  | cons p more ih =>
    obtain ⟨⟨x, hx, hcell, hlt⟩, hrest⟩ := List.forall_mem_cons.mp hmore
    rw [List.foldl_cons, List.append_cons]
    exact ih (placePoint_filled h hx hcell hlt) hrest

theorem filled_nil (cell : SmitPoint ℚ → Nat) (count : Nat) :
    Filled cell count [] (List.replicate count none, List.replicate count 0) where
  ranges := List.length_replicate
  intensities := List.length_replicate
  holds i hi := by
    rw [List.getD_replicate _ hi, List.getD_replicate _ hi]
    exact ⟨rfl, rfl⟩

theorem abs_sub_mul_le {x step m n : ℚ} (hstep : 0 < step) (h : |x / step - m| ≤ |x / step - n|) :
    |x - m * step| ≤ |x - n * step| := by
  have hscale : ∀ k : ℚ, |x - k * step| = |x / step - k| * step := by
    intro k
    rw [← abs_of_pos hstep, ← abs_mul, abs_of_pos hstep, sub_mul, div_mul_cancel₀ x hstep.ne']
  rw [hscale, hscale]
  exact mul_le_mul_of_nonneg_right h hstep.le

/-- When every point has an offset inside the width of the window, the message agrees. -/
theorem publishScan_agrees {scan : SmitScan ℚ} (h : Reported scan)
    (hwidth : 0 ≤ windowWidthDeg scan) (hmax : windowWidthDeg scan ≤ 360)
    (hpoints : ∀ p ∈ scan.points, offsetDeg scan p = some (offset scan.angleMinDeg p.angleDeg) ∧
      0 ≤ offset scan.angleMinDeg p.angleDeg ∧
      offset scan.angleMinDeg p.angleDeg ≤ windowWidthDeg scan) (now : ℤ) (frameId : String) :
    ∃ message, publishScan now frameId scan = .published message ∧ Agrees scan message := by
  obtain ⟨count, hcount, hpositive, hround⟩ := h.sampleCount_eq hwidth hmax
  have hpos := h.increment_pos
  let cell : SmitPoint ℚ → Nat := fun p => sampleIndex scan (offset scan.angleMinDeg p.angleDeg)
  have hindex : ∀ p ∈ scan.points, (cell p : ℤ) =
      round (offset scan.angleMinDeg p.angleDeg / increment scan) := fun p hp =>
    h.sampleIndex_eq (hpoints p hp).2.1 (le_trans (hpoints p hp).2.2 hmax)
  have hlt : ∀ p ∈ scan.points, cell p < count := by
    intro p hp
    have hdiv := div_le_div_of_nonneg_right (hpoints p hp).2.2 hpos.le
    have hle : round (offset scan.angleMinDeg p.angleDeg / increment scan) ≤
        round (windowWidthDeg scan / increment scan) := by
      rw [round_eq, round_eq]
      exact Int.floor_le_floor (by linarith)
    have hc := hindex p hp
    omega
  have hfilled := foldl_filled (filled_nil cell count) fun p hp =>
    ⟨_, (hpoints p hp).1, rfl, hlt p hp⟩
  rw [List.nil_append] at hfilled
  have hspeed : ¬(scan.motorSpeed ≤ 0 ∨ scan.lidarFreq ≤ 0) := by
    have := h.speed
    have := h.freqPos
    omega
  have hlength := hfilled.ranges
  refine ⟨_, by rw [publishScan, if_neg hspeed, if_neg (not_le.mpr h.angleIncrement_pos), hcount],
    ?_, ?_, cell, ?_, ?_⟩
  · simp only [hlength]
    rw [hround, width_eq]
  · simp only [hlength]
    exact hpositive
  · intro p hp
    simp only [hlength]
    refine ⟨hlt p hp, fun k _ => ?_⟩
    have hnearest := round_le (offset scan.angleMinDeg p.angleDeg / increment scan) k
    rw [← hindex p hp, Int.cast_natCast, Int.cast_natCast] at hnearest
    exact abs_sub_mul_le hpos hnearest
  · intro i hi
    simp only [hlength] at hi
    exact hfilled.holds i hi

def Known (config : Nat × Nat) : Prop :=
  ∃ speedCode freqCode, config = (motorSpeedOf speedCode, lidarFreqOf freqCode)

theorem Known.bounds {config : Nat × Nat} (h : Known config) :
    10 ≤ config.1 ∧ 0 < config.2 ∧ config.2 ≤ 40000 := by
  obtain ⟨speedCode, freqCode, rfl⟩ := h
  unfold motorSpeedOf lidarFreqOf
  split_ifs <;> decide

structure Assembled (angleMinDeg angleMaxDeg : ℚ) (scan : SmitScan ℚ) : Prop where
  min : scan.angleMinDeg = angleMinDeg
  max : scan.angleMaxDeg = angleMaxDeg
  reported : Reported scan
  points : ∀ p ∈ scan.points, isFullCircleWindow angleMinDeg angleMaxDeg = false →
    ∃ q : Sample ℚ, inside angleMinDeg angleMaxDeg q = true ∧
      p.angleDeg = normalizeRawAngle q.point.angleDeg

theorem assembled {angleMinDeg angleMaxDeg : ℚ} {calls : List (Call ℚ)}
    (hcalls : ∀ motorSpeed lidarFreq, .setConfig motorSpeed lidarFreq ∈ calls →
      Known (motorSpeed, lidarFreq)) {scan : SmitScan ℚ}
    (h : scan ∈ (assemble (.create angleMinDeg angleMaxDeg) calls).1) :
    Assembled angleMinDeg angleMaxDeg scan := by
  obtain ⟨epoch, hepoch, i, j, hspan, rfl⟩ := mem_assemble h
  have hj := hspan.stop.lt
  have hknown : Known epoch[j].config :=
    epochs_config (by rintro _ ⟨⟩) hcalls epoch hepoch epoch[j] (List.getElem_mem hj)
  obtain ⟨hspeed, hpos, hfreq⟩ := hknown.bounds
  rw [List.getD_eq_getElem _ _ hj]
  refine ⟨rfl, rfl, ⟨hspeed, hpos, hfreq⟩, fun p hp hpart => ?_⟩
  obtain ⟨q, hq, rfl⟩ := List.mem_map.mp hp
  obtain ⟨k, hik, hkj, hk⟩ := mem_slice hq
  rw [span_bounds, if_neg (by rw [hpart]; decide)] at hspan
  obtain ⟨q', hq', hin⟩ := hspan.within k hkj hik
  rw [hk] at hq'
  obtain rfl := Option.some.inj hq'
  exact ⟨q, hin, rfl⟩

/-- Windows for which the publisher takes what the assembler takes. -/
def Signed (angleMinDeg angleMaxDeg : ℚ) : Prop :=
  -180 ≤ angleMinDeg ∧ angleMinDeg ≤ angleMaxDeg ∧ angleMaxDeg < 180

theorem Assembled.agrees {angleMinDeg angleMaxDeg : ℚ} {scan : SmitScan ℚ}
    (h : Assembled angleMinDeg angleMaxDeg scan)
    (hwindow : isFullCircleWindow angleMinDeg angleMaxDeg = true ∨ Signed angleMinDeg angleMaxDeg)
    (now : ℤ) (frameId : String) :
    ∃ message, publishScan now frameId scan = .published message ∧ Agrees scan message := by
  obtain ⟨rfl, rfl, hreported, hpoints⟩ := h
  cases hmode : isFullCircleWindow scan.angleMinDeg scan.angleMaxDeg with
  | true =>
    have hwidth : windowWidthDeg scan = 360 := if_pos hmode
    refine publishScan_agrees hreported (by rw [hwidth]; norm_num) hwidth.le (fun p _ => ?_) now frameId
    refine ⟨offsetDeg_full hmode p, ?_, ?_⟩
    · rw [offset, ← normalize_eq]
      exact normalize_nonneg _
    · rw [offset, ← normalize_eq, hwidth]
      exact (normalize_lt _).le
  | false =>
    have hfalse : ¬isFullCircleWindow scan.angleMinDeg scan.angleMaxDeg = true := by
      rw [hmode]
      decide
    obtain ⟨hmin, hle, hmax⟩ := hwindow.resolve_left hfalse
    have hwidth : windowWidthDeg scan = scan.angleMaxDeg - scan.angleMinDeg := if_neg hfalse
    have hlt := width_lt hmode
    refine publishScan_agrees hreported (by rw [hwidth]; linarith) (by rw [hwidth]; exact hlt.le)
      (fun p hp => ?_) now frameId
    obtain ⟨q, hin, hangle⟩ := hpoints p hp hmode
    have hsigned : rawAngleToSigned p.angleDeg = rawAngleToSigned q.point.angleDeg := by
      rw [signed_eq, signed_eq, hangle, normalize_normalize]
    obtain ⟨hlow, hhigh⟩ := signed_of_inside hmin hle hmax hin
    rw [← hsigned] at hlow hhigh
    obtain ⟨hoffset, heq⟩ := offsetDeg_partial hmode hlow hhigh
    refine ⟨hoffset, ?_, ?_⟩
    · rw [heq]
      linarith
    · rw [heq, hwidth]
      linarith

theorem rawInWindow_eq {raw : ℚ} (hlow : 0 ≤ raw) (hhigh : raw < 360) (start stop : ℚ) :
    isRawAngleInWindow raw start stop false =
      if start ≤ stop then decide (start ≤ raw ∧ raw ≤ stop)
      else decide (start ≤ raw ∨ raw ≤ stop) := by
  show (if start ≤ stop then decide (start ≤ normalizeRawAngle raw ∧ normalizeRawAngle raw ≤ stop)
    else decide (start ≤ normalizeRawAngle raw ∨ normalizeRawAngle raw ≤ stop)) = _
  rw [normalize_of_lt hlow hhigh]

theorem signed_normalize (a : ℚ) : rawAngleToSigned (normalizeRawAngle a) = rawAngleToSigned a := by
  rw [signed_eq, signed_eq, normalize_normalize]

theorem exists_skipped {angleMinDeg angleMaxDeg : ℚ}
    (hpart : isFullCircleWindow angleMinDeg angleMaxDeg = false)
    (hwindow : ¬Signed angleMinDeg angleMaxDeg) :
    ∃ raw, 0 ≤ raw ∧ raw < 360 ∧
      isRawAngleInWindow raw (normalizeRawAngle angleMinDeg) (normalizeRawAngle angleMaxDeg) false =
        true ∧ (rawAngleToSigned raw < angleMinDeg ∨ angleMaxDeg < rawAngleToSigned raw) := by
  have hlt := width_lt hpart
  have hstart : isRawAngleInWindow (normalizeRawAngle angleMinDeg) (normalizeRawAngle angleMinDeg)
      (normalizeRawAngle angleMaxDeg) false = true := by
    rw [rawInWindow_eq (normalize_nonneg _) (normalize_lt _)]
    split
    · exact decide_eq_true ⟨le_refl _, ‹_›⟩
    · exact decide_eq_true (Or.inl (le_refl _))
  have hstop : isRawAngleInWindow (normalizeRawAngle angleMaxDeg) (normalizeRawAngle angleMinDeg)
      (normalizeRawAngle angleMaxDeg) false = true := by
    rw [rawInWindow_eq (normalize_nonneg _) (normalize_lt _)]
    split
    · exact decide_eq_true ⟨‹_›, le_refl _⟩
    · exact decide_eq_true (Or.inr (le_refl _))
  -- a bound outside -180..180 is a whole turn away from its signed angle
  have hturn : ∀ a : ℚ, ∃ k : ℤ, a = rawAngleToSigned a + 360 * k ∧
      (a < -180 → k ≤ -1) ∧ (180 ≤ a → 1 ≤ k) := by
    intro a
    obtain ⟨k, hk⟩ := signed_turns a
    obtain ⟨hlow, hhigh⟩ := signed_range a
    refine ⟨k, hk, fun ha => ?_, fun ha => ?_⟩
    · have hneg : (k : ℚ) < 0 := by linarith
      have : k < 0 := by exact_mod_cast hneg
      omega
    · have hpos : (0 : ℚ) < k := by linarith
      have : 0 < k := by exact_mod_cast hpos
      omega
  by_cases hle : angleMinDeg ≤ angleMaxDeg
  · by_cases hmin : -180 ≤ angleMinDeg
    · have hmax : 180 ≤ angleMaxDeg := le_of_not_gt fun hm => hwindow ⟨hmin, hle, hm⟩
      refine ⟨_, normalize_nonneg angleMaxDeg, normalize_lt _, hstop, Or.inl ?_⟩
      obtain ⟨k, hk, -, hpos⟩ := hturn angleMaxDeg
      have hcast : (1 : ℚ) ≤ k := by exact_mod_cast hpos hmax
      rw [signed_normalize]
      linarith
    · refine ⟨_, normalize_nonneg angleMinDeg, normalize_lt _, hstart, Or.inr ?_⟩
      obtain ⟨k, hk, hneg, -⟩ := hturn angleMinDeg
      have hcast : (k : ℚ) ≤ -1 := by exact_mod_cast hneg (lt_of_not_ge hmin)
      rw [signed_normalize]
      linarith
  · refine ⟨_, normalize_nonneg angleMinDeg, normalize_lt _, hstart, ?_⟩
    by_cases hs : rawAngleToSigned (normalizeRawAngle angleMinDeg) < angleMinDeg
    · exact Or.inl hs
    · exact Or.inr (by linarith)

theorem exists_outside (angleMinDeg angleMaxDeg : ℚ) :
    ∃ raw, 0 ≤ raw ∧ raw < 360 ∧
      isRawAngleInWindow raw (normalizeRawAngle angleMinDeg) (normalizeRawAngle angleMaxDeg) false =
        false := by
  have hs := normalize_nonneg angleMinDeg
  have hs' := normalize_lt angleMinDeg
  have he := normalize_nonneg angleMaxDeg
  have he' := normalize_lt angleMaxDeg
  generalize normalizeRawAngle angleMinDeg = start at *
  generalize normalizeRawAngle angleMaxDeg = stop at *
  by_cases hle : start ≤ stop
  · by_cases hzero : 0 < start
    · refine ⟨0, le_refl 0, by norm_num, ?_⟩
      rw [rawInWindow_eq (le_refl 0) (by norm_num), if_pos hle, decide_eq_false_iff_not]
      rintro ⟨h, -⟩
      linarith
    · refine ⟨(stop + 360) / 2, by linarith, by linarith, ?_⟩
      rw [rawInWindow_eq (by linarith) (by linarith), if_pos hle, decide_eq_false_iff_not]
      rintro ⟨-, h⟩
      linarith
  · refine ⟨(start + stop) / 2, by linarith, by linarith, ?_⟩
    rw [rawInWindow_eq (by linarith) (by linarith), if_neg hle, decide_eq_false_iff_not]
    rintro (h | h) <;> linarith

theorem not_agrees_of_skipped {scan : SmitScan ℚ} {p : SmitPoint ℚ} (hpoints : scan.points = [p])
    (hskip : offsetDeg scan p = none) (now : ℤ) (frameId : String) :
    ¬∃ message, publishScan now frameId scan = .published message ∧ Agrees scan message := by
  rintro ⟨message, hpublished, h⟩
  have hranges : ∀ i, message.ranges.getD i none = none := by
    intro i
    unfold publishScan at hpublished
    split_ifs at hpublished
    cases hcount : sampleCount scan with
    | none =>
      rw [hcount] at hpublished
      cases hpublished
    | some count =>
      rw [hcount] at hpublished
      obtain rfl := Publication.published.inj hpublished
      have hkept : placePoint scan count (List.replicate count none, List.replicate count 0) p =
          (List.replicate count none, List.replicate count 0) := by
        rw [placePoint, hskip]
      simp only [hpoints, List.foldl_cons, List.foldl_nil, hkept]
      by_cases hi : i < count
      · exact List.getD_replicate _ hi
      · exact List.getD_eq_default _ _ (by rw [List.length_replicate]; omega)
  obtain ⟨cell, hcell, hholds⟩ := h.samples
  obtain ⟨hlt, -⟩ := hcell p (by rw [hpoints]; exact List.mem_singleton_self p)
  have hempty := hholds (cell p) hlt
  rw [hranges, hpoints, List.filter_cons_of_pos (by simp)] at hempty
  exact absurd hempty.1 (List.cons_ne_nil _ _)

def threePoints (a b c : SmitPoint ℚ) : SmitPointPacket ℚ :=
  ⟨⟨(a :: b :: c :: List.replicate 61 emptyPoint).toArray, by simp [kMaxPoints]⟩, 3, 0, true⟩

def pointAt (angleDeg : ℚ) : SmitPoint ℚ := ⟨angleDeg, 1, 1⟩

def passing (outside raw : ℚ) : List (Call ℚ) :=
  [.setConfig 10 10000, .addPacket (threePoints (pointAt outside) (pointAt raw) (pointAt outside))]

theorem known_passing (outside raw : ℚ) (motorSpeed lidarFreq : Nat)
    (h : .setConfig motorSpeed lidarFreq ∈ passing outside raw) : Known (motorSpeed, lidarFreq) := by
  obtain ⟨rfl, rfl⟩ : motorSpeed = 10 ∧ lidarFreq = 10000 := by simpa [passing] using h
  exact ⟨0, 0, rfl⟩

theorem passing_epochs (outside raw : ℚ) :
    epochs none (passing outside raw) =
      [[⟨pointAt outside, 10, 10000⟩, ⟨pointAt raw, 10, 10000⟩, ⟨pointAt outside, 10, 10000⟩]] := rfl

theorem passing_scan {angleMinDeg angleMaxDeg : ℚ} (outside raw : ℚ)
    (hpart : isFullCircleWindow angleMinDeg angleMaxDeg = false) (hlow : 0 ≤ raw) (hhigh : raw < 360)
    (hout : isRawAngleInWindow outside (normalizeRawAngle angleMinDeg)
      (normalizeRawAngle angleMaxDeg) false = false)
    (hlow' : 0 ≤ outside) (hhigh' : outside < 360)
    (hin : isRawAngleInWindow raw (normalizeRawAngle angleMinDeg)
      (normalizeRawAngle angleMaxDeg) false = true) :
    (⟨[pointAt raw], angleMinDeg, angleMaxDeg, 10, 10000⟩ : SmitScan ℚ) ∈
      (assemble (.create angleMinDeg angleMaxDeg) (passing outside raw)).1 := by
  have hoff : ∀ c, inside angleMinDeg angleMaxDeg ⟨pointAt outside, c⟩ = false := fun c => by
    unfold inside pointAt
    rw [normalize_of_lt hlow' hhigh']
    exact hout
  have hon : ∀ c, inside angleMinDeg angleMaxDeg ⟨pointAt raw, c⟩ = true := fun c => by
    unfold inside pointAt
    rw [normalize_of_lt hlow hhigh]
    exact hin
  rw [assemble_epochs, passing_epochs, List.flatMap_singleton]
  refine List.mem_map.mpr ⟨(1, 2), mem_spans.mpr ?_, ?_⟩
  · rw [span_bounds, if_neg (by rw [hpart]; decide)]
    refine ⟨by decide, ⟨by decide, _, rfl, by simp [hoff]⟩, fun k hk hik => ?_, ⟨_, rfl, by simp [hoff]⟩⟩
    obtain rfl : k = 1 := by omega
    exact ⟨_, rfl, hon _⟩
  · have hfold : foldPoint (pointAt raw) = pointAt raw := by
      unfold foldPoint pointAt
      rw [normalize_of_lt hlow hhigh]
      rfl
    show scanOf angleMinDeg angleMaxDeg ([⟨pointAt raw, 10, 10000⟩], ⟨pointAt outside, 10, 10000⟩) = _
    simp only [scanOf, List.map_cons, List.map_nil, hfold]

/-- Every scan of the assembler is published with all its points exactly for the full circles
and for the windows between -180 and 180 degrees. -/
theorem publishScan_iff (angleMinDeg angleMaxDeg : ℚ) (now : ℤ) (frameId : String) :
    (∀ calls : List (Call ℚ),
      (∀ motorSpeed lidarFreq, .setConfig motorSpeed lidarFreq ∈ calls →
        Known (motorSpeed, lidarFreq)) →
      ∀ scan ∈ (assemble (.create angleMinDeg angleMaxDeg) calls).1,
        ∃ message, publishScan now frameId scan = .published message ∧ Agrees scan message) ↔
      isFullCircleWindow angleMinDeg angleMaxDeg = true ∨ Signed angleMinDeg angleMaxDeg := by
  constructor
  · intro hall
    by_contra hwindow
    obtain ⟨hfull, hsigned⟩ := not_or.mp hwindow
    have hpart := Bool.eq_false_iff.mpr hfull
    obtain ⟨raw, hlow, hhigh, hin, hskip⟩ := exists_skipped hpart hsigned
    obtain ⟨outside, hlow', hhigh', hout⟩ := exists_outside angleMinDeg angleMaxDeg
    have hscan := passing_scan outside raw hpart hlow hhigh hout hlow' hhigh' hin
    have hlost : offsetDeg (⟨[pointAt raw], angleMinDeg, angleMaxDeg, 10, 10000⟩ : SmitScan ℚ)
        (pointAt raw) = none := by
      apply offsetDeg_skipped
      · exact hpart
      · exact hskip
    exact not_agrees_of_skipped rfl hlost now frameId (hall _ (known_passing outside raw) _ hscan)
  · intro hwindow calls hcalls scan hscan
    exact (assembled hcalls hscan).agrees hwindow now frameId

/-- The window from 90 to 270 degrees: the point at 200 degrees is collected and not published. -/
theorem publishScan_rear :
    ¬∀ (angleMinDeg angleMaxDeg : ℚ) (now : ℤ) (frameId : String) (calls : List (Call ℚ)),
      (∀ motorSpeed lidarFreq, .setConfig motorSpeed lidarFreq ∈ calls →
        Known (motorSpeed, lidarFreq)) →
      ∀ scan ∈ (assemble (.create angleMinDeg angleMaxDeg) calls).1,
        ∃ message, publishScan now frameId scan = .published message ∧ Agrees scan message := by
  intro hall
  have hpart : isFullCircleWindow (90 : ℚ) 270 = false := by
    rw [isFullCircleWindow, decide_eq_false_iff_not]
    show ¬(360 - 0.001 : ℚ) ≤ 270 - 90
    norm_num
  have hin : ∀ raw : ℚ, 0 ≤ raw → raw < 360 →
      isRawAngleInWindow raw (normalizeRawAngle 90) (normalizeRawAngle 270) false =
        decide (90 ≤ raw ∧ raw ≤ 270) := by
    intro raw hlow hhigh
    rw [rawInWindow_eq hlow hhigh, normalize_of_lt (by norm_num) (by norm_num),
      normalize_of_lt (by norm_num) (by norm_num), if_pos (by norm_num)]
  have hscan := passing_scan 80 200 hpart (by norm_num) (by norm_num)
    (by rw [hin _ (by norm_num) (by norm_num)]; norm_num) (by norm_num) (by norm_num)
    (by rw [hin _ (by norm_num) (by norm_num)]; norm_num)
  have hlost : offsetDeg (⟨[pointAt 200], 90, 270, 10, 10000⟩ : SmitScan ℚ) (pointAt 200) = none := by
    apply offsetDeg_skipped
    · exact hpart
    · refine Or.inl ?_
      show rawAngleToSigned 200 < 90
      rw [signed_eq, normalize_of_lt (by norm_num) (by norm_num), if_pos (by norm_num)]
      norm_num
  exact not_agrees_of_skipped rfl hlost 0 "laser"
    (hall 90 270 0 "laser" _ (known_passing 80 200) _ hscan)

end DeviceManager.ScanPublishing
