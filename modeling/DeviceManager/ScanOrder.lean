import DeviceManager.ScanPublishing

namespace DeviceManager.ScanOrder

open Floating Segments SmitProtocol SmitAssembly ScanSegments ScanPublishing

theorem offset_normalize (angleMinDeg angleDeg : ℚ) :
    offset angleMinDeg (normalizeRawAngle angleDeg) =
      if normalizeRawAngle angleMinDeg ≤ normalizeRawAngle angleDeg
      then normalizeRawAngle angleDeg - normalizeRawAngle angleMinDeg
      else normalizeRawAngle angleDeg - normalizeRawAngle angleMinDeg + 360 := by
  have hstart := normalize_eq angleMinDeg
  have hlow := normalize_nonneg angleMinDeg
  have hhigh := normalize_lt angleMinDeg
  have hlow' := normalize_nonneg angleDeg
  have hhigh' := normalize_lt angleDeg
  split_ifs with h
  · refine offset_eq (-⌊angleMinDeg / 360⌋) ?_ (by linarith) (by linarith)
    push_cast
    linarith
  · refine offset_eq (-⌊angleMinDeg / 360⌋ - 1) ?_ (by linarith) (by linarith)
    push_cast
    linarith

/-- Between two points that do not cross the start, forwards or backwards, the offset grows. -/
theorem offset_mono {angleMinDeg : ℚ} {p q : Sample ℚ} (h : ¬crosses angleMinDeg p q) :
    offset angleMinDeg (foldPoint p.point).angleDeg ≤
      offset angleMinDeg (foldPoint q.point).angleDeg := by
  have hp := normalize_nonneg p.point.angleDeg
  have hp' := normalize_lt p.point.angleDeg
  have hq := normalize_nonneg q.point.angleDeg
  have hq' := normalize_lt q.point.angleDeg
  show offset angleMinDeg (normalizeRawAngle p.point.angleDeg) ≤
    offset angleMinDeg (normalizeRawAngle q.point.angleDeg)
  rw [offset_normalize, offset_normalize]
  unfold crosses didRawAngleCrossBoundary at h
  by_cases hforward : normalizeRawAngle p.point.angleDeg ≤ normalizeRawAngle q.point.angleDeg
  · rw [if_pos hforward, decide_eq_true_iff] at h
    by_cases hbehind : normalizeRawAngle angleMinDeg ≤ normalizeRawAngle p.point.angleDeg
    · rw [if_pos hbehind, if_pos (hbehind.trans hforward)]
      linarith
    · have hq : ¬normalizeRawAngle angleMinDeg ≤ normalizeRawAngle q.point.angleDeg :=
        fun hle => h ⟨not_le.mp hbehind, hle⟩
      rw [if_neg hbehind, if_neg hq]
      linarith
  · rw [if_neg hforward, decide_eq_true_iff, not_or] at h
    rw [if_pos (not_lt.mp h.1), if_neg h.2]
    have hstart := normalize_lt angleMinDeg
    have hnot := not_lt.mp h.1
    linarith

/-- In a scan of a full circle the points are in the order of their offsets. -/
theorem full_scans_sorted {angleMinDeg angleMaxDeg : ℚ}
    (hfull : isFullCircleWindow angleMinDeg angleMaxDeg = true) (calls : List (Call ℚ)) :
    ∀ scan ∈ (assemble (.create angleMinDeg angleMaxDeg) calls).1,
      (scan.points.map fun p => offset angleMinDeg p.angleDeg).Pairwise (· ≤ ·) := by
  intro scan hscan
  obtain ⟨epoch, -, i, j, hspan, rfl⟩ := mem_assemble hscan
  have hstretch : Stretch angleMinDeg epoch i j := by
    have h := span_bounds.mp hspan
    rwa [if_pos hfull] at h
  rw [scanOf, List.map_map, List.pairwise_map]
  have : Trans (fun p q : Sample ℚ => offset angleMinDeg (foldPoint p.point).angleDeg ≤
      offset angleMinDeg (foldPoint q.point).angleDeg)
    (fun p q : Sample ℚ => offset angleMinDeg (foldPoint p.point).angleDeg ≤
      offset angleMinDeg (foldPoint q.point).angleDeg)
    (fun p q : Sample ℚ => offset angleMinDeg (foldPoint p.point).angleDeg ≤
      offset angleMinDeg (foldPoint q.point).angleDeg) := ⟨fun h h' => le_trans h h'⟩
  apply slice_pairwise
  intro k p q hik hkj hp hq
  apply offset_mono
  exact fun hc => hstretch.between k hkj hik ⟨by omega, p, q, hp, hq, hc⟩

def oneTurn : List (Call ℚ) :=
  [.setConfig 10 10000, .addPacket (threePoints (pointAt 350) (pointAt 10) (pointAt 100)),
    .addPacket (threePoints (pointAt 200) (pointAt 200) (pointAt 5))]

theorem oneTurn_sorted : isFullCircleWindow (0 : ℚ) 360 = true ∧
    ((assemble (.create (0 : ℚ) 360) oneTurn).1.map fun scan => scan.points.length) = [4] ∧
    ∀ scan ∈ (assemble (.create (0 : ℚ) 360) oneTurn).1,
      (scan.points.map fun p => offset 0 p.angleDeg).Pairwise (· ≤ ·) :=
  ⟨by decide +kernel, by decide +kernel, full_scans_sorted (by decide +kernel) oneTurn⟩

end DeviceManager.ScanOrder
