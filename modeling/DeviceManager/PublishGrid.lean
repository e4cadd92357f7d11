import DeviceManager.CapturePacing

namespace DeviceManager.CapturePacing

open Deadline

def arrivals (readings : List Reading) : List ℤ := readings.filterMap Reading.frame

theorem arrivals_snoc (before : List Reading) (r : Reading) :
    arrivals (before ++ [r]) = arrivals before ++ r.frame.toList := by
  rw [arrivals, arrivals, List.filterMap_append]
  cases hr : r.frame <;> simp [hr]

def FirstDue (before : List Reading) (deadline arrival : ℤ) : Prop :=
  deadline ≤ arrival ∧ ∀ earlier ∈ arrivals before, earlier < deadline

/-- One turn behind `before`, from `p` to `q`: the first frame at or after the deadline is
published and moves the deadline to the next point of the grid, and nothing else happens. -/
structure Exactly (origin period : ℤ) (before : List Reading) (r : Reading) (p q : Pacing) :
    Prop where
  grid : OnGrid origin period (p.refresh r).nextPublishAt
  due : ∀ arrival, r.frame = some arrival →
    FirstDue before (p.refresh r).nextPublishAt arrival →
      q.published = p.published ++ [arrival] ∧
        IsLeast {point | OnGrid origin period point ∧ arrival < point} q.nextPublishAt
  other : (∀ arrival, r.frame = some arrival →
    ¬ FirstDue before (p.refresh r).nextPublishAt arrival) →
      q.published = p.published ∧ q.nextPublishAt = (p.refresh r).nextPublishAt
  intervals : q.published.Pairwise fun a b => (a - origin) / period < (b - origin) / period

/-- What holds in each turn behind its look at the configuration. -/
structure Kept (fps : Int32) (origin : ℤ) (before : List Reading) (p : Pacing) : Prop where
  publishFps : p.publishFps = fps
  grid : OnGrid origin (period fps) p.nextPublishAt
  early : ∀ arrival ∈ arrivals before, arrival < p.nextPublishAt
  published : ∀ arrival ∈ p.published, arrival < p.nextPublishAt
  intervals : p.published.Pairwise fun a b =>
    (a - origin) / period fps < (b - origin) / period fps

theorem Kept.refresh {fps : Int32} {origin : ℤ} {before : List Reading} {p : Pacing}
    (h : Kept fps origin before p) {r : Reading} (hr : r.fps = fps) : p.refresh r = p := by
  rw [Pacing.refresh, if_neg]
  rw [h.publishFps, hr]
  exact not_not.mpr rfl

theorem Kept.iterate {fps : Int32} (hfps : Paceable fps) {origin : ℤ} {before : List Reading}
    {p q : Pacing} {r : Reading} {fuel : ℕ} (h : Kept fps origin before (p.refresh r))
    (hq : iterate fuel p r = some q) : Kept fps origin (before ++ [r]) q := by
  obtain ⟨hearly, rfl⟩ | ⟨now, publishPeriod, next, hframe, hdue, hperiod, hnext, rfl⟩ :=
    iterate_cases hq
  · refine ⟨h.publishFps, h.grid, ?_, h.published, h.intervals⟩
    rw [arrivals_snoc]
    refine List.forall_mem_append.mpr ⟨h.early, ?_⟩
    intro arrival harrival
    exact hearly arrival (Option.mem_toList.mp harrival)
  · rw [h.publishFps, hfps.publishPeriod] at hperiod
    obtain rfl := Option.some.inj hperiod
    obtain ⟨hlow, -⟩ := catchUp_bounds hnext hdue
    have hlater : (p.refresh r).nextPublishAt < next := lt_of_le_of_lt hdue hlow
    refine ⟨h.publishFps, catchUp_onGrid hnext h.grid, ?_, ?_, ?_⟩
    · rw [arrivals_snoc, hframe]
      refine List.forall_mem_append.mpr ⟨fun b hb => (h.early b hb).trans hlater, ?_⟩
      simpa using hlow
    · refine List.forall_mem_append.mpr ⟨fun b hb => (h.published b hb).trans hlater, ?_⟩
      simpa using hlow
    · refine List.pairwise_append.mpr ⟨h.intervals, List.pairwise_singleton _ _, ?_⟩
      intro a ha b hb
      obtain rfl := List.mem_singleton.mp hb
      exact h.grid.interval_lt hfps.period_pos (h.published a ha) hdue

theorem Kept.exactly {fps : Int32} (hfps : Paceable fps) {origin : ℤ} {before : List Reading}
    {p q : Pacing} {r : Reading} {fuel : ℕ} (h : Kept fps origin before (p.refresh r))
    (hq : CapturePacing.iterate fuel p r = some q) :
    Exactly origin (period fps) before r p q := by
  have hpublished : (p.refresh r).published = p.published := by
    unfold Pacing.refresh
    split_ifs <;> rfl
  refine ⟨h.grid, ?_, ?_, (h.iterate hfps hq).intervals⟩
  · intro arrival hframe hfirst
    obtain ⟨hearly, -⟩ | ⟨now, publishPeriod, next, hnow, hdue, hperiod, hnext, rfl⟩ :=
      iterate_cases hq
    · exact absurd hfirst.1 (not_le.mpr (hearly arrival hframe))
    · rw [h.publishFps, hfps.publishPeriod] at hperiod
      obtain rfl := Option.some.inj hperiod
      obtain rfl := Option.some.inj (hframe.symm.trans hnow)
      obtain ⟨hlow, hhigh⟩ := catchUp_bounds hnext hdue
      refine ⟨by rw [← hpublished], ?_⟩
      exact (catchUp_onGrid hnext h.grid).isLeast hfps.period_pos hlow hhigh
  · intro hlate
    obtain ⟨-, rfl⟩ | ⟨now, _, _, hnow, hdue, -, -, -⟩ := iterate_cases hq
    · exact ⟨hpublished, rfl⟩
    · exact absurd ⟨hdue, h.early⟩ (hlate now hnow)

theorem kept_first {fps : Int32} (hfps : Paceable fps) {first : Reading}
    (hfirst : first.fps = fps) (start : ℤ) :
    Kept fps first.now [] (Pacing.refresh ⟨start, 0, []⟩ first) := by
  have hne : first.fps ≠ 0 := by
    rintro hzero
    rw [← hfirst, hzero] at hfps
    exact absurd hfps (by decide)
  rw [← hfirst] at hfps
  have hrefresh : Pacing.refresh ⟨start, 0, []⟩ first = ⟨first.now, first.fps, []⟩ := by
    have hpublish := hfps.refresh_publishFps ⟨start, 0, []⟩
    rw [Pacing.refresh, if_pos hne] at hpublish ⊢
    rw [Pacing.mk.injEq]
    exact ⟨rfl, hpublish, rfl⟩
  rw [hrefresh]
  exact ⟨hfirst, onGrid_start _ _, fun _ h => (by cases h), fun _ h => (by cases h), List.Pairwise.nil⟩

theorem captureLoop_kept {fps : Int32} (hfps : Paceable fps) {first : Reading} {fuel : ℕ}
    {start : ℤ} {readings : List Reading} (hall : ∀ r ∈ first :: readings, r.fps = fps)
    {p : Pacing} (h : captureLoop fuel start (first :: readings) = some p) :
    Kept fps first.now (first :: readings) p := by
  induction readings using List.reverseRecOn generalizing p with
  | nil =>
    rw [← List.nil_append [first], captureLoop_snoc] at h
    exact (kept_first hfps (hall first List.mem_cons_self) start).iterate hfps h
  | append_singleton before r ih =>
    rw [← List.cons_append] at h hall ⊢
    obtain ⟨hbefore, hr⟩ := List.forall_mem_append.mp hall
    rw [captureLoop_snoc] at h
    obtain ⟨q, hq, hp⟩ := Option.bind_eq_some_iff.mp h
    have hkept := ih hbefore hq
    rw [← hkept.refresh (hr r (List.mem_singleton_self r))] at hkept
    exact hkept.iterate hfps hp

/-- Each turn of a run keeps exactly to the grid of its first turn. -/
theorem paced_exactly {fps : Int32} (hfps : Paceable fps) {first : Reading}
    {readings : List Reading} (hall : ∀ r ∈ first :: readings, r.fps = fps) (start : ℤ) :
    (∃ fuel p, captureLoop fuel start (first :: readings) = some p) ∧
      ∀ before r rest, first :: readings = before ++ r :: rest → ∀ fuel p q,
        captureLoop fuel start before = some p →
          captureLoop fuel start (before ++ [r]) = some q →
            Exactly first.now (period fps) before r p q := by
  have hpaceable : ∀ r ∈ first :: readings, Paceable r.fps := by
    intro r hr
    rw [hall r hr]
    exact hfps
  refine ⟨captureLoop_ends hpaceable start, ?_⟩
  intro before r rest hsplit fuel p q hp hq
  rw [captureLoop_snoc, hp] at hq
  rw [hsplit] at hall
  cases before with
  | nil =>
    obtain ⟨rfl, -⟩ := List.cons.inj hsplit
    obtain rfl := Option.some.inj hp
    exact (kept_first hfps (hall first List.mem_cons_self) start).exactly hfps hq
  | cons other before =>
    obtain ⟨rfl, -⟩ := List.cons.inj hsplit
    obtain ⟨hbefore, hr⟩ := List.forall_mem_append.mp hall
    have hkept := captureLoop_kept hfps hbefore hp
    rw [← hkept.refresh (hr r List.mem_cons_self)] at hkept
    exact hkept.exactly hfps hq

/-- Ten frames per second, and a frame behind a gap of two periods and a half. -/
theorem gap_paced :
    Exactly 0 100000000 [⟨10, 0, some 0⟩] ⟨10, 1, some 250000000⟩ ⟨100000000, 10, [0]⟩
      ⟨300000000, 10, [0, 250000000]⟩ :=
  (paced_exactly (show Paceable 10 by decide) (by simp) 0).2 [⟨10, 0, some 0⟩]
    ⟨10, 1, some 250000000⟩ [] rfl 2 _ _ rfl rfl

end DeviceManager.CapturePacing
