import DeviceManager.AcceptedParameters
import DeviceManager.Deadline

namespace DeviceManager.CapturePacing

open Domain ParameterReading DriverConfigs AcceptedParameters Deadline

/-- The variables of `capture_loop`, with the arrival times of the frames that it has handed to
`publish_frame`. The times are in nanoseconds. -/
structure Pacing where
  nextPublishAt : ℤ
  publishFps : Int32
  published : List ℤ

/-- One turn of the loop: `config_.fps`, the time at the look at it, and the time behind
`read_frame` if there is a frame. -/
structure Reading where
  fps : Int32
  now : ℤ
  frame : Option ℤ

def Pacing.refresh (p : Pacing) (r : Reading) : Pacing :=
  if r.fps ≠ p.publishFps then
    { p with publishFps := if r.fps < 1 then 1 else r.fps, nextPublishAt := r.now }
  else p

def period (publishFps : Int32) : ℤ := (1000000000 : ℤ).tdiv publishFps.toInt

/-- Nothing where the division is by zero. -/
def publishPeriod (publishFps : Int32) : Option ℤ :=
  if publishFps = 0 then none else some (period publishFps)

/-- Nothing where the turn does not come to its end. -/
def iterate (fuel : ℕ) (p : Pacing) (r : Reading) : Option Pacing :=
  let p := p.refresh r
  match r.frame with
  | none => some p
  | some now =>
    if now < p.nextPublishAt then some p
    else do
      let publishPeriod ← publishPeriod p.publishFps
      let next ← catchUp publishPeriod now fuel p.nextPublishAt
      return { p with nextPublishAt := next, published := p.published ++ [now] }

/-- `capture_loop`, with the time of its start. -/
def captureLoop (fuel : ℕ) (start : ℤ) (readings : List Reading) : Option Pacing :=
  readings.foldlM (iterate fuel) ⟨start, 0, []⟩

theorem captureLoop_snoc (fuel : ℕ) (start : ℤ) (before : List Reading) (r : Reading) :
    captureLoop fuel start (before ++ [r]) =
      (captureLoop fuel start before).bind fun p => iterate fuel p r := by
  rw [captureLoop, List.foldlM_append]
  congr 1
  funext p
  exact bind_pure (iterate fuel p r)

/-- A turn publishes its frame where it is due. -/
theorem iterate_cases {fuel : ℕ} {p q : Pacing} {r : Reading} (h : iterate fuel p r = some q) :
    ((∀ now, r.frame = some now → now < (p.refresh r).nextPublishAt) ∧ q = p.refresh r) ∨
      ∃ now period next, r.frame = some now ∧ (p.refresh r).nextPublishAt ≤ now ∧
        publishPeriod (p.refresh r).publishFps = some period ∧
        catchUp period now fuel (p.refresh r).nextPublishAt = some next ∧
        q = { p.refresh r with
          nextPublishAt := next, published := (p.refresh r).published ++ [now] } := by
  unfold iterate at h
  cases hframe : r.frame with
  | none =>
    rw [hframe] at h
    exact Or.inl ⟨fun now h => (by cases h), (Option.some.inj h).symm⟩
  | some now =>
    simp only [hframe] at h
    split_ifs at h with hearly
    · refine Or.inl ⟨fun other hother => ?_, (Option.some.inj h).symm⟩
      rwa [← Option.some.inj hother]
    · obtain ⟨period, hperiod, h⟩ := Option.bind_eq_some_iff.mp h
      obtain ⟨next, hnext, h⟩ := Option.bind_eq_some_iff.mp h
      exact Or.inr ⟨now, period, next, rfl, not_lt.mp hearly, hperiod, hnext,
        (Option.some.inj h).symm⟩

theorem iterate_mono {fuel more : ℕ} {p q : Pacing} {r : Reading}
    (h : iterate fuel p r = some q) (hle : fuel ≤ more) : iterate more p r = some q := by
  obtain ⟨hearly, rfl⟩ | ⟨now, period, next, hframe, hdue, hperiod, hnext, rfl⟩ := iterate_cases h
  · unfold iterate
    cases hframe : r.frame with
    | none => rfl
    | some now => simp only [if_pos (hearly now hframe)]
  · unfold iterate
    simp only [hframe, if_neg (not_lt.mpr hdue), hperiod]
    rw [Option.bind_eq_bind, Option.bind_some, catchUp_mono hnext hle]
    rfl

theorem captureLoop_mono {fuel more : ℕ} {start : ℤ} {readings : List Reading} {p : Pacing}
    (h : captureLoop fuel start readings = some p) (hle : fuel ≤ more) :
    captureLoop more start readings = some p := by
  induction readings using List.reverseRecOn generalizing p with
  | nil => exact h
  | append_singleton before r ih =>
    rw [captureLoop_snoc] at h ⊢
    obtain ⟨q, hq, hr⟩ := Option.bind_eq_some_iff.mp h
    rw [ih hq, Option.bind_some]
    exact iterate_mono hr hle

def Paceable (fps : Int32) : Prop := 1 ≤ fps.toInt ∧ fps.toInt ≤ 1000000000

instance (fps : Int32) : Decidable (Paceable fps) := inferInstanceAs (Decidable (_ ∧ _))

theorem Paceable.period_pos {fps : Int32} (h : Paceable fps) : 0 < period fps := by
  rw [period, Int.tdiv_eq_ediv_of_nonneg (by omega)]
  exact Int.le_ediv_of_mul_le (by linarith [h.1]) (by linarith [h.2])

theorem Paceable.publishPeriod {fps : Int32} (h : Paceable fps) :
    publishPeriod fps = some (period fps) := by
  rw [CapturePacing.publishPeriod, if_neg]
  rintro rfl
  exact absurd h.1 (by decide)

theorem Paceable.refresh_publishFps {r : Reading} (h : Paceable r.fps) (p : Pacing) :
    (p.refresh r).publishFps = r.fps := by
  have hlow : ¬ r.fps < 1 := by
    rw [Int32.lt_iff_toInt_lt]
    exact not_lt.mpr h.1
  unfold Pacing.refresh
  split_ifs with hfps
  · rfl
  · exact (not_not.mp hfps).symm

theorem iterate_publishFps {fuel : ℕ} {p q : Pacing} {r : Reading} (h : iterate fuel p r = some q) :
    q.publishFps = (p.refresh r).publishFps := by
  obtain ⟨-, rfl⟩ | ⟨_, _, _, -, -, -, -, rfl⟩ := iterate_cases h <;> rfl

theorem Paceable.iterate_ends {r : Reading} (h : Paceable r.fps) (p : Pacing) :
    ∃ fuel q, iterate fuel p r = some q := by
  unfold iterate
  cases r.frame with
  | none => exact ⟨0, _, rfl⟩
  | some now =>
    obtain ⟨fuel, next, hnext⟩ := catchUp_ends h.period_pos now (p.refresh r).nextPublishAt
    refine ⟨fuel, ?_⟩
    dsimp only
    split_ifs
    · exact ⟨_, rfl⟩
    · rw [h.refresh_publishFps, h.publishPeriod, Option.bind_eq_bind, Option.bind_some, hnext]
      exact ⟨_, rfl⟩

theorem captureLoop_ends {readings : List Reading} (h : ∀ r ∈ readings, Paceable r.fps)
    (start : ℤ) : ∃ fuel p, captureLoop fuel start readings = some p := by
  induction readings using List.reverseRecOn with
  | nil => exact ⟨0, _, rfl⟩
  | append_singleton before r ih =>
    obtain ⟨hbefore, hr⟩ := List.forall_mem_append.mp h
    obtain ⟨fuel, p, hp⟩ := ih hbefore
    obtain ⟨more, q, hq⟩ := (hr r (List.mem_singleton_self r)).iterate_ends p
    refine ⟨max fuel more, q, ?_⟩
    rw [captureLoop_snoc, captureLoop_mono hp (le_max_left fuel more), Option.bind_some]
    exact iterate_mono hq (le_max_right fuel more)

theorem captureLoop_publishFps {fuel : ℕ} {start : ℤ} {before : List Reading} {p : Pacing}
    (h : captureLoop fuel start before = some p) (hfps : ∀ r ∈ before, Paceable r.fps) :
    ∀ last ∈ before.getLast?, p.publishFps = last.fps := by
  induction before using List.reverseRecOn with
  | nil => exact nofun
  | append_singleton before r _ =>
    rw [List.getLast?_concat]
    rintro last ⟨rfl⟩
    rw [captureLoop_snoc] at h
    obtain ⟨q, -, hr⟩ := Option.bind_eq_some_iff.mp h
    rw [iterate_publishFps hr]
    exact (hfps r (List.mem_append_right before List.mem_cons_self)).refresh_publishFps q

/-- The loop comes to the end of these turns; where a frame is due the period is positive, and
the deadline is reset only where the configured frames per second are others. -/
structure Total (start : ℤ) (readings : List Reading) : Prop where
  ends : ∃ fuel p, captureLoop fuel start readings = some p
  positive : ∀ before r rest, readings = before ++ r :: rest → ∀ fuel p,
    captureLoop fuel start before = some p → ∀ now, r.frame = some now →
      (p.refresh r).nextPublishAt ≤ now →
        ∃ period, publishPeriod (p.refresh r).publishFps = some period ∧ 0 < period
  reset : ∀ before r rest, readings = before ++ r :: rest → ∀ fuel p,
    captureLoop fuel start before = some p → r.fps ≠ p.publishFps →
      ∀ last ∈ before.getLast?, r.fps ≠ last.fps

theorem total_of_paceable {readings : List Reading} (h : ∀ r ∈ readings, Paceable r.fps)
    (start : ℤ) : Total start readings := by
  refine ⟨captureLoop_ends h start, ?_, ?_⟩
  · rintro before r rest rfl fuel p - now - -
    have hr : Paceable r.fps := h r (List.mem_append_right before List.mem_cons_self)
    refine ⟨period r.fps, ?_, hr.period_pos⟩
    rw [hr.refresh_publishFps, hr.publishPeriod]
  · rintro before r rest rfl fuel p hp hne last hlast
    rwa [← captureLoop_publishFps hp (fun r hr => h r (List.mem_append_left _ hr)) last hlast]

theorem paceable_of_total {fps : Int32}
    (h : ∀ readings, (∀ r ∈ readings, r.fps = fps) → Total 0 readings) : Paceable fps := by
  by_contra hbad
  have hone : ∀ frame, ∀ r ∈ [(⟨fps, 0, frame⟩ : Reading)], r.fps = fps := by simp
  obtain ⟨fuel, p, hdue⟩ := (h [⟨fps, 0, some 0⟩] (hone (some 0))).ends
  obtain hzero | hnegative | hlarge : fps = 0 ∨ fps.toInt < 0 ∨ 1000000000 < fps.toInt := by
    rw [← Int32.toInt_inj, Int32.toInt_zero]
    unfold Paceable at hbad
    omega
  · subst hzero
    cases hdue
  · have hlow : fps < 1 := by
      rw [Int32.lt_iff_toInt_lt]
      exact lt_trans hnegative (by decide)
    have hne : fps ≠ 0 := by
      rintro rfl
      exact absurd hnegative (by decide)
    have hother : fps ≠ 1 := by
      rintro rfl
      exact absurd hnegative (by decide)
    have hfirst : captureLoop 0 0 [⟨fps, 0, none⟩] = some ⟨0, 1, []⟩ := by
      simp [captureLoop, iterate, Pacing.refresh, hne, hlow]
    exact (h [⟨fps, 0, none⟩, ⟨fps, 0, none⟩] (by simp)).reset [⟨fps, 0, none⟩] ⟨fps, 0, none⟩ []
      rfl 0 _ hfirst hother _ rfl rfl
  · have hlow : ¬ fps < 1 := by
      rw [Int32.lt_iff_toInt_lt]
      exact not_lt.mpr (le_trans (by decide) hlarge.le)
    have hne : fps ≠ 0 := by
      rintro rfl
      exact absurd hlarge (by decide)
    have hperiod : period fps = 0 := by
      rw [period, Int.tdiv_eq_ediv_of_nonneg (by omega)]
      exact Int.ediv_eq_zero_of_lt (by omega) hlarge
    simp [captureLoop, iterate, Pacing.refresh, hne, hlow, publishPeriod, hperiod,
      catchUp_stuck] at hdue

variable {Calibration : Type}

/-- Where `first_int` takes a value, the `int` that it becomes is paceable. -/
def PaceableParameters (parameters : ParameterMap) : Prop :=
  ∀ v, firstPositive fpsNames parameters = some v → Paceable v.toInt32

theorem paceable_config {texts : TextReaders Calibration} {deviceId : String}
    {parameters : ParameterMap} (h : (gmslConfigFrom texts deviceId parameters).2 = "") :
    Paceable (gmslConfigFrom texts deviceId parameters).1.fps ↔ PaceableParameters parameters := by
  rw [gmsl_fps h, PaceableParameters]
  cases firstPositive fpsNames parameters with
  | none => exact iff_of_true (by decide) nofun
  | some v => simp

/-- The configurations that the turns read are those of `maps`, in any order. -/
theorem total_iff (texts : TextReaders Calibration) (deviceId : String) (maps : Set ParameterMap)
    (haccepted : ∀ parameters ∈ maps, (gmslConfigFrom texts deviceId parameters).2 = "") :
    (∀ start readings,
      (∀ r ∈ readings, ∃ parameters ∈ maps,
        r.fps = (gmslConfigFrom texts deviceId parameters).1.fps) → Total start readings) ↔
      ∀ parameters ∈ maps, PaceableParameters parameters := by
  constructor
  · intro h parameters hmem
    rw [← paceable_config (haccepted parameters hmem)]
    exact paceable_of_total fun readings hfps =>
      h 0 readings fun r hr => ⟨parameters, hmem, hfps r hr⟩
  · intro h start readings hread
    apply total_of_paceable
    intro r hr
    obtain ⟨parameters, hmem, hfps⟩ := hread r hr
    rw [hfps, paceable_config (haccepted parameters hmem)]
    exact h parameters hmem

def atFps (fps : Int64) : ParameterMap := Finmap.singleton "camera.driver.fps" (.int fps)

theorem thirty_total : Total 0 [⟨30, 0, some 0⟩, ⟨30, 5, none⟩] := by
  refine (total_iff noTexts "" {atFps 30} ?_).mpr ?_ 0 _ ?_
  · rintro parameters rfl
    rfl
  · rintro parameters rfl v hv
    cases hv
    decide
  · intro r hr
    refine ⟨atFps 30, rfl, ?_⟩
    simp only [List.mem_cons, List.not_mem_nil, or_false] at hr
    obtain rfl | rfl := hr <;> rfl

/-- 2 ^ 32 becomes 0, which the start value of `publish_fps` cannot be told from. -/
theorem wrappedFps_not_total :
    (gmslConfigFrom noTexts "" (atFps 4294967296)).2 = "" ∧
      ¬ Total 0 [⟨(gmslConfigFrom noTexts "" (atFps 4294967296)).1.fps, 0, some 0⟩] := by
  refine ⟨rfl, fun h => ?_⟩
  obtain ⟨fuel, p, hp⟩ := h.ends
  cases hp

end DeviceManager.CapturePacing
