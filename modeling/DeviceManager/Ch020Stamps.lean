import DeviceManager.CircleMinTracker
import DeviceManager.Lockstep
import Mathlib.Data.List.Chain
import Mathlib.Tactic.Linarith

namespace DeviceManager.Ch020Stamps

open Lockstep SuffixMinimum CircleMinTracker

/-- The fields of `Ch020ImuRuntime` that `make_stamp` uses. -/
structure Ch020ImuRuntime where
  useHardwareTime : Bool
  timeSync : CircleMinTracker ℤ

def Ch020ImuRuntime.create (useHardwareTime : Bool) : Ch020ImuRuntime :=
  ⟨useHardwareTime, .create 200⟩

/-- A packet: the time when it is published, and its time stamp in milliseconds. -/
structure Reading where
  localNs : Int64
  hardwareTimestampMs : UInt32

def Reading.sensorNs (x : Reading) : ℤ := x.hardwareTimestampMs.toNat * 1000000

def Reading.offset (x : Reading) : ℤ := x.localNs.toInt - x.sensorNs

def makeStamp (r : Ch020ImuRuntime) (x : Reading) : ℤ × Ch020ImuRuntime :=
  if !r.useHardwareTime then (x.localNs.toInt, r)
  else
    let timeSync := r.timeSync.pushBack x.offset
    let synchronizedNs := timeSync.getMin + x.sensorNs
    if x.localNs.toInt + 100000000 < synchronizedNs ∨
        synchronizedNs < x.localNs.toInt - 100000000 then
      (x.localNs.toInt, { r with timeSync := timeSync.reset })
    else (synchronizedNs, { r with timeSync })

/-- The results of the arithmetic on `std::int64_t` in one call. -/
def results (r : Ch020ImuRuntime) (x : Reading) : List ℤ :=
  let timeSync := r.timeSync.pushBack x.offset
  [x.sensorNs, x.offset, timeSync.count, timeSync.getMin + x.sensorNs,
    x.localNs.toInt + 100000000, x.localNs.toInt - 100000000] ++
    if r.timeSync.count = 0 then [] else [r.timeSync.count - r.timeSync.minIndex]

def NoOverflow (r : Ch020ImuRuntime) (x : Reading) : Prop :=
  r.useHardwareTime = true → ∀ n ∈ results r x, -2 ^ 63 ≤ n ∧ n < 2 ^ 63

instance (r : Ch020ImuRuntime) (x : Reading) : Decidable (NoOverflow r x) :=
  inferInstanceAs (Decidable (_ → _))

def run (r : Ch020ImuRuntime) (readings : List Reading) : List ℤ × Ch020ImuRuntime :=
  play (fun r x => ([(makeStamp r x).1], (makeStamp r x).2)) r readings

/-- The local time does not go back, nor does the hardware time by up to 100 ms. -/
def Follows (x y : Reading) : Prop :=
  x.localNs ≤ y.localNs ∧ (x.hardwareTimestampMs ≤ y.hardwareTimestampMs ∨
    y.hardwareTimestampMs.toNat + 100 < x.hardwareTimestampMs.toNat)

instance : DecidableRel Follows := fun _ _ => inferInstanceAs (Decidable (_ ∧ _))

/-- The local time is far enough from the ends of its type. -/
def InRange (x : Reading) : Prop :=
  x.sensorNs - 2 ^ 63 ≤ x.localNs.toInt ∧ 100000000 - 2 ^ 63 ≤ x.localNs.toInt ∧
    x.localNs.toInt + 100000000 < 2 ^ 63

instance : DecidablePred InRange := fun _ => inferInstanceAs (Decidable (_ ∧ _))

def Close (x : Reading) (stamp : ℤ) : Prop :=
  stamp ≤ x.localNs.toInt ∧ x.localNs.toInt - 100000000 ≤ stamp

theorem run_snoc (r : Ch020ImuRuntime) (before : List Reading) (x : Reading) :
    run r (before ++ [x]) =
      ((run r before).1 ++ [(makeStamp (run r before).2 x).1], (makeStamp (run r before).2 x).2) := by
  rw [run, play_append]
  rfl

theorem Follows.cases {x y : Reading} (h : Follows x y) :
    x.localNs.toInt ≤ y.localNs.toInt ∧
      (x.sensorNs ≤ y.sensorNs ∨ y.sensorNs + 100000000 < x.sensorNs) := by
  refine ⟨Int64.le_iff_toInt_le.mp h.1, h.2.imp (fun hle => ?_) fun hlt => ?_⟩
  · have hms : x.hardwareTimestampMs.toNat ≤ y.hardwareTimestampMs.toNat :=
      UInt32.le_iff_toNat_le.mp hle
    rw [Reading.sensorNs, Reading.sensorNs]
    omega
  · rw [Reading.sensorNs, Reading.sensorNs]
    omega

/-- What a push does to the minimum: a new value, or one up to the value before. -/
theorem getMin_pushBack {t : CircleMinTracker ℤ} {offsets : List ℤ} (h : Tracks t offsets)
    {last : ℤ} (hlast : offsets.getLast? = some last) (value : ℤ) :
    (t.pushBack value).getMin = value ∨
      t.getMin ≤ (t.pushBack value).getMin ∧ (t.pushBack value).getMin ≤ last := by
  have hne : offsets ≠ [] := by
    rintro rfl
    cases hlast
  have hminimum := h.minimum hne
  have hbackup := h.backup hne
  obtain ⟨hleft, hright, hspan⟩ := h.index hne
  obtain ⟨-, ht⟩ | ⟨-, -, ht⟩ | ⟨-, hhigh, -, ht⟩ | ⟨-, -, -, ht⟩ := pushBack_cases t value
  · exact Or.inl (congrArg CircleMinTracker.minValue ht)
  · exact Or.inl (congrArg CircleMinTracker.minValue ht)
  · have hbelow : t.minValue ≤ t.backup :=
      hminimum.2 (List.drop_subset_drop_left offsets (by omega) hbackup.1)
    rw [ht]
    exact Or.inr ⟨le_min hbelow hhigh.le,
      (min_le_left _ _).trans (minimum_le_getLast hbackup hlast)⟩
  · rw [ht]
    exact Or.inr ⟨le_rfl, minimum_le_getLast hminimum hlast⟩

theorem getMin_le {t : CircleMinTracker ℤ} {offsets : List ℤ} (h : Tracks t offsets)
    (hwindow : 1 ≤ t.window) (value : ℤ) : (t.pushBack value).getMin ≤ value :=
  minimum_le_getLast ((h.pushBack hwindow value).minimum (List.concat_ne_nil value offsets))
    List.getLast?_concat

theorem makeStamp_cases {r : Ch020ImuRuntime} (hr : r.useHardwareTime = true) (x : Reading) :
    makeStamp r x =
        (x.localNs.toInt, { r with timeSync := (r.timeSync.pushBack x.offset).reset }) ∨
      x.localNs.toInt - 100000000 ≤ (r.timeSync.pushBack x.offset).getMin + x.sensorNs ∧
        makeStamp r x = ((r.timeSync.pushBack x.offset).getMin + x.sensorNs,
          { r with timeSync := r.timeSync.pushBack x.offset }) := by
  unfold makeStamp
  simp only [hr, Bool.not_true, Bool.false_eq_true, if_false]
  split_ifs with hfar
  · exact Or.inl rfl
  · exact Or.inr ⟨not_lt.mp (not_or.mp hfar).2, rfl⟩

structure Since (done : List Reading) (stamps : List ℤ) (t : CircleMinTracker ℤ)
    (offsets : List ℤ) : Prop where
  tracks : Tracks t offsets
  length : offsets.length ≤ done.length
  bounded : ∀ offset ∈ offsets, -2 ^ 63 ≤ offset
  past : ∀ y, done.getLast? = some y → ∀ stamp ∈ stamps, stamp ≤ y.localNs.toInt
  last : ∀ y, done.getLast? = some y → offsets ≠ [] →
    offsets.getLast? = some y.offset ∧ ∀ stamp ∈ stamps, stamp ≤ t.getMin + y.sensorNs

structure Kept (done : List Reading) (stamps : List ℤ) (r : Ch020ImuRuntime) : Prop where
  hardware : r.useHardwareTime = true
  window : r.timeSync.window = 200
  since : ∃ offsets, Since done stamps r.timeSync offsets
  close : List.Forall₂ Close done stamps
  sorted : stamps.Pairwise (· ≤ ·)

theorem kept_nil : Kept [] [] (.create true) :=
  ⟨rfl, rfl, ⟨[], tracks_nil rfl, le_rfl, List.forall_mem_nil _, fun _ h => (by cases h),
    fun _ h => (by cases h)⟩, .nil, .nil⟩

theorem Since.stamp_le {done : List Reading} {stamps : List ℤ} {t : CircleMinTracker ℤ}
    {offsets : List ℤ} (h : Since done stamps t offsets) (hclose : List.Forall₂ Close done stamps)
    {x : Reading} (hfollows : ∀ y, done.getLast? = some y → Follows y x)
    (hnear : x.localNs.toInt - 100000000 ≤ (t.pushBack x.offset).getMin + x.sensorNs) :
    ∀ stamp ∈ stamps, stamp ≤ (t.pushBack x.offset).getMin + x.sensorNs := by
  intro stamp hstamp
  obtain rfl | ⟨before, y, rfl⟩ := done.eq_nil_or_concat
  · rw [List.forall₂_nil_left_iff.mp hclose] at hstamp
    cases hstamp
  · have hlast : (before.concat y).getLast? = some y := by
      rw [List.concat_eq_append, List.getLast?_concat]
    obtain ⟨hlocal, hsensor⟩ := (hfollows y hlast).cases
    have hpast := h.past y hlast stamp hstamp
    have hnew : (t.pushBack x.offset).getMin = x.offset →
        stamp ≤ (t.pushBack x.offset).getMin + x.sensorNs := by
      intro hmin
      rw [hmin, Reading.offset]
      omega
    obtain rfl | hne := eq_or_ne offsets []
    · obtain ⟨-, ht⟩ | ⟨hcount, -⟩ | ⟨hcount, -⟩ | ⟨hcount, -⟩ := pushBack_cases t x.offset
      · exact hnew (congrArg CircleMinTracker.minValue ht)
      · exact absurd h.tracks.count hcount
      · exact absurd h.tracks.count hcount
      · exact absurd h.tracks.count hcount
    · obtain ⟨hoffset, hstamps⟩ := h.last y hlast hne
      obtain hmin | ⟨hlow, hhigh⟩ := getMin_pushBack h.tracks hoffset x.offset
      · exact hnew hmin
      · have hold := hstamps stamp hstamp
        have hy : y.offset = y.localNs.toInt - y.sensorNs := rfl
        -- a hardware time that has gone back would have reset the tracker
        omega

theorem Kept.snoc {done : List Reading} {stamps : List ℤ} {r : Ch020ImuRuntime}
    (h : Kept done stamps r) {x : Reading} (hfollows : ∀ y, done.getLast? = some y → Follows y x)
    (hrange : InRange x) :
    Kept (done ++ [x]) (stamps ++ [(makeStamp r x).1]) (makeStamp r x).2 := by
  obtain ⟨offsets, hsince⟩ := h.since
  have hwindow : (r.timeSync.pushBack x.offset).window = 200 :=
    (pushBack_window _ _).trans h.window
  have hlast : ∀ y, (done ++ [x]).getLast? = some y → x = y := by
    intro y hy
    rw [List.getLast?_concat] at hy
    exact Option.some.inj hy
  have hpast : ∀ stamp ∈ stamps, stamp ≤ x.localNs.toInt := by
    intro stamp hstamp
    obtain rfl | ⟨before, y, rfl⟩ := done.eq_nil_or_concat
    · rw [List.forall₂_nil_left_iff.mp h.close] at hstamp
      cases hstamp
    · have hy : (before.concat y).getLast? = some y := by
        rw [List.concat_eq_append, List.getLast?_concat]
      exact (hsince.past y hy stamp hstamp).trans (hfollows y hy).cases.1
  have hsnoc : ∀ {stamp}, (∀ s ∈ stamps, s ≤ stamp) → Close x stamp →
      List.Forall₂ Close (done ++ [x]) (stamps ++ [stamp]) ∧
        (stamps ++ [stamp]).Pairwise (· ≤ ·) := by
    intro stamp hle hclose
    refine ⟨List.rel_append h.close (.cons hclose .nil), ?_⟩
    refine List.pairwise_append.mpr ⟨h.sorted, List.pairwise_singleton _ _, ?_⟩
    intro s hs other hother
    obtain rfl := List.mem_singleton.mp hother
    exact hle s hs
  have htracks := hsince.tracks.pushBack (by rw [h.window]; decide) x.offset
  obtain hr | ⟨hnear, hr⟩ := makeStamp_cases h.hardware x
  · rw [hr]
    obtain ⟨hclose, hsorted⟩ := hsnoc hpast ⟨le_rfl, by omega⟩
    refine ⟨h.hardware, hwindow, ⟨[], tracks_nil rfl, Nat.zero_le _, List.forall_mem_nil _, ?_,
      fun _ _ hne => absurd rfl hne⟩, hclose, hsorted⟩
    intro y hy
    obtain rfl := hlast y hy
    exact List.forall_mem_append.mpr ⟨hpast, List.forall_mem_singleton.mpr le_rfl⟩
  · have hbefore := hsince.stamp_le h.close hfollows hnear
    have hlate : (r.timeSync.pushBack x.offset).getMin + x.sensorNs ≤ x.localNs.toInt := by
      have hmin := getMin_le hsince.tracks (by rw [h.window]; decide) x.offset
      have hx : x.offset = x.localNs.toInt - x.sensorNs := rfl
      omega
    rw [hr]
    obtain ⟨hclose, hsorted⟩ := hsnoc hbefore ⟨hlate, hnear⟩
    refine ⟨h.hardware, hwindow, ⟨offsets ++ [x.offset], htracks, ?_, ?_, ?_, ?_⟩, hclose, hsorted⟩
    · rw [List.length_append, List.length_append]
      exact Nat.add_le_add_right hsince.length 1
    · refine List.forall_mem_append.mpr ⟨hsince.bounded, List.forall_mem_singleton.mpr ?_⟩
      rw [Reading.offset]
      linarith [hrange.1]
    · intro y hy
      obtain rfl := hlast y hy
      exact List.forall_mem_append.mpr ⟨hpast, List.forall_mem_singleton.mpr hlate⟩
    · intro y hy _
      obtain rfl := hlast y hy
      exact ⟨List.getLast?_concat, List.forall_mem_append.mpr
        ⟨hbefore, List.forall_mem_singleton.mpr le_rfl⟩⟩

theorem Kept.noOverflow {done : List Reading} {stamps : List ℤ} {r : Ch020ImuRuntime}
    (h : Kept done stamps r) {x : Reading} (hrange : InRange x)
    (hlength : (done.length : ℤ) + 1 < 2 ^ 63) : NoOverflow r x := by
  intro _ n hn
  obtain ⟨offsets, hsince⟩ := h.since
  obtain ⟨hlow, hleft, hright⟩ := hrange
  have hx : x.offset = x.localNs.toInt - x.sensorNs := rfl
  have hms := x.hardwareTimestampMs.toNat_lt
  have hsensor : 0 ≤ x.sensorNs ∧ x.sensorNs < 2 ^ 63 := by
    rw [Reading.sensorNs]
    omega
  have hcount := hsince.tracks.count
  have hdone := hsince.length
  have htracks := hsince.tracks.pushBack (by rw [h.window]; decide) x.offset
  have hcount' := htracks.count
  rw [List.length_append, List.length_singleton] at hcount'
  have hmin : -2 ^ 63 ≤ (r.timeSync.pushBack x.offset).getMin ∧
      (r.timeSync.pushBack x.offset).getMin ≤ x.offset := by
    refine ⟨?_, getMin_le hsince.tracks (by rw [h.window]; decide) x.offset⟩
    have hmem := List.mem_of_mem_drop (htracks.minimum (List.concat_ne_nil _ _)).1
    obtain hmem | hmem := List.mem_append.mp hmem
    · exact hsince.bounded _ hmem
    · rw [getMin, List.mem_singleton.mp hmem]
      omega
  rw [results, List.mem_append] at hn
  obtain hn | hn := hn
  · simp only [List.mem_cons, List.not_mem_nil, or_false] at hn
    obtain rfl | rfl | rfl | rfl | rfl | rfl := hn <;> omega
  · split_ifs at hn with hzero
    · cases hn
    · obtain rfl := List.mem_singleton.mp hn
      obtain ⟨hindex, hbehind, -⟩ := hsince.tracks.index fun hnil => hzero (by rw [hcount, hnil]; rfl)
      omega

theorem kept_run {readings : List Reading} (hordered : readings.IsChain Follows)
    (hrange : ∀ x ∈ readings, InRange x) :
    Kept readings (run (.create true) readings).1 (run (.create true) readings).2 := by
  induction readings using List.reverseRecOn with
  | nil => exact kept_nil
  | append_singleton before x ih =>
    obtain ⟨hbefore, -, hfollows⟩ := List.isChain_append.mp hordered
    obtain ⟨hranges, hx⟩ := List.forall_mem_append.mp hrange
    rw [run_snoc]
    exact (ih hbefore hranges).snoc (fun y hy => hfollows y hy x rfl)
      (hx x (List.mem_singleton_self x))

/-- The stamps of the packets: they do not go back, each is close to its packet, and no
arithmetic overflows. -/
structure Stamped (readings : List Reading) : Prop where
  sorted : (run (.create true) readings).1.Pairwise (· ≤ ·)
  close : List.Forall₂ Close readings (run (.create true) readings).1
  exact : ∀ done x, done ++ [x] <+: readings → NoOverflow (run (.create true) done).2 x

theorem stamps_monotone (readings : List Reading) (hordered : readings.IsChain Follows)
    (hrange : ∀ x ∈ readings, InRange x) (hlength : readings.length < 2 ^ 63) :
    Stamped readings := by
  have hkept := kept_run hordered hrange
  refine ⟨hkept.sorted, hkept.close, fun done x hpart => ?_⟩
  have hchain := hordered.prefix hpart
  obtain ⟨hdone, -, -⟩ := List.isChain_append.mp hchain
  have hranges := fun y hy => hrange y (hpart.subset hy)
  have hle := hpart.length_le
  rw [List.length_append, List.length_singleton] at hle
  exact (kept_run hdone fun y hy => hranges y (List.mem_append_left [x] hy)).noOverflow
    (hranges x (List.mem_append_right done (List.mem_singleton_self x))) (by omega)

/-- The hardware clock starts again, and the tracker is reset. -/
theorem rebooted_stamped :
    Stamped [⟨5000000000, 4000⟩, ⟨5010000000, 4008⟩, ⟨5020000000, 10⟩] :=
  stamps_monotone _ (by decide) (by decide) (by decide)

def still : Reading := ⟨0, 0⟩

theorem run_still (n : ℕ) :
    ∃ index, (run (.create true) (List.replicate n still)).2 = ⟨true, ⟨200, 0, 0, index, n⟩⟩ := by
  induction n with
  | zero => exact ⟨0, rfl⟩
  | succ n ih =>
    obtain ⟨index, hrun⟩ := ih
    have hpush : ∃ next, CircleMinTracker.pushBack (⟨200, 0, 0, index, n⟩ : CircleMinTracker ℤ) 0 =
        ⟨200, 0, 0, next, n + 1⟩ := by
      obtain ⟨-, ht⟩ | ⟨-, -, ht⟩ | ⟨-, hhigh, -⟩ | ⟨-, hhigh, -⟩ :=
        pushBack_cases (⟨200, 0, 0, index, n⟩ : CircleMinTracker ℤ) 0
      · exact ⟨0, ht⟩
      · exact ⟨n, ht⟩
      · exact absurd hhigh (lt_irrefl 0)
      · exact absurd hhigh (lt_irrefl 0)
    obtain ⟨next, hpush⟩ := hpush
    refine ⟨next, ?_⟩
    rw [List.replicate_succ', run_snoc, hrun, Nat.cast_succ, ← hpush]
    rw [makeStamp, show still.offset = 0 from rfl, hpush]
    rfl

/-- The local time at either end of its type, and a counter that is full. -/
theorem ends_overflow :
    ¬ Stamped [⟨Int64.maxValue, 0⟩] ∧ ¬ Stamped [⟨Int64.minValue, 0⟩] ∧
      (List.replicate (2 ^ 63) still).IsChain Follows ∧
        ¬ Stamped (List.replicate (2 ^ 63) still) := by
  refine ⟨fun h => ?_, fun h => ?_, ?_, fun h => ?_⟩
  · exact absurd (h.exact [] _ List.prefix_rfl rfl) (by decide)
  · exact absurd (h.exact [] _ List.prefix_rfl rfl) (by decide)
  · exact List.isChain_replicate_of_rel _ (by decide)
  · have hpart : List.replicate (2 ^ 63 - 1) still ++ [still] <+: List.replicate (2 ^ 63) still := by
      rw [← List.replicate_succ']
      exact List.prefix_rfl
    obtain ⟨index, hrun⟩ := run_still (2 ^ 63 - 1)
    have hexact := h.exact _ _ hpart
    rw [hrun] at hexact
    obtain ⟨-, hcount⟩ := hexact rfl _
      (List.mem_append_left _ (List.mem_of_getElem? (i := 2) rfl))
    rw [pushBack_count] at hcount
    exact absurd hcount (by norm_num)

end DeviceManager.Ch020Stamps
