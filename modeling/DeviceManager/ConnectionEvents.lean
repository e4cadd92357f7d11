import DeviceManager.CapturePacing
import DeviceManager.FramePublishing
import DeviceManager.Lockstep
import DeviceManager.Stretches

namespace DeviceManager.ConnectionEvents

open Domain FrameConversion FrameCalibration FramePublishing GmslRuntime CapturePacing Lockstep
  Stretches

/-- What `read_frame` returns: a frame, with the time behind the call, or an error message. -/
inductive CaptureResult where
  | frame (frame : CapturedFrame) (now : ℤ)
  | nothing (errorMessage : String)

/-- One turn of `capture_loop`: `config_.fps`, the time at the look at it, and the stamp that the
node gives to a frame. -/
structure Turn where
  fps : Int32
  start : ℤ
  result : CaptureResult
  stamp : ℤ

/-- The loop: without pacing it is still looking for the time of the next frame. -/
structure Capturing where
  pacing : Option Pacing
  camera : Camera

/-- The report of a frame, before it is looked at. -/
def online (c : Camera) : Camera :=
  c.emit true "gmsl_v4l2.online" "GMSL V4L2 camera online" .active

def captureFailed (c : Camera) (errorMessage : String) : Camera :=
  c.emit false "gmsl_v4l2.capture_failed" errorMessage .unconfigured

variable (cv : OpenCv) (fuel : ℕ)

/-- One turn of `capture_loop`. -/
def captureTurn (s : Capturing) (t : Turn) : List Published × Capturing :=
  match s.pacing with
  | none => ([], s)
  | some pacing =>
    if !s.camera.capture then ([], s)
    else match t.result with
      | .frame frame now =>
        let camera := online s.camera
        let reading : Reading := ⟨t.fps, t.start, some now⟩
        let next := iterate fuel pacing reading
        if now < (pacing.refresh reading).nextPublishAt then ([], ⟨next, camera⟩)
        else
          let published := publishFrame cv t.stamp camera frame
          (published.1, ⟨next, published.2⟩)
      | .nothing errorMessage =>
        let next := iterate fuel pacing ⟨t.fps, t.start, none⟩
        if errorMessage = "" then ([], ⟨next, s.camera⟩)
        else ([], ⟨next, captureFailed s.camera errorMessage⟩)

/-- Behind `activate`, with the events of the loop only. -/
def activated (start : ℤ) (c : Camera) : Capturing := ⟨some ⟨start, 0, []⟩, { c with emitted := [] }⟩

/-- `capture_loop`. -/
def captureLoop (s : Capturing) (turns : List Turn) : Capturing :=
  (play (captureTurn cv fuel) s turns).2

/-- A frame that `publish_frame` takes for an image. -/
def Usable (frame : CapturedFrame) : Prop :=
  (convertToBgr8 cv frame).output.length = bgrSize frame

instance : DecidablePred (Usable cv) := fun _ => inferInstanceAs (Decidable (_ = _))

def Turn.condition (t : Turn) : Option Bool :=
  match t.result with
  | .frame frame _ => some (decide (Usable cv frame))
  | .nothing errorMessage => if errorMessage = "" then none else some false

def conditions (turns : List Turn) : List Bool := turns.filterMap (Turn.condition cv)

def Turn.Malformed (t : Turn) : Prop := ∃ frame now, t.result = .frame frame now ∧ ¬ Usable cv frame

def Fits (s : Capturing) (t : Turn) : Prop :=
  t.Malformed cv → s.camera.lastConnected = some true

def Fitting (s : Capturing) (turns : List Turn) : Prop :=
  ∀ done t, done ++ [t] <+: turns → Fits cv (captureLoop cv fuel s done) t

/-- The events are one more than the changes of the condition at most; frames that are all
malformed are reported once at most, and never as online. -/
structure Deduplicated (turns : List Turn) (c : Camera) : Prop where
  bound : c.emitted.length ≤ changes (conditions cv turns) + 1
  steady : (∀ t ∈ turns, t.Malformed cv) →
    c.emitted.length ≤ 1 ∧ ∀ event ∈ c.emitted, event.level = .error

structure Keeps (c d : Camera) : Prop where
  lastConnected : d.lastConnected = c.lastConnected
  emitted : d.emitted = c.emitted

/-- The condition is remembered, and reported where it was not. -/
structure Settles (connected : Bool) (c d : Camera) : Prop where
  lastConnected : d.lastConnected = some connected
  emitted : d.emitted.length =
    c.emitted.length + if c.lastConnected = some connected then 0 else 1
  level : ∀ event ∈ d.emitted, event ∈ c.emitted ∨
    event.level = if connected then .ok else .error

variable {cv fuel}

theorem keeps_refl (c : Camera) : Keeps c c := ⟨rfl, rfl⟩

theorem Settles.keeps {connected : Bool} {c d e : Camera} (h : Settles connected c d)
    (hkeeps : Keeps d e) : Settles connected c e :=
  ⟨hkeeps.lastConnected.trans h.lastConnected, by rw [hkeeps.emitted, h.emitted],
    by rw [hkeeps.emitted]; exact h.level⟩

theorem emit_settles (c : Camera) (connected : Bool) (code message : String)
    (targetState : LifecycleState) :
    Settles connected c (c.emit connected code message targetState) := by
  unfold Camera.emit GmslV4l2CameraRuntime.emitConnectionEvent
  by_cases hknown : c.lastConnected = some connected
  · rw [if_pos hknown]
    exact ⟨hknown, by rw [if_pos hknown, Nat.add_zero], fun event hevent => Or.inl hevent⟩
  · rw [if_neg hknown]
    refine ⟨rfl, by rw [if_neg hknown]; rfl, fun event hevent => ?_⟩
    obtain rfl | hevent := List.mem_cons.mp hevent
    · exact Or.inr rfl
    · exact Or.inl hevent

theorem undistort_keeps (c : Camera) (frame : CapturedFrame) (bgr : List UInt8)
    (calibration : Option CameraCalibration) : Keeps c (c.undistort cv frame bgr calibration).2 := by
  have hfound : ∀ source output width height,
      Keeps c (c.undistortMapFor cv source output width height).2 := by
    intro source output width height
    unfold Camera.undistortMapFor
    dsimp only
    split <;> exact ⟨rfl, rfl⟩
  cases calibration with
  | none => exact keeps_refl c
  | some calibration =>
    unfold Camera.undistort
    dsimp only
    split_ifs
    · split
      · exact hfound _ _ _ _
      · split_ifs <;> exact hfound _ _ _ _
    · exact keeps_refl c

theorem publishFrame_usable (c : Camera) {frame : CapturedFrame} (h : Usable cv frame) (now : ℤ) :
    Keeps c (publishFrame cv now c frame).2 := by
  unfold publishFrame
  dsimp only
  split_ifs with hnode hsize
  · exact keeps_refl c
  · exact absurd h hsize
  · exact undistort_keeps c frame _ _

theorem publishFrame_unusable (c : Camera) {frame : CapturedFrame} (h : ¬ Usable cv frame)
    (now : ℤ) :
    Keeps c (publishFrame cv now c frame).2 ∨ Settles false c (publishFrame cv now c frame).2 := by
  cases hnode : c.outputNode with
  | false =>
    unfold publishFrame
    rw [hnode]
    exact Or.inl (keeps_refl c)
  | true =>
    rw [publishFrame_malformed hnode h]
    exact Or.inr (emit_settles c false _ _ _)

/-- A turn that fits tells its condition, or nothing. -/
theorem captureTurn_cases (fuel : ℕ) {s : Capturing} {t : Turn} (hfits : Fits cv s t) :
    Keeps s.camera (captureTurn cv fuel s t).2.camera ∨
      ∃ connected, t.condition cv = some connected ∧
        Settles connected s.camera (captureTurn cv fuel s t).2.camera := by
  obtain ⟨pacing, c⟩ := s
  obtain ⟨fps, start, result, stamp⟩ := t
  unfold captureTurn
  cases pacing with
  | none => exact Or.inl (keeps_refl c)
  | some pacing =>
    dsimp only
    split_ifs with hcapture
    · exact Or.inl (keeps_refl c)
    · cases result with
      | nothing errorMessage =>
        dsimp only
        split_ifs with hempty
        · exact Or.inl (keeps_refl c)
        · exact Or.inr ⟨false, if_neg hempty, emit_settles c false _ _ _⟩
      | frame frame now =>
        have honline : Settles true c (online c) := emit_settles c true _ _ _
        by_cases husable : Usable cv frame
        · refine Or.inr ⟨true, congrArg some (decide_eq_true husable), ?_⟩
          dsimp only
          split_ifs
          · exact honline
          · exact honline.keeps (publishFrame_usable _ husable stamp)
        · -- the camera is said to be online already, so that this is not reported again
          have hknown : c.lastConnected = some true := hfits ⟨frame, now, rfl, husable⟩
          have hsame : online c = c := by
            unfold online Camera.emit GmslV4l2CameraRuntime.emitConnectionEvent
            rw [if_pos hknown]
          dsimp only
          rw [hsame]
          split_ifs
          · exact Or.inl (keeps_refl c)
          · exact (publishFrame_unusable c husable stamp).imp id fun h =>
              ⟨false, congrArg some (decide_eq_false husable), h⟩

theorem captureLoop_snoc (s : Capturing) (done : List Turn) (t : Turn) :
    captureLoop cv fuel s (done ++ [t]) = (captureTurn cv fuel (captureLoop cv fuel s done) t).2 :=
  play_snoc s done t

theorem conditions_snoc (done : List Turn) (t : Turn) :
    conditions cv (done ++ [t]) = conditions cv done ++ (t.condition cv).toList := by
  rw [conditions, List.filterMap_append]
  cases hcondition : t.condition cv <;> simp [conditions, hcondition]

/-- What is remembered and what has been reported, along a run whose turns fit. -/
theorem captureLoop_tally {s : Capturing} (hemitted : s.camera.emitted = []) {turns : List Turn}
    (hfitting : Fitting cv fuel s turns) :
    ∀ done, done <+: turns → Tally (captureLoop cv fuel s done).camera.lastConnected
      (captureLoop cv fuel s done).camera.emitted.length (conditions cv done) := by
  refine along ?_ fun done t hdone ih => ?_
  · show Tally s.camera.lastConnected s.camera.emitted.length []
    rw [hemitted]
    exact tally_nil _
  · rw [captureLoop_snoc, conditions_snoc]
    obtain hkeeps | ⟨connected, hcondition, hsettles⟩ :=
      captureTurn_cases fuel (hfitting done t hdone)
    · rw [hkeeps.lastConnected, hkeeps.emitted]
      cases t.condition cv with
      | none => rwa [Option.toList_none, List.append_nil]
      | some connected => exact ih.pass connected
    · rw [hsettles.lastConnected, hsettles.emitted, hcondition]
      exact ih.settle connected

theorem Turn.Malformed.condition {t : Turn} (h : t.Malformed cv) :
    t.condition cv = some false := by
  obtain ⟨frame, now, hresult, husable⟩ := h
  unfold Turn.condition
  rw [hresult]
  exact congrArg some (decide_eq_false husable)

theorem captureLoop_steady {s : Capturing} (hemitted : s.camera.emitted = []) {turns : List Turn}
    (hfitting : Fitting cv fuel s turns) :
    ∀ done, done <+: turns → (∀ t ∈ done, t.Malformed cv) →
      ∀ event ∈ (captureLoop cv fuel s done).camera.emitted, event.level = .error := by
  refine along ?_ fun done t hdone ih => ?_
  · intro _ event hevent
    have hnil : event ∈ s.camera.emitted := hevent
    rw [hemitted] at hnil
    cases hnil
  · intro hall event hevent
    obtain ⟨hbefore, hlast⟩ := List.forall_mem_append.mp hall
    have hmalformed := hlast t (List.mem_singleton_self t)
    rw [captureLoop_snoc] at hevent
    obtain hkeeps | ⟨connected, hcondition, hsettles⟩ :=
      captureTurn_cases fuel (hfitting done t hdone)
    · rw [hkeeps.emitted] at hevent
      exact ih hbefore event hevent
    · obtain rfl : false = connected :=
        Option.some.inj (hmalformed.condition.symm.trans hcondition)
      obtain hold | hnew := hsettles.level event hevent
      · exact ih hbefore event hold
      · exact hnew

theorem conditions_malformed {turns : List Turn} (h : ∀ t ∈ turns, t.Malformed cv) :
    conditions cv turns = List.replicate turns.length false := by
  induction turns with
  | nil => rfl
  | cons t turns ih =>
    obtain ⟨ht, hrest⟩ := List.forall_mem_cons.mp h
    rw [conditions, List.filterMap_cons, ht.condition]
    exact congrArg (false :: ·) (ih hrest)

/-- In a run whose malformed frames come only while the camera is said to be online, the
connection events follow the condition in every state. -/
theorem captureLoop_deduplicated (cv : OpenCv) (fuel : ℕ) (start : ℤ) (c : Camera)
    {turns : List Turn} (hfitting : Fitting cv fuel (activated start c) turns) :
    ∀ done, done <+: turns →
      Deduplicated cv done (captureLoop cv fuel (activated start c) done).camera := by
  intro done hdone
  have htally := captureLoop_tally rfl hfitting done hdone
  refine ⟨htally.bound, fun hall => ⟨?_, captureLoop_steady rfl hfitting done hdone hall⟩⟩
  have hbound := htally.bound
  rwa [conditions_malformed hall, changes_replicate] at hbound

def pixelTurn (data : List UInt8) (now : ℤ) : Turn := ⟨10, now, .frame ⟨1, 1, "BGR8", data⟩ now, now⟩

theorem captureLoop_deduplicated_pixels :
    Deduplicated black [pixelTurn [1, 2, 3] 0, pixelTurn [] 100000000]
      (captureLoop black 2 (activated 0 frontCamera)
        [pixelTurn [1, 2, 3] 0, pixelTurn [] 100000000]).camera := by
  refine captureLoop_deduplicated black 2 0 frontCamera (fun done t hdone hmalformed => ?_) _
    List.prefix_rfl
  obtain ⟨frame, now, hresult, husable⟩ := hmalformed
  match done, hdone with
  | [], hdone =>
    obtain rfl : t = pixelTurn [1, 2, 3] 0 := (List.cons_prefix_cons.mp hdone).1
    obtain ⟨rfl, rfl⟩ : _ ∧ _ := CaptureResult.frame.injEq .. ▸ hresult
    exact absurd (by decide) husable
  | [first], hdone =>
    obtain rfl : first = pixelTurn [1, 2, 3] 0 := (List.cons_prefix_cons.mp hdone).1
    rfl
  | first :: second :: rest, hdone =>
    have hlength := hdone.length_le
    simp at hlength

/-- Of two malformed frames in turn each one is reported as online and then as a failure. -/
theorem malformedPixels_flicker :
    ¬ Deduplicated black [pixelTurn [] 0, pixelTurn [] 100000000]
      (captureLoop black 2 (activated 0 frontCamera)
        [pixelTurn [] 0, pixelTurn [] 100000000]).camera :=
  fun h => absurd h.bound (by decide +kernel)

end DeviceManager.ConnectionEvents
