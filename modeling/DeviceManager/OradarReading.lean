import DeviceManager.OradarRuntime
import DeviceManager.OradarScan
import DeviceManager.Stretches

namespace DeviceManager.OradarReading

open Domain Fallible RuntimeBase InProcess OradarRuntime OradarScan Stretches

/-- What `read_loop` uses and changes, with what it has emitted and published since `activate`. -/
structure Reader where
  config : OradarLidarConfig
  scan : ScanConfig
  frameId : String
  client : Bool
  connectedEventEmitted : Bool
  emitted : List DeviceEvent
  published : List LaserScan

/-- One turn of the loop: what the client answers to its `is_open`, to a reconnect and to
`get_scan_frame_data`, and the times around the last. -/
structure Turn where
  isOpen : Reply Bool
  calls : Outside
  getScanFrameData : Reply (ErrorCode × ScanFrameData)
  start : ℤ
  seconds : ℚ

/-- What `activate` leaves to the read thread. -/
def Reader.activated (r : OradarLidarRuntime) (scan : ScanConfig) (frameId : String) : Reader :=
  ⟨r.config, scan, frameId, r.client, false, [], []⟩

def disconnectedEvent (message : String) : DeviceEvent :=
  ⟨.error, "oradar_lidar.disconnected", message, "oradar_lidar_driver", .active, ∅⟩

def onlineEvent : DeviceEvent :=
  ⟨.ok, "oradar_lidar.online", "MS500 scan stream is online", "oradar_lidar_driver", .unknown, ∅⟩

def Reader.emit (s : Reader) (event : DeviceEvent) : Reader :=
  { s with emitted := s.emitted ++ [event] }

/-- The condition of the loop where the client is not open: the message if it fails. -/
def reconnect (calls : Outside) (client : Bool) (config : OradarLidarConfig) :
    Reply (Option String) := do
  match ← connectAndApply calls client config with
  | some message => return some (if message = "" then "MS500 reconnect failed" else message)
  | none =>
    let measure ← calls.enableMeasure
    if measure ≠ .noError then
      return some "MS500 reconnect failed"
    let stream ← calls.enableDataStream
    if stream ≠ .noError then
      return some "MS500 reconnect failed"
    return none

/-- The first part of a turn: the message if there is no connection. -/
def Turn.connect (t : Turn) (config : OradarLidarConfig) : Reply (Option String) := do
  if ← t.isOpen then
    return none
  reconnect t.calls true config

def Reader.receive (s : Reader) (frame : ScanFrameData) (t : Turn) : Reader :=
  let s := { (if s.connectedEventEmitted then s else s.emit onlineEvent) with
    connectedEventEmitted := true }
  { s with
    published := s.published ++ [toScanMessage s.scan s.frameId frame t.start t.seconds] }

/-- One turn of `read_loop`; without a client the loop is left. -/
def iterate (s : Reader) (t : Turn) : Reply Reader := do
  if !s.client then
    return s
  match ← t.connect s.config with
  | some message => return s.emit (disconnectedEvent message)
  | none =>
    let (result, frame) ← t.getScanFrameData
    if result ≠ .noError then
      t.calls.close
      return s.emit (disconnectedEvent ("read scan frame failed: " ++ errorName result))
    return s.receive frame t

def readLoop (s : Reader) (turns : List Turn) : Reply Reader := turns.foldlM iterate s

def Turn.arrives (config : OradarLidarConfig) (t : Turn) : Bool :=
  match t.connect config with
  | .ok none =>
    match t.getScanFrameData with
    | .ok (result, _) => decide (result = .noError)
    | .error _ => false
  | _ => false

/-- The connection events: `true` for online. -/
def Reader.announced (s : Reader) : List Bool :=
  s.emitted.map fun event => decide (event.code = "oradar_lidar.online")

theorem iterate_cases {s s' : Reader} {t : Turn} (hclient : s.client = true)
    (h : iterate s t = .ok s') :
    s'.client = true ∧ s'.config = s.config ∧
      ((t.arrives s.config = true ∧ s'.connectedEventEmitted = true ∧
          s'.announced = s.announced ++ if s.connectedEventEmitted then [] else [true]) ∨
        (t.arrives s.config = false ∧ s'.connectedEventEmitted = s.connectedEventEmitted ∧
          s'.announced = s.announced ++ [false])) := by
  have hlost : ∀ message, (s.emit (disconnectedEvent message)).announced =
      s.announced ++ [false] := by
    intro message
    rw [Reader.announced, Reader.emit, List.map_append]
    rfl
  unfold iterate at h
  rw [hclient] at h
  obtain ⟨message, hconnect, h⟩ := bind_ok h
  unfold Turn.arrives
  rw [hconnect]
  cases message with
  | some message =>
    obtain rfl := Except.ok.inj h
    exact ⟨hclient, rfl, Or.inr ⟨rfl, rfl, hlost message⟩⟩
  | none =>
    obtain ⟨⟨result, frame⟩, hread, h⟩ := bind_ok h
    rw [hread]
    dsimp only at h ⊢
    split_ifs at h with hresult
    · obtain ⟨u, -, h⟩ := bind_ok h
      obtain rfl := Except.ok.inj h
      exact ⟨hclient, rfl, Or.inr ⟨decide_eq_false hresult, rfl, hlost _⟩⟩
    · obtain rfl := Except.ok.inj h
      refine ⟨?_, ?_, Or.inl ⟨decide_eq_true (not_not.mp hresult), rfl, ?_⟩⟩
      · cases hflag : s.connectedEventEmitted <;> simp [Reader.receive, hflag, Reader.emit, hclient]
      · cases hflag : s.connectedEventEmitted <;> simp [Reader.receive, hflag, Reader.emit]
      · cases hflag : s.connectedEventEmitted with
        | false =>
          simp only [Reader.receive, hflag, Bool.false_eq_true, if_false, Reader.announced,
            Reader.emit, List.map_append]
          rfl
        | true => simp [Reader.receive, hflag, Reader.announced]

theorem readLoop_snoc {s s' : Reader} {turns : List Turn} {t : Turn}
    (h : readLoop s (turns ++ [t]) = .ok s') :
    ∃ before, readLoop s turns = .ok before ∧ iterate before t = .ok s' := by
  rw [readLoop, List.foldlM_append] at h
  obtain ⟨before, hbefore, h⟩ := bind_ok h
  obtain ⟨after, hafter, h⟩ := bind_ok h
  obtain rfl := Except.ok.inj h
  exact ⟨before, hbefore, hafter⟩

def outcomes (config : OradarLidarConfig) (turns : List Turn) : List Bool :=
  turns.map (Turn.arrives config)

theorem readLoop_flag {s s' : Reader} {turns : List Turn} (hclient : s.client = true)
    (hflag : s.connectedEventEmitted = false) (h : readLoop s turns = .ok s') :
    s'.client = true ∧ s'.config = s.config ∧
      s'.connectedEventEmitted = decide (true ∈ outcomes s.config turns) := by
  induction turns using List.reverseRecOn generalizing s' with
  | nil =>
    obtain rfl := Except.ok.inj h
    exact ⟨hclient, rfl, hflag⟩
  | append_singleton before t ih =>
    obtain ⟨mid, hmid, hturn⟩ := readLoop_snoc h
    obtain ⟨hmidclient, hmidconfig, hmidflag⟩ := ih hmid
    obtain ⟨hc, hconfig, hcases⟩ := iterate_cases hmidclient hturn
    rw [hmidconfig] at hcases
    refine ⟨hc, hconfig.trans hmidconfig, ?_⟩
    rw [outcomes, List.map_append, List.map_singleton]
    obtain ⟨harrives, hnow, -⟩ | ⟨hfails, hnow, -⟩ := hcases
    · rw [hnow, harrives]
      simp
    · rw [hnow, hmidflag, hfails]
      simp [outcomes]

def Fits (before : List Bool) : Bool → Prop
  | true => true ∈ before → before.getLast? = some true
  | false => before.getLast? ≠ some false

instance (before : List Bool) : DecidablePred (Fits before)
  | true => inferInstanceAs (Decidable (true ∈ before → before.getLast? = some true))
  | false => inferInstanceAs (Decidable (before.getLast? ≠ some false))

/-- In each state the loop has reported one event for each stretch of turns that end the same
way, so that the latest one tells whether frames arrive. -/
def Reported (s : Reader) (turns : List Turn) : Prop :=
  ∀ done s', done <+: turns → readLoop s done = .ok s' →
    s'.announced = stretches (outcomes s.config done)

def Fitting (config : OradarLidarConfig) (turns : List Turn) : Prop :=
  ∀ done t, done ++ [t] <+: turns → Fits (outcomes config done) (t.arrives config)

theorem reported_snoc {s s' : Reader} {turns : List Turn} {t : Turn}
    (h : readLoop s (turns ++ [t]) = .ok s') :
    Reported s (turns ++ [t]) ↔
      Reported s turns ∧ s'.announced = stretches (outcomes s.config (turns ++ [t])) := by
  constructor
  · intro hall
    refine ⟨fun done d hdone => hall done d (hdone.trans (List.prefix_append _ _)), ?_⟩
    exact hall _ _ List.prefix_rfl h
  · rintro ⟨hbefore, hlast⟩ done d hdone hd
    obtain rfl | hdone := List.prefix_concat_iff.mp hdone
    · obtain rfl := Except.ok.inj (h.symm.trans hd)
      exact hlast
    · exact hbefore done d hdone hd

theorem fitting_snoc {config : OradarLidarConfig} {turns : List Turn} {t : Turn} :
    Fitting config (turns ++ [t]) ↔
      Fitting config turns ∧ Fits (outcomes config turns) (t.arrives config) := by
  constructor
  · intro hall
    exact ⟨fun done u hdone => hall done u (hdone.trans (List.prefix_append _ _)),
      hall turns t List.prefix_rfl⟩
  · rintro ⟨hbefore, hlast⟩ done u hdone
    obtain heq | hdone := List.prefix_concat_iff.mp hdone
    · obtain ⟨rfl, hu⟩ := List.append_inj' heq rfl
      obtain rfl := List.singleton_inj.mp hu
      exact hlast
    · exact hbefore done u hdone

/-- One more turn is reported as it should be exactly if it fits. -/
theorem turn_iff {s mid s' : Reader} {turns : List Turn} {t : Turn} (hclient : s.client = true)
    (hflag : s.connectedEventEmitted = false) (hmid : readLoop s turns = .ok mid)
    (hturn : iterate mid t = .ok s')
    (hreported : mid.announced = stretches (outcomes s.config turns)) :
    s'.announced = stretches (outcomes s.config (turns ++ [t])) ↔
      Fits (outcomes s.config turns) (t.arrives s.config) := by
  obtain ⟨hc, hconfig, hemitted⟩ := readLoop_flag hclient hflag hmid
  obtain ⟨-, -, hcases⟩ := iterate_cases hc hturn
  rw [hconfig] at hcases
  have houtcomes : outcomes s.config (turns ++ [t]) =
      outcomes s.config turns ++ [t.arrives s.config] := by
    rw [outcomes, List.map_append, List.map_singleton, outcomes]
  rw [houtcomes, stretches_snoc, ← hreported]
  obtain ⟨harrives, -, hannounced⟩ | ⟨hfails, -, hannounced⟩ := hcases
  · rw [hannounced, harrives, hemitted]
    by_cases hany : true ∈ outcomes s.config turns
    · by_cases hlast : (outcomes s.config turns).getLast? = some true <;> simp [Fits, hany, hlast]
    · have hlast : (outcomes s.config turns).getLast? ≠ some true := fun hlast =>
        hany (List.mem_of_getLast? hlast)
      simp [Fits, hany, hlast]
  · rw [hannounced, hfails]
    by_cases hlast : (outcomes s.config turns).getLast? = some false <;> simp [Fits, hlast]

theorem reported_iff_of_client {s s' : Reader} {turns : List Turn} (hclient : s.client = true)
    (hflag : s.connectedEventEmitted = false) (hemitted : s.announced = [])
    (h : readLoop s turns = .ok s') : Reported s turns ↔ Fitting s.config turns := by
  induction turns using List.reverseRecOn generalizing s' with
  | nil =>
    refine iff_of_true (fun done d hdone hd => ?_) fun done t hdone => ?_
    · obtain rfl := List.prefix_nil.mp hdone
      obtain rfl := Except.ok.inj hd
      exact hemitted
    · exact absurd (List.prefix_nil.mp hdone) (List.concat_ne_nil t done)
  | append_singleton before t ih =>
    obtain ⟨mid, hmid, hturn⟩ := readLoop_snoc h
    rw [reported_snoc h, fitting_snoc, ih hmid]
    refine and_congr_right fun hfitting => ?_
    have hreported := (ih hmid).mpr hfitting before mid List.prefix_rfl hmid
    exact turn_iff hclient hflag hmid hturn hreported

theorem activate_client {calls : Outside} {r : OradarLidarRuntime}
    (h : succeeded (exit (activate calls) r).2 = true) :
    (exit (activate calls) r).1.client = true := by
  unfold activate at h ⊢
  rw [exit_get] at h ⊢
  by_cases hsource : r.state ≠ .inactive ∨ (!r.client) = true
  · rw [if_pos hsource] at h
    cases h
  · have hclient : r.client = true := by
      rw [not_or] at hsource
      simpa using hsource.2
    rw [if_neg hsource, exit_bind, exit_outside]
    cases calls.enableMeasure with
    | error thrown => exact hclient
    | ok measure =>
      dsimp only
      split_ifs
      · exact hclient
      · rw [exit_bind, exit_outside]
        cases calls.enableDataStream with
        | error thrown => exact hclient
        | ok stream =>
          dsimp only
          split_ifs
          · exact hclient
          · rw [exit_modify, exit_bind, exit_outside]
            cases calls.startThread with
            | error thrown => exact hclient
            | ok u => exact hclient

/-- Behind an `activate` the events are right in every state exactly if each turn fits. -/
theorem reported_iff (calls : Outside) (r : OradarLidarRuntime) (scan : ScanConfig)
    (frameId : String) (hactivate : succeeded (exit (activate calls) r).2 = true)
    (turns : List Turn) (s : Reader)
    (hrun : readLoop (.activated (exit (activate calls) r).1 scan frameId) turns = .ok s) :
    Reported (.activated (exit (activate calls) r).1 scan frameId) turns ↔
      Fitting (exit (activate calls) r).1.config turns :=
  reported_iff_of_client (s := .activated (exit (activate calls) r).1 scan frameId)
    (activate_client hactivate) rfl rfl hrun

def reachable : Outside where
  create _ := .ok ()
  setTimeout _ := .ok ()
  isOpen := .ok false
  openClient := .ok .noError
  trackConnect := .ok .noError
  getScanSpeed := .ok (.noError, 15)
  setScanSpeed _ := .ok .noError
  getTailFilterLevel := .ok (.noError, 0)
  setTailFilterLevel _ := .ok .noError
  getScanDirection := .ok (.noError, 0)
  setScanDirection _ := .ok .noError
  applyConfigs := .ok .noError
  enableMeasure := .ok .noError
  enableDataStream := .ok .noError
  disableDataStream := .ok .noError
  disableMeasure := .ok .noError
  close := .ok ()
  startThread := .ok ()

def frameTurn : Turn := ⟨.ok true, reachable, .ok (.noError, ⟨[threeNodes]⟩), 0, 1 / 15⟩

def lossTurn : Turn := ⟨.ok true, reachable, .ok (.timedOut, ⟨[]⟩), 0, 3⟩

def failedTurn : Turn :=
  ⟨.ok false, { reachable with openClient := .ok .operationFailure }, .ok (.noError, ⟨[]⟩), 0, 0⟩

def recoveredTurn : Turn := ⟨.ok false, reachable, .ok (.noError, ⟨[threeNodes]⟩), 0, 1 / 15⟩

def configured : OradarLidarRuntime := ⟨.inactive, defaultConfig, true, []⟩

def begun : Reader := .activated (exit (activate reachable) configured).1 upperHalf "scan"

theorem firstLoss_reported : Reported begun [frameTurn, frameTurn, lossTurn] := by
  refine (reported_iff reachable configured upperHalf "scan" rfl _ _ rfl).mpr ?_
  have hempty : Fitting configured.config [] := fun done t hdone =>
    absurd (List.prefix_nil.mp hdone) (List.concat_ne_nil t done)
  have hfirst : Fitting configured.config ([] ++ [frameTurn]) :=
    fitting_snoc.mpr ⟨hempty, by decide⟩
  have hsecond : Fitting configured.config ([frameTurn] ++ [frameTurn]) :=
    fitting_snoc.mpr ⟨hfirst, by decide⟩
  show Fitting configured.config ([frameTurn, frameTurn] ++ [lossTurn])
  exact fitting_snoc.mpr ⟨hsecond, by decide⟩

/-- A recovery is not reported, and a loss that lasts is reported again. -/
theorem recovery_unreported :
    ¬ Reported begun [frameTurn, lossTurn, recoveredTurn] ∧
      ¬ Reported begun [frameTurn, lossTurn, failedTurn] := by
  refine ⟨fun h => ?_, fun h => ?_⟩
  · exact absurd (h _ _ List.prefix_rfl rfl) (by decide)
  · exact absurd (h _ _ List.prefix_rfl rfl) (by decide)

end DeviceManager.OradarReading
