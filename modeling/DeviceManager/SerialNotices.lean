import DeviceManager.Alternation
import DeviceManager.Ch020Sessions
import DeviceManager.SmitSessions

namespace DeviceManager.SerialNotices

open Alternation Lockstep SerialDriver

variable {κ δ ε : Type}

/-- A driver with its clock: `data_timeout_ms` and `last_frame_time_`, in nanoseconds. No function
of the source reads `lastValidTime`, the time of the last valid frame or of the last opening. -/
structure Timed (κ δ : Type) where
  driver : Driver κ δ
  dataTimeoutMs : Int32
  lastFrameTime : ℤ
  lastValidTime : ℤ

/-- What can happen between a `configure` and the next one or a `cleanup`. The clock is read
when the port is open again, for each frame that is handled, and by `data_stalled`. -/
inductive Turn where
  | start
  | stop
  | reopen (result : Option String) (now : ℤ)
  | read (result : Except String (List UInt8)) (handled : ℕ → ℤ) (now : ℤ)

/-- Behind a `configure` that has opened the port. -/
def configured (dev : Device κ δ ε) (d : Driver κ δ) (config : κ) (dataTimeoutMs : Int32)
    (now : ℤ) : Timed κ δ :=
  ⟨(step dev d (.configure config none)).2, dataTimeoutMs, now, now⟩

/-- The frames that the decoder makes of bytes, each with whether it is a valid one. -/
abbrev Frames (δ : Type) := δ → List UInt8 → List Bool

def completed (dev : Device κ δ ε) (frames : Frames δ) (d : Driver κ δ) :
    Except String (List UInt8) → List Bool
  | .error _ => []
  | .ok chunk =>
    if d.running ∧ d.transport = some true ∧ chunk ≠ [] ∧
        chunk.length ≤ dev.readChunkSize d.config then frames d.device chunk
    else []

/-- The times of the frames, valid or not, and of the port being opened, which counts as valid. -/
def marks (dev : Device κ δ ε) (frames : Frames δ) (d : Driver κ δ) :
    Turn → List (Bool × ℤ)
  | .start | .stop => []
  | .reopen result now =>
    if d.running ∧ d.transport = some false ∧ result = none then [(true, now)] else []
  | .read result handled _ =>
    (completed dev frames d result).zipIdx.map fun frame => (frame.1, handled frame.2)

def times (marks : List (Bool × ℤ)) : List ℤ := marks.map Prod.snd

def validTimes (marks : List (Bool × ℤ)) : List ℤ := times (marks.filter Prod.fst)

/-- The assignments to `last_frame_time_`. -/
def assigned (lastFrameTime : ℤ) (times : List ℤ) : ℤ :=
  times.foldl (fun _ now => now) lastFrameTime

/-- The comparison of `data_stalled`. -/
def elapsed (dataTimeoutMs : Int32) (lastFrameTime now : ℤ) : Bool :=
  decide (dataTimeoutMs.toInt * 1000000 < now - lastFrameTime)

def Turn.action (dev : Device κ δ ε) (frames : Frames δ) (t : Timed κ δ) : Turn → Action κ
  | .start => .start
  | .stop => .stop
  | .reopen result _ => .reopen result
  | .read result handled now => .read result (elapsed t.dataTimeoutMs
      (assigned t.lastFrameTime (times (marks dev frames t.driver (.read result handled now)))) now)

def turn (dev : Device κ δ ε) (frames : Frames δ) (t : Timed κ δ) (a : Turn) :
    List (Event ε) × Timed κ δ :=
  let next := step dev t.driver (a.action dev frames t)
  (next.1, { t with
    driver := next.2
    lastFrameTime := assigned t.lastFrameTime (times (marks dev frames t.driver a))
    lastValidTime := assigned t.lastValidTime (validTimes (marks dev frames t.driver a)) })

def notices (events : List (Event ε)) : List Bool :=
  events.filterMap fun
    | .device _ => none
    | .connection connected _ => some connected

/-- The read fails, or the timeout has passed since `last`, while the driver is connected. -/
def FaultSince (dev : Device κ δ ε) (t : Timed κ δ) (last : ℤ) : Turn → Prop
  | .read (.error _) _ _ => t.driver.running = true ∧ t.driver.connected = true
  | .read (.ok chunk) _ now =>
    t.driver.running = true ∧ t.driver.connected = true ∧
      chunk.length ≤ dev.readChunkSize t.driver.config ∧ elapsed t.dataTimeoutMs last now = true
  | _ => False

def Fault (dev : Device κ δ ε) (frames : Frames δ) (t : Timed κ δ) (a : Turn) : Prop :=
  FaultSince dev t (assigned t.lastValidTime (validTimes (marks dev frames t.driver a))) a

/-- If the turn completes frames, the last of them is a valid one. -/
def EndsValid (dev : Device κ δ ε) (frames : Frames δ) (t : Timed κ δ)
    (a : Turn) : Prop :=
  ∀ mark, (marks dev frames t.driver a).getLast? = some mark → mark.1 = true

def Reopens (t : Timed κ δ) : Turn → Prop
  | .reopen none _ => t.driver.running = true ∧ t.driver.connected = false
  | _ => False

theorem notices_append (events more : List (Event ε)) :
    notices (events ++ more) = notices events ++ notices more := List.filterMap_append

theorem notices_device (es : List ε) : notices (es.map Event.device) = [] := by
  rw [notices, List.filterMap_eq_nil_iff]
  intro e he
  obtain ⟨x, -, rfl⟩ := List.mem_map.mp he
  rfl

def InStep (d : Driver κ δ) : Prop := d.transport = some d.connected

/-- What comes of a turn: the handler is told nothing or one thing, and the flag is what it has
been told. -/
structure Told (told : Option Bool) (d after : Driver κ δ) (events : List (Event ε)) : Prop where
  inStep : InStep after
  notices : notices events = told.toList
  connected : after.connected = told.getD d.connected

theorem told_nothing {d after : Driver κ δ} (h : InStep after)
    (hconnected : after.connected = d.connected) : Told (ε := ε) none d after [] :=
  ⟨h, rfl, hconnected⟩

theorem reopen_told (dev : Device κ δ ε) {d : Driver κ δ} (h : InStep d)
    (result : Option String) :
    ∃ told, Told told d (reopen dev d result).2 (reopen dev d result).1 ∧ told ≠ some false ∧
      (told = some true ↔ result = none ∧ d.running = true ∧ d.connected = false) := by
  unfold reopen
  by_cases hclosed : d.running = true ∧ d.transport = some false
  · rw [if_pos hclosed]
    have hflag : d.connected = false := Option.some.inj (h.symm.trans hclosed.2)
    cases result with
    | none => exact ⟨some true, ⟨rfl, rfl, rfl⟩, by decide, by simp [hclosed.1, hflag]⟩
    | some message => exact ⟨none, told_nothing h rfl, by decide, by simp⟩
  · rw [if_neg hclosed]
    refine ⟨none, told_nothing h rfl, by decide, ⟨fun hn => (by cases hn), fun hopen => ?_⟩⟩
    exact absurd ⟨hopen.2.1, h.trans (congrArg some hopen.2.2)⟩ hclosed

theorem handleFault_told {d : Driver κ δ} (hconnected : d.connected = true) (message : String) :
    Told (ε := ε) (some false) d (handleFault (ε := ε) d message).2 (handleFault d message).1 := by
  refine ⟨rfl, ?_, rfl⟩
  rw [handleFault, hconnected]
  rfl

theorem handleFed_told {d : Driver κ δ} (h : InStep d) (hconnected : d.connected = true)
    (fed : List ε × δ) (stalled : Bool) :
    Told (if stalled then some false else none) d (handleFed d fed stalled).2
      (handleFed d fed stalled).1 := by
  unfold handleFed
  cases stalled with
  | false =>
    simp only [Bool.and_false, Bool.false_eq_true, if_false]
    exact ⟨h, notices_device fed.1, rfl⟩
  | true =>
    obtain ⟨hstep, hnotices, hflag⟩ := handleFault_told (ε := ε)
      (d := { d with device := fed.2 }) hconnected "串口数据停滞超时"
    simp only [Bool.and_true, if_pos hconnected]
    exact ⟨hstep, by rw [notices_append, notices_device, hnotices]; rfl, hflag⟩

theorem read_told (dev : Device κ δ ε) {d : Driver κ δ} (h : InStep d)
    (result : Except String (List UInt8)) (stalled : Bool) :
    ∃ told, Told told d (read dev d result stalled).2 (read dev d result stalled).1 ∧
      told ≠ some true ∧ (told = some false ↔ d.running = true ∧ d.connected = true ∧
        ∀ chunk, result = .ok chunk →
          chunk.length ≤ dev.readChunkSize d.config ∧ stalled = true) := by
  unfold SerialDriver.read
  by_cases hopen : d.running = true ∧ d.transport = some true
  · rw [if_pos hopen]
    have hflag : d.connected = true := Option.some.inj (h.symm.trans hopen.2)
    cases result with
    | error message =>
      exact ⟨some false, handleFault_told hflag _, by decide, by simp [hopen.1, hflag]⟩
    | ok chunk =>
      dsimp only
      by_cases hlong : dev.readChunkSize d.config < chunk.length
      · rw [if_pos hlong]
        refine ⟨none, told_nothing h rfl, by decide, ⟨fun hn => (by cases hn), fun hn => ?_⟩⟩
        exact absurd (hn.2.2 chunk rfl).1 (not_le.mpr hlong)
      · rw [if_neg hlong]
        refine ⟨if stalled then some false else none, ?_, by cases stalled <;> decide, ?_⟩
        · by_cases hempty : chunk.isEmpty = true
          · rw [if_pos hempty]
            exact handleFed_told h hflag _ stalled
          · rw [if_neg hempty]
            exact handleFed_told h hflag _ stalled
        · cases stalled <;> simp [hopen.1, hflag, not_lt.mp hlong]
  · rw [if_neg hopen]
    refine ⟨none, told_nothing h rfl, by decide, ⟨fun hn => (by cases hn), fun hn => ?_⟩⟩
    exact absurd ⟨hn.1, h.trans (congrArg some hn.2.1)⟩ hopen

/-- A turn tells of a fault by its own clock and of the port being open again, and of nothing
else. -/
theorem turn_told (dev : Device κ δ ε) (frames : Frames δ) {t : Timed κ δ} (h : InStep t.driver)
    (a : Turn) :
    ∃ told, Told told t.driver (turn dev frames t a).2.driver (turn dev frames t a).1 ∧
      (told = some false ↔
        FaultSince dev t (assigned t.lastFrameTime (times (marks dev frames t.driver a))) a) ∧
      (told = some true ↔ Reopens t a) := by
  cases a with
  | start => exact ⟨none, told_nothing h rfl, by simp [FaultSince], by simp [Reopens]⟩
  | stop => exact ⟨none, told_nothing h rfl, by simp [FaultSince], by simp [Reopens]⟩
  | reopen result now =>
    obtain ⟨told, htold, hfault, hopen⟩ := reopen_told dev h result
    refine ⟨told, htold, iff_of_false hfault id, hopen.trans ?_⟩
    cases result <;> simp [Reopens]
  | read result handled now =>
    obtain ⟨told, htold, hopen, hfault⟩ := read_told dev h result
      (elapsed t.dataTimeoutMs (assigned t.lastFrameTime
        (times (marks dev frames t.driver (.read result handled now)))) now)
    refine ⟨told, htold, hfault.trans ?_, iff_of_false hopen id⟩
    cases result <;> simp [FaultSince]

theorem assigned_eq (last : ℤ) (times : List ℤ) :
    assigned last times = times.getLast?.getD last := by
  induction times using List.reverseRecOn with
  | nil => rfl
  | append_singleton times now _ =>
    rw [assigned, List.foldl_append, List.getLast?_concat]
    rfl

theorem assigned_validTimes {marks : List (Bool × ℤ)}
    (h : ∀ mark, marks.getLast? = some mark → mark.1 = true) (last : ℤ) :
    assigned last (times marks) = assigned last (validTimes marks) := by
  induction marks using List.reverseRecOn with
  | nil => rfl
  | append_singleton marks mark _ =>
    have hvalid : mark.1 = true := h mark List.getLast?_concat
    rw [assigned_eq, assigned_eq, validTimes, List.filter_append, List.filter_singleton, hvalid]
    simp [times]

def stamped (dev : Device κ δ ε) (frames : Frames δ) (opened : Timed κ δ) (session : List Turn) :
    List ℤ :=
  (play (fun t a => (validTimes (marks dev frames t.driver a), (turn dev frames t a).2)) opened
    session).1

def behind (dev : Device κ δ ε) (frames : Frames δ) (opened : Timed κ δ) (session : List Turn) :
    Timed κ δ := (play (turn dev frames) opened session).2

def heard (dev : Device κ δ ε) (frames : Frames δ) (opened : Timed κ δ) (session : List Turn) :
    List Bool := notices (play (turn dev frames) opened session).1

def Met (dev : Device κ δ ε) (frames : Frames δ) (ok : Timed κ δ → Turn → Prop) :
    Timed κ δ → List Turn → Prop
  | _, [] => True
  | t, a :: later => ok t a ∧ Met dev frames ok (turn dev frames t a).2 later

/-- What the handler is told in the sessions behind an opening, and how the driver stands then.
Faults are told as they ought to be in the sessions that meet the condition. -/
structure Noticed (dev : Device κ δ ε) (frames : Frames δ) (ok : Timed κ δ → Turn → Prop)
    (opened : Timed κ δ) : Prop where
  alternates : ∀ session, Alternates false (heard dev frames opened session)
  announced : ∀ session, (behind dev frames opened session).driver.connected =
    (heard dev frames opened session).getLast?.getD true
  transport : ∀ session, InStep (behind dev frames opened session).driver
  clock : ∀ session, (behind dev frames opened session).lastValidTime =
    (stamped dev frames opened session).getLast?.getD opened.lastValidTime
  fault : ∀ session a, Met dev frames ok opened (session ++ [a]) →
    Fault dev frames (behind dev frames opened session) a →
    ∀ later, (∀ now, .reopen none now ∉ later) →
      heard dev frames (behind dev frames opened session) (a :: later) = [false]
  single : ∀ session a, Met dev frames ok opened (session ++ [a]) →
    heard dev frames (behind dev frames opened session) [a] = [] ∨
      heard dev frames (behind dev frames opened session) [a] = [false] ∧
          Fault dev frames (behind dev frames opened session) a ∨
        heard dev frames (behind dev frames opened session) [a] = [true] ∧
          Reopens (behind dev frames opened session) a

theorem FaultSince.connected {dev : Device κ δ ε} {t : Timed κ δ} {last : ℤ} {a : Turn}
    (h : FaultSince dev t last a) : t.driver.connected = true := by
  cases a with
  | start | stop | reopen => exact h.elim
  | read result handled now =>
    cases result with
    | error message => exact h.2
    | ok chunk => exact h.2.1

theorem Reopens.disconnected {t : Timed κ δ} {a : Turn} (h : Reopens t a) :
    t.driver.connected = false ∧ ∃ now, a = .reopen none now := by
  cases a with
  | start | stop | read => exact h.elim
  | reopen result now =>
    cases result with
    | none => exact ⟨h.2, now, rfl⟩
    | some message => exact h.elim

structure Kept (t : Timed κ δ) (events : List (Event ε)) : Prop where
  inStep : InStep t.driver
  alternates : Alternates false (notices events)
  announced : t.driver.connected = (notices events).getLast?.getD true

theorem Kept.told {t : Timed κ δ} {events : List (Event ε)} (h : Kept t events) {told : Bool}
    (htold : t.driver.connected = !told) : Alternates false (notices events ++ [told]) := by
  refine alternates_snoc.mpr ⟨h.alternates, ?_⟩
  rw [due_eq_not h.alternates, Bool.not_false, ← h.announced, htold, Bool.not_not]

theorem turn_kept (dev : Device κ δ ε) (frames : Frames δ) {t : Timed κ δ} {events : List (Event ε)}
    (h : Kept t events) (a : Turn) :
    Kept (turn dev frames t a).2 (events ++ (turn dev frames t a).1) := by
  obtain ⟨told, ⟨hstep, hnotices, hconnected⟩, hfault, hopen⟩ := turn_told dev frames h.inStep a
  refine ⟨hstep, ?_, ?_⟩
  · rw [notices_append, hnotices]
    cases told with
    | none => simpa using h.alternates
    | some told =>
      refine h.told ?_
      cases told with
      | false => exact (hfault.mp rfl).connected
      | true => exact (hopen.mp rfl).disconnected.1
  · rw [notices_append, hnotices, hconnected]
    cases told with
    | none => simpa using h.announced
    | some told => simp

theorem session_kept (dev : Device κ δ ε) (frames : Frames δ) {opened : Timed κ δ}
    (h : opened.driver.transport = some true ∧ opened.driver.connected = true)
    (session : List Turn) :
    Kept (behind dev frames opened session) (play (turn dev frames) opened session).1 := by
  refine play_invariant (P := Kept) (fun t events ht a _ => turn_kept dev frames ht a) [] ?_
  exact ⟨h.1.trans (congrArg some h.2.symm), trivial, h.2⟩

theorem heard_cons (dev : Device κ δ ε) (frames : Frames δ) (t : Timed κ δ) (a : Turn)
    (later : List Turn) :
    heard dev frames t (a :: later) =
      notices (turn dev frames t a).1 ++ heard dev frames (turn dev frames t a).2 later := by
  rw [heard, play_cons, notices_append]
  rfl

theorem heard_closed (dev : Device κ δ ε) (frames : Frames δ) {t : Timed κ δ} (h : InStep t.driver)
    (hconnected : t.driver.connected = false) {later : List Turn}
    (hlater : ∀ now, .reopen none now ∉ later) : heard dev frames t later = [] := by
  induction later generalizing t with
  | nil => rfl
  | cons a later ih =>
    obtain ⟨told, ⟨hstep, hnotices, hflag⟩, hfault, hopen⟩ := turn_told dev frames h a
    have htold : told = none := by
      cases told with
      | none => rfl
      | some told =>
        cases told with
        | false => exact absurd ((hfault.mp rfl).connected.symm.trans hconnected) (by decide)
        | true =>
          obtain ⟨-, now, rfl⟩ := (hopen.mp rfl).disconnected
          exact absurd List.mem_cons_self (hlater now)
    rw [htold] at hnotices hflag
    have hrest := ih hstep (hflag.trans hconnected) fun now hm =>
      hlater now (List.mem_cons_of_mem a hm)
    rw [heard_cons, hnotices, hrest]
    rfl

theorem behind_lastValidTime (dev : Device κ δ ε) (frames : Frames δ) (opened : Timed κ δ)
    (session : List Turn) :
    (behind dev frames opened session).lastValidTime =
      assigned opened.lastValidTime (stamped dev frames opened session) := by
  induction session generalizing opened with
  | nil => rfl
  | cons a session ih =>
    have hrest := ih (turn dev frames opened a).2
    rw [stamped, play_cons, assigned, List.foldl_append]
    exact hrest

/-- In a session whose turns end with valid frames the clock of the driver is the ghost one. -/
theorem met_clocks {dev : Device κ δ ε} {frames : Frames δ} {ok : Timed κ δ → Turn → Prop}
    (hok : ∀ t a, ok t a → EndsValid dev frames t a) {opened : Timed κ δ}
    (hclock : opened.lastFrameTime = opened.lastValidTime) {session : List Turn} {a : Turn}
    (h : Met dev frames ok opened (session ++ [a])) :
    (behind dev frames opened session).lastFrameTime =
        (behind dev frames opened session).lastValidTime ∧
      EndsValid dev frames (behind dev frames opened session) a := by
  induction session generalizing opened with
  | nil => exact ⟨hclock, hok _ _ h.1⟩
  | cons b session ih =>
    obtain ⟨hturn, hrest⟩ := h
    refine ih ?_ hrest
    show assigned opened.lastFrameTime _ = assigned opened.lastValidTime _
    rw [hclock]
    exact assigned_validTimes (hok _ _ hturn) _

theorem noticed {dev : Device κ δ ε} {frames : Frames δ} {ok : Timed κ δ → Turn → Prop}
    (hok : ∀ t a, ok t a → EndsValid dev frames t a) {opened : Timed κ δ}
    (h : opened.driver.transport = some true ∧ opened.driver.connected = true)
    (hclock : opened.lastFrameTime = opened.lastValidTime) : Noticed dev frames ok opened where
  alternates session := (session_kept dev frames h session).alternates
  announced session := (session_kept dev frames h session).announced
  transport session := (session_kept dev frames h session).inStep
  clock session := (behind_lastValidTime dev frames opened session).trans (assigned_eq _ _)
  fault session a hmet hfault later hlater := by
    have hstep := (session_kept dev frames h session).inStep
    obtain ⟨hsame, hends⟩ := met_clocks hok hclock hmet
    obtain ⟨told, ⟨hnext, hnotices, hflag⟩, hiff, -⟩ := turn_told dev frames hstep a
    rw [Fault, ← hsame, ← assigned_validTimes hends] at hfault
    obtain rfl := hiff.mpr hfault
    rw [heard_cons, hnotices, heard_closed dev frames hnext hflag hlater]
    rfl
  single session a hmet := by
    have hstep := (session_kept dev frames h session).inStep
    obtain ⟨hsame, hends⟩ := met_clocks hok hclock hmet
    obtain ⟨told, ⟨-, hnotices, -⟩, hfault, hopen⟩ := turn_told dev frames hstep a
    rw [hsame, assigned_validTimes hends] at hfault
    rw [heard_cons, hnotices]
    cases told with
    | none => exact Or.inl rfl
    | some told =>
      cases told with
      | false => exact Or.inr (Or.inl ⟨rfl, hfault.mp rfl⟩)
      | true => exact Or.inr (Or.inr ⟨rfl, hopen.mp rfl⟩)

section

open Ch020Sessions Floating SmitSessions SmitProtocol

/-- A packet that the decoder delivers has passed its checksum. -/
def ch020Frames : Frames Ch020Decoding :=
  fun s chunk => (Hipnuc.feed s.decoder chunk).1.map fun _ => true

theorem ch020_frameCount (s : Ch020Decoding) (chunk : List UInt8) :
    (ch020ImuDriver.feed s chunk).2.frameCount =
      s.frameCount + (ch020Frames s chunk).length := by
  rw [ch020Frames, List.length_map]
  rfl

theorem ch020_ends (t : Timed Ch020ImuConfig Ch020Decoding) (a : Turn) :
    EndsValid ch020ImuDriver ch020Frames t a := by
  intro mark hmark
  have hmem := List.mem_of_getLast? hmark
  cases a with
  | start | stop => cases hmem
  | reopen result now =>
    rw [marks] at hmem
    split_ifs at hmem
    · rw [List.mem_singleton.mp hmem]
    · cases hmem
  | read result handled now =>
    obtain ⟨⟨frame, i⟩, hframe, rfl⟩ := List.mem_map.mp hmem
    have hcompleted := (List.mem_zipIdx hframe).2.2 ▸ List.getElem_mem _
    cases result with
    | error message => cases hcompleted
    | ok chunk =>
      rw [completed] at hcompleted
      split_ifs at hcompleted
      · obtain ⟨delivery, -, htrue⟩ := List.mem_map.mp hcompleted
        exact htrue.symm
      · cases hcompleted

variable {α : Type} [LE α] [DecidableLE α] [LT α] [DecidableLT α] [Add α] [Sub α] [Mul α] [Div α]
  [Floating α]

/-- A point packet with a wrong checksum reaches the callback as well. -/
def valid : Callback α → Bool
  | .config _ => true
  | .points packet => packet.crcOk

def smitFrames : Frames (SmitDecoding α) := fun s chunk =>
  match SmitProtocol.feed s.buffer chunk with
  | some (callbacks, _) => callbacks.map (valid : Callback α → Bool)
  | none => []

/-- The clock of `SmitLidarDriver` is set where `frame_count_` is counted. -/
theorem smit_frameCount (s : SmitDecoding α) (chunk : List UInt8) :
    (smitLidarDriver.feed s chunk).2.handling.frameCount =
      s.handling.frameCount + (smitFrames s chunk).length := by
  have hcount : ∀ (handling : SmitHandling α) (callbacks : List (Callback α)),
      (play handle handling callbacks).2.frameCount = handling.frameCount + callbacks.length := by
    intro handling callbacks
    induction callbacks generalizing handling with
    | nil => rfl
    | cons callback callbacks ih =>
      have hone : (handle handling callback).2.frameCount = handling.frameCount + 1 := by
        cases callback <;> rfl
      rw [play_cons, ih, hone, List.length_cons]
      omega
  unfold smitFrames
  cases hfeed : (SmitProtocol.feed s.buffer chunk : Option (List (Callback α) × List UInt8)) with
  | none =>
    have hsame : smitLidarDriver.feed s chunk = ([], s) := by
      show (match SmitProtocol.feed s.buffer chunk with
        | some (callbacks, buffer) =>
          let handled := play handle s.handling callbacks
          (handled.1, (⟨buffer, handled.2⟩ : SmitDecoding α))
        | none => ([], s)) = _
      rw [hfeed]
    rw [hsame]
    rfl
  | some fed =>
    rw [feed_some hfeed]
    dsimp only
    rw [hcount, List.length_map]

/-- In a session of `Ch020ImuDriver` or `SmitLidarDriver` the handler is told of each fault and of
each recovery once, in turn. For the latter no read may end with a packet whose checksum is
wrong. -/
theorem sessions_noticed :
    (∀ (d : Ch020ImuDriver) (config : Ch020ImuConfig) (dataTimeoutMs : Int32) (now : ℤ),
      Noticed ch020ImuDriver ch020Frames (fun _ _ => True)
        (configured ch020ImuDriver d config dataTimeoutMs now)) ∧
    ∀ (d : SmitLidarDriver α) (config : SmitLidarConfig α) (dataTimeoutMs : Int32) (now : ℤ),
      Noticed smitLidarDriver smitFrames (EndsValid smitLidarDriver smitFrames)
        (configured smitLidarDriver d config dataTimeoutMs now) :=
  ⟨fun _ _ _ _ => noticed (fun t a _ => ch020_ends t a) ⟨rfl, rfl⟩ rfl,
    fun _ _ _ _ => noticed (fun _ _ h => h) ⟨rfl, rfl⟩ rfl⟩

def badPacket : List UInt8 := [kSof1, kSof2, 0, 2, 1, 0]

def listening : Timed (SmitLidarConfig ℚ) (SmitDecoding ℚ) :=
  configured smitLidarDriver (.create window (initial window)) window 2000 0

/-- Bad packets alone keep the driver from a stall. -/
theorem sessions_noticed_badPacket :
    ¬Noticed smitLidarDriver smitFrames (fun _ _ => True) listening := by
  intro h
  have hfault := h.fault [.start] (.read (.ok badPacket) (fun _ => 3000000000) 3000000000)
    ⟨trivial, trivial, trivial⟩ ⟨rfl, rfl, by decide, by decide +kernel⟩ [] (by simp)
  exact absurd hfault (by decide +kernel)

end

end DeviceManager.SerialNotices
