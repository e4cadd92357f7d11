import DeviceManager.Alternation
import DeviceManager.PagerDriver
import DeviceManager.Transition

namespace DeviceManager.PagerDriver

open FrameCodec Alternation Transition

def signal : Event → Option Bool
  | .connection connected _ => some connected
  | _ => none

def connections (events : List Event) : List Bool := events.filterMap signal

def isLoss : Event → Bool
  | .readFailed _ | .writeFailed _ => true
  | _ => false

def Settled : List Event → Prop := Answered (isLoss · = true) (signal · = some false)

/-- The notifications alternate, and none of them says that the link is up again before the
losses so far have been announced. -/
structure Announced (events : List Event) : Prop where
  alternates : Alternates false (connections events)
  losses : ∀ before online after, events = before ++ online :: after →
    signal online = some true → Settled before

theorem connections_append (events more : List Event) :
    connections (events ++ more) = connections events ++ connections more :=
  List.filterMap_append

theorem announced_nil : Announced [] :=
  ⟨trivial, fun before online after h => absurd h.symm (by simp)⟩

theorem Announced.notify {events : List Event} (h : Announced events) {connected : Bool}
    (hdue : connected = due false (connections events))
    (hsettled : connected = true → Settled events) (message : String) :
    Announced (events ++ [.connection connected message]) := by
  refine ⟨?_, ?_⟩
  · rw [connections_append]
    exact alternates_snoc.mpr ⟨h.alternates, hdue⟩
  · intro before online after hsplit honline
    obtain ⟨rfl, rfl⟩ | ⟨rest, rfl, hevents⟩ := split_snoc hsplit
    · obtain ⟨rfl, -⟩ := List.append_inj' hsplit rfl
      exact hsettled (Option.some.inj honline)
    · exact h.losses before online rest hevents honline

theorem Announced.other {events : List Event} {e : Event} (h : Announced events)
    (he : signal e = none) : Announced (events ++ [e]) := by
  refine ⟨?_, ?_⟩
  · rw [connections_append, connections, connections, List.filterMap_cons_none he,
      List.filterMap_nil, List.append_nil]
    exact h.alternates
  · intro before online after hsplit honline
    obtain ⟨-, rfl⟩ | ⟨rest, -, hevents⟩ := split_snoc hsplit
    · rw [he] at honline
      cases honline
    · exact h.losses before online rest hevents honline

theorem Announced.append {events more : List Event} (h : Announced events)
    (hmore : ∀ e ∈ more, signal e = none) : Announced (events ++ more) := by
  induction more using List.reverseRecOn with
  | nil => rwa [List.append_nil]
  | append_singleton more e ih =>
    obtain ⟨hbefore, he⟩ := List.forall_mem_append.mp hmore
    rw [← List.append_assoc]
    exact (ih hbefore).other (he e (List.mem_singleton_self e))

/-- What the read thread may rely on where it stands, if no write fails. -/
def Fits (d : Pager100LoraDriver) : Prop :=
  let next := due false (connections d.events)
  match d.reader with
  | .ended | .loop => d.connected = d.isOpen ∧ next = !d.connected ∧ Settled d.events
  | .reopening | .refused _ =>
    d.connected = false ∧ d.isOpen = false ∧ next = true ∧ Settled d.events
  | .opened => d.connected = false ∧ d.isOpen = true ∧ next = true ∧ Settled d.events
  | .restored => d.connected = true ∧ d.isOpen = true ∧ next = true ∧ Settled d.events
  | .reading => d.connected = true ∧ d.isOpen = true ∧ next = false ∧ Settled d.events
  | .fault _ => d.connected = true ∧ d.isOpen = true ∧ next = false
  | .closed _ => d.connected = true ∧ d.isOpen = false ∧ next = false
  | .lost _ => d.connected = false ∧ d.isOpen = false ∧ next = false

structure Sound (d : Pager100LoraDriver) : Prop where
  announced : Announced d.events
  fits : Fits d

theorem sound_configured (decoder : SerialFrameDecoder) : Sound (configured decoder) :=
  ⟨announced_nil, rfl, rfl, answered_nil⟩

theorem Sound.start {d t : Pager100LoraDriver} (h : Sound d) (hstep : start d = some t) :
    Sound t := by
  unfold PagerDriver.start at hstep
  split_ifs at hstep with hrunning hended
  · exact Option.some.inj hstep ▸ h
  · obtain rfl := Option.some.inj hstep
    have hfits := h.fits
    rw [Fits, hended] at hfits
    exact ⟨h.announced, hfits⟩

theorem Sound.proceed {d t : Pager100LoraDriver} (h : Sound d) (hstep : proceed d = some t) :
    Sound t := by
  have hfits := h.fits
  unfold Fits at hfits
  unfold PagerDriver.proceed at hstep
  cases hreader : d.reader with
  | ended | reopening | reading =>
    rw [hreader] at hstep
    cases hstep
  | loop =>
    simp only [hreader] at hstep hfits
    obtain ⟨hsame, hnext, hsettled⟩ := hfits
    split_ifs at hstep with hrunning hopen <;> obtain rfl := Option.some.inj hstep
    · exact ⟨h.announced, hsame, hnext, hsettled⟩
    · rw [hopen] at hsame
      rw [hsame] at hnext
      exact ⟨h.announced, hsame, hopen, hnext, hsettled⟩
    · rw [Bool.not_eq_true] at hopen
      rw [hopen] at hsame
      rw [hsame] at hnext
      exact ⟨h.announced, hsame, hopen, hnext, hsettled⟩
  | opened =>
    simp only [hreader] at hstep hfits
    obtain ⟨-, hopen, hnext, hsettled⟩ := hfits
    split_ifs at hstep
    obtain rfl := Option.some.inj hstep
    exact ⟨h.announced, rfl, hopen, hnext, hsettled⟩
  | refused message =>
    simp only [hreader] at hstep hfits
    obtain ⟨hdown, hopen, hnext, hsettled⟩ := hfits
    split_ifs at hstep
    obtain rfl := Option.some.inj hstep
    refine ⟨h.announced, hdown.trans hopen.symm, ?_, hsettled⟩
    rw [hnext, hdown]
    rfl
  | restored =>
    simp only [hreader] at hstep hfits
    obtain ⟨hup, hopen, hnext, hsettled⟩ := hfits
    obtain rfl := Option.some.inj hstep
    refine ⟨h.announced.notify hnext.symm (fun _ => hsettled) _, hup, hopen, ?_, ?_⟩
    · rw [connections_append]
      exact (due_snoc false _ true).trans (congrArg not hnext)
    · exact hsettled.snoc nofun
  | fault message =>
    simp only [hreader] at hstep hfits
    obtain ⟨hup, -, hnext⟩ := hfits
    obtain rfl := Option.some.inj hstep
    exact ⟨h.announced, hup, rfl, hnext⟩
  | closed message =>
    simp only [hreader] at hstep hfits
    obtain ⟨hup, hopen, hnext⟩ := hfits
    split_ifs at hstep
    obtain rfl := Option.some.inj hstep
    exact ⟨h.announced, rfl, hopen, hnext⟩
  | lost message =>
    simp only [hreader] at hstep hfits
    obtain ⟨hdown, hopen, hnext⟩ := hfits
    obtain rfl := Option.some.inj hstep
    refine ⟨h.announced.notify hnext.symm nofun _, hdown.trans hopen.symm, ?_, ?_⟩
    · rw [connections_append, hdown]
      exact (due_snoc false _ false).trans (congrArg not hnext)
    · exact answered_snoc_answer nofun rfl

theorem Sound.reopen {d t : Pager100LoraDriver} (h : Sound d) {result : Option String}
    (hstep : reopen d result = some t) : Sound t := by
  unfold PagerDriver.reopen at hstep
  split_ifs at hstep with hreader
  have hfits := h.fits
  rw [Fits, hreader] at hfits
  obtain ⟨hdown, hopen, hnext, hsettled⟩ := hfits
  cases result with
  | none =>
    obtain rfl := Option.some.inj hstep
    exact ⟨h.announced, hdown, rfl, hnext, hsettled⟩
  | some message =>
    obtain rfl := Option.some.inj hstep
    exact ⟨h.announced, hdown, hopen, hnext, hsettled⟩

theorem Sound.read {d t : Pager100LoraDriver} (h : Sound d) {result : Except String (List UInt8)}
    (hstep : read d result = some t) : Sound t := by
  unfold PagerDriver.read at hstep
  split_ifs at hstep with hreader hrunning
  all_goals
    have hfits := h.fits
    rw [Fits, hreader] at hfits
    obtain ⟨hup, hopen, hnext, hsettled⟩ := hfits
  · obtain rfl := Option.some.inj hstep
    refine ⟨h.announced, hup.trans hopen.symm, ?_, hsettled⟩
    rw [hnext, hup]
    rfl
  · cases result with
    | ok chunk =>
      obtain rfl := Option.some.inj hstep
      have hframes : ∀ e ∈ (((feed d.decoder chunk).1.filter fun frame =>
          frame.frameType = kFrameTypeData).map fun frame => Event.frame frame.payload),
          signal e = none ∧ isLoss e = false := by
        intro e he
        obtain ⟨frame, -, rfl⟩ := List.mem_map.mp he
        exact ⟨rfl, rfl⟩
      refine ⟨h.announced.append fun e he => (hframes e he).1, hup.trans hopen.symm, ?_, ?_⟩
      · rw [handleFrames, connections_append,
          show connections (_ : List Event) = [] from List.filterMap_eq_nil_iff.mpr
            fun e he => (hframes e he).1, List.append_nil, hnext, hup]
        rfl
      · exact hsettled.append fun e he => by simp [(hframes e he).2]
    | error message =>
      obtain rfl := Option.some.inj hstep
      refine ⟨h.announced.other rfl, hup, hopen, ?_⟩
      rw [connections_append, show connections [Event.readFailed message] = [] from rfl,
        List.append_nil]
      exact hnext

theorem Sound.send {d t : Pager100LoraDriver} (h : Sound d) {payload : List UInt8}
    (hstep : send d payload = some t) : Sound t := by
  unfold PagerDriver.send at hstep
  split_ifs at hstep
  split at hstep
  · obtain rfl := Option.some.inj hstep
    exact ⟨h.announced, h.fits⟩
  · obtain rfl := Option.some.inj hstep
    exact h

def Written : Pager100LoraDriver → Action → Prop
  | _, .write (some _) => False
  | _, _ => True

instance (d : Pager100LoraDriver) : ∀ a, Decidable (Written d a)
  | .write (some _) => isFalse id
  | .write none | .start | .stop | .proceed | .reopen _ | .read _ | .send _ => isTrue trivial

theorem Sound.step {d t : Pager100LoraDriver} (h : Sound d) {a : Action} (ha : Written d a)
    (hstep : step d a = some t) : Sound t := by
  cases a with
  | start => exact h.start hstep
  | stop =>
    obtain rfl := Option.some.inj hstep
    exact ⟨h.announced, h.fits⟩
  | proceed => exact h.proceed hstep
  | reopen result => exact h.reopen hstep
  | read result => exact h.read hstep
  | send payload => exact h.send hstep
  | write result =>
    cases result with
    | some message => exact ha.elim
    | none =>
      rw [PagerDriver.step, write] at hstep
      split_ifs at hstep
      obtain rfl := Option.some.inj hstep
      exact ⟨h.announced, h.fits⟩

/-- While no write fails, the notifications alternate and announce every loss. -/
theorem announced_run (decoder : SerialFrameDecoder) {d : Pager100LoraDriver}
    (h : Runs step Written (configured decoder) d) : Announced d.events :=
  (h.invariant (I := Sound) (sound_configured decoder) fun _ _ _ hd ha hstep =>
    hd.step ha hstep).announced

/-- A read that fails, and the port is opened again. -/
theorem reopened_announced :
    Announced [.readFailed "EIO", .connection false "读取串口失败: EIO",
      .connection true "串口已恢复连接"] :=
  announced_run .create
    (d := { configured .create with
      running := true
      reader := .reading
      events := [.readFailed "EIO", .connection false "读取串口失败: EIO",
        .connection true "串口已恢复连接"] })
    (exec_runs [.start, .proceed, .read (.error "EIO"), .proceed, .proceed, .proceed, .proceed,
      .reopen none, .proceed, .proceed] rfl)

/-- A write fails, then the read on the closed port: the port is opened again, and the link is
announced to be up without having been down. -/
theorem failedWrite_unannounced :
    ∃ d, Runs step (fun _ _ => True) (configured .create) d ∧ ¬ Announced d.events := by
  refine ⟨{ configured .create with
    running := true
    reader := .reading
    events := [.writeFailed "EIO", .readFailed "串口尚未打开",
      .connection true "串口已恢复连接"] }, ?_, ?_⟩
  · exact exec_runs [.start, .proceed, .send [1], .write (some "EIO"),
      .read (.error "串口尚未打开"), .proceed, .proceed, .proceed, .reopen none, .proceed,
      .proceed] rfl
  · intro h
    exact absurd h.alternates (by decide)

end DeviceManager.PagerDriver
