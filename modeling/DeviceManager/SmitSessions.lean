import DeviceManager.ScanSegments
import DeviceManager.SerialDriver
import DeviceManager.SmitLeftovers

namespace DeviceManager.SmitSessions

open Draining Floating Lockstep SerialDriver SmitProtocol SmitFrames SmitAssembly ScanSegments
  SmitLeftovers

variable {α : Type}

structure SmitLidarConfig (α : Type) where
  angleMinDeg : α
  angleMaxDeg : α
  readChunkSize : Nat

structure SmitHandling (α : Type) where
  assembler : SmitScanAssembler α
  configReceived : Bool
  frameCount : Nat

/-- What lives longer than the port: the buffer of the protocol as well. -/
structure SmitDecoding (α : Type) where
  buffer : List UInt8
  handling : SmitHandling α

inductive SmitEvent (α : Type) where
  | config (config : SmitConfigInfo α)
  | scan (scan : SmitScan α)

abbrev SmitLidarDriver (α : Type) := Driver (SmitLidarConfig α) (SmitDecoding α)

section

variable [LE α] [DecidableLE α] [LT α] [DecidableLT α] [Add α] [Sub α] [Mul α] [Div α] [Floating α]

def handleConfig (s : SmitHandling α) (config : SmitConfigInfo α) :
    List (SmitEvent α) × SmitHandling α :=
  ([.config config], ⟨s.assembler.setConfig config.motorSpeed config.lidarFreq, true, s.frameCount + 1⟩)

def handlePointPacket (s : SmitHandling α) (packet : SmitPointPacket α) :
    List (SmitEvent α) × SmitHandling α :=
  let added := addPacket s.assembler packet
  (added.1.map .scan, { s with assembler := added.2, frameCount := s.frameCount + 1 })

def handle (s : SmitHandling α) : Callback α → List (SmitEvent α) × SmitHandling α
  | .config config => handleConfig s config
  | .points packet => handlePointPacket s packet

/-- `SmitLidarDriver`: the buffer of the protocol is never emptied, the assembler is reset when
the port is open again. -/
def smitLidarDriver : Device (SmitLidarConfig α) (SmitDecoding α) (SmitEvent α) where
  readChunkSize config := config.readChunkSize
  setup config s :=
    { s with handling.assembler :=
        s.handling.assembler.setWindow config.angleMinDeg config.angleMaxDeg }
  opened s := { s with handling.configReceived := false, handling.frameCount := 0 }
  cleaned s := { s with handling.configReceived := false }
  reopened s := { s with handling.assembler := s.handling.assembler.reset }
  feed s chunk :=
    match feed s.buffer chunk with
    | some (callbacks, buffer) =>
      let handled := play handle s.handling callbacks
      (handled.1, ⟨buffer, handled.2⟩)
    | none => ([], s)

def initial (config : SmitLidarConfig α) : SmitDecoding α :=
  ⟨[], .create config.angleMinDeg config.angleMaxDeg, false, 0⟩

end

def lastConfig (events : List (SmitEvent α)) : Option (SmitConfigInfo α) :=
  (events.filterMap fun
    | .config config => some config
    | .scan _ => none).getLast?

def remembered (config : SmitConfigInfo α) : Nat × Nat := (config.motorSpeed, config.lidarFreq)

theorem lastConfig_config (events : List (SmitEvent α)) (config : SmitConfigInfo α) :
    lastConfig (events ++ [.config config]) = some config := by
  unfold lastConfig
  rw [List.filterMap_append]
  exact List.getLast?_concat

theorem lastConfig_scans (events : List (SmitEvent α)) (scans : List (SmitScan α)) :
    lastConfig (events ++ scans.map .scan) = lastConfig events := by
  unfold lastConfig
  have hnone : (scans.map SmitEvent.scan).filterMap (fun
      | .config config => some config
      | .scan _ => none) = ([] : List (SmitConfigInfo α)) := by
    rw [List.filterMap_eq_nil_iff]
    intro e he
    obtain ⟨scan, -, rfl⟩ := List.mem_map.mp he
    rfl
  rw [List.filterMap_append, hnone, List.append_nil]

theorem lastConfig_mem {events : List (SmitEvent α)} {config : SmitConfigInfo α}
    (h : lastConfig events = some config) : .config config ∈ events := by
  obtain ⟨e, he, hsome⟩ := List.mem_filterMap.mp (List.mem_of_getLast? h)
  cases e with
  | config other =>
    obtain rfl : other = config := Option.some.inj hsome
    exact he
  | scan scan => cases hsome

variable [LE α] [DecidableLE α] [LT α] [DecidableLT α] [Add α] [Sub α] [Floating α]

abbrev Passing (α : Type) :=
  Option (Nat × Nat) × (Option (Sample α) × Option (List (Sample α)))

def pass (angleMinDeg angleMaxDeg : α) (s : Passing α) :
    Callback α → List (SmitEvent α) × Passing α
  | .config config => ([.config config], (some (remembered config), s.2))
  | .points packet =>
    let passed := passPacket angleMinDeg angleMaxDeg s.1 s.2 packet
    (passed.1.map .scan, (s.1, passed.2))

variable {angleMinDeg angleMaxDeg : α}

/-- The callbacks of the driver follow the pass. -/
theorem play_pass {s : Passing α} {t : SmitHandling α}
    (h : Tracks angleMinDeg angleMaxDeg s.1 s.2 t.assembler) (callbacks : List (Callback α)) :
    (play handle t callbacks).1 = (play (pass angleMinDeg angleMaxDeg) s callbacks).1 ∧
      Tracks angleMinDeg angleMaxDeg (play (pass angleMinDeg angleMaxDeg) s callbacks).2.1
        (play (pass angleMinDeg angleMaxDeg) s callbacks).2.2
        (play handle t callbacks).2.assembler := by
  refine play_related (R := fun (t : SmitHandling α) (s : Passing α) =>
    Tracks angleMinDeg angleMaxDeg s.1 s.2 t.assembler) (fun t s h callback _ => ?_) h
  cases callback with
  | config config => exact ⟨rfl, h.setConfig config.motorSpeed config.lidarFreq⟩
  | points packet =>
    obtain ⟨hscans, hnext⟩ := addPacket_tracks h packet
    exact ⟨congrArg (List.map SmitEvent.scan) hscans, hnext⟩

theorem play_pass_config (angleMinDeg angleMaxDeg : α) {s : Passing α}
    {events : List (SmitEvent α)} (h : s.1 = (lastConfig events).map remembered)
    (callbacks : List (Callback α)) :
    (play (pass angleMinDeg angleMaxDeg) s callbacks).2.1 =
      (lastConfig (events ++ (play (pass angleMinDeg angleMaxDeg) s callbacks).1)).map remembered := by
  refine play_invariant (P := fun (s : Passing α) out => s.1 = (lastConfig out).map remembered)
    (fun s out h callback _ => ?_) events h
  cases callback with
  | config config =>
    show some (remembered config) = (lastConfig (out ++ [.config config])).map remembered
    rw [lastConfig_config]
    rfl
  | points packet =>
    show s.1 = (lastConfig (out ++ (passPacket angleMinDeg angleMaxDeg s.1 s.2 packet).1.map
      .scan)).map remembered
    rw [lastConfig_scans, h]

theorem play_handle_config (s : SmitHandling α) (config : SmitConfigInfo α) :
    (play handle s [.config config]).1 = [.config config] := rfl

theorem mem_play_handle {s : SmitHandling α} {callbacks : List (Callback α)}
    {config : SmitConfigInfo α} (h : .config config ∈ (play handle s callbacks).1) :
    .config config ∈ callbacks := by
  refine play_invariant (P := fun (_ : SmitHandling α) out =>
    ∀ config, SmitEvent.config config ∈ out → Callback.config config ∈ callbacks)
    (fun s out hout callback hc => ?_) [] (fun _ hm => by cases hm) config h
  intro config hm
  obtain hm | hm := List.mem_append.mp hm
  · exact hout config hm
  · cases callback with
    | config other =>
      obtain rfl : config = other := SmitEvent.config.inj (List.mem_singleton.mp hm)
      exact hc
    | points packet =>
      obtain ⟨scan, -, he⟩ := List.mem_map.mp hm
      cases he

variable [Mul α] [Div α]

/-- What holds of a driver behind a history: the buffer stops the loop, the assembler has its
window and remembers the last configuration, and every configuration came in a frame. -/
structure Kept (config : SmitLidarConfig α) (s : SmitDecoding α) (events : List (SmitEvent α)) :
    Prop where
  stopped : (turn s.buffer : Option (List (Callback α) × Nat)) = none
  tracks : ∃ p, Tracks config.angleMinDeg config.angleMaxDeg
    ((lastConfig events).map remembered) p s.handling.assembler
  received : ∀ c, .config c ∈ events →
    ∃ payload, payload.length + 4 ≤ 2048 ∧ expected payload = some (Callback.config c)

theorem feed_some {s : SmitDecoding α} {chunk rest : List UInt8} {callbacks : List (Callback α)}
    (h : feed s.buffer chunk = some (callbacks, rest)) :
    smitLidarDriver.feed s chunk =
      ((play handle s.handling callbacks).1, ⟨rest, (play handle s.handling callbacks).2⟩) := by
  show (match feed s.buffer chunk with
    | some (callbacks, buffer) =>
      let handled := play handle s.handling callbacks
      (handled.1, (⟨buffer, handled.2⟩ : SmitDecoding α))
    | none => ([], s)) = _
  rw [h]

theorem Kept.feed {config : SmitLidarConfig α} {s : SmitDecoding α} {events : List (SmitEvent α)}
    (h : Kept config s events) (chunk : List UInt8) :
    Kept config (smitLidarDriver.feed s chunk).2 (events ++ (smitLidarDriver.feed s chunk).1) := by
  obtain ⟨p, htracks⟩ := h.tracks
  obtain hfull | ⟨callbacks, rest, hfeed, hdrains⟩ := feed_cases (α := α) s.buffer chunk
  · rw [feed_some (feed_overfull hfull), play_nil, List.append_nil]
    exact ⟨turn_nil, h.tracks, h.received⟩
  · obtain ⟨hout, hnext⟩ := play_pass (s := ((lastConfig events).map remembered, p)) htracks callbacks
    have hunder : ((lastConfig events).map remembered, p).1 = (lastConfig events).map remembered :=
      rfl
    have hconfig := play_pass_config config.angleMinDeg config.angleMaxDeg hunder callbacks
    rw [feed_some hfeed]
    refine ⟨hdrains.stopped, ?_, fun c hc => ?_⟩
    · rw [hconfig, ← hout] at hnext
      exact ⟨_, hnext⟩
    · obtain hc | hc := List.mem_append.mp hc
      · exact h.received c hc
      · exact drains_payload hdrains _ (mem_play_handle hc)

theorem History.kept {d : SmitLidarDriver α} {events : List (SmitEvent α)}
    (h : History smitLidarDriver initial events d) : Kept d.config d.device events := by
  refine h.invariant (P := Kept) (fun config => ?_) (fun _ config' s out hs => ?_)
    (fun _ _ _ hs => ⟨hs.stopped, hs.tracks, hs.received⟩)
    (fun _ _ _ hs => ⟨hs.stopped, hs.tracks, hs.received⟩) (fun config s out hs => ?_)
    fun _ _ _ chunk hs => hs.feed chunk
  · exact ⟨turn_nil, ⟨_, create_tracks _ _⟩, fun _ hc => by cases hc⟩
  · obtain ⟨p, hp⟩ := hs.tracks
    exact ⟨hs.stopped, ⟨_, hp.setWindow config'.angleMinDeg config'.angleMaxDeg⟩, hs.received⟩
  · obtain ⟨p, hp⟩ := hs.tracks
    exact ⟨hs.stopped, ⟨_, hp.reset⟩, hs.received⟩

/-- Behind an opening the assembler is new but for the configuration, the buffer is the old one. -/
theorem opening_tracks {d : SmitLidarDriver α} {events : List (SmitEvent α)}
    (h : Kept d.config d.device events) {o : Action (SmitLidarConfig α)} (ho : Opens d o) :
    (opening smitLidarDriver d.device o).buffer = d.device.buffer ∧
      Tracks (step smitLidarDriver d o).2.config.angleMinDeg
        (step smitLidarDriver d o).2.config.angleMaxDeg ((lastConfig events).map remembered)
        (none, none) (opening smitLidarDriver d.device o).handling.assembler := by
  obtain ⟨p, hp⟩ := h.tracks
  cases o with
  | configure config result =>
    obtain rfl : result = none := ho
    exact ⟨rfl, hp.setWindow config.angleMinDeg config.angleMaxDeg⟩
  | reopen result =>
    have hconfig : (step smitLidarDriver d (.reopen result)).2.config = d.config :=
      (reopen_cases smitLidarDriver d result).1
    rw [hconfig]
    exact ⟨rfl, hp.reset⟩
  | cleanup | start | stop | read => exact ho.elim

/-- Two decoders of which the first has some bytes more that begin no frame, with assemblers in
the same pass. -/
structure Beside (angleMinDeg angleMaxDeg : α) (size : Nat) (s t : SmitDecoding α) : Prop where
  buffer : ∃ left, s.buffer = left ++ t.buffer ∧ Inert left ∧
    (left = [] ∨ (left ++ t.buffer).length ≤ 3 ∧ size ≤ 9997)
  tracks : ∃ c p, Tracks angleMinDeg angleMaxDeg c p s.handling.assembler ∧
    Tracks angleMinDeg angleMaxDeg c p t.handling.assembler

theorem lockstep_beside (angleMinDeg angleMaxDeg : α) (size : Nat) :
    Lockstep smitLidarDriver size (Beside angleMinDeg angleMaxDeg size) where
  reopened s t h := by
    obtain ⟨c, p, hs, ht⟩ := h.tracks
    exact ⟨h.buffer, c, _, hs.reset, ht.reset⟩
  feed s t chunk h hchunk := by
    obtain ⟨left, hbuffer, hleft, hshort⟩ := h.buffer
    obtain ⟨c, p, hs, ht⟩ := h.tracks
    obtain ⟨callbacks, rest, more, hclean, hstale, hmore, hor⟩ :=
      feed_beside (α := α) hleft hshort hchunk
    rw [← hbuffer] at hstale
    obtain ⟨hout, hnext⟩ := play_pass (s := (c, p)) hs callbacks
    obtain ⟨hout', hnext'⟩ := play_pass (s := (c, p)) ht callbacks
    rw [feed_some hclean, feed_some hstale]
    exact ⟨hout.trans hout'.symm, ⟨more, rfl, hmore, hor⟩, _, _, hnext, hnext'⟩

/-- A session behind bytes that begin no frame is that of a driver with an empty buffer. -/
theorem after_beside {d e : SmitLidarDriver α} {events events' : List (SmitEvent α)}
    (hd : Kept d.config d.device events) (he : Kept e.config e.device events')
    {o : Action (SmitLidarConfig α)} (ho : Opens d o) (ho' : Opens e o)
    (hconfig : (step smitLidarDriver e o).2.config = (step smitLidarDriver d o).2.config)
    (hlast : lastConfig events' = lastConfig events) (hempty : e.device.buffer = [])
    (hinert : d.device.buffer = [] ∨
      Inert d.device.buffer ∧ (step smitLidarDriver d o).2.config.readChunkSize ≤ 9997)
    {later : List (Action (SmitLidarConfig α))} (hlater : ∀ a ∈ later, InSession a) :
    after smitLidarDriver d o later = after smitLidarDriver e o later := by
  obtain ⟨hbuffer, htracks⟩ := opening_tracks hd ho
  obtain ⟨hbuffer', htracks'⟩ := opening_tracks he ho'
  rw [hlast, hconfig] at htracks'
  have hleft : Inert d.device.buffer := hinert.elim (fun h => h ▸ inert_nil) And.left
  have hshort : d.device.buffer = [] ∨ d.device.buffer.length ≤ 3 ∧
      (step smitLidarDriver d o).2.config.readChunkSize ≤ 9997 :=
    hinert.imp_right fun h => ⟨length_of_inert hd.stopped h.1, h.2⟩
  have hbeside : Beside (step smitLidarDriver d o).2.config.angleMinDeg
      (step smitLidarDriver d o).2.config.angleMaxDeg
      (step smitLidarDriver d o).2.config.readChunkSize
      (opening smitLidarDriver d.device o) (opening smitLidarDriver e.device o) := by
    refine ⟨⟨d.device.buffer, ?_, hleft, ?_⟩, _, _, htracks, htracks'⟩
    · rw [hbuffer, hbuffer', hempty, List.append_nil]
    · rw [hbuffer', hempty, List.append_nil]
      exact hshort
  have hstep := lockstep_beside (step smitLidarDriver d o).2.config.angleMinDeg
    (step smitLidarDriver d o).2.config.angleMaxDeg
    (step smitLidarDriver d o).2.config.readChunkSize
  have halike := opens_alike ho ho' hconfig.symm hbeside
  unfold after
  rw [play_alike (hconfig ▸ hstep) halike hlater]

theorem play_feed {s : SmitDecoding α}
    (hstop : (turn s.buffer : Option (List (Callback α) × Nat)) = none)
    {chunks : List (List UInt8)} (hchunks : ∀ chunk ∈ chunks, chunk.length ≤ 7953)
    {callbacks : List (Callback α)} {rest : List UInt8}
    (h : Drains turn (s.buffer ++ chunks.flatten) callbacks rest) :
    play smitLidarDriver.feed s chunks =
      ((play handle s.handling callbacks).1, ⟨rest, (play handle s.handling callbacks).2⟩) := by
  induction chunks generalizing s callbacks with
  | nil =>
    rw [List.flatten_nil, List.append_nil] at h
    obtain ⟨rfl, rfl⟩ := h.unique (Drains.stop hstop)
    rfl
  | cons chunk chunks ih =>
    obtain ⟨hchunk, hrest⟩ := List.forall_mem_cons.mp hchunks
    have hshort := length_of_stop hstop
    obtain hfull | ⟨first, left, hfeed, hdrains⟩ := feed_cases (α := α) s.buffer chunk
    · rw [List.length_append] at hfull
      omega
    · have hnext : turn left = none := hdrains.stopped
      obtain ⟨more, last, -, hmore⟩ := feedAll_drains (α := α) hnext hrest
      have hall := turn_stable.drains_append hdrains hmore
      rw [List.append_assoc, ← List.flatten_cons] at hall
      obtain ⟨rfl, rfl⟩ := h.unique hall
      have htail := ih (s := ⟨left, (play handle s.handling first).2⟩) hnext hrest hmore
      rw [play_cons, feed_some hfeed, htail, play_append]

theorem singles_small (bytes : List UInt8) : ∀ chunk ∈ singles bytes, chunk.length ≤ 7953 :=
  fun chunk hc => Nat.le_trans (singles_fit Nat.one_ne_zero bytes chunk hc).2 (by decide)

theorem after_singles {d : SmitLidarDriver α} {events : List (SmitEvent α)}
    (hd : Kept d.config d.device events) {o : Action (SmitLidarConfig α)} (ho : Opens d o)
    (hsize : (step smitLidarDriver d o).2.config.readChunkSize ≠ 0) {bytes rest : List UInt8}
    {callbacks : List (Callback α)} (h : Drains turn (d.device.buffer ++ bytes) callbacks rest) :
    after smitLidarDriver d o (reads (singles bytes)) =
      (play handle (opening smitLidarDriver d.device o).handling callbacks).1 := by
  obtain ⟨hbuffer, -⟩ := opening_tracks hd ho
  rw [after_reads ho (singles_fit hsize bytes), play_feed (hbuffer ▸ hd.stopped) (singles_small bytes)
    (by rw [hbuffer, flatten_singles]; exact h)]

theorem interrupted_feed {port : SmitLidarConfig α} (hsize : port.readChunkSize ≠ 0)
    {bytes rest : List UInt8} {callbacks : List (Callback α)}
    (h : Drains turn bytes callbacks rest) :
    History smitLidarDriver initial
        (play handle (smitLidarDriver.opened (smitLidarDriver.setup port
          (smitLidarDriver.cleaned (initial port)))).handling callbacks).1
        (interrupted smitLidarDriver initial port bytes) ∧
      (interrupted smitLidarDriver initial port bytes).device.buffer = rest := by
  have hplay := play_feed (s := smitLidarDriver.opened (smitLidarDriver.setup port
    (smitLidarDriver.cleaned (initial port)))) turn_nil (singles_small bytes)
    (by rw [flatten_singles]; exact h)
  have hroom : bytes = [] ∨ smitLidarDriver.readChunkSize port ≠ 0 := Or.inr hsize
  have hhistory := interrupted_history initial hroom
  have hdevice := interrupted_eq initial hroom
  rw [hplay] at hhistory hdevice
  exact ⟨hhistory, by rw [hdevice]⟩

theorem exists_clean {config : SmitLidarConfig α} {s : SmitDecoding α}
    {events : List (SmitEvent α)} (h : Kept config s events) {port : SmitLidarConfig α}
    (hsize : port.readChunkSize ≠ 0) :
    ∃ bytes events', History smitLidarDriver initial events'
        (interrupted smitLidarDriver initial port bytes) ∧
      lastConfig events' = lastConfig events ∧
      (interrupted smitLidarDriver initial port bytes).device.buffer = [] := by
  cases hlast : lastConfig events with
  | none =>
    obtain ⟨hhistory, hbuffer⟩ := interrupted_feed hsize (Drains.stop turn_nil)
    exact ⟨[], _, hhistory, rfl, hbuffer⟩
  | some c =>
    obtain ⟨payload, hpayload, hexpected⟩ := h.received c (lastConfig_mem hlast)
    have hone : ∀ p ∈ [payload], p.length + 4 ≤ 2048 := by
      rintro p hp
      obtain rfl := List.mem_singleton.mp hp
      exact hpayload
    have hdrains := drains_frames (α := α) hone
    rw [List.flatMap_singleton, List.filterMap_cons_some hexpected, List.filterMap_nil] at hdrains
    obtain ⟨hhistory, hbuffer⟩ := interrupted_feed hsize hdrains
    exact ⟨frame payload, _, hhistory, rfl, hbuffer⟩

/-- A driver that delivers what one with an empty buffer delivers has no start of a frame left:
it would take the first byte of a frame of the session. -/
theorem inert_of_after {d e : SmitLidarDriver α} {events events' : List (SmitEvent α)}
    (hd : Kept d.config d.device events) (he : Kept e.config e.device events')
    {o : Action (SmitLidarConfig α)} (ho : Opens d o) (ho' : Opens e o)
    (hconfig : (step smitLidarDriver e o).2.config = (step smitLidarDriver d o).2.config)
    (hempty : e.device.buffer = [])
    (hsize : (step smitLidarDriver d o).2.config.readChunkSize ≠ 0)
    (hall : ∀ later, (∀ a ∈ later, InSession a) →
      after smitLidarDriver d o later = after smitLidarDriver e o later) :
    Inert d.device.buffer := by
  by_contra hr
  obtain ⟨gap, hgap, out, hout⟩ := exists_swallow hd.stopped hr
  -- what the old frame delivers does not depend on the configuration of the new one
  have hnumber : ∀ number, number = 0 ∨ number = 1 →
      (play handle (opening smitLidarDriver d.device o).handling out).1 =
        [.config (configOf (numbered number))] := by
    intro number hn
    obtain ⟨tail, hframe, htail, hlength⟩ := frame_numbered hn
    obtain ⟨rest, hstale⟩ := hout tail htail hlength
    obtain ⟨rest', hclean⟩ := drains_numbered (α := α) hgap number List.not_mem_nil
    rw [← hframe] at hstale
    rw [List.append_nil] at hclean
    have hsize' : (step smitLidarDriver e o).2.config.readChunkSize ≠ 0 := hconfig ▸ hsize
    have hsession := hall (reads (singles (gap ++ frame (numbered number)))) (inSession_reads _)
    rw [after_singles hd ho hsize hstale,
      after_singles he ho' hsize' (by rw [hempty]; exact hclean)] at hsession
    exact hsession
  have hsame := (hnumber 0 (Or.inl rfl)).symm.trans (hnumber 1 (Or.inr rfl))
  have hsn := congrArg SmitConfigInfo.sn (SmitEvent.config.inj (List.cons.inj hsame).1)
  exact absurd (List.cons.inj hsn).1 (by decide)

theorem after_wait {d : SmitLidarDriver α} {events : List (SmitEvent α)}
    (hd : Kept d.config d.device events) {o : Action (SmitLidarConfig α)} (ho : Opens d o)
    {bytes chunk : List UInt8} (hne : chunk ≠ [])
    (hfits : chunk.length ≤ (step smitLidarDriver d o).2.config.readChunkSize)
    (h : (d.device.buffer ++ bytes).length ≤ 3) :
    after smitLidarDriver d o (reads (singles bytes ++ [chunk])) =
      (smitLidarDriver.feed ⟨d.device.buffer ++ bytes,
        (opening smitLidarDriver d.device o).handling⟩ chunk).1 := by
  obtain ⟨hbuffer, -⟩ := opening_tracks hd ho
  have hpos := List.length_pos_iff.mpr hne
  have hchunks : ∀ c ∈ singles bytes ++ [chunk],
      c ≠ [] ∧ c.length ≤ smitLidarDriver.readChunkSize (step smitLidarDriver d o).2.config := by
    intro c hc
    obtain hc | hc := List.mem_append.mp hc
    · exact singles_fit (Nat.ne_of_gt (Nat.lt_of_lt_of_le hpos hfits)) bytes c hc
    · obtain rfl := List.mem_singleton.mp hc
      exact ⟨hne, hfits⟩
  have hwait := play_feed (s := opening smitLidarDriver d.device o) (hbuffer ▸ hd.stopped)
    (singles_small bytes) (by
      rw [hbuffer, flatten_singles]
      exact Drains.stop (turn_short h))
  rw [after_reads ho hchunks, play_append, hwait, play_cons]
  exact List.append_nil _

theorem size_of_after {d e : SmitLidarDriver α} {events events' : List (SmitEvent α)}
    (hd : Kept d.config d.device events) (he : Kept e.config e.device events')
    {o : Action (SmitLidarConfig α)} (ho : Opens d o) (ho' : Opens e o)
    (hconfig : (step smitLidarDriver e o).2.config = (step smitLidarDriver d o).2.config)
    (hempty : e.device.buffer = []) (hne : d.device.buffer ≠ []) (hinert : Inert d.device.buffer)
    (hall : ∀ later, (∀ a ∈ later, InSession a) →
      after smitLidarDriver d o later = after smitLidarDriver e o later) :
    (step smitLidarDriver d o).2.config.readChunkSize ≤ 9997 := by
  by_contra hsize
  have hthree := length_of_inert hd.stopped hinert
  have hpos := List.length_pos_iff.mpr hne
  -- a few zeros bring the old buffer to three bytes, then one chunk is too much for it alone
  let zeros := List.replicate (3 - d.device.buffer.length) (0 : UInt8)
  let big := frame (numbered 0) ++ List.replicate 9961 0
  have hzeros : zeros.length = 3 - d.device.buffer.length := List.length_replicate
  have hbig : big.length = 9998 := by
    rw [List.length_append, List.length_replicate]
    rfl
  have hfits : big.length ≤ (step smitLidarDriver d o).2.config.readChunkSize :=
    hbig ▸ Nat.lt_of_not_le hsize
  have hsome : big ≠ [] := List.ne_nil_of_length_pos (hbig ▸ Nat.succ_pos 9997)
  have hstale : after smitLidarDriver d o (reads (singles zeros ++ [big])) = [] := by
    have hlength : (d.device.buffer ++ zeros).length = 3 := by
      rw [List.length_append, hzeros]
      omega
    have hfull : 10000 < (d.device.buffer ++ zeros ++ big).length := by
      rw [List.length_append, hlength, hbig]
      decide
    rw [after_wait hd ho hsome hfits (Nat.le_of_eq hlength),
      feed_some (feed_overfull hfull), play_nil]
  have hclean : after smitLidarDriver e o (reads (singles zeros ++ [big])) =
      [.config (configOf (numbered 0))] := by
    have hlength : (e.device.buffer ++ zeros).length ≤ 3 := by
      rw [hempty, List.nil_append, hzeros]
      omega
    have hroom : (e.device.buffer ++ zeros ++ big).length ≤ 10000 := by
      rw [hempty, List.nil_append, List.length_append, hzeros, hbig]
      omega
    have hquiet : ∀ n, kSof1 ∉ List.replicate n (0 : UInt8) := fun n hm =>
      absurd (List.eq_of_mem_replicate hm) (by decide)
    obtain ⟨rest, hdrains⟩ := drains_numbered (α := α) (hquiet _) 0 (hquiet 9961)
    have hfeed : feed (e.device.buffer ++ zeros) big =
        some ([Callback.config (configOf (numbered 0) : SmitConfigInfo α)], rest) := by
      refine (feed_room hroom _ _).mpr ?_
      rw [hempty, List.nil_append]
      exact hdrains
    rw [after_wait he ho' hsome (hconfig ▸ hfits) hlength, feed_some hfeed,
      play_handle_config]
  have hsession := hall (reads (singles zeros ++ [big])) (inSession_reads _)
  rw [hstale, hclean] at hsession
  exact List.cons_ne_nil _ _ hsession.symm

/-- Two drivers that have read the same configuration packet, and whose buffers begin no frame,
deliver the same in a session. -/
theorem after_agree {d e : SmitLidarDriver α} {events events' : List (SmitEvent α)}
    (hd : History smitLidarDriver initial events d) (he : History smitLidarDriver initial events' e)
    {o : Action (SmitLidarConfig α)} (ho : Opens d o) (ho' : Opens e o)
    (hconfig : (step smitLidarDriver e o).2.config = (step smitLidarDriver d o).2.config)
    (hlast : lastConfig events' = lastConfig events)
    (hinert : d.device.buffer = [] ∨
      Inert d.device.buffer ∧ (step smitLidarDriver d o).2.config.readChunkSize ≤ 9997)
    (hinert' : e.device.buffer = [] ∨
      Inert e.device.buffer ∧ (step smitLidarDriver e o).2.config.readChunkSize ≤ 9997)
    {later : List (Action (SmitLidarConfig α))} (hlater : ∀ a ∈ later, InSession a) :
    after smitLidarDriver d o later = after smitLidarDriver e o later := by
  by_cases hsize : (step smitLidarDriver d o).2.config.readChunkSize = 0
  · have hsize' : smitLidarDriver.readChunkSize (step smitLidarDriver e o).2.config = 0 := by
      rw [hconfig]
      exact hsize
    rw [after_mute hsize' hlater]
    exact after_mute hsize hlater
  · -- both are beside a driver that has an empty buffer
    obtain ⟨bytes, events'', hf, hsame, hempty⟩ := exists_clean (History.kept hd) hsize
    have hroom : bytes = [] ∨ smitLidarDriver.readChunkSize (step smitLidarDriver d o).2.config ≠ 0 :=
      Or.inr hsize
    obtain ⟨hfo, hfconfig⟩ := interrupted_opens initial ho hroom
    rw [after_beside (History.kept hd) (History.kept hf) ho hfo hfconfig hsame hempty hinert hlater,
      after_beside (History.kept he) (History.kept hf) ho' hfo (hfconfig.trans hconfig.symm)
        (hsame.trans hlast.symm) hempty hinert' hlater]

/-- A session delivers the same as that of any driver with an empty buffer and the same
configuration packet exactly when the old buffer is empty, or holds no start of a frame and the
chunks are not so large that its few bytes count, or nothing can be read. -/
theorem after_iff {d : SmitLidarDriver α} {events : List (SmitEvent α)}
    (hd : History smitLidarDriver initial events d) {o : Action (SmitLidarConfig α)}
    (ho : Opens d o) :
    (∀ e events', History smitLidarDriver initial events' e → Opens e o → e.device.buffer = [] →
      lastConfig events' = lastConfig events →
      (step smitLidarDriver e o).2.config = (step smitLidarDriver d o).2.config →
      ∀ later, (∀ a ∈ later, InSession a) →
        after smitLidarDriver d o later = after smitLidarDriver e o later) ↔
      (step smitLidarDriver d o).2.config.readChunkSize = 0 ∨ d.device.buffer = [] ∨
        Inert d.device.buffer ∧ (step smitLidarDriver d o).2.config.readChunkSize ≤ 9997 := by
  have hkept := History.kept hd
  constructor
  · intro hall
    refine or_iff_not_imp_left.mpr fun hsize => or_iff_not_imp_left.mpr fun hne => ?_
    obtain ⟨bytes, events', he, hlast, hempty⟩ := exists_clean hkept hsize
    have hroom : bytes = [] ∨ smitLidarDriver.readChunkSize (step smitLidarDriver d o).2.config ≠ 0 :=
      Or.inr hsize
    obtain ⟨heo, hconfig⟩ := interrupted_opens initial ho hroom
    have hafter := hall _ events' he heo hempty hlast hconfig
    have hinert := inert_of_after hkept (History.kept he) ho heo hconfig hempty hsize hafter
    exact ⟨hinert, size_of_after hkept (History.kept he) ho heo hconfig hempty hne hinert hafter⟩
  · intro hcond e events' he heo hempty hlast hconfig later hlater
    obtain hsize | hcond := hcond
    · have hsize' : smitLidarDriver.readChunkSize (step smitLidarDriver e o).2.config = 0 := by
        rw [hconfig]
        exact hsize
      rw [after_mute hsize' hlater]
      exact after_mute hsize hlater
    · exact after_beside hkept (History.kept he) ho heo hconfig hlast hempty hcond hlater

def window : SmitLidarConfig ℚ := ⟨-90, 90, 1024⟩

def cutOff (left : List UInt8) : SmitLidarDriver ℚ :=
  interrupted smitLidarDriver initial window (frame (numbered 0) ++ left)

theorem cutOff_history {left : List UInt8}
    (h : (turn left : Option (List (Callback ℚ) × Nat)) = none) :
    History smitLidarDriver initial [.config (configOf (numbered 0))] (cutOff left) ∧
      (cutOff left).device.buffer = left ∧ Opens (cutOff left) (.reopen none) ∧
      (step smitLidarDriver (cutOff left) (.reopen none)).2.config = window := by
  have hsize : window.readChunkSize ≠ 0 := by decide
  have hframe : (numbered 0).length + 4 ≤ 2048 := by decide
  have hnext := Drains.next (turn_frame (α := ℚ) hframe left)
    (by rw [List.drop_left]; exact Drains.stop h)
  rw [expected_numbered] at hnext
  obtain ⟨hhistory, hbuffer⟩ := interrupted_feed hsize hnext
  have hroom : frame (numbered 0) ++ left = [] ∨ smitLidarDriver.readChunkSize window ≠ 0 :=
    Or.inr hsize
  obtain ⟨hopens, hconfig⟩ := interrupted_reopens initial hroom
  exact ⟨hhistory, hbuffer, hopens, hconfig⟩

theorem turn_torn : (turn [kSof1, kSof2, 0, 1] : Option (List (Callback ℚ) × Nat)) = none :=
  turn_header (by decide) (by decide)

theorem after_iff_torn :
    (∀ e events', History smitLidarDriver initial events' e → Opens e (.reopen none) →
      e.device.buffer = [] →
      lastConfig events' = lastConfig [.config (configOf (numbered 0) : SmitConfigInfo ℚ)] →
      (step smitLidarDriver e (.reopen none)).2.config =
        (step smitLidarDriver (cutOff [kSof1, kSof2, 0, 1]) (.reopen none)).2.config →
      ∀ later, (∀ a ∈ later, InSession a) →
        after smitLidarDriver (cutOff [kSof1, kSof2, 0, 1]) (.reopen none) later =
          after smitLidarDriver e (.reopen none) later) ↔
      (step smitLidarDriver (cutOff [kSof1, kSof2, 0, 1]) (.reopen none)).2.config.readChunkSize = 0 ∨
        (cutOff [kSof1, kSof2, 0, 1]).device.buffer = [] ∨
        Inert (cutOff [kSof1, kSof2, 0, 1]).device.buffer ∧
          (step smitLidarDriver (cutOff [kSof1, kSof2, 0, 1])
            (.reopen none)).2.config.readChunkSize ≤ 9997 :=
  after_iff (cutOff_history turn_torn).1 (cutOff_history turn_torn).2.2.1

theorem drains_torn : ∃ rest,
    Drains turn ([kSof1, kSof2, 0, 1] ++ frame (numbered 1)) ([] : List (Callback ℚ)) rest := by
  obtain ⟨tail, hframe, htail, -⟩ := frame_numbered (Or.inr (rfl : (1 : UInt8) = 1))
  obtain ⟨rest, hrest⟩ := drains_quiet (α := ℚ) htail
  have hold : frame [kSof1] = kSof1 :: kSof2 :: 0 :: 1 :: [kSof1] := frame_eq rfl
  have hone : [kSof1].length + 4 ≤ 2048 := by decide
  have hnone : (expected [kSof1] : Option (Callback ℚ)) = none := by
    rw [← processFrame_expected]
    rfl
  have hnext := Drains.next (turn_frame (α := ℚ) hone tail) (by rw [List.drop_left]; exact hrest)
  rw [hnone, hold] at hnext
  rw [hframe]
  exact ⟨rest, hnext⟩

/-- The header of a frame before the fault, and the configuration behind it is lost. -/
theorem after_swallowed :
    ¬∀ (d e : SmitLidarDriver ℚ) (events events' : List (SmitEvent ℚ))
      (o : Action (SmitLidarConfig ℚ)),
      History smitLidarDriver initial events d → History smitLidarDriver initial events' e →
      lastConfig events ≠ none → lastConfig events' = lastConfig events →
      Opens d o → Opens e o →
      (step smitLidarDriver e o).2.config = (step smitLidarDriver d o).2.config →
      ∀ later, (∀ a ∈ later, InSession a) →
        after smitLidarDriver d o later = after smitLidarDriver e o later := by
  intro hall
  obtain ⟨hd, hbuffer, ho, hconfig⟩ := cutOff_history turn_torn
  obtain ⟨he, hempty, ho', hconfig'⟩ := cutOff_history (turn_nil (α := ℚ))
  have hsession := hall _ _ _ _ (.reopen none) hd he (Option.some_ne_none _) rfl ho ho'
    (hconfig'.trans hconfig.symm) (reads (singles (frame (numbered 1)))) (inSession_reads _)
  have hsize : window.readChunkSize ≠ 0 := by decide
  obtain ⟨rest, hstale⟩ := drains_torn
  obtain ⟨rest', hclean⟩ := drains_numbered (α := ℚ) (List.not_mem_nil (a := kSof1)) 1
    List.not_mem_nil
  rw [List.nil_append, List.append_nil] at hclean
  rw [after_singles (History.kept hd) ho (by rw [hconfig]; exact hsize) (by rw [hbuffer]; exact hstale),
    after_singles (History.kept he) ho' (by rw [hconfig']; exact hsize)
      (by rw [hempty]; exact hclean), play_nil, play_handle_config] at hsession
  exact List.cons_ne_nil _ _ hsession.symm

end DeviceManager.SmitSessions
