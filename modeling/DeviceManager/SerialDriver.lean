import DeviceManager.Lockstep

namespace DeviceManager.SerialDriver

open Lockstep

variable {κ δ ε : Type}

/-- What the drivers on a serial port do differently: the size of a read, what `configure`
does before and after it opens the port, what `cleanup` and a port that is open again do to the
decoder, and the bytes that are fed to it. -/
structure Device (κ δ ε : Type) where
  readChunkSize : κ → Nat
  setup : κ → δ → δ
  opened : δ → δ
  cleaned : δ → δ
  reopened : δ → δ
  feed : δ → List UInt8 → List ε × δ

/-- The driver: `transport` is nothing without a transport, else whether the port is open. -/
structure Driver (κ δ : Type) where
  config : κ
  device : δ
  running : Bool
  transport : Option Bool
  configured : Bool
  connected : Bool
  lastError : String

inductive Event (ε : Type) where
  | device (e : ε)
  | connection (connected : Bool) (message : String)

/-- The calls and what the port does: `result` is the error of `open`, `elapsed` whether the
data timeout has passed since the last frame. -/
inductive Action (κ : Type) where
  | configure (config : κ) (result : Option String)
  | cleanup
  | start
  | stop
  | reopen (result : Option String)
  | read (result : Except String (List UInt8)) (elapsed : Bool)

def Driver.create (config : κ) (device : δ) : Driver κ δ :=
  ⟨config, device, false, none, false, false, ""⟩

variable (dev : Device κ δ ε)

def cleanup (d : Driver κ δ) : Driver κ δ :=
  { d with running := false, transport := none, configured := false, connected := false
           device := dev.cleaned d.device }

def configure (d : Driver κ δ) (config : κ) (result : Option String) : Driver κ δ :=
  let d := cleanup dev d
  let d := { d with config, device := dev.setup config d.device }
  match result with
  | some message => { d with configured := false, connected := false, lastError := message }
  | none =>
    { d with transport := some true, configured := true, connected := true, lastError := ""
             device := dev.opened d.device }

def handleFault (d : Driver κ δ) (message : String) : List (Event ε) × Driver κ δ :=
  (if d.connected then [.connection false message] else [],
    { d with transport := some false, connected := false, lastError := message })

def reopen (d : Driver κ δ) (result : Option String) : List (Event ε) × Driver κ δ :=
  if d.running ∧ d.transport = some false then
    match result with
    | none =>
      ([.connection true "串口已恢复连接"],
        { d with transport := some true, connected := true, lastError := ""
                 device := dev.reopened d.device })
    | some message => ([], { d with lastError := message })
  else ([], d)

/-- The end of a turn of the read loop, with what the decoder made of the bytes. -/
def handleFed (d : Driver κ δ) (fed : List ε × δ) (elapsed : Bool) :
    List (Event ε) × Driver κ δ :=
  let d := { d with device := fed.2 }
  if d.connected && elapsed then
    let fault := handleFault d "串口数据停滞超时"
    (fed.1.map .device ++ fault.1, fault.2)
  else (fed.1.map .device, d)

def read (d : Driver κ δ) (result : Except String (List UInt8)) (elapsed : Bool) :
    List (Event ε) × Driver κ δ :=
  if d.running ∧ d.transport = some true then
    match result with
    | .error message => handleFault d ("读取串口失败: " ++ message)
    | .ok chunk =>
      if dev.readChunkSize d.config < chunk.length then ([], d)
      else if chunk.isEmpty then handleFed d ([], d.device) elapsed
      else handleFed d (dev.feed d.device chunk) elapsed
  else ([], d)

def step (d : Driver κ δ) : Action κ → List (Event ε) × Driver κ δ
  | .configure config result => ([], configure dev d config result)
  | .cleanup => ([], cleanup dev d)
  | .start => ([], { d with running := true })
  | .stop => ([], { d with running := false })
  | .reopen result => reopen dev d result
  | .read result elapsed => read dev d result elapsed

def delivered (events : List (Event ε)) : List ε :=
  events.filterMap fun
    | .device e => some e
    | .connection _ _ => none

def Reachable (initial : κ → δ) (d : Driver κ δ) : Prop :=
  ∃ config actions, d = (play (step dev) (.create config (initial config)) actions).2

def History (initial : κ → δ) (events : List ε) (d : Driver κ δ) : Prop :=
  ∃ config actions, d = (play (step dev) (.create config (initial config)) actions).2 ∧
    events = delivered (play (step dev) (.create config (initial config)) actions).1

/-- The port is opened: by `configure`, or by the read loop. -/
def Opens (d : Driver κ δ) : Action κ → Prop
  | .configure _ result => result = none
  | .reopen result => result = none ∧ d.running = true ∧ d.transport = some false
  | _ => False

/-- What may come before the driver is configured anew. -/
def InSession : Action κ → Prop
  | .configure _ _ | .cleanup => False
  | _ => True

/-- What is delivered from the bytes that are read after the port has been opened. -/
def after (d : Driver κ δ) (o : Action κ) (later : List (Action κ)) : List ε :=
  delivered (play (step dev) (step dev d o).2 later).1

variable {dev}

theorem delivered_append (events more : List (Event ε)) :
    delivered (events ++ more) = delivered events ++ delivered more := List.filterMap_append

theorem delivered_device (es : List ε) : delivered (es.map .device) = es := by
  induction es with
  | nil => rfl
  | cons e es ih => exact congrArg (e :: ·) ih

theorem delivered_fault (d : Driver κ δ) (message : String) :
    delivered (handleFault (ε := ε) d message).1 = [] := by
  unfold handleFault
  simp only
  split_ifs <;> rfl

theorem handleFed_eq (d : Driver κ δ) (fed : List ε × δ) (elapsed : Bool) :
    delivered (handleFed d fed elapsed).1 = fed.1 ∧ (handleFed d fed elapsed).2.config = d.config ∧
      (handleFed d fed elapsed).2.device = fed.2 := by
  unfold handleFed
  by_cases hstall : (d.connected && elapsed) = true
  · simp only
    rw [if_pos hstall, delivered_append, delivered_device, delivered_fault, List.append_nil]
    exact ⟨rfl, rfl, rfl⟩
  · simp only
    rw [if_neg hstall, delivered_device]
    exact ⟨rfl, rfl, rfl⟩

/-- A turn with an open port keeps the decoder or feeds it, and delivers what comes of it. -/
theorem read_cases (dev : Device κ δ ε) (d : Driver κ δ) (result : Except String (List UInt8))
    (elapsed : Bool) :
    (read dev d result elapsed).2.config = d.config ∧
      ((read dev d result elapsed).2.device = d.device ∧
          delivered (read dev d result elapsed).1 = [] ∨
        ∃ chunk, chunk ≠ [] ∧ chunk.length ≤ dev.readChunkSize d.config ∧
          (read dev d result elapsed).2.device = (dev.feed d.device chunk).2 ∧
          delivered (read dev d result elapsed).1 = (dev.feed d.device chunk).1) := by
  unfold read
  by_cases hopen : d.running ∧ d.transport = some true
  · rw [if_pos hopen]
    cases result with
    | error message => exact ⟨rfl, Or.inl ⟨rfl, delivered_fault d _⟩⟩
    | ok chunk =>
      simp only
      by_cases hfits : dev.readChunkSize d.config < chunk.length
      · rw [if_pos hfits]
        exact ⟨rfl, Or.inl ⟨rfl, rfl⟩⟩
      · rw [if_neg hfits]
        cases chunk with
        | nil =>
          obtain ⟨hout, hconfig, hdevice⟩ := handleFed_eq d ([], d.device) elapsed
          exact ⟨hconfig, Or.inl ⟨hdevice, hout⟩⟩
        | cons b chunk =>
          obtain ⟨hout, hconfig, hdevice⟩ := handleFed_eq d (dev.feed d.device (b :: chunk)) elapsed
          exact ⟨hconfig, Or.inr ⟨_, List.cons_ne_nil b chunk, Nat.not_lt.mp hfits, hdevice, hout⟩⟩
  · rw [if_neg hopen]
    exact ⟨rfl, Or.inl ⟨rfl, rfl⟩⟩

theorem reopen_cases (dev : Device κ δ ε) (d : Driver κ δ) (result : Option String) :
    (reopen dev d result).2.config = d.config ∧ delivered (reopen dev d result).1 = [] ∧
      ((reopen dev d result).2.device = d.device ∨
        (reopen dev d result).2.device = dev.reopened d.device) := by
  unfold reopen
  by_cases hclosed : d.running ∧ d.transport = some false
  · rw [if_pos hclosed]
    cases result with
    | none => exact ⟨rfl, rfl, Or.inr rfl⟩
    | some message => exact ⟨rfl, rfl, Or.inl rfl⟩
  · rw [if_neg hclosed]
    exact ⟨rfl, rfl, Or.inl rfl⟩

theorem History.invariant {initial : κ → δ} {events : List ε} {d : Driver κ δ}
    (h : History dev initial events d) {P : κ → δ → List ε → Prop}
    (hinitial : ∀ config, P config (initial config) [])
    (hsetup : ∀ config config' s out, P config s out → P config' (dev.setup config' s) out)
    (hopened : ∀ config s out, P config s out → P config (dev.opened s) out)
    (hcleaned : ∀ config s out, P config s out → P config (dev.cleaned s) out)
    (hreopened : ∀ config s out, P config s out → P config (dev.reopened s) out)
    (hfeed : ∀ config s out chunk, P config s out →
      P config (dev.feed s chunk).2 (out ++ (dev.feed s chunk).1)) :
    P d.config d.device events := by
  obtain ⟨config, actions, rfl, rfl⟩ := h
  refine play_invariant (P := fun (d : Driver κ δ) out => P d.config d.device (delivered out))
    (fun d out hd a _ => ?_) [] (hinitial config)
  rw [delivered_append]
  cases a with
  | configure config result =>
    rw [show delivered (step dev d (.configure config result)).1 = [] from rfl, List.append_nil]
    cases result with
    | none => exact hopened _ _ _ (hsetup _ _ _ _ (hcleaned _ _ _ hd))
    | some message => exact hsetup _ _ _ _ (hcleaned _ _ _ hd)
  | cleanup =>
    rw [show delivered (step dev d .cleanup).1 = [] from rfl, List.append_nil]
    exact hcleaned _ _ _ hd
  | start =>
    rw [show delivered (step dev d .start).1 = [] from rfl, List.append_nil]
    exact hd
  | stop =>
    rw [show delivered (step dev d .stop).1 = [] from rfl, List.append_nil]
    exact hd
  | reopen result =>
    show P (reopen dev d result).2.config (reopen dev d result).2.device
      (delivered out ++ delivered (reopen dev d result).1)
    obtain ⟨hconfig, hout, hdevice | hdevice⟩ := reopen_cases dev d result
    · rw [hconfig, hout, hdevice, List.append_nil]
      exact hd
    · rw [hconfig, hout, hdevice, List.append_nil]
      exact hreopened _ _ _ hd
  | read result elapsed =>
    show P (read dev d result elapsed).2.config (read dev d result elapsed).2.device
      (delivered out ++ delivered (read dev d result elapsed).1)
    obtain ⟨hconfig, ⟨hdevice, hout⟩ | ⟨chunk, -, -, hdevice, hout⟩⟩ :=
      read_cases dev d result elapsed
    · rw [hconfig, hout, hdevice, List.append_nil]
      exact hd
    · rw [hconfig, hout, hdevice]
      exact hfeed _ _ _ chunk hd

theorem Reachable.invariant {initial : κ → δ} {d : Driver κ δ} (h : Reachable dev initial d)
    {P : κ → δ → Prop} (hinitial : ∀ config, P config (initial config))
    (hsetup : ∀ config config' s, P config s → P config' (dev.setup config' s))
    (hopened : ∀ config s, P config s → P config (dev.opened s))
    (hcleaned : ∀ config s, P config s → P config (dev.cleaned s))
    (hreopened : ∀ config s, P config s → P config (dev.reopened s))
    (hfeed : ∀ config s chunk, P config s → P config (dev.feed s chunk).2) :
    P d.config d.device := by
  obtain ⟨config, actions, hd⟩ := h
  exact History.invariant (P := fun config s _ => P config s) ⟨config, actions, hd, rfl⟩ hinitial
    (fun _ _ _ _ => hsetup _ _ _) (fun _ _ _ => hopened _ _) (fun _ _ _ => hcleaned _ _)
    (fun _ _ _ => hreopened _ _) fun _ _ _ chunk => hfeed _ _ chunk

/-- Two drivers that differ only in their decoders, and in what `snapshot` reports. -/
structure Alike (R : δ → δ → Prop) (d e : Driver κ δ) : Prop where
  config : d.config = e.config
  device : R d.device e.device
  running : d.running = e.running
  transport : d.transport = e.transport
  connected : d.connected = e.connected

/-- What a session with reads of this size needs of the decoders to look the same from outside. -/
structure Lockstep (dev : Device κ δ ε) (size : Nat) (R : δ → δ → Prop) : Prop where
  reopened : ∀ s t, R s t → R (dev.reopened s) (dev.reopened t)
  feed : ∀ s t chunk, R s t → chunk.length ≤ size →
    (dev.feed s chunk).1 = (dev.feed t chunk).1 ∧ R (dev.feed s chunk).2 (dev.feed t chunk).2

theorem handleFault_alike {R : δ → δ → Prop} {d e : Driver κ δ} (h : Alike R d e)
    (message : String) :
    (handleFault (ε := ε) d message).1 = (handleFault e message).1 ∧
      Alike R (handleFault (ε := ε) d message).2 (handleFault (ε := ε) e message).2 := by
  unfold handleFault
  rw [h.connected]
  exact ⟨rfl, h.config, h.device, h.running, rfl, rfl⟩

theorem reopen_alike {size : Nat} {R : δ → δ → Prop} (hr : Lockstep dev size R) {d e : Driver κ δ}
    (h : Alike R d e) (result : Option String) :
    (reopen dev d result).1 = (reopen dev e result).1 ∧
      Alike R (reopen dev d result).2 (reopen dev e result).2 := by
  have hiff : d.running ∧ d.transport = some false ↔ e.running ∧ e.transport = some false := by
    rw [h.running, h.transport]
  unfold reopen
  by_cases hclosed : d.running ∧ d.transport = some false
  · rw [if_pos hclosed, if_pos (hiff.mp hclosed)]
    cases result with
    | none => exact ⟨rfl, h.config, hr.reopened _ _ h.device, h.running, rfl, rfl⟩
    | some message => exact ⟨rfl, h.config, h.device, h.running, h.transport, h.connected⟩
  · rw [if_neg hclosed, if_neg (mt hiff.mpr hclosed)]
    exact ⟨rfl, h⟩

theorem fed_alike {R : δ → δ → Prop} {d e : Driver κ δ} (h : Alike R d e) (fed fed' : List ε × δ)
    (hevents : fed.1 = fed'.1) (hdevice : R fed.2 fed'.2) (elapsed : Bool) :
    (handleFed d fed elapsed).1 = (handleFed e fed' elapsed).1 ∧
      Alike R (handleFed d fed elapsed).2 (handleFed e fed' elapsed).2 := by
  have hnext : Alike R { d with device := fed.2 } { e with device := fed'.2 } :=
    ⟨h.config, hdevice, h.running, h.transport, h.connected⟩
  have hiff : (d.connected && elapsed) = (e.connected && elapsed) := by rw [h.connected]
  unfold handleFed
  simp only
  by_cases hstall : (d.connected && elapsed) = true
  · obtain ⟨hmore, hfault⟩ := handleFault_alike (ε := ε) hnext "串口数据停滞超时"
    rw [if_pos hstall, if_pos (hiff ▸ hstall)]
    exact ⟨congrArg₂ (· ++ ·) (congrArg (List.map Event.device) hevents) hmore, hfault⟩
  · rw [if_neg hstall, if_neg (hiff ▸ hstall)]
    exact ⟨congrArg (List.map Event.device) hevents, hnext⟩

theorem read_alike {R : δ → δ → Prop} {d e : Driver κ δ}
    (hr : Lockstep dev (dev.readChunkSize e.config) R) (h : Alike R d e)
    (result : Except String (List UInt8)) (elapsed : Bool) :
    (read dev d result elapsed).1 = (read dev e result elapsed).1 ∧
      Alike R (read dev d result elapsed).2 (read dev e result elapsed).2 := by
  have hiff : d.running ∧ d.transport = some true ↔ e.running ∧ e.transport = some true := by
    rw [h.running, h.transport]
  unfold read
  by_cases hopen : d.running ∧ d.transport = some true
  · rw [if_pos hopen, if_pos (hiff.mp hopen)]
    cases result with
    | error message => exact handleFault_alike h _
    | ok chunk =>
      rw [h.config]
      simp only
      split_ifs with hfits
      · exact ⟨rfl, h⟩
      · exact fed_alike h ([], d.device) ([], e.device) rfl h.device elapsed
      · obtain ⟨hevents, hdevice⟩ := hr.feed _ _ chunk h.device (Nat.not_lt.mp hfits)
        exact fed_alike h _ _ hevents hdevice elapsed
  · rw [if_neg hopen, if_neg (mt hiff.mpr hopen)]
    exact ⟨rfl, h⟩

theorem step_config (d : Driver κ δ) {a : Action κ} (ha : InSession a) :
    (step dev d a).2.config = d.config := by
  cases a with
  | configure | cleanup => exact ha.elim
  | start | stop => rfl
  | reopen result => exact (reopen_cases dev d result).1
  | read result elapsed => exact (read_cases dev d result elapsed).1

/-- Related decoders look the same from outside, through every session. -/
theorem play_alike {R : δ → δ → Prop} {d e : Driver κ δ}
    (hr : Lockstep dev (dev.readChunkSize e.config) R) (h : Alike R d e)
    {later : List (Action κ)} (hlater : ∀ a ∈ later, InSession a) :
    (play (step dev) d later).1 = (play (step dev) e later).1 := by
  refine (play_related (R := fun d e' => Alike R d e' ∧ e'.config = e.config)
    (fun d e' ⟨h, hconfig⟩ a ha => ?_) ⟨h, rfl⟩).1
  have hkept : (step dev e' a).2.config = e'.config := step_config e' (hlater a ha)
  have halike : (step dev d a).1 = (step dev e' a).1 ∧ Alike R (step dev d a).2 (step dev e' a).2 := by
    cases a with
    | configure | cleanup => exact (hlater _ ha).elim
    | start | stop => exact ⟨rfl, h.config, h.device, rfl, h.transport, h.connected⟩
    | reopen result => exact reopen_alike hr h result
    | read result elapsed => exact read_alike (hconfig ▸ hr) h result elapsed
  exact ⟨halike.1, halike.2, hkept.trans hconfig⟩

def opening (dev : Device κ δ ε) (s : δ) : Action κ → δ
  | .configure config _ => dev.opened (dev.setup config (dev.cleaned s))
  | .reopen _ => dev.reopened s
  | _ => s

theorem step_opens (dev : Device κ δ ε) {d : Driver κ δ} {o : Action κ} (h : Opens d o) :
    (step dev d o).2.transport = some true ∧ (step dev d o).2.connected = true ∧
      (step dev d o).2.device = opening dev d.device o := by
  cases o with
  | configure config result =>
    obtain rfl : result = none := h
    exact ⟨rfl, rfl, rfl⟩
  | reopen result =>
    obtain ⟨rfl, hopen⟩ := h
    show (reopen dev d none).2.transport = _ ∧ (reopen dev d none).2.connected = _ ∧
      (reopen dev d none).2.device = _
    rw [reopen, if_pos hopen]
    exact ⟨rfl, rfl, rfl⟩
  | cleanup | start | stop | read => exact h.elim

theorem opens_alike {R : δ → δ → Prop} {d e : Driver κ δ} {o : Action κ} (h : Opens d o)
    (h' : Opens e o) (hconfig : (step dev d o).2.config = (step dev e o).2.config)
    (hdevice : R (opening dev d.device o) (opening dev e.device o)) :
    Alike R (step dev d o).2 (step dev e o).2 := by
  obtain ⟨htransport, hconnected, hd⟩ := step_opens dev h
  obtain ⟨htransport', hconnected', he⟩ := step_opens dev h'
  refine ⟨hconfig, ?_, ?_, by rw [htransport, htransport'], by rw [hconnected, hconnected']⟩
  · rwa [hd, he]
  · cases o with
    | configure config result =>
      obtain rfl : result = none := h
      rfl
    | reopen result =>
      obtain ⟨rfl, hrunning, hclosed⟩ := h
      obtain ⟨-, hrunning', hclosed'⟩ := h'
      show (reopen dev d none).2.running = (reopen dev e none).2.running
      rw [reopen, reopen, if_pos ⟨hrunning, hclosed⟩, if_pos ⟨hrunning', hclosed'⟩]
      exact hrunning.trans hrunning'.symm
    | cleanup | start | stop | read => exact h.elim

def reads (chunks : List (List UInt8)) : List (Action κ) :=
  .start :: chunks.map fun chunk => .read (.ok chunk) false

theorem inSession_reads (chunks : List (List UInt8)) : ∀ a ∈ (reads chunks : List (Action κ)),
    InSession a := by
  intro a ha
  obtain rfl | ha := List.mem_cons.mp ha
  · trivial
  · obtain ⟨chunk, -, rfl⟩ := List.mem_map.mp ha
    trivial

theorem play_reads {d : Driver κ δ} (h : d.transport = some true) {chunks : List (List UInt8)}
    (hchunks : ∀ chunk ∈ chunks, chunk ≠ [] ∧ chunk.length ≤ dev.readChunkSize d.config) :
    play (step dev) d (reads chunks) =
      ((play dev.feed d.device chunks).1.map .device,
        { d with running := true, device := (play dev.feed d.device chunks).2 }) := by
  -- the start of the loop, then one read after the other
  have hloop : ∀ s, play (step dev) { d with running := true, device := s }
      (chunks.map fun chunk => .read (.ok chunk) false) =
        ((play dev.feed s chunks).1.map .device,
          { d with running := true, device := (play dev.feed s chunks).2 }) := by
    induction chunks with
    | nil => exact fun s => rfl
    | cons chunk chunks ih =>
      intro s
      obtain ⟨⟨hne, hfits⟩, hrest⟩ := List.forall_mem_cons.mp hchunks
      have hempty : ¬chunk.isEmpty = true := by simpa using hne
      have hread : step dev { d with running := true, device := s } (.read (.ok chunk) false) =
          ((dev.feed s chunk).1.map .device,
            { d with running := true, device := (dev.feed s chunk).2 }) := by
        show read dev _ (.ok chunk) false = _
        unfold read handleFed
        rw [if_pos ⟨rfl, h⟩]
        simp only
        rw [if_neg (Nat.not_lt.mpr hfits), if_neg hempty, Bool.and_false]
        rfl
      rw [List.map_cons, play_cons, play_cons, hread, ih hrest, List.map_append]
  exact hloop d.device

theorem delivered_reads {d : Driver κ δ} (h : d.transport = some true) {chunks : List (List UInt8)}
    (hchunks : ∀ chunk ∈ chunks, chunk ≠ [] ∧ chunk.length ≤ dev.readChunkSize d.config) :
    delivered (play (step dev) d (reads chunks)).1 = (play dev.feed d.device chunks).1 := by
  rw [play_reads h hchunks, delivered_device]

theorem after_reads {d : Driver κ δ} {o : Action κ} (ho : Opens d o) {chunks : List (List UInt8)}
    (hchunks : ∀ chunk ∈ chunks,
      chunk ≠ [] ∧ chunk.length ≤ dev.readChunkSize (step dev d o).2.config) :
    after dev d o (reads chunks) = (play dev.feed (opening dev d.device o) chunks).1 := by
  obtain ⟨htransport, -, hdevice⟩ := step_opens dev ho
  rw [after, delivered_reads htransport hchunks, hdevice]

def singles (bytes : List UInt8) : List (List UInt8) := bytes.map fun b => [b]

theorem flatten_singles (bytes : List UInt8) : (singles bytes).flatten = bytes :=
  List.flatMap_singleton' bytes

theorem singles_fit {size : Nat} (h : size ≠ 0) (bytes : List UInt8) :
    ∀ chunk ∈ singles bytes, chunk ≠ [] ∧ chunk.length ≤ size := by
  intro chunk hc
  obtain ⟨b, -, rfl⟩ := List.mem_map.mp hc
  exact ⟨List.cons_ne_nil b [], Nat.pos_of_ne_zero h⟩

theorem singles_fit_or {size : Nat} {bytes : List UInt8} (h : bytes = [] ∨ size ≠ 0) :
    ∀ chunk ∈ singles bytes, chunk ≠ [] ∧ chunk.length ≤ size := by
  obtain rfl | hsize := h
  · exact fun chunk hc => by cases hc
  · exact singles_fit hsize bytes

theorem play_mute {d : Driver κ δ} (h : dev.readChunkSize d.config = 0) {later : List (Action κ)}
    (hlater : ∀ a ∈ later, InSession a) : delivered (play (step dev) d later).1 = [] := by
  have hstep : ∀ d : Driver κ δ, dev.readChunkSize d.config = 0 → ∀ a, InSession a →
      delivered (step dev d a).1 = [] := by
    intro d h a ha
    cases a with
    | configure | cleanup => exact ha.elim
    | start | stop => rfl
    | reopen result => exact (reopen_cases dev d result).2.1
    | read result elapsed =>
      obtain ⟨-, ⟨-, hout⟩ | ⟨chunk, hne, hfits, -, -⟩⟩ := read_cases dev d result elapsed
      · exact hout
      · rw [h] at hfits
        exact absurd (List.eq_nil_of_length_eq_zero (Nat.le_zero.mp hfits)) hne
  induction later generalizing d with
  | nil => rfl
  | cons a later ih =>
    obtain ⟨ha, hrest⟩ := List.forall_mem_cons.mp hlater
    rw [play_cons, delivered_append, hstep d h a ha, ih (by rw [step_config d ha]; exact h) hrest]
    rfl

theorem after_mute {d : Driver κ δ} {o : Action κ}
    (h : dev.readChunkSize (step dev d o).2.config = 0) {later : List (Action κ)}
    (hlater : ∀ a ∈ later, InSession a) : after dev d o later = [] := play_mute h hlater

def interrupted (dev : Device κ δ ε) (initial : κ → δ) (config : κ) (bytes : List UInt8) :
    Driver κ δ :=
  (play (step dev) (.create config (initial config))
    (.configure config none :: (reads (singles bytes) ++ [.read (.error "EIO") false]))).2

theorem interrupted_reachable (initial : κ → δ) (config : κ) (bytes : List UInt8) :
    Reachable dev initial (interrupted dev initial config bytes) := ⟨config, _, rfl⟩

theorem interrupted_eq (initial : κ → δ) {config : κ} {bytes : List UInt8}
    (h : bytes = [] ∨ dev.readChunkSize config ≠ 0) :
    interrupted dev initial config bytes =
      ⟨config, (play dev.feed (dev.opened (dev.setup config (dev.cleaned (initial config))))
        (singles bytes)).2, true, some false, true, false, "读取串口失败: EIO"⟩ := by
  have hfit := singles_fit_or h
  have hreads := play_reads (d := (step dev (.create config (initial config))
    (.configure config none)).2) rfl hfit
  unfold interrupted
  rw [play_cons, play_append, hreads]
  rfl

theorem interrupted_history (initial : κ → δ) {config : κ} {bytes : List UInt8}
    (h : bytes = [] ∨ dev.readChunkSize config ≠ 0) :
    History dev initial
      (play dev.feed (dev.opened (dev.setup config (dev.cleaned (initial config)))) (singles bytes)).1
      (interrupted dev initial config bytes) := by
  have hfit := singles_fit_or h
  refine ⟨config, _, rfl, ?_⟩
  have hreads := play_reads (d := (step dev (.create config (initial config))
    (.configure config none)).2) rfl hfit
  rw [play_cons, play_append, hreads, delivered_append, delivered_append, delivered_device]
  exact (List.append_nil _).symm

theorem interrupted_reopens (initial : κ → δ) {config : κ} {bytes : List UInt8}
    (h : bytes = [] ∨ dev.readChunkSize config ≠ 0) :
    Opens (interrupted dev initial config bytes) (.reopen none) ∧
      (step dev (interrupted dev initial config bytes) (.reopen none)).2.config = config := by
  rw [interrupted_eq initial h]
  exact ⟨⟨rfl, rfl, rfl⟩, rfl⟩

theorem interrupted_opens (initial : κ → δ) {d : Driver κ δ} {o : Action κ} (ho : Opens d o)
    {bytes : List UInt8}
    (h : bytes = [] ∨ dev.readChunkSize (step dev d o).2.config ≠ 0) :
    Opens (interrupted dev initial (step dev d o).2.config bytes) o ∧
      (step dev (interrupted dev initial (step dev d o).2.config bytes) o).2.config =
        (step dev d o).2.config := by
  rw [interrupted_eq initial h]
  cases o with
  | configure config result =>
    obtain rfl : result = none := ho
    exact ⟨rfl, rfl⟩
  | reopen result =>
    obtain ⟨rfl, -⟩ := ho
    exact ⟨⟨rfl, rfl, rfl⟩, rfl⟩
  | cleanup | start | stop | read => exact ho.elim

end DeviceManager.SerialDriver
