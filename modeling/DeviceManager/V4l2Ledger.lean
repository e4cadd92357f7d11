import DeviceManager.V4l2Capture

namespace DeviceManager.V4l2Ledger

open Fallible Triples FrameConversion V4l2Capture

variable (kernel : Kernel)

def opened : List Call → List Nat
  | [] => []
  | .openDevice path :: log =>
    match kernel.openDevice (.openDevice path :: log) with
    | .ok fd => fd :: opened log
    | .error _ => opened log
  | .closeDevice fd :: log => (opened log).erase fd
  | _ :: log => opened log

def mapped : List Call → List Plane
  | [] => []
  | .map fd length offset :: log =>
    match kernel.map (.map fd length offset :: log) with
    | .ok start => ⟨start, length⟩ :: mapped log
    | .error _ => mapped log
  | .unmap plane :: log => (mapped log).erase plane
  | _ :: log => mapped log

def Allowed (log : List Call) : Call → Prop
  | .openDevice _ => True
  | .unmap plane => plane ∈ mapped kernel log
  | .copy plane size => plane ∈ mapped kernel log ∧ size ≤ plane.length
  | .queryCap fd => fd ∈ opened kernel log
  | .setFormat fd _ _ _ _ => fd ∈ opened kernel log
  | .setParm fd _ _ => fd ∈ opened kernel log
  | .requestBuffers fd _ _ => fd ∈ opened kernel log
  | .queryBuffer fd _ _ => fd ∈ opened kernel log
  | .map fd _ _ => fd ∈ opened kernel log
  | .enqueue fd _ _ => fd ∈ opened kernel log
  | .streamOn fd _ => fd ∈ opened kernel log
  | .streamOff fd _ => fd ∈ opened kernel log
  | .closeDevice fd => fd ∈ opened kernel log
  | .poll fd _ => fd ∈ opened kernel log
  | .dequeue fd _ => fd ∈ opened kernel log

def Proper : List Call → Prop
  | [] => True
  | call :: log => Proper log ∧ Allowed kernel log call

structure Held (fd : Option Nat) (b : V4l2CaptureBackend) : Prop where
  fd_eq : b.fd = fd
  opened_eq : opened kernel b.log = fd.toList
  mapped_perm : (mapped kernel b.log).Perm b.buffers.flatten
  proper : Proper kernel b.log

inductive Plain (fd : Nat) : Call → Prop where
  | queryCap : Plain fd (.queryCap fd)
  | setFormat {type width height fourcc} : Plain fd (.setFormat fd type width height fourcc)
  | setParm {type fps} : Plain fd (.setParm fd type fps)
  | requestBuffers {type count} : Plain fd (.requestBuffers fd type count)
  | queryBuffer {type index} : Plain fd (.queryBuffer fd type index)
  | enqueue {type index} : Plain fd (.enqueue fd type index)
  | streamOn {type} : Plain fd (.streamOn fd type)
  | streamOff {type} : Plain fd (.streamOff fd type)
  | poll {timeoutMs} : Plain fd (.poll fd timeoutMs)
  | dequeue {type} : Plain fd (.dequeue fd type)

variable {kernel} {fd : Nat} {b : V4l2CaptureBackend}

theorem plain_opened {call : Call} (hplain : Plain fd call) (log : List Call) :
    opened kernel (call :: log) = opened kernel log := by
  cases hplain <;> rfl

theorem plain_mapped {call : Call} (hplain : Plain fd call) (log : List Call) :
    mapped kernel (call :: log) = mapped kernel log := by
  cases hplain <;> rfl

theorem plain_allowed {call : Call} (hplain : Plain fd call) {log : List Call}
    (hopen : fd ∈ opened kernel log) : Allowed kernel log call := by
  cases hplain <;> exact hopen

theorem held_open (h : Held kernel (some fd) b) : fd ∈ opened kernel b.log := by
  rw [h.opened_eq]
  exact List.mem_singleton_self fd

theorem held_plain {call : Call} (h : Held kernel (some fd) b) (hplain : Plain fd call) :
    Held kernel (some fd) { b with log := call :: b.log } where
  fd_eq := h.fd_eq
  opened_eq := by
    rw [plain_opened hplain]
    exact h.opened_eq
  mapped_perm := by
    rw [plain_mapped hplain]
    exact h.mapped_perm
  proper := ⟨h.proper, plain_allowed hplain (held_open h)⟩

theorem start_ne_null {log : List Call} {plane : Plane} (h : plane ∈ mapped kernel log) :
    plane.start ≠ 0 := by
  induction log with
  | nil => exact absurd h List.not_mem_nil
  | cons call log ih =>
    cases call with
    | map fd length offset =>
      rw [mapped] at h
      cases hmap : kernel.map (.map fd length offset :: log) with
      | ok start =>
        rw [hmap] at h
        rcases List.mem_cons.mp h with rfl | hold
        · exact kernel.map_ne_null hmap
        · exact ih hold
      | error text =>
        rw [hmap] at h
        exact ih h
    | unmap gone => exact ih (List.mem_of_mem_erase h)
    | openDevice | queryCap | setFormat | setParm | requestBuffers | queryBuffer | enqueue | streamOn
    | streamOff | closeDevice | poll | dequeue | copy => exact ih h

theorem unmap_planes {planes : List Plane} (hmapped : (mapped kernel b.log).Perm planes)
    (hproper : Proper kernel b.log) :
    (planes.foldl unmapPlane b).fd = b.fd ∧
      opened kernel (planes.foldl unmapPlane b).log = opened kernel b.log ∧
      mapped kernel (planes.foldl unmapPlane b).log = [] ∧
      Proper kernel (planes.foldl unmapPlane b).log := by
  induction planes generalizing b with
  | nil => exact ⟨rfl, rfl, List.perm_nil.mp hmapped, hproper⟩
  | cons plane planes ih =>
    have hin : plane ∈ mapped kernel b.log := hmapped.symm.subset (List.mem_cons_self ..)
    have hstep : unmapPlane b plane = { b with log := .unmap plane :: b.log } :=
      if_pos (start_ne_null hin)
    have hrest : (mapped kernel (unmapPlane b plane).log).Perm planes := by
      have herase := hmapped.erase plane
      rw [List.erase_cons_head] at herase
      rw [hstep]
      exact herase
    have hallowed : Proper kernel (unmapPlane b plane).log := by
      rw [hstep]
      exact ⟨hproper, hin⟩
    obtain ⟨hfd, hopened, hnone, hproper'⟩ := ih hrest hallowed
    refine ⟨hfd.trans ?_, hopened.trans ?_, hnone, hproper'⟩
    · rw [hstep]
    · rw [hstep]
      rfl

theorem held_stopStreaming {fd : Option Nat} (h : Held kernel fd b) :
    Held kernel fd (stopStreaming b) := by
  cases fd with
  | none =>
    have hstop : stopStreaming b = b := by simp only [stopStreaming, h.fd_eq]
    rwa [hstop]
  | some fd =>
    have hstop : stopStreaming b = { b with log := .streamOff fd b.bufferType :: b.log } := by
      simp only [stopStreaming, h.fd_eq]
    rw [hstop]
    exact held_plain h .streamOff

theorem held_unmapAll {fd : Option Nat} (h : Held kernel fd b) :
    Held kernel fd (unmapAll b) ∧ (unmapAll b).buffers = [] := by
  obtain ⟨hfd, hopened, hnone, hproper⟩ := unmap_planes h.mapped_perm h.proper
  refine ⟨⟨hfd.trans h.fd_eq, hopened.trans h.opened_eq, ?_, hproper⟩, rfl⟩
  have hperm : (mapped kernel (unmapAll b).log).Perm [] := List.perm_nil.mpr hnone
  exact hperm

theorem held_closeDevice {fd : Option Nat} (h : Held kernel fd b) (hbuffers : b.buffers = []) :
    Held kernel none (closeDevice b) ∧ (closeDevice b).buffers = [] := by
  unfold closeDevice
  cases fd with
  | none =>
    rw [h.fd_eq]
    exact ⟨h, hbuffers⟩
  | some fd =>
    have hnone : opened kernel (.closeDevice fd :: b.log) = [] := by
      rw [opened, h.opened_eq]
      simp
    rw [h.fd_eq]
    exact ⟨⟨rfl, hnone, h.mapped_perm, ⟨h.proper, held_open h⟩⟩, hbuffers⟩

/-- After a close nothing is open and nothing is mapped. -/
theorem held_close {fd : Option Nat} (h : Held kernel fd b) :
    Held kernel none (close b) ∧ (close b).buffers = [] := by
  obtain ⟨hunmapped, hbuffers⟩ := held_unmapAll (held_stopStreaming h)
  exact held_closeDevice hunmapped hbuffers

structure At (kernel : Kernel) (fd : Nat) (F : BufferType → List (List Plane) → Prop)
    (b : V4l2CaptureBackend) : Prop where
  held : Held kernel (some fd) b
  fields : F b.bufferType b.buffers

variable {F F' : BufferType → List (List Plane) → Prop}

abbrev AtAll (kernel : Kernel) (fd : Nat) : Failure → V4l2CaptureBackend → Prop :=
  fun _ b => Held kernel (some fd) b

theorem triple_note {E : Failure → V4l2CaptureBackend → Prop} {call : Call}
    (hplain : Plain fd call) :
    Triple (At kernel fd F) (note call) (fun _ => At kernel fd F) E := by
  apply triple_modify
  intro b hb
  exact ⟨held_plain hb.held hplain, hb.fields⟩

theorem exit_ask {R : Type} (answer : List Call → Except String R) (name : String) (call : Call)
    (b : V4l2CaptureBackend) : exit (ask answer name call) b =
      ({ b with log := call :: b.log }, match answer (call :: b.log) with
        | .ok r => .ok r
        | .error text => .error (.message (name ++ ": " ++ text))) := by
  unfold exit ask
  cases answer (call :: b.log) <;> rfl

theorem triple_ask {E : Failure → V4l2CaptureBackend → Prop} {R : Type}
    {answer : List Call → Except String R} {name : String} {call : Call} (hplain : Plain fd call)
    (hE : ∀ text b, At kernel fd F b → E (.message text) b) :
    Triple (At kernel fd F) (ask answer name call) (fun _ => At kernel fd F) E := by
  intro b hb
  rw [exit_ask]
  have hheld := held_plain hb.held hplain
  refine ⟨fun r b' hexit => ?_, fun failure b' hexit => ?_⟩
  · rw [Prod.mk.injEq] at hexit
    obtain ⟨rfl, -⟩ := hexit
    exact ⟨hheld, hb.fields⟩
  · rw [Prod.mk.injEq] at hexit
    obtain ⟨rfl, hend⟩ := hexit
    cases hanswer : answer (call :: b.log) with
    | ok r =>
      rw [hanswer] at hend
      cases hend
    | error text =>
      rw [hanswer] at hend
      cases hend
      exact hE _ _ ⟨hheld, hb.fields⟩

theorem at_held : ∀ text b, At kernel fd F b → AtAll kernel fd (.message text) b :=
  fun _ _ hb => hb.held

def grow (buffers : List (List Plane)) (index : Nat) (plane : Plane) : List (List Plane) :=
  buffers.modify index (· ++ [plane])

theorem flatten_grow {buffers : List (List Plane)} {index : Nat} (h : index < buffers.length)
    (plane : Plane) : (grow buffers index plane).flatten.Perm (plane :: buffers.flatten) := by
  induction buffers generalizing index with
  | nil => exact absurd h (by simp)
  | cons planes buffers ih =>
    cases index with
    | zero =>
      have hgrow : grow (planes :: buffers) 0 plane = (planes ++ [plane]) :: buffers := rfl
      rw [hgrow, List.flatten_cons, List.flatten_cons, List.append_assoc, List.singleton_append]
      exact List.perm_middle
    | succ index =>
      have hgrow : grow (planes :: buffers) (index + 1) plane =
          planes :: grow buffers index plane := rfl
      rw [hgrow, List.flatten_cons, List.flatten_cons]
      have hrest := ih (by simpa using h)
      exact (hrest.append_left planes).trans List.perm_middle

theorem held_grow {length offset start index : Nat} (h : Held kernel (some fd) b)
    (hmap : kernel.map (.map fd length offset :: b.log) = .ok start)
    (hindex : index < b.buffers.length) :
    Held kernel (some fd) { b with
      log := .map fd length offset :: b.log
      buffers := grow b.buffers index ⟨start, length⟩ } where
  fd_eq := h.fd_eq
  opened_eq := h.opened_eq
  mapped_perm := by
    have hmapped : mapped kernel (.map fd length offset :: b.log) =
        ⟨start, length⟩ :: mapped kernel b.log := by
      rw [mapped, hmap]
    rw [hmapped]
    exact (h.mapped_perm.cons _).trans (flatten_grow hindex ⟨start, length⟩).symm
  proper := ⟨h.proper, held_open h⟩

theorem held_unmapped {length offset : Nat} {text : String} (h : Held kernel (some fd) b)
    (hmap : kernel.map (.map fd length offset :: b.log) = .error text) :
    Held kernel (some fd) { b with log := .map fd length offset :: b.log } where
  fd_eq := h.fd_eq
  opened_eq := h.opened_eq
  mapped_perm := by
    have hmapped : mapped kernel (.map fd length offset :: b.log) = mapped kernel b.log := by
      rw [mapped, hmap]
    rw [hmapped]
    exact h.mapped_perm
  proper := ⟨h.proper, held_open h⟩

theorem triple_map {length offset index : Nat}
    (hgrow : ∀ type buffers start, F type buffers → index < buffers.length ∧
      F' type (grow buffers index ⟨start, length⟩)) :
    Triple (At kernel fd F)
      (do
        let start ← ask kernel.map "mmap" (.map fd length offset)
        modify fun b => { b with buffers := b.buffers.modify index (· ++ [⟨start, length⟩]) })
      (fun _ => At kernel fd F') (AtAll kernel fd) := by
  intro b hb
  rw [exit_bind, exit_ask]
  cases hmap : kernel.map (.map fd length offset :: b.log) with
  | ok start =>
    obtain ⟨hindex, hfields⟩ := hgrow _ _ start hb.fields
    refine ⟨fun _ b' hexit => ?_, fun failure b' hexit => ?_⟩
    · cases hexit
      exact ⟨held_grow hb.held hmap hindex, hfields⟩
    · cases hexit
  | error text =>
    refine ⟨fun _ b' hexit => ?_, fun failure b' hexit => ?_⟩
    · cases hexit
    · cases hexit
      exact held_unmapped hb.held hmap

/-- The buffers with an index below `k` have a plane, where there is one plane for each buffer. -/
structure Filled (type : BufferType) (count k : Nat) (type' : BufferType)
    (buffers : List (List Plane)) : Prop where
  type_eq : type' = type
  length_eq : buffers.length = count
  filled : type ≠ .videoCaptureMplane → ∀ i < k, buffers[i]? ≠ some []

theorem filled_grow {type type' : BufferType} {count k index : Nat} {buffers : List (List Plane)}
    (h : Filled type count k type' buffers) (plane : Plane) :
    Filled type count k type' (grow buffers index plane) where
  type_eq := h.type_eq
  length_eq := by rw [grow, List.length_modify, h.length_eq]
  filled htype i hi := by
    have hold := h.filled htype i hi
    rw [grow, List.getElem?_modify]
    cases hget : buffers[i]? with
    | none => simp
    | some planes =>
      by_cases heq : index = i
      · simp [heq]
      · rw [hget] at hold
        simpa [heq] using hold

theorem filled_next {type type' : BufferType} {count k : Nat} {buffers : List (List Plane)}
    (h : Filled type count k type' buffers) (plane : Plane) :
    Filled type count (k + 1) type' (grow buffers k plane) where
  type_eq := h.type_eq
  length_eq := by rw [grow, List.length_modify, h.length_eq]
  filled htype i hi := by
    obtain hlt | rfl : i < k ∨ i = k := by omega
    · exact (filled_grow h plane).filled htype i hlt
    · rw [grow, List.getElem?_modify]
      cases buffers[i]? <;> simp

theorem triple_mapBuffer {type : BufferType} {count index : Nat} (hindex : index < count) :
    Triple (At kernel fd (Filled type count index)) (mapBuffer kernel fd type index)
      (fun _ => At kernel fd (Filled type count (index + 1))) (AtAll kernel fd) := by
  refine triple_bind (triple_ask .queryBuffer at_held) fun info => ?_
  by_cases hmplane : type = .videoCaptureMplane
  · have hnext : ∀ b, At kernel fd (Filled type count index) b →
        At kernel fd (Filled type count (index + 1)) b := fun b hb =>
      ⟨hb.held, hb.fields.type_eq, hb.fields.length_eq, fun htype => absurd hmplane htype⟩
    refine triple_mono (triple_forM fun pair _ => ?_) (fun _ hb => hb) fun _ => hnext
    refine triple_map fun type buffers start hfilled => ⟨?_, filled_grow hfilled _⟩
    rw [hfilled.length_eq]
    exact hindex
  · have hplanes : planesOf type info = [(info.length, info.offset)] := if_neg hmplane
    rw [hplanes]
    refine triple_bind (Q := fun _ => At kernel fd (Filled type count (index + 1)))
      (triple_map fun type buffers start hfilled => ?_) fun _ => triple_pure fun _ hb => hb
    refine ⟨?_, filled_next hfilled _⟩
    rw [hfilled.length_eq]
    exact hindex

/-- What a configured backend has: at least two buffers, and one plane in each of them where a buffer
has one plane. -/
structure Configured (type : BufferType) (buffers : List (List Plane)) : Prop where
  enough : 2 ≤ buffers.length
  filled : type ≠ .videoCaptureMplane → ∀ i < buffers.length, buffers[i]? ≠ some []

variable {Calibration : Type} (config : DriverConfigs.GmslV4l2CameraConfig Calibration)

theorem triple_configureDevice (fourcc : Fourcc) :
    Triple (At kernel fd fun _ buffers => buffers = []) (configureDevice kernel config fourcc fd)
      (fun _ => At kernel fd Configured) (AtAll kernel fd) := by
  refine triple_bind (triple_ask .queryCap at_held) fun (capabilities, deviceCaps) => ?_
  dsimp only
  generalize selectCaptureBufferType capabilities deviceCaps = type
  refine triple_bind (Q := fun _ => At kernel fd fun type' buffers => type' = type ∧ buffers = [])
    (triple_modify fun b hb => ?_) fun _ => ?_
  · exact ⟨⟨hb.held.fd_eq, hb.held.opened_eq, hb.held.mapped_perm, hb.held.proper⟩, rfl, hb.fields⟩
  split
  case isTrue => exact triple_throw fun b hb => hb.held
  case isFalse =>
    refine triple_bind (triple_ask .setFormat at_held) fun _ =>
      triple_bind (triple_note .setParm) fun _ =>
      triple_bind (triple_ask .requestBuffers at_held) fun count => triple_get_bind fun b₀ hb₀ => ?_
    split
    case isTrue => exact triple_throw fun b hb => hb ▸ hb₀.held
    case isFalse hcount =>
      have henough : 2 ≤ count.toNat := by
        have hle := UInt32.le_iff_toNat_le.mp (UInt32.not_lt.mp hcount)
        exact hle
      refine triple_bind (Q := fun _ => At kernel fd (Filled type count.toNat 0))
        (triple_modify fun b hb => ?_) fun _ => ?_
      · obtain ⟨htype, hbuffers⟩ := hb₀.fields
        have hmapped := hb₀.held.mapped_perm
        rw [hbuffers] at hmapped
        subst hb
        refine ⟨⟨hb₀.held.fd_eq, hb₀.held.opened_eq, ?_, hb₀.held.proper⟩, htype,
          List.length_replicate .., fun _ i hi => absurd hi (Nat.not_lt_zero i)⟩
        have hnil : (List.replicate count.toNat ([] : List Plane)).flatten = [] := by simp
        rw [hnil]
        exact hmapped
      refine triple_bind (triple_forM_range (I := fun k => At kernel fd (Filled type count.toNat k))
        fun index hindex => triple_mapBuffer hindex) fun _ => ?_
      refine triple_bind (triple_forM fun index _ => triple_ask .enqueue at_held) fun _ =>
        triple_bind (triple_ask .streamOn at_held) fun _ => triple_modify fun b hb => ?_
      obtain ⟨htype, hlength, hfilled⟩ := hb.fields
      refine ⟨⟨hb.held.fd_eq, hb.held.opened_eq, hb.held.mapped_perm, hb.held.proper⟩, ?_, ?_⟩
      · rw [hlength]
        exact henough
      · intro hcapture i hi
        exact hfilled (htype ▸ hcapture) i (hlength ▸ hi)

inductive Ready (kernel : Kernel) (b : V4l2CaptureBackend) : Prop where
  | idle (held : Held kernel none b) (empty : b.buffers = [])
  | streaming {fd : Nat} (at_ : At kernel fd Configured b)

theorem ready_held (h : Ready kernel b) : ∃ fd, Held kernel fd b := by
  cases h with
  | idle held => exact ⟨none, held⟩
  | streaming at_ => exact ⟨_, at_.held⟩

theorem ready_close (h : Ready kernel b) : Ready kernel (close b) ∧ (close b).fd = none := by
  obtain ⟨fd, hheld⟩ := ready_held h
  obtain ⟨hclosed, hempty⟩ := held_close hheld
  exact ⟨.idle hclosed hempty, hclosed.fd_eq⟩

theorem ready_configure (h : Ready kernel b) :
    Ready kernel (configure kernel config b).1 ∧
      ((configure kernel config b).1.fd.isSome = returns (configure kernel config b).2) := by
  obtain ⟨fd, hheld⟩ := ready_held h
  obtain ⟨hclosed, hempty⟩ := held_close hheld
  unfold configure
  cases fourccFromFormat config.pixelFormat with
  | none => exact ⟨.idle hclosed hempty, by simp [hclosed.fd_eq]⟩
  | some fourcc =>
    simp only [exit_ask]
    cases hopen : kernel.openDevice (.openDevice config.videoDevice :: (close b).log) with
    | error text =>
      have hopened : opened kernel (.openDevice config.videoDevice :: (close b).log) = [] := by
        rw [opened, hopen]
        exact hclosed.opened_eq
      exact ⟨.idle ⟨hclosed.fd_eq, hopened, hclosed.mapped_perm, ⟨hclosed.proper, trivial⟩⟩ hempty,
        by simp [hclosed.fd_eq]⟩
    | ok fd =>
      have hopened : opened kernel (.openDevice config.videoDevice :: (close b).log) = [fd] := by
        rw [opened, hopen, hclosed.opened_eq]
        rfl
      have hat : At kernel fd (fun _ buffers => buffers = []) { close b with
          log := .openDevice config.videoDevice :: (close b).log
          fd := some fd } :=
        ⟨⟨rfl, hopened, hclosed.mapped_perm, ⟨hclosed.proper, trivial⟩⟩, hempty⟩
      obtain ⟨hok, herror⟩ := triple_configureDevice config fourcc _ hat
      dsimp only
      generalize hexit : exit (configureDevice kernel config fourcc fd) _ = ending at hok herror ⊢
      obtain ⟨b', result⟩ := ending
      cases result with
      | ok _ =>
        have hconfigured := hok () b' rfl
        exact ⟨.streaming hconfigured, by simp [hconfigured.held.fd_eq]⟩
      | error failure =>
        obtain ⟨hclosed', hempty'⟩ := held_close (herror failure b' rfl)
        exact ⟨.idle hclosed' hempty', by simp [hclosed'.fd_eq]⟩

/-- A frame that is not read leaves the backend configured, and nothing is read behind the end of a
buffer. -/
def Unread (kernel : Kernel) (fd : Nat) (failure : Failure) (b : V4l2CaptureBackend) : Prop :=
  At kernel fd Configured b ∧ failure ≠ .undefined

def Same (b₀ : V4l2CaptureBackend) (type : BufferType) (buffers : List (List Plane)) : Prop :=
  type = b₀.bufferType ∧ buffers = b₀.buffers ∧ Configured type buffers

theorem unread_of_same {b₀ : V4l2CaptureBackend} :
    ∀ text b, At kernel fd (Same b₀) b → Unread kernel fd (.message text) b := fun _ _ hb =>
  ⟨⟨hb.held, hb.fields.2.2⟩, fun h => by cases h⟩

theorem effectiveBytesused_le (bytesused length : Nat) :
    effectiveBytesused bytesused length ≤ length := by
  unfold effectiveBytesused
  split
  · exact Nat.le_refl length
  · omega

theorem triple_copyPlane {b₀ : V4l2CaptureBackend} {plane : Plane}
    (hplane : plane ∈ b₀.buffers.flatten) (bytesused : Nat) :
    Triple (At kernel fd (Same b₀)) (copyPlane kernel plane bytesused)
      (fun _ => At kernel fd (Same b₀)) (Unread kernel fd) := by
  refine triple_bind (Q := fun _ => At kernel fd (Same b₀)) (triple_modify fun b hb => ?_) fun _ =>
    triple_get_bind fun b hb => triple_pure fun b' hb' => hb' ▸ hb
  have hmapped : plane ∈ mapped kernel b.log := by
    apply hb.held.mapped_perm.symm.subset
    rw [hb.fields.2.1]
    exact hplane
  exact ⟨⟨hb.held.fd_eq, hb.held.opened_eq, hb.held.mapped_perm,
    ⟨hb.held.proper, hmapped, effectiveBytesused_le bytesused plane.length⟩⟩, hb.fields⟩

theorem triple_readFrame (timeoutMs : Int) :
    Triple (At kernel fd Configured) (readFrame kernel timeoutMs)
      (fun _ => At kernel fd Configured) (Unread kernel fd) := by
  refine triple_get_bind fun b₀ hb₀ => ?_
  rw [hb₀.held.fd_eq]
  have hstart : ∀ b, b = b₀ → At kernel fd (Same b₀) b := by
    rintro b rfl
    exact ⟨hb₀.held, rfl, rfl, hb₀.fields⟩
  have hlast : ∀ (data : List UInt8), Triple (At kernel fd (Same b₀))
      (pure ⟨b₀.width, b₀.height, b₀.pixelFormat, data⟩ : Backend CapturedFrame)
      (fun _ => At kernel fd Configured) (Unread kernel fd) := fun data =>
    triple_pure fun b hb => ⟨hb.held, hb.fields.2.2⟩
  refine triple_mono (P := At kernel fd (Same b₀)) ?_ hstart fun _ _ hb => hb
  refine triple_bind (triple_ask .poll unread_of_same) fun ready => ?_
  cases ready with
  | false => exact triple_throw fun b hb => unread_of_same "capture timeout" b hb
  | true =>
    refine triple_bind (triple_ask .dequeue unread_of_same) fun buffer => ?_
    cases hbuffer : b₀.buffers[buffer.index]? with
    | none => exact triple_throw fun b hb => unread_of_same _ b hb
    | some planes =>
      have hplanes : ∀ plane ∈ planes, plane ∈ b₀.buffers.flatten := fun plane hplane =>
        List.mem_flatten.mpr ⟨planes, List.mem_of_getElem? hbuffer, hplane⟩
      have hread : ∀ data : List UInt8, Triple (At kernel fd (Same b₀))
          (ask kernel.control "VIDIOC_QBUF" (.enqueue fd b₀.bufferType buffer.index) >>= fun _ =>
            pure ⟨b₀.width, b₀.height, b₀.pixelFormat, data⟩ : Backend CapturedFrame)
          (fun _ => At kernel fd Configured) (Unread kernel fd) := fun data =>
        triple_bind (triple_ask .enqueue unread_of_same) fun _ => hlast data
      have hfront (htype : b₀.bufferType ≠ .videoCaptureMplane) : Triple (At kernel fd (Same b₀))
          (copyFront kernel planes buffer.bytesused) (fun _ => At kernel fd (Same b₀))
          (Unread kernel fd) := by
        cases planes with
        | nil =>
          have hindex : buffer.index < b₀.buffers.length := by
            obtain ⟨hlt, -⟩ := List.getElem?_eq_some_iff.mp hbuffer
            exact hlt
          exact absurd hbuffer (hb₀.fields.filled htype buffer.index hindex)
        | cons plane planes => exact triple_copyPlane (hplanes plane (List.mem_cons_self ..)) _
      cases htype : b₀.bufferType with
      | videoCaptureMplane =>
        rw [htype] at hread
        refine triple_bind (triple_foldlM [] fun data pair hpair => ?_) hread
        have hplane := hplanes pair.1 (List.of_mem_zip hpair).1
        exact triple_bind (triple_copyPlane hplane pair.2) fun _ => triple_pure fun _ hb => hb
      | unsupported | videoCapture =>
        rw [htype] at hread hfront
        exact triple_bind (hfront (by simp)) hread

theorem ready_readFrame (h : Ready kernel b) (timeoutMs : Int) :
    Ready kernel (exit (readFrame kernel timeoutMs) b).1 ∧
      (exit (readFrame kernel timeoutMs) b).2 ≠ .error .undefined := by
  cases h with
  | idle held empty =>
    have hread : exit (readFrame kernel timeoutMs) b =
        (b, .error (.message "V4L2 device is not open")) := by
      rw [readFrame, exit_get, held.fd_eq]
      rfl
    rw [hread]
    exact ⟨.idle held empty, by simp⟩
  | streaming at_ =>
    obtain ⟨hok, herror⟩ := triple_readFrame timeoutMs b at_
    cases hend : (exit (readFrame kernel timeoutMs) b).2 with
    | ok frame =>
      have hconfigured := hok frame (exit (readFrame kernel timeoutMs) b).1 (Prod.ext rfl hend)
      exact ⟨.streaming hconfigured, by simp⟩
    | error failure =>
      obtain ⟨hconfigured, hdefined⟩ :=
        herror failure (exit (readFrame kernel timeoutMs) b).1 (Prod.ext rfl hend)
      exact ⟨.streaming hconfigured, by simpa using hdefined⟩

def Answered (b : V4l2CaptureBackend) : Answer → Prop
  | .configured result => b.fd.isSome = returns result
  | .frame result => result ≠ .error .undefined
  | .closed => b.fd = none

theorem ready_serve (h : Ready kernel b) (request : Request Calibration) :
    Ready kernel (serve kernel b request).1 ∧
      Answered (serve kernel b request).1 (serve kernel b request).2 := by
  cases request with
  | configure config => exact ready_configure config h
  | readFrame timeoutMs => exact ready_readFrame h timeoutMs
  | close => exact ready_close h

theorem ready_serveAll (h : Ready kernel b) (requests : List (Request Calibration)) :
    Ready kernel (serveAll kernel b requests).1 := by
  induction requests generalizing b with
  | nil => exact h
  | cons request requests ih => exact ih (ready_serve h request).1

theorem ready_start (kernel : Kernel) : Ready kernel {} := .idle ⟨rfl, rfl, List.Perm.nil, trivial⟩ rfl

/-- In every run and however the kernel answers: each call is made on what is open or mapped at that
time, what is open and what is mapped is what the fields say, and the next call keeps its word. -/
theorem serveAll_ledger (kernel : Kernel) (requests : List (Request Calibration)) :
    let b := (serveAll kernel {} requests).1
    Proper kernel b.log ∧ opened kernel b.log = b.fd.toList ∧
      (mapped kernel b.log).Perm b.buffers.flatten ∧ (b.fd = none → mapped kernel b.log = []) ∧
      ∀ request : Request Calibration,
        Answered (serve kernel b request).1 (serve kernel b request).2 := by
  have hready := ready_serveAll (ready_start kernel) requests
  have hnext := fun request : Request Calibration => (ready_serve hready request).2
  cases hready with
  | idle held empty =>
    have hnone := held.mapped_perm
    rw [empty] at hnone
    exact ⟨held.proper, by rw [held.opened_eq, held.fd_eq], held.mapped_perm,
      fun _ => List.perm_nil.mp hnone, hnext⟩
  | streaming at_ =>
    refine ⟨at_.held.proper, by rw [at_.held.opened_eq, at_.held.fd_eq], at_.held.mapped_perm,
      fun hnone => ?_, hnext⟩
    rw [at_.held.fd_eq] at hnone
    cases hnone

end DeviceManager.V4l2Ledger
