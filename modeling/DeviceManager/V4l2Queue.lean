import DeviceManager.V4l2Ledger
import Mathlib.Data.List.Range

namespace DeviceManager.V4l2Queue

open Fallible Triples FrameConversion V4l2Capture V4l2Ledger

variable (kernel : Kernel)

/-- The buffers that are in the queue of the kernel after the calls. -/
def queued : List Call → List Nat
  | [] => []
  | .enqueue fd type index :: log =>
    match kernel.control (.enqueue fd type index :: log) with
    | .ok _ => index :: queued log
    | .error _ => queued log
  | .dequeue fd type :: log =>
    match kernel.dequeue (.dequeue fd type :: log) with
    | .ok buffer => (queued log).erase buffer.index
    | .error _ => queued log
  | .requestBuffers fd type count :: log =>
    match kernel.requestBuffers (.requestBuffers fd type count :: log) with
    | .ok _ => []
    | .error _ => queued log
  | .streamOff _ _ :: _ => []
  | .closeDevice _ :: _ => []
  | _ :: log => queued log

def refused : List Call → List Nat
  | [] => []
  | .enqueue fd type index :: log =>
    match kernel.control (.enqueue fd type index :: log) with
    | .ok _ => refused log
    | .error _ => index :: refused log
  | .requestBuffers fd type count :: log =>
    match kernel.requestBuffers (.requestBuffers fd type count :: log) with
    | .ok _ => []
    | .error _ => refused log
  | .streamOff _ _ :: _ => []
  | .closeDevice _ :: _ => []
  | _ :: log => refused log

def Single : List Call → Prop
  | [] => True
  | .enqueue _ _ index :: log => Single log ∧ index ∉ queued kernel log
  | _ :: log => Single log

/-- The kernel hands out only what is in its queue. -/
def HandsOut : Prop := ∀ log fd type buffer,
  kernel.dequeue (.dequeue fd type :: log) = .ok buffer → buffer.index ∈ queued kernel log

structure Books (kernel : Kernel) (G : List Nat → List Nat → List (List Plane) → Prop)
    (b : V4l2CaptureBackend) : Prop where
  single : Single kernel b.log
  entries : G (queued kernel b.log) (refused kernel b.log) b.buffers

inductive Still : Call → Prop where
  | openDevice {path} : Still (.openDevice path)
  | queryCap {fd} : Still (.queryCap fd)
  | setFormat {fd type width height fourcc} : Still (.setFormat fd type width height fourcc)
  | setParm {fd type fps} : Still (.setParm fd type fps)
  | queryBuffer {fd type index} : Still (.queryBuffer fd type index)
  | map {fd length offset} : Still (.map fd length offset)
  | streamOn {fd type} : Still (.streamOn fd type)
  | unmap {plane} : Still (.unmap plane)
  | poll {fd timeoutMs} : Still (.poll fd timeoutMs)
  | copy {plane size} : Still (.copy plane size)

variable {kernel} {G G' : List Nat → List Nat → List (List Plane) → Prop} {b : V4l2CaptureBackend}
  {E : Failure → V4l2CaptureBackend → Prop}

theorem books_still {call : Call} (hstill : Still call) (h : Books kernel G b) :
    Books kernel G { b with log := call :: b.log } := by
  obtain ⟨hsingle, hentries⟩ := h
  cases hstill <;> exact ⟨hsingle, hentries⟩

theorem books_mono (h : Books kernel G b) (hG : ∀ q r buffers, G q r buffers → G' q r buffers) :
    Books kernel G' b := ⟨h.single, hG _ _ _ h.entries⟩

theorem triple_still {R : Type} {answer : List Call → Except String R} {name : String} {call : Call}
    (hstill : Still call) (hE : ∀ text b, Books kernel G b → E (.message text) b) :
    Triple (Books kernel G) (ask answer name call) (fun _ => Books kernel G) E := by
  intro b hb
  rw [exit_ask]
  have hbooks := books_still hstill hb
  refine ⟨fun r b' hexit => ?_, fun failure b' hexit => ?_⟩
  · rw [Prod.mk.injEq] at hexit
    obtain ⟨rfl, -⟩ := hexit
    exact hbooks
  · rw [Prod.mk.injEq] at hexit
    obtain ⟨rfl, hend⟩ := hexit
    cases hanswer : answer (call :: b.log) with
    | ok r =>
      rw [hanswer] at hend
      cases hend
    | error text =>
      rw [hanswer] at hend
      cases hend
      exact hE _ _ hbooks

abbrev Loose (kernel : Kernel) : Failure → V4l2CaptureBackend → Prop :=
  fun _ b => Single kernel b.log

theorem loose : ∀ text b, Books kernel G b → Loose kernel (.message text) b := fun _ _ hb => hb.single

theorem triple_request (fd : Nat) (type : BufferType) (count : UInt32) :
    Triple (Books kernel fun _ _ _ => True)
      (ask kernel.requestBuffers "VIDIOC_REQBUFS" (.requestBuffers fd type count))
      (fun _ => Books kernel fun q r _ => q = [] ∧ r = []) (Loose kernel) := by
  intro b hb
  rw [exit_ask]
  refine ⟨fun r b' hexit => ?_, fun failure b' hexit => ?_⟩
  · rw [Prod.mk.injEq] at hexit
    obtain ⟨rfl, hend⟩ := hexit
    refine ⟨hb.single, ?_⟩
    cases hanswer : kernel.requestBuffers (.requestBuffers fd type count :: b.log) with
    | ok n => simp [queued, refused, hanswer]
    | error text =>
      rw [hanswer] at hend
      cases hend
  · rw [Prod.mk.injEq] at hexit
    obtain ⟨rfl, -⟩ := hexit
    exact hb.single

/-- The first `k` of `count` buffers are in the queue. -/
def Queueing (count k : Nat) (q r : List Nat) (buffers : List (List Plane)) : Prop :=
  q.Perm (List.range k) ∧ r = [] ∧ buffers.length = count

theorem triple_enqueue (fd : Nat) (type : BufferType) (count k : Nat) :
    Triple (Books kernel (Queueing count k))
      (ask kernel.control "VIDIOC_QBUF" (.enqueue fd type k))
      (fun _ => Books kernel (Queueing count (k + 1))) (Loose kernel) := by
  intro b hb
  obtain ⟨hperm, hnone, hcount⟩ := hb.entries
  have hnew : k ∉ queued kernel b.log := fun hk => by
    have hlt := List.mem_range.mp (hperm.subset hk)
    omega
  rw [exit_ask]
  refine ⟨fun r b' hexit => ?_, fun failure b' hexit => ?_⟩
  · rw [Prod.mk.injEq] at hexit
    obtain ⟨rfl, hend⟩ := hexit
    refine ⟨⟨hb.single, hnew⟩, ?_⟩
    cases hanswer : kernel.control (.enqueue fd type k :: b.log) with
    | ok _ =>
      simp only [queued, refused, hanswer]
      refine ⟨?_, hnone, hcount⟩
      rw [List.range_succ]
      exact (hperm.cons k).trans (List.perm_append_singleton k _).symm
    | error text =>
      rw [hanswer] at hend
      cases hend
  · rw [Prod.mk.injEq] at hexit
    obtain ⟨rfl, -⟩ := hexit
    exact ⟨hb.single, hnew⟩

theorem triple_mapping (fd : Nat) (type : BufferType) (count index : Nat) :
    Triple (Books kernel (Queueing count 0)) (mapBuffer kernel fd type index)
      (fun _ => Books kernel (Queueing count 0)) (Loose kernel) := by
  refine triple_bind (triple_still .queryBuffer loose) fun info => triple_forM fun pair _ =>
    triple_bind (triple_still .map loose) fun start => triple_modify fun b hb => ?_
  obtain ⟨hperm, hnone, hcount⟩ := hb.entries
  exact ⟨hb.single, hperm, hnone, by rw [List.length_modify, hcount]⟩

def Accounted (q r : List Nat) (buffers : List (List Plane)) : Prop :=
  (q ++ r).Perm (List.range buffers.length)

def Complete (q r : List Nat) (buffers : List (List Plane)) : Prop :=
  r = [] ∧ Accounted q r buffers

variable {Calibration : Type} (config : DriverConfigs.GmslV4l2CameraConfig Calibration)

theorem triple_configuring (fourcc : Fourcc) (fd : Nat) :
    Triple (Books kernel fun _ _ _ => True) (configureDevice kernel config fourcc fd)
      (fun _ => Books kernel Complete) (Loose kernel) := by
  refine triple_bind (triple_still .queryCap loose) fun (capabilities, deviceCaps) => ?_
  dsimp only
  generalize selectCaptureBufferType capabilities deviceCaps = type
  refine triple_bind (Q := fun _ => Books kernel fun _ _ _ => True)
    (triple_modify fun b hb => ⟨hb.single, trivial⟩) fun _ => ?_
  split
  case isTrue => exact triple_throw fun b hb => hb.single
  case isFalse =>
    refine triple_bind (triple_still .setFormat loose) fun _ =>
      triple_bind (Q := fun _ => Books kernel fun _ _ _ => True)
        (triple_modify fun b hb => books_still .setParm hb) fun _ =>
      triple_bind (triple_request fd type 4) fun count => triple_get_bind fun b₀ hb₀ => ?_
    split
    case isTrue => exact triple_throw fun b hb => hb ▸ hb₀.single
    case isFalse hcount =>
      refine triple_bind (Q := fun _ => Books kernel (Queueing count.toNat 0))
        (triple_modify fun b hb => ?_) fun _ => ?_
      · obtain ⟨hnone, hrefused⟩ := hb₀.entries
        subst hb
        refine ⟨hb₀.single, ?_, hrefused, List.length_replicate ..⟩
        rw [hnone]
        exact List.Perm.nil
      refine triple_bind (triple_forM fun index _ => triple_mapping fd type count.toNat index)
        fun _ => triple_bind (triple_forM_range
          (I := fun k => Books kernel (Queueing count.toNat k))
          fun index _ => triple_enqueue fd type count.toNat index) fun _ =>
        triple_bind (triple_still .streamOn loose) fun _ => triple_modify fun b hb => ?_
      obtain ⟨hperm, hnone, hlength⟩ := hb.entries
      refine ⟨hb.single, hnone, ?_⟩
      rw [Accounted, hnone, List.append_nil, hlength]
      exact hperm

abbrev Kept (kernel : Kernel) : Failure → V4l2CaptureBackend → Prop :=
  fun failure b => failure ≠ .undefined → Books kernel Accounted b

def Steady (buffers₀ : List (List Plane)) (q r : List Nat) (buffers : List (List Plane)) : Prop :=
  Accounted q r buffers ∧ buffers = buffers₀

def Lent (buffers₀ : List (List Plane)) (index : Nat) (q r : List Nat)
    (buffers : List (List Plane)) : Prop :=
  index ∉ q ∧ (index :: (q ++ r)).Perm (List.range buffers.length) ∧ buffers = buffers₀

variable {buffers₀ : List (List Plane)}

theorem kept_steady : ∀ text b, Books kernel (Steady buffers₀) b → Kept kernel (.message text) b :=
  fun _ _ hb _ => books_mono hb fun _ _ _ h => h.1

theorem lent_of_steady {q r : List Nat} {buffers : List (List Plane)} {index : Nat}
    (h : Steady buffers₀ q r buffers) (hindex : index ∈ q) :
    Lent buffers₀ index (q.erase index) r buffers := by
  obtain ⟨hperm, hbuffers⟩ := h
  have hnodup : q.Nodup :=
    (hperm.nodup_iff.mpr List.nodup_range).sublist (List.sublist_append_left q r)
  refine ⟨hnodup.not_mem_erase, ?_, hbuffers⟩
  have hback := (List.perm_cons_erase hindex).symm.append_right r
  rw [List.cons_append] at hback
  exact hback.trans hperm

theorem triple_dequeue (hhands : HandsOut kernel) (fd : Nat) (type : BufferType) :
    Triple (Books kernel (Steady buffers₀))
      (ask kernel.dequeue "VIDIOC_DQBUF" (.dequeue fd type))
      (fun buffer => Books kernel (Lent buffers₀ buffer.index)) (Kept kernel) := by
  intro b hb
  rw [exit_ask]
  cases hanswer : kernel.dequeue (.dequeue fd type :: b.log) with
  | ok buffer =>
    refine ⟨fun buffer' b' hexit => ?_, fun failure b' hexit => ?_⟩
    · cases hexit
      refine ⟨hb.single, ?_⟩
      simp only [queued, refused, hanswer]
      exact lent_of_steady hb.entries (hhands _ _ _ _ hanswer)
    · cases hexit
  | error text =>
    refine ⟨fun buffer' b' hexit => ?_, fun failure b' hexit => ?_⟩
    · cases hexit
    · cases hexit
      refine fun _ => ⟨hb.single, ?_⟩
      simp only [queued, refused, hanswer]
      exact hb.entries.1

theorem triple_requeue (fd : Nat) (type : BufferType) (index : Nat) :
    Triple (Books kernel (Lent buffers₀ index))
      (ask kernel.control "VIDIOC_QBUF" (.enqueue fd type index))
      (fun _ => Books kernel Accounted) (Kept kernel) := by
  intro b hb
  obtain ⟨hnew, hperm, -⟩ := hb.entries
  rw [exit_ask]
  cases hanswer : kernel.control (.enqueue fd type index :: b.log) with
  | ok _ =>
    refine ⟨fun _ b' hexit => ?_, fun failure b' hexit => ?_⟩
    · cases hexit
      refine ⟨⟨hb.single, hnew⟩, ?_⟩
      simp only [queued, refused, hanswer]
      exact hperm
    · cases hexit
  | error text =>
    refine ⟨fun _ b' hexit => ?_, fun failure b' hexit => ?_⟩
    · cases hexit
    · cases hexit
      refine fun _ => ⟨⟨hb.single, hnew⟩, ?_⟩
      simp only [queued, refused, hanswer]
      exact List.perm_middle.trans hperm

theorem kept_lent {index : Nat} {P : Prop} {b : V4l2CaptureBackend}
    (hb : Books kernel (Lent buffers₀ index) b) (hnone : buffers₀[index]? = none) : P := by
  obtain ⟨-, hperm, hbuffers⟩ := hb.entries
  have hlt := List.mem_range.mp (hperm.subset (List.mem_cons_self ..))
  rw [hbuffers] at hlt
  exact absurd (List.getElem?_eq_none_iff.mp hnone) (by omega)

theorem triple_copying {index : Nat} (plane : Plane) (bytesused : Nat) :
    Triple (Books kernel (Lent buffers₀ index)) (copyPlane kernel plane bytesused)
      (fun _ => Books kernel (Lent buffers₀ index)) (Kept kernel) :=
  triple_bind (Q := fun _ => Books kernel (Lent buffers₀ index))
    (triple_modify fun _ hb => books_still .copy hb) fun _ =>
      triple_get_bind fun _ hb => triple_pure fun _ hb' => hb' ▸ hb

theorem triple_reading (hhands : HandsOut kernel) (timeoutMs : Int) :
    Triple (Books kernel Accounted) (readFrame kernel timeoutMs) (fun _ => Books kernel Accounted)
      (Kept kernel) := by
  refine triple_get_bind fun b₀ hb₀ => ?_
  cases b₀.fd with
  | none => exact triple_throw fun b hb _ => hb ▸ hb₀
  | some fd =>
    have hstart : ∀ b, b = b₀ → Books kernel (Steady b₀.buffers) b := by
      rintro b rfl
      exact ⟨hb₀.single, hb₀.entries, rfl⟩
    refine triple_mono (P := Books kernel (Steady b₀.buffers)) ?_ hstart fun _ _ hb => hb
    refine triple_bind (triple_still .poll kept_steady) fun ready => ?_
    cases ready with
    | false => exact triple_throw fun b hb => kept_steady "capture timeout" b hb
    | true =>
      refine triple_bind (triple_dequeue hhands fd b₀.bufferType) fun buffer => ?_
      cases hbuffer : b₀.buffers[buffer.index]? with
      | none => exact triple_throw fun b hb => kept_lent hb hbuffer
      | some planes =>
        have hread : ∀ data : List UInt8, Triple (Books kernel (Lent b₀.buffers buffer.index))
            (ask kernel.control "VIDIOC_QBUF" (.enqueue fd b₀.bufferType buffer.index) >>= fun _ =>
              pure ⟨b₀.width, b₀.height, b₀.pixelFormat, data⟩ : Backend CapturedFrame)
            (fun _ => Books kernel Accounted) (Kept kernel) := fun data =>
          triple_bind (triple_requeue fd b₀.bufferType buffer.index) fun _ =>
            triple_pure fun _ hb => hb
        cases htype : b₀.bufferType with
        | videoCaptureMplane =>
          rw [htype] at hread
          exact triple_bind (triple_foldlM [] fun data pair _ =>
            triple_bind (triple_copying pair.1 pair.2) fun _ => triple_pure fun _ hb => hb) hread
        | unsupported | videoCapture =>
          rw [htype] at hread
          refine triple_bind (Q := fun _ => Books kernel (Lent b₀.buffers buffer.index)) ?_ hread
          cases planes with
          | nil => exact triple_throw fun b hb hdefined => absurd rfl hdefined
          | cons plane planes => exact triple_copying plane _

theorem single_unmap (planes : List Plane) (b : V4l2CaptureBackend) (h : Single kernel b.log) :
    Single kernel (planes.foldl unmapPlane b).log := by
  induction planes generalizing b with
  | nil => exact h
  | cons plane planes ih =>
    apply ih
    unfold unmapPlane
    split_ifs
    · exact h
    · exact h

theorem single_close (h : Single kernel b.log) : Single kernel (close b).log := by
  have hstopped : Single kernel (stopStreaming b).log := by
    unfold stopStreaming
    split
    · exact h
    · exact h
  have hunmapped : Single kernel (unmapAll (stopStreaming b)).log := single_unmap _ _ hstopped
  unfold close closeDevice
  split
  · exact hunmapped
  · exact hunmapped

def Balanced (kernel : Kernel) (b : V4l2CaptureBackend) : Prop :=
  Single kernel b.log ∧ (b.fd ≠ none → Books kernel Accounted b)

theorem balanced_closed (h : Single kernel b.log) (hfd : b.fd = none) : Balanced kernel b :=
  ⟨h, fun hopen => absurd hfd hopen⟩

theorem books_configure (h : Single kernel b.log) :
    Single kernel (configure kernel config b).1.log ∧
      (returns (configure kernel config b).2 = true →
        Books kernel Complete (configure kernel config b).1) := by
  have hclosed := single_close h
  unfold configure
  cases fourccFromFormat config.pixelFormat with
  | none => exact ⟨hclosed, fun hreturns => by cases hreturns⟩
  | some fourcc =>
    simp only [exit_ask]
    cases hopen : kernel.openDevice (.openDevice config.videoDevice :: (close b).log) with
    | error text => exact ⟨hclosed, fun hreturns => by cases hreturns⟩
    | ok fd =>
      have hbooks : Books kernel (fun _ _ _ => True) { close b with
          log := .openDevice config.videoDevice :: (close b).log
          fd := some fd } := ⟨hclosed, trivial⟩
      obtain ⟨hok, herror⟩ := triple_configuring config fourcc fd _ hbooks
      dsimp only
      generalize hexit : exit (configureDevice kernel config fourcc fd) _ = ending at hok herror ⊢
      obtain ⟨b', result⟩ := ending
      cases result with
      | ok _ => exact ⟨(hok () b' rfl).single, fun _ => hok () b' rfl⟩
      | error failure => exact ⟨single_close (herror failure b' rfl), fun hreturns => by cases hreturns⟩

theorem balanced_configure (hready : Ready kernel b) (h : Balanced kernel b) :
    Balanced kernel (configure kernel config b).1 := by
  obtain ⟨hsingle, hbooks⟩ := books_configure config h.1
  refine ⟨hsingle, fun hopen => books_mono (hbooks ?_) fun _ _ _ hcomplete => hcomplete.2⟩
  rw [← (ready_configure config hready).2]
  exact Option.isSome_iff_ne_none.mpr hopen

theorem balanced_readFrame (hhands : HandsOut kernel) (hready : Ready kernel b)
    (h : Balanced kernel b) (timeoutMs : Int) :
    Balanced kernel (exit (readFrame kernel timeoutMs) b).1 := by
  cases hready with
  | idle held empty =>
    have hread : exit (readFrame kernel timeoutMs) b =
        (b, .error (.message "V4L2 device is not open")) := by
      rw [readFrame, exit_get, held.fd_eq]
      rfl
    rw [hread]
    exact h
  | streaming at_ =>
    have hbooks := h.2 (by rw [at_.held.fd_eq]; exact Option.some_ne_none _)
    have hdefined := (ready_readFrame (.streaming at_) timeoutMs).2
    obtain ⟨hok, herror⟩ := triple_reading hhands timeoutMs b hbooks
    have hafter : Books kernel Accounted (exit (readFrame kernel timeoutMs) b).1 := by
      cases hend : (exit (readFrame kernel timeoutMs) b).2 with
      | ok frame => exact hok frame _ (Prod.ext rfl hend)
      | error failure =>
        rw [hend] at hdefined
        exact herror failure _ (Prod.ext rfl hend) fun heq => hdefined (by rw [heq])
    exact ⟨hafter.single, fun _ => hafter⟩

theorem balanced_serveAll (hhands : HandsOut kernel) (hready : Ready kernel b)
    (h : Balanced kernel b) (requests : List (Request Calibration)) :
    Balanced kernel (serveAll kernel b requests).1 := by
  induction requests generalizing b with
  | nil => exact h
  | cons request requests ih =>
    refine ih (ready_serve hready request).1 ?_
    cases request with
    | configure config => exact balanced_configure config hready h
    | readFrame timeoutMs => exact balanced_readFrame hhands hready h timeoutMs
    | close => exact balanced_closed (single_close h.1) (ready_close hready).2

/-- With a kernel that hands out what it has, and however else it answers: no buffer is put into the
queue twice, between two calls of an open backend each is in the queue or has been refused, and a
configuration that succeeds puts all of them into it. -/
theorem serveAll_queue (kernel : Kernel) (hhands : HandsOut kernel)
    (requests : List (Request Calibration)) :
    let b := (serveAll kernel {} requests).1
    Single kernel b.log ∧
      (b.fd ≠ none →
        (queued kernel b.log ++ refused kernel b.log).Perm (List.range b.buffers.length)) ∧
      ∀ config : DriverConfigs.GmslV4l2CameraConfig Calibration,
        returns (configure kernel config b).2 = true →
          (queued kernel (configure kernel config b).1.log).Perm
            (List.range (configure kernel config b).1.buffers.length) := by
  have hbalanced := balanced_serveAll hhands (ready_start kernel)
    (balanced_closed trivial rfl) requests
  refine ⟨hbalanced.1, fun hopen => (hbalanced.2 hopen).entries, fun config hreturns => ?_⟩
  obtain ⟨hnone, hall⟩ := ((books_configure config hbalanced.1).2 hreturns).entries
  rwa [Accounted, hnone, List.append_nil] at hall

def line : List Call → List Nat
  | [] => []
  | .enqueue _ _ index :: log => line log ++ [index]
  | .dequeue _ _ :: log => (line log).tail
  | .requestBuffers _ _ _ :: _ => []
  | .streamOff _ _ :: _ => []
  | .closeDevice _ :: _ => []
  | _ :: log => line log

def fifo : Kernel where
  openDevice _ := .ok 3
  queryCap _ := .ok (capVideoCapture, 0)
  requestBuffers _ := .ok 4
  queryBuffer _ := .ok ⟨16, 0, [], Nat.zero_le _⟩
  map _ := .ok 4096
  control _ := .ok ()
  poll _ := .ok true
  dequeue log := match line log.tail with
    | [] => .error "Resource temporarily unavailable"
    | index :: _ => .ok ⟨index, 16, [], Nat.zero_le _⟩
  byte _ _ := 0
  errno _ := ""
  map_ne_null h := by cases h; decide

theorem queued_fifo (log : List Call) : (queued fifo log).Perm (line log) := by
  induction log with
  | nil => exact .nil
  | cons call log ih =>
    cases call with
    | enqueue fd type index => exact (ih.cons index).trans (List.perm_append_singleton index _).symm
    | dequeue fd type =>
      have hanswer : fifo.dequeue (.dequeue fd type :: log) = match line log with
        | [] => .error "Resource temporarily unavailable"
        | index :: _ => .ok ⟨index, 16, [], Nat.zero_le _⟩ := rfl
      rw [queued, hanswer]
      cases hline : line log with
      | nil =>
        rw [hline] at ih
        rw [line, hline]
        exact ih
      | cons index rest =>
        rw [hline] at ih
        rw [line, hline]
        have herase := ih.erase index
        rw [List.erase_cons_head] at herase
        exact herase
    | requestBuffers | streamOff | closeDevice => exact .nil
    | openDevice | queryCap | setFormat | setParm | queryBuffer | map | streamOn | unmap | poll | copy =>
      exact ih

theorem handsOut_fifo : HandsOut fifo := by
  intro log fd type buffer hanswer
  apply (queued_fifo log).symm.subset
  have hdequeue : fifo.dequeue (.dequeue fd type :: log) = match line log with
    | [] => .error "Resource temporarily unavailable"
    | index :: _ => .ok ⟨index, 16, [], Nat.zero_le _⟩ := rfl
  rw [hdequeue] at hanswer
  cases hline : line log with
  | nil =>
    rw [hline] at hanswer
    cases hanswer
  | cons index rest =>
    rw [hline] at hanswer
    cases hanswer
    exact List.mem_cons_self ..

def twoFrames : List (Request Unit) :=
  [.configure DriverConfigs.gmslDefaults, .readFrame 100, .readFrame 100]

/-- Two frames are read, and all buffers are in the queue again. -/
theorem serveAll_queue_fifo :
    (queued fifo (serveAll fifo {} twoFrames).1.log ++
      refused fifo (serveAll fifo {} twoFrames).1.log).Perm [0, 1, 2, 3] := by
  have hopen : (serveAll fifo {} twoFrames).1.fd ≠ none := by decide +kernel
  have hlength : (serveAll fifo {} twoFrames).1.buffers.length = 4 := by decide +kernel
  have hall := (serveAll_queue fifo handsOut_fifo twoFrames).2.1 hopen
  rw [hlength] at hall
  exact hall

end DeviceManager.V4l2Queue
