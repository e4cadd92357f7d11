import DeviceManager.Lockstep
import DeviceManager.OrdFrames

namespace DeviceManager.OrdNetwork

open Lockstep OrdFrames

/-- `Network` with the operations that its socket has outstanding. -/
structure Network where
  transmitMessageQueue : List (List UInt8)
  sending : Option (List UInt8)
  receiving : Bool
  receivePacketBuffer : List UInt8

/-- What the thread of the socket runs next: a message that was submitted, the end of a send, a
datagram or an error. -/
inductive Action where
  | dispatch (message : List UInt8)
  | transmitHandler
  | datagram (bytes : List UInt8)
  | receiveError

/-- What can be seen of a step; `fault` is a read in front of the buffer. -/
inductive Event where
  | asyncSend (message : List UInt8)
  | callback (message : List UInt8)
  | fault
  deriving DecidableEq

/-- `open` has asked for the first datagram. -/
def Network.create (buffer : List UInt8) : Network := ⟨[], none, true, buffer⟩

/-- The function that `TransmitSubmit` hands over. -/
def dispatch (s : Network) (message : List UInt8) : List Event × Network :=
  if s.transmitMessageQueue.isEmpty then
    ([.asyncSend message], { s with transmitMessageQueue := [message], sending := some message })
  else ([], { s with transmitMessageQueue := s.transmitMessageQueue ++ [message] })

/-- `TransmitHandler`; it does not look at its error. -/
def transmitHandler (s : Network) : List Event × Network :=
  if s.sending.isNone then ([], s)
  else
    match s.transmitMessageQueue.tail with
    | [] => ([], { s with transmitMessageQueue := [], sending := none })
    | message :: rest =>
      ([.asyncSend message],
        { s with transmitMessageQueue := message :: rest, sending := some message })

/-- `ReceiveHandler` with a datagram: it asks for the next one. -/
def datagram (s : Network) (bytes : List UInt8) : List Event × Network :=
  if s.receiving then
    match receiveHandler s.receivePacketBuffer bytes with
    | none => ([.fault], s)
    | some (delivered, buffer) =>
      (delivered.toList.map .callback, { s with receivePacketBuffer := buffer })
  else ([], s)

/-- `ReceiveHandler` with an error: it does not ask again. -/
def receiveError (s : Network) : List Event × Network := ([], { s with receiving := false })

def step (s : Network) : Action → List Event × Network
  | .dispatch message => dispatch s message
  | .transmitHandler => transmitHandler s
  | .datagram bytes => datagram s bytes
  | .receiveError => receiveError s

def submittedOf : Action → Option (List UInt8)
  | .dispatch message => some message
  | _ => none

def sentOf : Event → Option (List UInt8)
  | .asyncSend message => some message
  | _ => none

/-- One send is outstanding while there are messages, that of the first of them. -/
structure Pipeline (submitted : List (List UInt8)) (s : Network) (out : List Event) : Prop where
  order : out.filterMap sentOf ++ s.transmitMessageQueue.tail = submitted
  outstanding : s.sending = s.transmitMessageQueue.head?

/-- A datagram has nothing to do with the messages that leave. -/
theorem datagram_quiet (s : Network) (bytes : List UInt8) :
    (datagram s bytes).1.filterMap sentOf = [] ∧
      (datagram s bytes).2.transmitMessageQueue = s.transmitMessageQueue ∧
        (datagram s bytes).2.sending = s.sending := by
  unfold datagram
  by_cases hreceiving : s.receiving = true
  · rw [if_pos hreceiving]
    cases receiveHandler s.receivePacketBuffer bytes with
    | none => exact ⟨rfl, rfl, rfl⟩
    | some result =>
      obtain ⟨delivered, buffer⟩ := result
      cases delivered with
      | none => exact ⟨rfl, rfl, rfl⟩
      | some message => exact ⟨rfl, rfl, rfl⟩
  · rw [if_neg hreceiving]
    exact ⟨rfl, rfl, rfl⟩

theorem pipeline_step {submitted : List (List UInt8)} {s : Network} {out : List Event}
    (h : Pipeline submitted s out) (a : Action) :
    Pipeline (submitted ++ (submittedOf a).toList) (step s a).2 (out ++ (step s a).1) := by
  obtain ⟨horder, hsending⟩ := h
  cases a with
  | dispatch message =>
    change Pipeline (submitted ++ [message]) (dispatch s message).2 (out ++ (dispatch s message).1)
    unfold dispatch
    cases hqueue : s.transmitMessageQueue with
    | nil =>
      rw [hqueue, List.tail_nil, List.append_nil] at horder
      refine ⟨?_, rfl⟩
      change (out ++ [Event.asyncSend message]).filterMap sentOf ++ [] = _
      rw [List.filterMap_append, horder, List.append_nil]
      rfl
    | cons first rest =>
      rw [hqueue] at horder hsending
      refine ⟨?_, hsending⟩
      change (out ++ []).filterMap sentOf ++ (rest ++ [message]) = _
      rw [List.append_nil, ← List.append_assoc, ← horder]
      rfl
  | transmitHandler =>
    change Pipeline (submitted ++ []) (transmitHandler s).2 (out ++ (transmitHandler s).1)
    rw [List.append_nil]
    unfold transmitHandler
    by_cases hidle : s.sending.isNone = true
    · rw [if_pos hidle, List.append_nil]
      exact ⟨horder, hsending⟩
    · rw [if_neg hidle]
      cases htail : s.transmitMessageQueue.tail with
      | nil =>
        refine ⟨?_, rfl⟩
        rw [htail] at horder
        rw [List.append_nil]
        exact horder
      | cons message rest =>
        refine ⟨?_, rfl⟩
        rw [htail] at horder
        change (out ++ [Event.asyncSend message]).filterMap sentOf ++ rest = _
        rw [List.filterMap_append, List.append_assoc, ← horder]
        rfl
  | datagram bytes =>
    obtain ⟨hsent, hqueue, houtstanding⟩ := datagram_quiet s bytes
    change Pipeline (submitted ++ []) (datagram s bytes).2 (out ++ (datagram s bytes).1)
    rw [List.append_nil]
    refine ⟨?_, ?_⟩
    · rw [List.filterMap_append, hsent, hqueue, List.append_nil]
      exact horder
    · rw [houtstanding, hqueue]
      exact hsending
  | receiveError =>
    change Pipeline (submitted ++ []) { s with receiving := false } (out ++ [])
    rw [List.append_nil, List.append_nil]
    exact ⟨horder, hsending⟩

theorem pipeline_run (buffer : List UInt8) (actions : List Action) :
    Pipeline (actions.filterMap submittedOf) (play step (.create buffer) actions).2
      (play step (.create buffer) actions).1 := by
  induction actions using List.reverseRecOn with
  | nil => exact ⟨rfl, rfl⟩
  | append_singleton actions a ih =>
    have hstep := pipeline_step ih a
    have hsubmitted : (actions ++ [a]).filterMap submittedOf =
        actions.filterMap submittedOf ++ (submittedOf a).toList := by
      rw [List.filterMap_append]
      cases a with
      | dispatch message => rfl
      | transmitHandler => rfl
      | datagram bytes => rfl
      | receiveError => rfl
    rw [hsubmitted, play_append, play_cons, play_nil, List.append_nil]
    exact hstep

def callbackOf : Event → Option (List UInt8)
  | .callback message => some message
  | _ => none

def datagramOf : Action → Option (List UInt8)
  | .datagram bytes => some bytes
  | _ => none

def isError : Action → Bool
  | .receiveError => true
  | _ => false

def heard (actions : List Action) : List (List UInt8) :=
  (actions.takeWhile fun a => !isError a).filterMap datagramOf

def long (bytes : List UInt8) : Bool := decide (kHeadSize ≤ bytes.length)

def genuine (bytes : List UInt8) : Bool := long bytes && passes bytes bytes.length

theorem passes_append {bytes : List UInt8} (h : kHeadSize ≤ bytes.length) (stale : List UInt8) :
    passes (bytes ++ stale) bytes.length = passes bytes bytes.length := by
  rw [kHeadSize] at h
  have hget : ∀ i, i < bytes.length → (bytes ++ stale).getD i 0 = bytes.getD i 0 := fun i hi =>
    List.getD_append _ _ _ _ hi
  have hread : BigEndian.read32 (bytes ++ stale) (bytes.length - 4) =
      BigEndian.read32 bytes (bytes.length - 4) := by
    unfold BigEndian.read32
    rw [hget _ (by omega), hget _ (by omega), hget _ (by omega), hget _ (by omega)]
  have hsize : BigEndian.read16 (bytes ++ stale) 6 = BigEndian.read16 bytes 6 := by
    unfold BigEndian.read16
    rw [hget _ (by omega), hget _ (by omega)]
  unfold passes
  rw [hget 2 (by omega), hread, hsize, List.take_append_of_le_length (by omega),
    List.take_append_of_le_length (by omega)]

theorem datagram_receiving (s : Network) (bytes : List UInt8) :
    (datagram s bytes).2.receiving = s.receiving := by
  unfold datagram
  cases hreceiving : s.receiving with
  | false => exact hreceiving
  | true =>
    rw [if_pos rfl]
    cases receiveHandler s.receivePacketBuffer bytes with
    | none => exact hreceiving
    | some result => rfl

theorem datagram_callbacks (s : Network) (bytes : List UInt8) :
    ((datagram s bytes).1.filterMap callbackOf).filter long =
      if s.receiving then [bytes].filter genuine else [] := by
  unfold datagram
  by_cases hreceiving : s.receiving = true
  · rw [if_pos hreceiving, if_pos hreceiving]
    unfold receiveHandler
    by_cases hshort : bytes.length < 4
    · have hgenuine : genuine bytes = false := by
        rw [genuine, long, kHeadSize, decide_eq_false (by omega), Bool.false_and]
      rw [if_pos hshort, List.filter_cons_of_neg (by rw [hgenuine]; decide)]
      rfl
    · rw [if_neg hshort]
      by_cases hlong : kHeadSize ≤ bytes.length
      · have hgenuine : genuine bytes = passes bytes bytes.length := by
          rw [genuine, long, decide_eq_true hlong, Bool.true_and]
        change ((if passes (bytes ++ s.receivePacketBuffer.drop bytes.length) bytes.length = true
          then some bytes else none).toList.map Event.callback |>.filterMap callbackOf).filter _ = _
        rw [passes_append hlong]
        cases hpasses : passes bytes bytes.length with
        | true =>
          rw [List.filter_cons_of_pos (by rw [hgenuine, hpasses])]
          exact List.filter_cons_of_pos (decide_eq_true hlong)
        | false =>
          rw [List.filter_cons_of_neg (by rw [hgenuine, hpasses]; decide)]
          rfl
      · have hgenuine : genuine bytes = false := by
          rw [genuine, long, decide_eq_false hlong, Bool.false_and]
        rw [List.filter_cons_of_neg (by rw [hgenuine]; decide)]
        change ((if passes (bytes ++ s.receivePacketBuffer.drop bytes.length) bytes.length = true
          then some bytes else none).toList.map Event.callback |>.filterMap callbackOf).filter _ = _
        cases passes (bytes ++ s.receivePacketBuffer.drop bytes.length) bytes.length with
        | true => exact List.filter_cons_of_neg (by rw [long, decide_eq_false hlong]; decide)
        | false => rfl
  · rw [if_neg hreceiving, if_neg hreceiving]
    rfl

theorem datagram_sublist (s : Network) (bytes : List UInt8) :
    ((datagram s bytes).1.filterMap callbackOf).Sublist (if s.receiving then [bytes] else []) := by
  unfold datagram
  by_cases hreceiving : s.receiving = true
  · rw [if_pos hreceiving, if_pos hreceiving]
    unfold receiveHandler
    by_cases hshort : bytes.length < 4
    · rw [if_pos hshort]
      exact List.nil_sublist _
    · rw [if_neg hshort]
      cases passes (bytes ++ s.receivePacketBuffer.drop bytes.length) bytes.length with
      | true => exact List.Sublist.refl _
      | false => exact List.nil_sublist _
  · rw [if_neg hreceiving]
    exact List.nil_sublist _

/-- What has been handed on are datagrams before the first error, and of those with a whole head what
was genuine. -/
structure Hears (actions : List Action) (s : Network) (out : List Event) : Prop where
  receiving : s.receiving = !actions.any isError
  sublist : (out.filterMap callbackOf).Sublist (heard actions)
  callbacks : (out.filterMap callbackOf).filter long = (heard actions).filter genuine

theorem heard_cons (a : Action) (actions : List Action) : heard (a :: actions) =
    if isError a then [] else (datagramOf a).toList ++ heard actions := by
  cases a with
  | dispatch message => rfl
  | transmitHandler => rfl
  | datagram bytes => rfl
  | receiveError => rfl

theorem heard_snoc (actions : List Action) (a : Action) : heard (actions ++ [a]) =
    heard actions ++ if actions.any isError then [] else (datagramOf a).toList := by
  induction actions with
  | nil =>
    rw [List.nil_append, heard_cons]
    cases a with
    | dispatch message => rfl
    | transmitHandler => rfl
    | datagram bytes => rfl
    | receiveError => rfl
  | cons b actions ih =>
    rw [List.cons_append, heard_cons, heard_cons, ih, List.any_cons]
    cases isError b with
    | true => rfl
    | false => exact (List.append_assoc ..).symm

theorem callbacks_silent (s : Network) {a : Action} (h : datagramOf a = none) :
    (step s a).1.filterMap callbackOf = [] := by
  cases a with
  | dispatch message =>
    change (dispatch s message).1.filterMap callbackOf = []
    unfold dispatch
    split <;> rfl
  | transmitHandler =>
    change (transmitHandler s).1.filterMap callbackOf = []
    unfold transmitHandler
    split
    · rfl
    · split <;> rfl
  | datagram bytes => cases h
  | receiveError => rfl

theorem datagram_or_silent (a : Action) :
    (∃ bytes, a = .datagram bytes) ∨ datagramOf a = none := by
  cases a with
  | dispatch message => exact Or.inr rfl
  | transmitHandler => exact Or.inr rfl
  | datagram bytes => exact Or.inl ⟨bytes, rfl⟩
  | receiveError => exact Or.inr rfl

theorem receiving_step (s : Network) (a : Action) :
    (step s a).2.receiving = (s.receiving && !isError a) := by
  cases a with
  | dispatch message =>
    change (dispatch s message).2.receiving = (s.receiving && true)
    rw [Bool.and_true]
    unfold dispatch
    split <;> rfl
  | transmitHandler =>
    change (transmitHandler s).2.receiving = (s.receiving && true)
    rw [Bool.and_true]
    unfold transmitHandler
    split
    · rfl
    · split <;> rfl
  | datagram bytes =>
    change (datagram s bytes).2.receiving = (s.receiving && true)
    rw [datagram_receiving, Bool.and_true]
  | receiveError => exact (Bool.and_false _).symm

theorem hears_step {actions : List Action} {s : Network} {out : List Event}
    (h : Hears actions s out) (a : Action) :
    Hears (actions ++ [a]) (step s a).2 (out ++ (step s a).1) := by
  obtain ⟨hreceiving, hsublist, hcallbacks⟩ := h
  constructor
  · rw [receiving_step, hreceiving, List.any_append, List.any_cons, List.any_nil, Bool.or_false,
      Bool.not_or]
  · rw [List.filterMap_append, heard_snoc]
    refine hsublist.append ?_
    rcases datagram_or_silent a with ⟨bytes, rfl⟩ | hsilent
    · have hone := datagram_sublist s bytes
      rw [hreceiving] at hone
      cases hany : actions.any isError with
      | true =>
        rw [hany] at hone
        exact hone
      | false =>
        rw [hany] at hone
        exact hone
    · rw [callbacks_silent s hsilent]
      exact List.nil_sublist _
  · rw [List.filterMap_append, List.filter_append, hcallbacks, heard_snoc, List.filter_append]
    apply congrArg (List.filter genuine (heard actions) ++ ·)
    rcases datagram_or_silent a with ⟨bytes, rfl⟩ | hsilent
    · change ((datagram s bytes).1.filterMap callbackOf).filter long = _
      rw [datagram_callbacks, hreceiving]
      cases actions.any isError with
      | true => rfl
      | false => rfl
    · rw [callbacks_silent s hsilent, hsilent, Option.toList_none, ite_self]
      rfl

theorem hears_run (buffer : List UInt8) (actions : List Action) :
    Hears actions (play step (.create buffer) actions).2 (play step (.create buffer) actions).1 := by
  induction actions using List.reverseRecOn with
  | nil => exact ⟨rfl, List.Sublist.refl _, rfl⟩
  | append_singleton actions a ih =>
    have hstep := hears_step ih a
    rw [play_append, play_cons, play_nil, List.append_nil]
    exact hstep

/-- In every run the messages leave in the order in which they were submitted, one at a time. What is
handed on are datagrams before the first error, each at most once and in order, and of those with a
whole head exactly those that pass the check: nothing is handed on after an error. -/
theorem network_run (buffer : List UInt8) (actions : List Action) :
    let network := (play step (.create buffer) actions).2
    let events := (play step (.create buffer) actions).1
    (events.filterMap sentOf ++ network.transmitMessageQueue.tail =
        actions.filterMap submittedOf ∧
      network.sending = network.transmitMessageQueue.head?) ∧
      (events.filterMap callbackOf).Sublist (heard actions) ∧
        (events.filterMap callbackOf).filter long = (heard actions).filter genuine := by
  have hpipeline := pipeline_run buffer actions
  have hhears := hears_run buffer actions
  exact ⟨⟨hpipeline.order, hpipeline.outstanding⟩, hhears.sublist, hhears.callbacks⟩

end DeviceManager.OrdNetwork
