import DeviceManager.DropOldest
import DeviceManager.History
import DeviceManager.Lockstep
import DeviceManager.OrdFrames

namespace DeviceManager.OrdSession

open BigEndian DropOldest History Lockstep OrdFrames

variable {ι : Type} [DecidableEq ι]

def kScanBlockBufferingCount : Nat := 32

/-- `Impl` and the threads that call it. `generated` holds the frames that have been built and not
yet submitted, `holder` the call that holds `command_mutex_` and waits for its answer. -/
structure Impl (ι : Type) where
  timeout : Int32
  currentCommand : UInt16
  responseQueue : List (List UInt8)
  scanBlockQueue : List (List UInt8)
  generated : ι → Option (UInt16 × List UInt8)
  holder : Option (ι × UInt16)

/-- What a thread of the host or the thread of the socket does next. -/
inductive Action (ι : Type) where
  | generate (t : ι) (ctrlCommand : UInt16) (content : List UInt8)
  | submit (t : ι)
  | wake
  | expire
  | receive (message : List UInt8)
  | take

/-- What can be seen of a step. A call that returns nothing has timed out; `fault` is a read behind
the end of a message. -/
inductive Event (ι : Type) where
  | generated (t : ι) (command : UInt16)
  | submitted (t : ι) (request : List UInt8)
  | returned (t : ι) (command : UInt16) (answer : Option (List UInt8))
  | accepted (message : List UInt8)
  | buffered (message : List UInt8)
  | taken (message : List UInt8)
  | fault

/-- `current_command_` is not initialised. -/
def Impl.create (timeout : Int32) (currentCommand : UInt16) : Impl ι :=
  ⟨timeout, currentCommand, [], [], fun _ => none, none⟩

def respcomm (message : List UInt8) : UInt16 := read16 message 6

/-- The condition of `wait_for` with the message it finds. The queue never holds a second message,
and on one message `remove_if` without an `erase` does nothing. -/
def Impl.ready (s : Impl ι) : Option (List UInt8) :=
  match s.responseQueue with
  | [] => none
  | message :: _ => if respcomm message = s.currentCommand then some message else none

/-- `GnerateProtocolFrame` in a thread that is not in a call. -/
def generate (s : Impl ι) (t : ι) (ctrlCommand : UInt16) (content : List UInt8) :
    List (Event ι) × Impl ι :=
  if (s.generated t).isSome ∨ s.holder.map Prod.fst = some t then ([], s)
  else
    ([.generated t ctrlCommand], { s with
      currentCommand := ctrlCommand
      generated := Function.update s.generated t
        (some (ctrlCommand, gnerateProtocolFrame ctrlCommand content)) })

def Impl.leave (s : Impl ι) (t : ι) (command : UInt16) (answer : Option (List UInt8)) :
    List (Event ι) × Impl ι :=
  ([.returned t command answer], { s with holder := none })

/-- `DealProtocolData` up to its first look at the queue; the lock of the queue is not released
before. -/
def submit (s : Impl ι) (t : ι) : List (Event ι) × Impl ι :=
  match s.generated t with
  | none => ([], s)
  | some (command, request) =>
    let called := { s with generated := Function.update s.generated t none }
    if s.timeout = 0 then ([.returned t command none], called)
    else if s.holder.isSome then ([], s)
    else
      match s.ready with
      | some message =>
        ([.submitted t request, .returned t command (some message)], called)
      | none => ([.submitted t request], { called with holder := some (t, command) })

/-- A notification, or a spurious one. -/
def wake (s : Impl ι) : List (Event ι) × Impl ι :=
  match s.holder, s.ready with
  | some (t, command), some message => s.leave t command (some message)
  | _, _ => ([], s)

/-- The end of the time: `wait_for` looks at the queue once more. -/
def expire (s : Impl ι) : List (Event ι) × Impl ι :=
  match s.holder with
  | some (t, command) => s.leave t command s.ready
  | none => ([], s)

/-- `SortingMessage`. -/
def sortingMessage (s : Impl ι) (message : List UInt8) : List (Event ι) × Impl ι :=
  if message.getD 2 0 = 0x00 then
    if message.length < kHeadSize then ([.fault], s)
    else if respcomm message = s.currentCommand then
      ([.accepted message], { s with responseQueue := [message] })
    else ([], s)
  else if message.getD 2 0 = 0x01 then
    ([.buffered message],
      { s with scanBlockQueue := push kScanBlockBufferingCount s.scanBlockQueue message })
  else ([], s)

/-- `waitScanData` when it finds a block. -/
def take (s : Impl ι) : List (Event ι) × Impl ι :=
  match s.scanBlockQueue with
  | [] => ([], s)
  | message :: rest =>
    if s.timeout = 0 then ([], s) else ([.taken message], { s with scanBlockQueue := rest })

def step (s : Impl ι) : Action ι → List (Event ι) × Impl ι
  | .generate t ctrlCommand content => generate s t ctrlCommand content
  | .submit t => submit s t
  | .wake => wake s
  | .expire => expire s
  | .receive message => sortingMessage s message
  | .take => take s

def trace (timeout : Int32) (initial : UInt16) (actions : List (Action ι)) : List (Event ι) :=
  (play step (.create timeout initial) actions).1.reverse

def generatedOf : Event ι → Option UInt16
  | .generated _ command => some command
  | _ => none

def acceptedOf : Event ι → Option (List UInt8)
  | .accepted message => some message
  | _ => none

def ownOf (t : ι) : Event ι → Option UInt16
  | .generated u command => if u = t then some command else none
  | _ => none

/-- The command of the last frame that any thread has built. -/
def lastGenerated (initial : UInt16) (h : List (Event ι)) : UInt16 :=
  (h.filterMap generatedOf).head?.getD initial

/-- The last response that has been let through. -/
def lastAccepted (h : List (Event ι)) : Option (List UInt8) := (h.filterMap acceptedOf).head?

/-- The command of the last frame of one thread. -/
def lastOwn (t : ι) (h : List (Event ι)) : Option UInt16 := (h.filterMap (ownOf t)).head?

def Answers (initial : UInt16) (h : List (Event ι)) (message : List UInt8) : Prop :=
  lastAccepted h = some message ∧ respcomm message = lastGenerated initial h

/-- A response is let through if it answers the last command of all, and a call returns the last
response let through if that answers the last command of all; else it has timed out. -/
def Honest (timeout : Int32) (initial : UInt16) : Event ι → List (Event ι) → Prop
  | .accepted message, h => respcomm message = lastGenerated initial h
  | .returned t command answer, h =>
    lastOwn t h = some command ∧
      ∀ message, answer = some message ↔ timeout ≠ 0 ∧ Answers initial h message
  | _, _ => True

/-- The state behind a history. -/
structure Follows (timeout : Int32) (initial : UInt16) (s : Impl ι) (h : List (Event ι)) :
    Prop where
  duration : s.timeout = timeout
  command : s.currentCommand = lastGenerated initial h
  responses : s.responseQueue = (lastAccepted h).toList
  built : ∀ t command request, s.generated t = some (command, request) →
    lastOwn t h = some command
  held : ∀ t command, s.holder = some (t, command) →
    timeout ≠ 0 ∧ lastOwn t h = some command
  honest : Always (Honest timeout initial) h

variable {timeout : Int32} {initial : UInt16} {s : Impl ι} {h : List (Event ι)}

theorem follows_create : Follows timeout initial (.create timeout initial : Impl ι) [] := by
  constructor
  · rfl
  · rfl
  · rfl
  · intro t command request hg
    cases hg
  · intro t command hh
    cases hh
  · exact always_nil _

theorem Follows.ready_iff (hf : Follows timeout initial s h) (message : List UInt8) :
    s.ready = some message ↔ Answers initial h message := by
  unfold Impl.ready Answers
  rw [hf.responses, hf.command]
  cases lastAccepted h with
  | none => simp
  | some last =>
    simp only [Option.toList_some, Option.some.injEq]
    constructor
    · intro hready
      split at hready
      · next hmatch =>
        obtain rfl := Option.some.inj hready
        exact ⟨rfl, hmatch⟩
      · cases hready
    · rintro ⟨rfl, hmatch⟩
      exact if_pos hmatch

def Quiet (e : Event ι) : Prop :=
  generatedOf e = none ∧ acceptedOf e = none ∧ ∀ t, ownOf t e = none

theorem lastGenerated_quiet {e : Event ι} (he : Quiet e) :
    lastGenerated initial (e :: h) = lastGenerated initial h := by
  rw [lastGenerated, List.filterMap_cons, he.1]
  rfl

theorem lastAccepted_quiet {e : Event ι} (he : Quiet e) : lastAccepted (e :: h) = lastAccepted h := by
  rw [lastAccepted, List.filterMap_cons, he.2.1]
  rfl

theorem lastOwn_quiet {e : Event ι} (he : Quiet e) (t : ι) : lastOwn t (e :: h) = lastOwn t h := by
  rw [lastOwn, List.filterMap_cons, he.2.2 t]
  rfl

theorem Follows.quiet (hf : Follows timeout initial s h) {e : Event ι} (he : Quiet e)
    (hhonest : Honest timeout initial e h) {s' : Impl ι}
    (hduration : s'.timeout = s.timeout) (hcommand : s'.currentCommand = s.currentCommand)
    (hresponses : s'.responseQueue = s.responseQueue)
    (hbuilt : ∀ t command request, s'.generated t = some (command, request) →
      s.generated t = some (command, request))
    (hheld : ∀ t command, s'.holder = some (t, command) →
      timeout ≠ 0 ∧ lastOwn t h = some command) : Follows timeout initial s' (e :: h) := by
  constructor
  · rw [hduration, hf.duration]
  · rw [hcommand, hf.command, lastGenerated_quiet he]
  · rw [hresponses, hf.responses, lastAccepted_quiet he]
  · intro t command request hg
    rw [lastOwn_quiet he]
    exact hf.built t command request (hbuilt t command request hg)
  · intro t command hh
    rw [lastOwn_quiet he]
    exact hheld t command hh
  · exact (always_cons _ _ _).mpr ⟨hhonest, hf.honest⟩

theorem follows_generate (hf : Follows timeout initial s h) (t : ι) (ctrlCommand : UInt16)
    (content : List UInt8) :
    Follows timeout initial (generate s t ctrlCommand content).2
      ((generate s t ctrlCommand content).1.reverse ++ h) := by
  unfold generate
  by_cases hbusy : (s.generated t).isSome ∨ s.holder.map Prod.fst = some t
  · rw [if_pos hbusy]
    exact hf
  · rw [if_neg hbusy]
    obtain ⟨-, hholder⟩ := not_or.mp hbusy
    constructor
    · exact hf.duration
    · rfl
    · exact hf.responses
    · intro u command request hg
      change Function.update s.generated t _ u = some (command, request) at hg
      by_cases hu : u = t
      · subst hu
        rw [Function.update_self] at hg
        obtain ⟨rfl, -⟩ := Prod.mk.inj (Option.some.inj hg)
        simp [lastOwn, ownOf]
      · rw [Function.update_of_ne hu] at hg
        have hown := hf.built u command request hg
        simpa [lastOwn, ownOf, List.filterMap_cons, Ne.symm hu] using hown
    · intro u command hh
      have hne : t ≠ u := by
        rintro rfl
        exact hholder (by rw [hh]; rfl)
      obtain ⟨htimeout, hown⟩ := hf.held u command hh
      refine ⟨htimeout, ?_⟩
      simpa [lastOwn, ownOf, List.filterMap_cons, hne] using hown
    · exact (always_cons _ _ _).mpr ⟨trivial, hf.honest⟩

theorem follows_leave (hf : Follows timeout initial s h) {t : ι} {command : UInt16}
    (hholder : s.holder = some (t, command)) :
    Follows timeout initial (s.leave t command s.ready).2
      ((s.leave t command s.ready).1.reverse ++ h) := by
  obtain ⟨htimeout, hown⟩ := hf.held t command hholder
  have hhonest : Honest timeout initial (.returned t command s.ready) h :=
    ⟨hown, fun message => by
      rw [hf.ready_iff]
      exact ⟨fun hanswers => ⟨htimeout, hanswers⟩, And.right⟩⟩
  exact hf.quiet ⟨rfl, rfl, fun _ => rfl⟩ hhonest rfl rfl rfl (fun _ _ _ hg => hg)
    (fun _ _ hh => by cases hh)

theorem update_none {t u : ι} {generated : ι → Option (UInt16 × List UInt8)}
    {call : UInt16 × List UInt8} (h : Function.update generated t none u = some call) :
    generated u = some call := by
  by_cases hu : u = t
  · rw [hu, Function.update_self] at h
    cases h
  · rwa [Function.update_of_ne hu] at h

theorem follows_submit (hf : Follows timeout initial s h) (t : ι) :
    Follows timeout initial (submit s t).2 ((submit s t).1.reverse ++ h) := by
  unfold submit
  cases hgenerated : s.generated t with
  | none => exact hf
  | some built =>
    obtain ⟨command, request⟩ := built
    have hown := hf.built t command request hgenerated
    simp only
    by_cases hzero : s.timeout = 0
    · rw [if_pos hzero]
      rw [hf.duration] at hzero
      have hhonest : Honest timeout initial (.returned t command none) h :=
        ⟨hown, fun message => by simp [hzero]⟩
      exact hf.quiet ⟨rfl, rfl, fun _ => rfl⟩ hhonest rfl rfl rfl
        (fun _ _ _ => update_none) hf.held
    · rw [if_neg hzero]
      by_cases hheld : s.holder.isSome
      · rw [if_pos hheld]
        exact hf
      · rw [if_neg hheld]
        rw [hf.duration] at hzero
        have hfree : s.holder = none := by simpa using hheld
        have hquiet : Quiet (.submitted t request : Event ι) := ⟨rfl, rfl, fun _ => rfl⟩
        cases hready : s.ready with
        | none =>
          refine hf.quiet hquiet trivial rfl rfl rfl (fun _ _ _ => update_none) fun u c hh => ?_
          obtain ⟨rfl, rfl⟩ := Prod.mk.inj (Option.some.inj hh)
          exact ⟨hzero, hown⟩
        | some message =>
          have hsent : Follows timeout initial s (.submitted t request :: h) :=
            hf.quiet hquiet trivial rfl rfl rfl (fun _ _ _ hg => hg) hf.held
          have hhonest : Honest timeout initial (.returned t command (some message))
              (.submitted t request :: h) := by
            refine ⟨by rw [lastOwn_quiet hquiet, hown], fun other => ?_⟩
            rw [← hready, hsent.ready_iff]
            exact ⟨fun hanswers => ⟨hzero, hanswers⟩, And.right⟩
          exact hsent.quiet ⟨rfl, rfl, fun _ => rfl⟩ hhonest rfl rfl rfl
            (fun _ _ _ => update_none) hsent.held

theorem follows_sortingMessage (hf : Follows timeout initial s h) (message : List UInt8) :
    Follows timeout initial (sortingMessage s message).2
      ((sortingMessage s message).1.reverse ++ h) := by
  unfold sortingMessage
  split_ifs with hresponse hshort hmatch hscan
  · exact hf.quiet (e := .fault) ⟨rfl, rfl, fun _ => rfl⟩ trivial rfl rfl rfl
      (fun _ _ _ hg => hg) hf.held
  · constructor
    · exact hf.duration
    · exact hf.command
    · rfl
    · exact hf.built
    · exact hf.held
    · exact (always_cons _ _ _).mpr ⟨hmatch.trans hf.command, hf.honest⟩
  · exact hf
  · exact hf.quiet (e := .buffered message) ⟨rfl, rfl, fun _ => rfl⟩ trivial rfl rfl rfl
      (fun _ _ _ hg => hg) hf.held
  · exact hf

theorem follows_take (hf : Follows timeout initial s h) :
    Follows timeout initial (take s).2 ((take s).1.reverse ++ h) := by
  unfold take
  cases s.scanBlockQueue with
  | nil => exact hf
  | cons message rest =>
    by_cases hzero : s.timeout = 0
    · simp only [hzero, if_true]
      exact hf
    · simp only [hzero, if_false]
      exact hf.quiet (e := .taken message) ⟨rfl, rfl, fun _ => rfl⟩ trivial rfl rfl rfl
        (fun _ _ _ hg => hg) hf.held

theorem lastOwn_split {t : ι} {command : UInt16} (hown : lastOwn t h = some command) :
    ∃ since older, h = since ++ .generated t command :: older ∧ lastOwn t since = none := by
  induction h with
  | nil => cases hown
  | cons e h ih =>
    cases hone : ownOf t e with
    | none =>
      rw [lastOwn, List.filterMap_cons, hone] at hown
      obtain ⟨since, older, rfl, hnone⟩ := ih hown
      refine ⟨e :: since, older, rfl, ?_⟩
      rwa [lastOwn, List.filterMap_cons, hone]
    | some c =>
      rw [lastOwn, List.filterMap_cons, hone] at hown
      obtain rfl : c = command := Option.some.inj hown
      cases e with
      | generated u c' =>
        simp only [ownOf] at hone
        split_ifs at hone with hu
        obtain rfl := Option.some.inj hone
        exact ⟨[], h, by rw [hu]; rfl, rfl⟩
      | submitted u request => cases hone
      | returned u c' answer => cases hone
      | accepted message => cases hone
      | buffered message => cases hone
      | taken message => cases hone
      | fault => cases hone

omit [DecidableEq ι] in
theorem lastGenerated_split (t : ι) (command : UInt16) (since older : List (Event ι)) :
    lastGenerated initial (since ++ .generated t command :: older) = lastGenerated command since := by
  unfold lastGenerated
  rw [List.filterMap_append, List.filterMap_cons]
  cases since.filterMap generatedOf with
  | nil => rfl
  | cons c rest => rfl

/-- The events between the request of a call and its return: no other request and no other return. -/
def Within : Event ι → Prop
  | .submitted _ _ | .returned _ _ _ => False
  | _ => True

/-- A call returns at once a response that was there before its request. When none there answered, it
returns one that was let through since, unless another frame has been built, or it has timed out. -/
def Timely (timeout : Int32) (initial : UInt16) : Event ι → List (Event ι) → Prop
  | .returned t _ answer, h => timeout = 0 ∧ answer = none ∨
    ∃ since request older, h = since ++ .submitted t request :: older ∧ (∀ e ∈ since, Within e) ∧
      ((since = [] ∧ ∃ message, answer = some message ∧ Answers initial older message) ∨
        ((∀ other, ¬Answers initial older other) ∧ ∀ message, answer = some message →
          lastAccepted since = some message ∨ since.filterMap generatedOf ≠ []))
  | _, _ => True

structure Waits (timeout : Int32) (initial : UInt16) (s : Impl ι) (h : List (Event ι)) : Prop where
  follows : Follows timeout initial s h
  waiting : ∀ t command, s.holder = some (t, command) → ∃ since request older,
    h = since ++ .submitted t request :: older ∧ (∀ e ∈ since, Within e) ∧
      ∀ message, ¬Answers initial older message
  timely : Always (Timely timeout initial) h

omit [DecidableEq ι] in
theorem answers_since {since older : List (Event ι)} {t : ι} {request message : List UInt8}
    (hanswers : Answers initial (since ++ .submitted t request :: older) message)
    (hnone : ∀ other, ¬Answers initial older other) :
    lastAccepted since = some message ∨ since.filterMap generatedOf ≠ [] := by
  by_cases hgenerated : since.filterMap generatedOf = []
  · left
    obtain ⟨haccepted, hcommand⟩ := hanswers
    have hlast : lastGenerated initial (since ++ .submitted t request :: older) =
        lastGenerated initial older := by
      rw [lastGenerated, List.filterMap_append, hgenerated, List.nil_append, List.filterMap_cons]
      rfl
    rw [lastAccepted, List.filterMap_append] at haccepted
    cases hsince : since.filterMap acceptedOf with
    | nil =>
      rw [hsince, List.nil_append, List.filterMap_cons] at haccepted
      exact absurd ⟨haccepted, hcommand.trans hlast⟩ (hnone message)
    | cons first rest =>
      rw [hsince] at haccepted
      rw [lastAccepted, hsince]
      exact haccepted
  · exact Or.inr hgenerated

theorem Waits.cons (hw : Waits timeout initial s h) {e : Event ι} {s' : Impl ι}
    (hfollows : Follows timeout initial s' (e :: h)) (htimely : Timely timeout initial e h)
    (hholder : ∀ call, s'.holder = some call → s.holder = some call ∧ Within e) :
    Waits timeout initial s' (e :: h) := by
  refine ⟨hfollows, fun t command hh => ?_, (always_cons _ _ _).mpr ⟨htimely, hw.timely⟩⟩
  obtain ⟨hbefore, hwithin⟩ := hholder _ hh
  obtain ⟨since, request, older, rfl, hsince, hnone⟩ := hw.waiting t command hbefore
  exact ⟨e :: since, request, older, rfl, List.forall_mem_cons.mpr ⟨hwithin, hsince⟩, hnone⟩

theorem Waits.leave (hw : Waits timeout initial s h) {t : ι} {command : UInt16}
    (hholder : s.holder = some (t, command)) :
    Waits timeout initial (s.leave t command s.ready).2
      ((s.leave t command s.ready).1.reverse ++ h) := by
  refine hw.cons (follows_leave hw.follows hholder) ?_ fun call hh => by cases hh
  obtain ⟨since, request, older, rfl, hsince, hnone⟩ := hw.waiting t command hholder
  refine Or.inr ⟨since, request, older, rfl, hsince, Or.inr ⟨hnone, fun message hready => ?_⟩⟩
  exact answers_since ((hw.follows.ready_iff message).mp hready) hnone

theorem waits_submit (hw : Waits timeout initial s h) (t : ι) :
    Waits timeout initial (submit s t).2 ((submit s t).1.reverse ++ h) := by
  have hfollows := follows_submit hw.follows t
  unfold submit at hfollows ⊢
  cases hgenerated : s.generated t with
  | none => exact hw
  | some built =>
    obtain ⟨command, request⟩ := built
    rw [hgenerated] at hfollows
    simp only at hfollows ⊢
    by_cases hzero : s.timeout = 0
    · rw [if_pos hzero] at hfollows ⊢
      -- without a time nobody waits
      have hnever : timeout = 0 := hw.follows.duration.symm.trans hzero
      exact hw.cons hfollows (Or.inl ⟨hnever, rfl⟩) fun call hh =>
        absurd hnever (hw.follows.held call.1 call.2 hh).1
    · rw [if_neg hzero] at hfollows ⊢
      by_cases hheld : s.holder.isSome
      · rw [if_pos hheld]
        exact hw
      · rw [if_neg hheld] at hfollows ⊢
        have hfree : s.holder = none := by simpa using hheld
        cases hready : s.ready with
        | none =>
          rw [hready] at hfollows
          refine ⟨hfollows, fun u c hh => ⟨[], request, h, ?_, List.forall_mem_nil _,
            fun message hanswers => ?_⟩, (always_cons _ _ _).mpr ⟨trivial, hw.timely⟩⟩
          · obtain ⟨rfl, -⟩ := Prod.mk.inj (Option.some.inj hh)
            rfl
          · rw [(hw.follows.ready_iff message).mpr hanswers] at hready
            cases hready
        | some message =>
          rw [hready] at hfollows
          have hanswers := (hw.follows.ready_iff message).mp hready
          refine ⟨hfollows, fun u c hh => ?_, ?_⟩
          · rw [hfree] at hh
            cases hh
          · refine (always_cons _ _ _).mpr ⟨?_, (always_cons _ _ _).mpr ⟨trivial, hw.timely⟩⟩
            exact Or.inr ⟨[], request, h, rfl, List.forall_mem_nil _,
              Or.inl ⟨rfl, message, rfl, hanswers⟩⟩

theorem waits_generate (hw : Waits timeout initial s h) (t : ι) (ctrlCommand : UInt16)
    (content : List UInt8) :
    Waits timeout initial (generate s t ctrlCommand content).2
      ((generate s t ctrlCommand content).1.reverse ++ h) := by
  have hfollows := follows_generate hw.follows t ctrlCommand content
  unfold generate at hfollows ⊢
  split_ifs at hfollows ⊢
  · exact hw
  · exact hw.cons hfollows trivial fun _ hh => ⟨hh, trivial⟩

theorem waits_wake (hw : Waits timeout initial s h) :
    Waits timeout initial (wake s).2 ((wake s).1.reverse ++ h) := by
  unfold wake
  cases hholder : s.holder with
  | none => exact hw
  | some call =>
    cases hready : s.ready with
    | none => exact hw
    | some message =>
      have hleave := hw.leave hholder
      rw [hready] at hleave
      exact hleave

theorem waits_expire (hw : Waits timeout initial s h) :
    Waits timeout initial (expire s).2 ((expire s).1.reverse ++ h) := by
  unfold expire
  cases hholder : s.holder with
  | none => exact hw
  | some call => exact hw.leave hholder

theorem waits_sortingMessage (hw : Waits timeout initial s h) (message : List UInt8) :
    Waits timeout initial (sortingMessage s message).2
      ((sortingMessage s message).1.reverse ++ h) := by
  have hfollows := follows_sortingMessage hw.follows message
  unfold sortingMessage at hfollows ⊢
  split_ifs at hfollows ⊢
  · exact hw.cons hfollows trivial fun _ hh => ⟨hh, trivial⟩
  · exact hw.cons hfollows trivial fun _ hh => ⟨hh, trivial⟩
  · exact hw
  · exact hw.cons hfollows trivial fun _ hh => ⟨hh, trivial⟩
  · exact hw

theorem waits_take (hw : Waits timeout initial s h) :
    Waits timeout initial (take s).2 ((take s).1.reverse ++ h) := by
  have hfollows := follows_take hw.follows
  unfold take at hfollows ⊢
  cases hqueue : s.scanBlockQueue with
  | nil => exact hw
  | cons message rest =>
    rw [hqueue] at hfollows
    simp only at hfollows ⊢
    split_ifs at hfollows ⊢
    · exact hw
    · exact hw.cons hfollows trivial fun _ hh => ⟨hh, trivial⟩

theorem waits_step (hw : Waits timeout initial s h) (a : Action ι) :
    Waits timeout initial (step s a).2 ((step s a).1.reverse ++ h) := by
  cases a with
  | generate t ctrlCommand content => exact waits_generate hw t ctrlCommand content
  | submit t => exact waits_submit hw t
  | wake => exact waits_wake hw
  | expire => exact waits_expire hw
  | receive message => exact waits_sortingMessage hw message
  | take => exact waits_take hw

theorem waits_create : Waits timeout initial (.create timeout initial : Impl ι) [] :=
  ⟨follows_create, fun _ _ hh => (by cases hh), always_nil _⟩

theorem waits_run (timeout : Int32) (initial : UInt16) (actions : List (Action ι)) :
    Waits timeout initial (play step (.create timeout initial) actions).2
      (trace timeout initial actions) := by
  have hrun := @play_invariant _ _ _ step
    (fun (s : Impl ι) out => Waits timeout initial s out.reverse) actions
    (fun s out hw a _ => by
      rw [List.reverse_append]
      exact waits_step hw a) (.create timeout initial) [] waits_create
  rwa [List.nil_append] at hrun

/-- In every interleaving of any number of threads with the network, a call returns the last
response let through, if that answers the last command built since by any thread, else its own; and
where it does, the call does not time out. -/
theorem returned_run (timeout : Int32) (initial : UInt16) (actions : List (Action ι)) {t : ι}
    {command : UInt16} {answer : Option (List UInt8)}
    {older : List (Event ι)}
    (h : .returned t command answer :: older <:+ trace timeout initial actions) :
    ∃ since older', older = since ++ .generated t command :: older' ∧ lastOwn t since = none ∧
      ∀ message, answer = some message ↔ timeout ≠ 0 ∧ lastAccepted older = some message ∧
        respcomm message = lastGenerated command since := by
  have hhonest := (always_iff _ _).mp (waits_run timeout initial actions).follows.honest _ _ h
  obtain ⟨hown, hanswer⟩ := hhonest
  obtain ⟨since, older', rfl, hnone⟩ := lastOwn_split hown
  refine ⟨since, older', rfl, hnone, fun message => ?_⟩
  rw [hanswer, Answers, lastGenerated_split]

/-- An answer to `trackConnect`. -/
def connectAnswer : List UInt8 := be16 16 ++ [0, 0, 1, 8] ++ be16 0x0108 ++ be32 0

def repeatedActions : List (Action Unit) :=
  [.generate () 0x0108 [], .submit (), .receive connectAnswer, .wake,
    .generate () 0x0108 [], .submit ()]

theorem returned_run_repeated :
    ∃ since older', (trace 3000 0 repeatedActions).tail =
        since ++ .generated () 0x0108 :: older' ∧ lastOwn () since = none ∧
      ∀ message, some connectAnswer = some message ↔ (3000 : Int32) ≠ 0 ∧
        lastAccepted (trace 3000 0 repeatedActions).tail = some message ∧
          respcomm message = lastGenerated 0x0108 since :=
  returned_run 3000 0 repeatedActions ⟨[], by rfl⟩

/-- A call takes an answer that was there before its own request exactly when there was one; only
another frame that is built while it waits can bring an old answer back. -/
theorem returned_timely (timeout : Int32) (initial : UInt16) (actions : List (Action ι)) :
    Always (Timely timeout initial) (trace timeout initial actions) :=
  (waits_run timeout initial actions).timely

def bufferedOf : Event ι → Option (List UInt8)
  | .buffered message => some message
  | _ => none

def takenOf : Event ι → Option (List UInt8)
  | .taken message => some message
  | _ => none

def arrivalOf : Action ι → Option (List UInt8)
  | .receive message => if message.getD 2 0 = 0x01 then some message else none
  | _ => none

/-- The messages with scan data, in the order in which the network hands them over. -/
def arrivals (actions : List (Action ι)) : List (List UInt8) := actions.filterMap arrivalOf

def buffered (h : List (Event ι)) : List (List UInt8) := (h.filterMap bufferedOf).reverse

def taken (h : List (Event ι)) : List (List UInt8) := (h.filterMap takenOf).reverse

/-- The reader has never been more than the size of the queue behind. -/
def KeptUp (h : List (Event ι)) : Prop :=
  ∀ older, older <:+ h → (buffered older).length ≤ (taken older).length + kScanBlockBufferingCount

def Streams (s : Impl ι) (h : List (Event ι)) : Prop :=
  Window kScanBlockBufferingCount (KeptUp h) (buffered h) (taken h) s.scanBlockQueue

omit [DecidableEq ι] in
theorem keptUp_tail {e : Event ι} (hk : KeptUp (e :: h)) : KeptUp h := fun older holder =>
  hk older (holder.trans (List.suffix_cons e h))

omit [DecidableEq ι] in
theorem Streams.other (hs : Streams s h) {e : Event ι} {s' : Impl ι}
    (hbuffered : bufferedOf e = none) (htaken : takenOf e = none)
    (hqueue : s'.scanBlockQueue = s.scanBlockQueue) : Streams s' (e :: h) := by
  have hb : buffered (e :: h) = buffered h := by
    rw [buffered, List.filterMap_cons, hbuffered]
    rfl
  have ht : taken (e :: h) = taken h := by
    rw [taken, List.filterMap_cons, htaken]
    rfl
  rw [Streams, hb, ht, hqueue]
  exact Window.mono hs keptUp_tail

omit [DecidableEq ι] in
theorem streams_sortingMessage (hs : Streams s h) (message : List UInt8) :
    Streams (sortingMessage s message).2 ((sortingMessage s message).1.reverse ++ h) := by
  unfold sortingMessage
  split_ifs
  · exact hs.other rfl rfl rfl
  · exact hs.other rfl rfl rfl
  · exact hs
  · have hb : buffered (.buffered message :: h) = buffered h ++ [message] := by
      rw [buffered, List.filterMap_cons]
      exact List.reverse_cons
    change Window _ (KeptUp (.buffered message :: h)) (buffered (.buffered message :: h)) (taken h) _
    rw [hb]
    refine Window.push hs (by decide) message fun hk => ⟨keptUp_tail hk, fun hfull => ?_⟩
    have hall := congrArg List.length (Window.all hs (keptUp_tail hk))
    have hcount := hk _ (List.suffix_refl _)
    change (buffered (.buffered message :: h)).length ≤ (taken h).length + _ at hcount
    rw [hb, List.length_append, List.length_singleton] at hcount
    rw [List.length_append] at hall
    omega
  · exact hs

omit [DecidableEq ι] in
theorem streams_take (hs : Streams s h) :
    Streams (take s).2 ((take s).1.reverse ++ h) := by
  unfold take
  cases hqueue : s.scanBlockQueue with
  | nil => exact hs
  | cons message rest =>
    simp only
    split_ifs
    · exact hs
    · have ht : taken (.taken message :: h) = taken h ++ [message] := by
        rw [taken, List.filterMap_cons]
        exact List.reverse_cons
      change Window _ (KeptUp (.taken message :: h)) (buffered h) (taken (.taken message :: h)) _
      unfold Streams at hs
      rw [hqueue] at hs
      rw [ht]
      exact hs.pop.mono keptUp_tail

theorem streams_submit (hs : Streams s h) (t : ι) :
    Streams (submit s t).2 ((submit s t).1.reverse ++ h) := by
  unfold submit
  cases s.generated t with
  | none => exact hs
  | some built =>
    simp only
    split_ifs
    · exact hs.other rfl rfl rfl
    · exact hs
    · cases s.ready with
      | none => exact hs.other rfl rfl rfl
      | some message =>
        have hsent : Streams s (.submitted t built.2 :: h) := hs.other rfl rfl rfl
        exact hsent.other rfl rfl rfl

theorem streams_step (hs : Streams s h) (a : Action ι) :
    Streams (step s a).2 ((step s a).1.reverse ++ h) := by
  cases a with
  | generate t ctrlCommand content =>
    change Streams (generate s t ctrlCommand content).2
      ((generate s t ctrlCommand content).1.reverse ++ h)
    unfold generate
    split_ifs
    · exact hs
    · exact hs.other rfl rfl rfl
  | submit t => exact streams_submit hs t
  | wake =>
    change Streams (wake s).2 ((wake s).1.reverse ++ h)
    unfold wake
    cases s.holder with
    | none => exact hs
    | some call =>
      cases s.ready with
      | none => exact hs
      | some message => exact hs.other rfl rfl rfl
  | expire =>
    change Streams (expire s).2 ((expire s).1.reverse ++ h)
    unfold expire
    cases s.holder with
    | none => exact hs
    | some call => exact hs.other rfl rfl rfl
  | receive message => exact streams_sortingMessage hs message
  | take => exact streams_take hs

theorem streams_play (timeout : Int32) (initial : UInt16) (actions : List (Action ι)) :
    Streams (play step (.create timeout initial) actions).2 (trace timeout initial actions) := by
  have hrun := @play_invariant _ _ _ step
    (fun (s : Impl ι) out => Streams s out.reverse) actions
    (fun s out hs a _ => by
      rw [List.reverse_append]
      exact streams_step hs a) (.create timeout initial) []
    (window_nil kScanBlockBufferingCount (KeptUp []))
  rwa [List.nil_append] at hrun

omit [DecidableEq ι] in
theorem buffered_sortingMessage (s : Impl ι) (message : List UInt8) :
    (sortingMessage s message).1.filterMap bufferedOf =
      (arrivalOf (.receive message : Action ι)).toList := by
  unfold sortingMessage arrivalOf
  by_cases hresponse : message.getD 2 0 = 0x00
  · have hscan : message.getD 2 0 ≠ 0x01 := by
      rw [hresponse]
      decide
    dsimp only
    rw [if_pos hresponse, if_neg hscan]
    split_ifs
    · rfl
    · rfl
    · rfl
  · dsimp only
    rw [if_neg hresponse]
    split_ifs
    · rfl
    · rfl

theorem buffered_step (s : Impl ι) (a : Action ι) :
    (step s a).1.filterMap bufferedOf = (arrivalOf a).toList := by
  cases a with
  | generate t ctrlCommand content =>
    simp only [step, generate]
    split_ifs
    · rfl
    · rfl
  | submit t =>
    simp only [step, submit]
    cases s.generated t with
    | none => rfl
    | some built =>
      simp only
      split_ifs
      · rfl
      · rfl
      · cases s.ready with
        | none => rfl
        | some message => rfl
  | wake =>
    simp only [step, wake]
    cases s.holder with
    | none => rfl
    | some call =>
      cases s.ready with
      | none => rfl
      | some message => rfl
  | expire =>
    simp only [step, expire]
    cases s.holder with
    | none => rfl
    | some call => rfl
  | receive message => exact buffered_sortingMessage s message
  | take =>
    simp only [step, take]
    cases s.scanBlockQueue with
    | nil => rfl
    | cons message rest =>
      simp only
      split_ifs
      · rfl
      · rfl

/-- No message with scan data is left out, and none is put into the queue twice. -/
theorem buffered_trace (timeout : Int32) (initial : UInt16) (actions : List (Action ι)) :
    buffered (trace timeout initial actions) = arrivals actions := by
  have hplay : ∀ s : Impl ι, (play step s actions).1.filterMap bufferedOf = arrivals actions := by
    induction actions with
    | nil => exact fun _ => rfl
    | cons a actions ih =>
      intro s
      rw [play_cons, List.filterMap_append, buffered_step, ih]
      simp only [arrivals, List.filterMap_cons]
      cases arrivalOf a with
      | none => rfl
      | some message => rfl
  rw [buffered, trace, List.filterMap_reverse, List.reverse_reverse, hplay]

/-- Whatever the threads do, at most 32 blocks wait, and the reader gets blocks in the order in which
they arrived, none of them twice, and all of them if it is never more than 32 behind. -/
theorem taken_run (timeout : Int32) (initial : UInt16) (actions : List (Action ι)) :
    let impl := (play step (.create timeout initial) actions).2
    let events := trace timeout initial actions
    impl.scanBlockQueue.length ≤ kScanBlockBufferingCount ∧
      buffered events = arrivals actions ∧
      (taken events ++ impl.scanBlockQueue).Sublist (arrivals actions) ∧
      (KeptUp events → taken events ++ impl.scanBlockQueue = arrivals actions) := by
  have hstreams := streams_play timeout initial actions
  have harrivals := buffered_trace timeout initial actions
  exact ⟨hstreams.bounded, harrivals, harrivals ▸ hstreams.sublist,
    fun hkept => (hstreams.all hkept).trans harrivals⟩

end DeviceManager.OrdSession
