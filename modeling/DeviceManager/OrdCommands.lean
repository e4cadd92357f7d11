import DeviceManager.Mailbox
import DeviceManager.OrdSession

namespace DeviceManager.OrdCommands

open BigEndian Lockstep Mailbox OrdFrames OrdSession

variable {ι : Type} [DecidableEq ι]

/-- A call of a thread while no other thread calls: the answer that comes in time, if one comes, and
those that come after the call. -/
structure Turn (ι : Type) where
  thread : ι
  command : UInt16
  content : List UInt8
  answer : Option (List UInt8)
  late : List (List UInt8)

def Turn.exchange (turn : Turn ι) : Exchange UInt16 (List UInt8) :=
  ⟨turn.command, turn.answer, turn.late⟩

def Turn.actions (turn : Turn ι) : List (Action ι) :=
  [.generate turn.thread turn.command turn.content, .submit turn.thread] ++
    turn.answer.toList.map .receive ++ [.wake, .expire] ++ turn.late.map .receive

def Responds (command : UInt16) (message : List UInt8) : Prop :=
  message.getD 2 0 = 0 ∧ kHeadSize ≤ message.length ∧ respcomm message = command

def Turn.Answered (turn : Turn ι) : Prop :=
  ∀ message ∈ turn.answer.toList ++ turn.late, Responds turn.command message

def scanning : Action ι → Bool
  | .receive message => message.getD 2 0 != 0
  | .take => true
  | _ => false

def answerOf : Event ι → Option (Option (List UInt8))
  | .returned _ _ answer => some answer
  | _ => none

def Impl.commands (s : Impl ι) : Impl ι := { s with scanBlockQueue := [] }

def between (timeout : Int32) (command : UInt16) (last : Option (List UInt8)) : Impl ι :=
  ⟨timeout, command, last.toList, [], fun _ => none, none⟩

variable {timeout : Int32} {command : UInt16} {message : List UInt8}
  {last answer : Option (List UInt8)}

theorem step_scanning (s : Impl ι) (a : Action ι) (h : scanning a = true) :
    (step s a).1.filterMap answerOf = [] ∧
      Impl.commands (step s a).2 = Impl.commands s := by
  cases a with
  | generate t ctrlCommand content => cases h
  | submit t => cases h
  | wake => cases h
  | expire => cases h
  | receive message =>
    have htype : message.getD 2 0 ≠ 0 := by simpa [scanning] using h
    simp only [step, sortingMessage]
    rw [if_neg htype]
    split_ifs
    · exact ⟨rfl, rfl⟩
    · exact ⟨rfl, rfl⟩
  | take =>
    simp only [step, take]
    cases s.scanBlockQueue with
    | nil => exact ⟨rfl, rfl⟩
    | cons message rest =>
      simp only
      split_ifs
      · exact ⟨rfl, rfl⟩
      · exact ⟨rfl, rfl⟩

theorem step_commands (s : Impl ι) (a : Action ι) (h : scanning a = false) :
    step (Impl.commands s) a = ((step s a).1, Impl.commands (step s a).2) := by
  obtain ⟨timeout, current, responses, blocks, generated, holder⟩ := s
  dsimp only [Impl.commands]
  cases a with
  | generate t ctrlCommand content =>
    simp only [step, generate]
    by_cases hbusy : (generated t).isSome ∨ holder.map Prod.fst = some t
    · simp only [if_pos hbusy]
    · simp only [if_neg hbusy]
  | submit t =>
    simp only [step, submit, Impl.ready]
    cases generated t with
    | none => rfl
    | some built =>
      simp only
      by_cases hzero : timeout = 0
      · simp only [if_pos hzero]
      · by_cases hheld : holder.isSome = true
        · simp only [if_neg hzero, if_pos hheld]
        · simp only [if_neg hzero, if_neg hheld]
          cases responses with
          | nil => rfl
          | cons message rest =>
            simp only
            by_cases hmatch : respcomm message = current
            · simp only [if_pos hmatch]
            · simp only [if_neg hmatch]
  | wake =>
    simp only [step, wake, Impl.ready]
    cases holder with
    | none => rfl
    | some call =>
      cases responses with
      | nil => rfl
      | cons message rest =>
        simp only
        by_cases hmatch : respcomm message = current
        · simp only [if_pos hmatch, Impl.leave]
        · simp only [if_neg hmatch]
  | expire =>
    cases holder with
    | none => rfl
    | some call => rfl
  | receive message =>
    have htype : message.getD 2 0 = 0 := by simpa [scanning] using h
    simp only [step, sortingMessage, if_pos htype]
    by_cases hshort : message.length < kHeadSize
    · simp only [if_pos hshort]
    · by_cases hmatch : respcomm message = current
      · simp only [if_neg hshort, if_pos hmatch]
      · simp only [if_neg hshort, if_neg hmatch]
  | take => cases h

theorem step_receive (hresponds : Responds command message) :
    step (between timeout command last : Impl ι) (.receive message) =
      ([.accepted message], between timeout command (some message)) := by
  obtain ⟨htype, hlength, hcommand⟩ := hresponds
  simp only [step, sortingMessage, if_pos htype, if_neg (Nat.not_lt.mpr hlength)]
  exact if_pos hcommand

theorem play_receive {messages : List (List UInt8)}
    (hresponds : ∀ message ∈ messages, Responds command message) :
    play step (between timeout command last : Impl ι) (messages.map .receive) =
      (messages.map .accepted, between timeout command (messages.getLast?.or last)) := by
  induction messages generalizing last with
  | nil => rfl
  | cons message rest ih =>
    obtain ⟨hhere, hrest⟩ := List.forall_mem_cons.mp hresponds
    rw [List.map_cons, play_cons, step_receive hhere, ih hrest, List.getLast?_cons]
    cases rest.getLast? with
    | none => rfl
    | some m => rfl

def waiting (timeout : Int32) (t : ι) (command : UInt16) (last : Option (List UInt8)) : Impl ι :=
  { between timeout command last with holder := some (t, command) }

omit [DecidableEq ι] in
theorem ready_between : (between timeout command last : Impl ι).ready =
    if last.map respcomm = some command then last else none := by
  cases last with
  | none => rfl
  | some message =>
    simp only [Impl.ready, between, Option.toList_some, Option.map_some, Option.some.injEq]
    rfl

theorem generated_submit (t : ι) (built : UInt16 × List UInt8) :
    Function.update (Function.update (fun _ => none) t (some built)) t none =
      (fun _ => none : ι → Option (UInt16 × List UInt8)) := by
  rw [Function.update_idem]
  exact Function.update_eq_self t _

def building (timeout : Int32) (t : ι) (command : UInt16) (content : List UInt8)
    (last : Option (List UInt8)) : Impl ι :=
  { between timeout command last with
    generated := Function.update (fun _ => none) t
      (some (command, gnerateProtocolFrame command content)) }

theorem generate_between (t : ι) (previous : UInt16) (content : List UInt8) :
    generate (between timeout previous last) t command content =
      ([.generated t command], building timeout t command content last) := by
  rw [generate, if_neg (by simp [between])]
  rfl

theorem submit_building (hne : timeout ≠ 0) (t : ι) (content : List UInt8) :
    submit (building timeout t command content last) t =
      if last.map respcomm = some command then
        ([.submitted t (gnerateProtocolFrame command content), .returned t command last],
          between timeout command last)
      else ([.submitted t (gnerateProtocolFrame command content)],
        waiting timeout t command last) := by
  have hbuilt : (building timeout t command content last).generated t =
      some (command, gnerateProtocolFrame command content) := by simp [building]
  have hready : (building timeout t command content last).ready =
      if last.map respcomm = some command then last else none :=
    @ready_between ι timeout command last
  have hback : Function.update (building timeout t command content last).generated t none =
      fun _ => none := generated_submit t _
  have hfree : ¬(building timeout t command content last).holder.isSome = true := by
    simp [building, between]
  rw [submit, hbuilt]
  simp only
  rw [if_neg (show ¬(building timeout t command content last).timeout = 0 from hne), if_neg hfree,
    hready, hback]
  cases last with
  | none => rfl
  | some message =>
    by_cases hmatch : respcomm message = command
    · have hsome : (some message).map respcomm = some command := congrArg some hmatch
      rw [if_pos hsome, if_pos hsome]
      rfl
    · have hsome : ¬(some message).map respcomm = some command := fun h => hmatch (Option.some.inj h)
      rw [if_neg hsome, if_neg hsome]
      rfl

theorem play_returned (hanswers : ∀ message ∈ answer, Responds command message) :
    play step (between timeout command last : Impl ι)
        (answer.toList.map .receive ++ [.wake, .expire]) =
      (answer.toList.map .accepted, between timeout command (answer.toList.getLast?.or last)) := by
  rw [play_append, play_receive (by simpa using hanswers)]
  simp only [play_cons, play_nil, step, wake, expire, between, List.append_nil]

theorem play_waiting (t : ι) (hnot : last.map respcomm ≠ some command)
    (hanswers : ∀ message ∈ answer, Responds command message) :
    play step (waiting timeout t command last)
        (answer.toList.map .receive ++ [.wake, .expire]) =
      (answer.toList.map .accepted ++ [.returned t command answer],
        between timeout command (answer.toList.getLast?.or last)) := by
  cases answer with
  | none =>
    have hready : (waiting timeout t command last).ready = none := by
      rw [show (waiting timeout t command last).ready =
        (between timeout command last : Impl ι).ready from rfl, ready_between, if_neg hnot]
    have hwake : step (waiting timeout t command last) .wake = ([], waiting timeout t command last) := by
      simp only [step, wake, hready]
      rfl
    have hexpire : step (waiting timeout t command last) .expire =
        ([.returned t command none], between timeout command last) := by
      simp only [step, expire, hready]
      rfl
    simp only [Option.toList_none, List.map_nil, List.nil_append, play_cons, play_nil, hwake, hexpire]
    rfl
  | some message =>
    obtain ⟨htype, hlength, hcommand⟩ := hanswers message rfl
    have hreceive : step (waiting timeout t command last) (.receive message) =
        ([.accepted message], waiting timeout t command (some message)) := by
      simp only [step, sortingMessage, if_pos htype, if_neg (Nat.not_lt.mpr hlength)]
      exact if_pos hcommand
    have hready : (waiting timeout t command (some message)).ready = some message :=
      if_pos hcommand
    have hwake : step (waiting timeout t command (some message)) .wake =
        ([.returned t command (some message)], between timeout command (some message)) := by
      simp only [step, wake, hready]
      rfl
    simp only [Option.toList_some, List.map_cons, List.map_nil, List.cons_append, List.nil_append,
      play_cons, play_nil, hreceive, hwake]
    rfl

theorem play_turn (hne : timeout ≠ 0) (previous : UInt16) (last : Option (List UInt8))
    (turn : Turn ι) (h : turn.Answered) :
    (play step (between timeout previous last) turn.actions).1.filterMap answerOf =
        [turn.exchange.pick respcomm last] ∧
      (play step (between timeout previous last) turn.actions).2 =
        between timeout turn.command (turn.exchange.keep last) := by
  have hown : ∀ message ∈ turn.answer, Responds turn.command message := fun message hm =>
    h message (List.mem_append_left _ (by simpa using hm))
  have hlate : ∀ message ∈ turn.late, Responds turn.command message := fun message hm =>
    h message (List.mem_append_right _ hm)
  have hkeep : turn.late.getLast?.or (turn.answer.toList.getLast?.or last) =
      turn.exchange.keep last := by
    rw [Exchange.keep, ← Option.or_assoc]
    congr 1
    exact List.getLast?_append.symm
  have haccepted : ∀ messages : List (List UInt8),
      (messages.map (Event.accepted : _ → Event ι)).filterMap answerOf = [] := fun messages => by
    simp [List.filterMap_map, Function.comp_def, answerOf]
  have hask : play step (between timeout previous last)
      [.generate turn.thread turn.command turn.content, .submit turn.thread] =
        ([.generated turn.thread turn.command] ++
          (submit (building timeout turn.thread turn.command turn.content last) turn.thread).1,
        (submit (building timeout turn.thread turn.command turn.content last) turn.thread).2) := by
    simp only [play_cons, play_nil, step, generate_between, List.append_nil]
  have hpick : turn.exchange.pick respcomm last =
      if last.map respcomm = some turn.command then last else turn.answer := rfl
  rw [Turn.actions, List.append_assoc, List.append_assoc, play_append, hask,
    submit_building hne, ← List.append_assoc, hpick]
  by_cases hmatch : last.map respcomm = some turn.command
  · rw [if_pos hmatch, if_pos hmatch, play_append, play_returned hown, play_receive hlate, hkeep]
    refine ⟨?_, rfl⟩
    simp only [List.filterMap_append, haccepted, List.append_nil]
    rfl
  · rw [if_neg hmatch, if_neg hmatch, play_append, play_waiting turn.thread hmatch hown,
      play_receive hlate, hkeep]
    refine ⟨?_, rfl⟩
    simp only [List.filterMap_append, haccepted, List.append_nil]
    rfl

theorem play_turns (hne : timeout ≠ 0) (previous : UInt16) (last : Option (List UInt8))
    {turns : List (Turn ι)} (h : ∀ turn ∈ turns, turn.Answered) :
    (play step (between timeout previous last) (turns.flatMap Turn.actions)).1.filterMap answerOf =
      picks respcomm last (turns.map Turn.exchange) := by
  induction turns generalizing previous last with
  | nil => rfl
  | cons turn rest ih =>
    obtain ⟨hhere, hrest⟩ := List.forall_mem_cons.mp h
    obtain ⟨hpick, hbetween⟩ := play_turn hne previous last turn hhere
    rw [List.flatMap_cons, play_append, List.filterMap_append, hpick, hbetween,
      ih turn.command _ hrest]
    rfl

/-- Calls one after the other, while scan data comes and is read: a call gets the answer to the last
call that has been answered if that had its command, and else its own. -/
theorem returned_turns (hne : timeout ≠ 0) (initial : UInt16) (turns : List (Turn ι))
    (hanswered : ∀ turn ∈ turns, turn.Answered) (actions : List (Action ι))
    (hactions : actions.filter (fun a => !scanning a) = turns.flatMap Turn.actions) :
    (play step (.create timeout initial) actions).1.filterMap answerOf =
      picks respcomm none (turns.map Turn.exchange) := by
  have hhidden : (play step (.create timeout initial) actions).1.filterMap answerOf =
      (play step (Impl.commands (.create timeout initial))
        (actions.filter fun a => !scanning a)).1.filterMap answerOf :=
    (play_hidden step_scanning (fun s a ha => by
      rw [step_commands s a ha]
      exact ⟨rfl, rfl⟩) (.create timeout initial) actions).1
  rw [hhidden, hactions]
  exact play_turns hne initial none hanswered

end DeviceManager.OrdCommands
