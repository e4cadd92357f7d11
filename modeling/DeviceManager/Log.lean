import DeviceManager.History
import DeviceManager.WorkerThread

namespace DeviceManager.Log

open Domain WorkerThread

def isStart : Event → Bool
  | .started _ => true
  | _ => false

def sinceStart (log : List Event) : List Event := log.takeWhile fun event => !isStart event

@[simp] theorem sinceStart_cons (event : Event) (h : List Event) :
    sinceStart (event :: h) = if isStart event then [] else event :: sinceStart h := by
  simp only [sinceStart, List.takeWhile_cons]
  cases isStart event <;> rfl

def isStop : Event → Bool
  | .stopped => true
  | _ => false

def sinceStop (log : List Event) : List Event := log.takeWhile fun event => !isStop event

@[simp] theorem sinceStop_cons (event : Event) (h : List Event) :
    sinceStop (event :: h) = if isStop event then [] else event :: sinceStop h := by
  simp only [sinceStop, List.takeWhile_cons]
  cases isStop event <;> rfl

def boundary (event : Event) : Bool := isStart event || isStop event

/-- A part of the history that every event inside a round extends. -/
def Window (since : List Event → List Event) : Prop :=
  ∀ event h, boundary event = false → since (event :: h) = event :: since h

theorem window_sinceStart : Window sinceStart := by
  intro event h hb
  simp only [boundary, Bool.or_eq_false_iff] at hb
  simp [hb.1]

theorem window_sinceStop : Window sinceStop := by
  intro event h hb
  simp only [boundary, Bool.or_eq_false_iff] at hb
  simp [hb.2]

theorem boundary_read {event : Event} (h : event.isRead = true) : boundary event = false := by
  cases event with
  | planRead | sourceRead | targetRead | safeRead | finalRead => rfl
  | _ => cases h

theorem isStart_read {worker : Worker} {event : Reply LifecycleState → Event}
    (h : worker.reads = some event) (reply : Reply LifecycleState) :
    isStart (event reply) = false :=
  (Bool.or_eq_false_iff.mp (boundary_read (isRead_reads h reply))).1

end DeviceManager.Log
