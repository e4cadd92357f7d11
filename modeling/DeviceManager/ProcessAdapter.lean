import Mathlib.Data.Finset.Sort
import Mathlib.Data.String.Basic
import DeviceManager.ParameterText
import DeviceManager.RuntimeBase

namespace DeviceManager.ProcessAdapter

open Domain RuntimeBase ParameterText

/-- `Ros2ProcessDeviceRuntimeAdapter::ProcessSpec`. The mappings, from a parameter of
the node to one of the device, stand in the order of their keys. -/
structure ProcessSpec where
  package : String
  executable : String
  nodeName : String
  namespace_ : String
  parameterMappings : List (String × String)
  topologyParameters : ParameterMap

/-- The members of `Ros2ProcessDeviceRuntimeAdapter` that its state mutex guards. -/
structure Adapter where
  process : ProcessSpec
  childPid : ℤ
  materializedParameters : ParameterMap
  cachedState : LifecycleState

def Adapter.initial (process : ProcessSpec) : Adapter := ⟨process, -1, ∅, .finalized⟩

inductive Call where
  | state
  | operation (operation : Operation)

inductive Answer where
  | state (state : LifecycleState)
  | outcome (outcome : TransitionOutcome)

/-- The event of `emit_process_exited_event`. -/
def processExited (status : ℤ) : DeviceEvent where
  level := .error
  code := "ros2_process.process_exited"
  message := "managed ROS process exited"
  source := "ros2_process"
  targetState := .finalized
  values := Finmap.singleton "status" (toString status)

/-- Every call but `cleanup` and `dematerialize` starts with `reap_child_locked`. -/
def Call.reaps : Call → Bool
  | .operation (.cleanup _) | .operation .dematerialize => false
  | _ => true

/-- The end of `reap_child_locked` after the child has exited. -/
def Adapter.forget (a : Adapter) : Adapter := { a with childPid := -1 }

/-- `stop_process_locked` where no member of the group is left. -/
def Adapter.stopped (a : Adapter) : Adapter := { a with childPid := -1, cachedState := .finalized }

def finalizedOutcome : TransitionOutcome := ⟨.success, "ROS process finalized"⟩

/-- How `stop_process_locked` fails. -/
inductive StopFailure where
  | terminate (errno : String)
  | kill (errno : String)
  | timeout

def StopFailure.outcome : StopFailure → TransitionOutcome
  | .terminate errno => ⟨.error, "failed to stop ROS process: " ++ errno⟩
  | .kill errno => ⟨.error, "failed to kill ROS process: " ++ errno⟩
  | .timeout => ⟨.error, "managed ROS process group did not exit"⟩

/-- The parameters of the node: `missing` is a parameter that the device does not have. -/
def childParameters (process : ProcessSpec) (parameters : ParameterMap) :
    Except TransitionOutcome ParameterMap :=
  process.parameterMappings.foldlM (fun child (target, source) =>
    match parameters.lookup source with
    | some value => .ok (child.insert target value)
    | none => .error ⟨.error, "missing mapped device parameter: " ++ source⟩)
    process.topologyParameters

/-- A map in the order of its keys. -/
def entries (map : ParameterMap) : List (String × ParameterValue) :=
  map.keys.sort.filterMap fun key => (map.lookup key).map (key, ·)

/-- The command line of `start_process_locked`. -/
def arguments (yaml : DoubleQuoted) (process : ProcessSpec) (child : ParameterMap) : List String :=
  ["ros2", "run", process.package, process.executable, "--ros-args", "-r",
    "__node:=" ++ process.nodeName] ++
  (if process.namespace_.isEmpty then [] else ["-r", "__ns:=" ++ process.namespace_]) ++
  (entries child).flatMap fun (name, value) =>
    ["-p", name ++ ":=" ++ parameterValueToString yaml value]

/-- `start_process_locked` where `posix_spawnp` has started the process. -/
def Adapter.started (a : Adapter) (pid : ℤ) (parameters : ParameterMap) : Adapter :=
  { a with childPid := pid, materializedParameters := parameters, cachedState := .unconfigured }

def startedOutcome : TransitionOutcome := ⟨.success, "ROS process materialized"⟩

def spawnFailure (errno : String) : TransitionOutcome :=
  ⟨.error, "failed to start ROS process: " ++ errno⟩

def Adapter.become (a : Adapter) (state : LifecycleState) : Adapter := { a with cachedState := state }

/-- What a call does next: it returns, or it enters one of the two `_locked` functions. -/
inductive Next where
  | returns (adapter : Adapter) (answer : Answer)
  | stops
  | starts (parameters : ParameterMap)

def notRunning : TransitionOutcome := ⟨.error, "ROS process is not running"⟩

/-- `==` of two doubles: no NaN is equal to itself, and the two zeros are equal. -/
def sameDouble (a b : UInt64) : Bool :=
  decide (magnitude a ≤ infinite) && decide (magnitude b ≤ infinite) &&
    (a == b || (magnitude a == 0 && magnitude b == 0))

def sameValue : ParameterValue → ParameterValue → Bool
  | .double a, .double b => sameDouble a b
  | .doubles as, .doubles bs =>
    as.length == bs.length && (as.zip bs).all fun (a, b) => sameDouble a b
  | a, b => decide (a = b)

/-- `==` of two parameter maps. -/
def sameParameters (a b : ParameterMap) : Bool :=
  decide (a.keys = b.keys) &&
    decide (∀ key ∈ a.keys, Option.map₂ sameValue (a.lookup key) (b.lookup key) = some true)

/-- A call behind its `reap_child_locked`. -/
def Adapter.proceed (a : Adapter) : Call → Next
  | .state => .returns a (.state a.cachedState)
  | .operation (.materialize parameters) =>
    if 0 < a.childPid then
      .returns (a.become .unconfigured) (.outcome ⟨.success, "ROS process already materialized"⟩)
    else .starts parameters
  | .operation (.configure parameters) =>
    if 0 < a.childPid ∧ parameters ≠ ∅ ∧ !sameParameters parameters a.materializedParameters then
      .stops
    else if a.childPid ≤ 0 then .starts parameters
    else .returns (a.become .inactive) (.outcome ⟨.success, "ROS process configured"⟩)
  | .operation .activate =>
    if a.childPid ≤ 0 then .returns a (.outcome notRunning)
    else .returns (a.become .active) (.outcome ⟨.success, "ROS process is active"⟩)
  | .operation .deactivate =>
    if a.childPid ≤ 0 then .returns a (.outcome notRunning)
    else .returns (a.become .inactive) (.outcome ⟨.success, "ROS process deactivated"⟩)
  | .operation (.cleanup _) | .operation .dematerialize => .stops

/-- `configure` starts the node again behind its `stop_process_locked`. -/
def Call.restarts : Call → Option ParameterMap
  | .operation (.configure parameters) => some parameters
  | _ => none

def Adapter.afterStop (a : Adapter) : Call → Adapter × Answer
  | .operation (.cleanup _) =>
    (a.become .unconfigured, .outcome ⟨.success, "ROS process cleaned up"⟩)
  | _ => (a, .outcome finalizedOutcome)

/-- A call behind a `start_process_locked` that has succeeded. -/
def Adapter.afterStart (a : Adapter) : Call → Adapter × Answer
  | .operation (.configure _) => (a.become .inactive, .outcome ⟨.success, "ROS process configured"⟩)
  | _ => (a, .outcome startedOutcome)

/-- What the operating system answers in one call: the status of a child that has exited
(its group is then gone or given up), how stopping the group fails, and the new child. -/
structure Answers where
  exited : Option ℤ
  stopped : Option StopFailure
  spawned : List String → Except String {pid : ℤ // 0 < pid}

def Adapter.reapChild (a : Adapter) (exited : Option ℤ) : Adapter × Option DeviceEvent :=
  match exited with
  | some status => if 0 < a.childPid then (a.forget, some (processExited status)) else (a, none)
  | none => (a, none)

def Adapter.stopProcess (a : Adapter) (stopped : Option StopFailure) :
    Adapter × Option StopFailure :=
  if a.childPid ≤ 0 then (a.become .finalized, none)
  else match stopped with
    | none => (a.stopped, none)
    | some failure => (a, some failure)

/-- `start_process_locked` behind its `posix_spawnp`, and what the call does then. -/
def Adapter.spawned (a : Adapter) (call : Call) (parameters : ParameterMap) :
    Except String {pid : ℤ // 0 < pid} → Adapter × Answer
  | .error errno => (a, .outcome (spawnFailure errno))
  | .ok pid => (a.started pid parameters).afterStart call

/-- `start_process_locked`, and what the call does behind it. -/
def Adapter.startProcess (yaml : DoubleQuoted) (a : Adapter) (call : Call)
    (parameters : ParameterMap) (answers : Answers) : Adapter × Answer :=
  match childParameters a.process parameters with
  | .error outcome => (a, .outcome outcome)
  | .ok child => a.spawned call parameters (answers.spawned (arguments yaml a.process child))

/-- A call behind a `stop_process_locked` that has succeeded. -/
def Adapter.resume (yaml : DoubleQuoted) (answers : Answers) (a : Adapter) (call : Call) :
    Adapter × Answer :=
  match call.restarts with
  | some parameters => a.startProcess yaml call parameters answers
  | none => a.afterStop call

/-- `stop_process_locked`, and what the call does behind it. -/
def Adapter.stopThen (yaml : DoubleQuoted) (answers : Answers) (a : Adapter) (call : Call) :
    Adapter × Answer :=
  match a.stopProcess answers.stopped with
  | (a, some failure) => (a, .outcome failure.outcome)
  | (a, none) => a.resume yaml answers call

/-- A call behind its `reap_child_locked`, as a whole. -/
def Adapter.finish (yaml : DoubleQuoted) (answers : Answers) (a : Adapter) (call : Call) :
    Adapter × Answer :=
  match a.proceed call with
  | .returns a answer => (a, answer)
  | .starts parameters => a.startProcess yaml call parameters answers
  | .stops => a.stopThen yaml answers call

def Adapter.perform (yaml : DoubleQuoted) (answers : Answers) (a : Adapter) (call : Call) :
    (Adapter × Answer) × Option DeviceEvent :=
  let (a, event) := if call.reaps then a.reapChild answers.exited else (a, none)
  (a.finish yaml answers call, event)

theorem perform_reaps {yaml : DoubleQuoted} {a : Adapter} {call : Call} (h : call.reaps = true)
    (answers : Answers) : a.perform yaml answers call =
      ((a.reapChild answers.exited).1.finish yaml answers call, (a.reapChild answers.exited).2) := by
  simp [Adapter.perform, h]

theorem perform_plain {yaml : DoubleQuoted} {a : Adapter} {call : Call} (h : call.reaps = false)
    (answers : Answers) : a.perform yaml answers call = (a.finish yaml answers call, none) := by
  simp [Adapter.perform, h]

theorem perform_state (yaml : DoubleQuoted) (answers : Answers) (a : Adapter) :
    a.perform yaml answers .state =
      (((a.reapChild answers.exited).1, .state (a.reapChild answers.exited).1.cachedState),
        (a.reapChild answers.exited).2) := perform_reaps rfl answers

end DeviceManager.ProcessAdapter
