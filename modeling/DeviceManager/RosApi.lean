import DeviceManager.Manager
import Mathlib.Data.Finset.Sort
import Mathlib.Data.String.Basic

namespace DeviceManager.RosApi

open Domain Manager

/-- `rcl_interfaces/Parameter`; only `rclcpp` looks into the value. -/
structure ParameterMessage (V : Type) where
  name : String
  value : V

structure TransitionRequestMessage (V : Type) where
  fromState : UInt8
  targetState : UInt8
  parameters : List (ParameterMessage V)

inductive Request (V : Type) where
  | changeDeviceState (deviceId : String) (requests : List (TransitionRequestMessage V))
    (priority : UInt8)
  | patchDeviceParameters (deviceId : String) (parameters : List (ParameterMessage V))
    (priority : UInt8)

/-- `rclcpp::ParameterType`; `other` are those that go to the `default` of the switch. -/
inductive ParameterType where
  | bool
  | integer
  | double
  | string
  | boolArray
  | integerArray
  | doubleArray
  | stringArray
  | other

/-- What is used of `rclcpp::Parameter`, whose values are `P`. `toParameterMsg` makes a parameter of a
name and a value and writes it as a message; `fromParameterMsg` may throw. -/
structure Rclcpp (P V : Type) where
  fromParameterMsg : ParameterMessage V → Except String P
  getType : P → ParameterType
  asBool : P → Bool
  asInt : P → Int64
  asDouble : P → UInt64
  asString : P → String
  asBoolArray : P → List Bool
  asIntegerArray : P → List Int64
  asDoubleArray : P → List UInt64
  asStringArray : P → List String
  toParameterMsg : String → ParameterValue → ParameterMessage V

/-- `static_cast<std::uint8_t>` of a state. -/
def stateCode : LifecycleState → UInt8
  | .unknown => 0
  | .unconfigured => 1
  | .inactive => 2
  | .active => 3
  | .finalized => 4
  | .configuring => 10
  | .cleaningUp => 11
  | .shuttingDown => 12
  | .activating => 13
  | .deactivating => 14
  | .errorProcessing => 15

def lifecycleState (value : UInt8) : Option LifecycleState :=
  if value = 0 then some .unknown
  else if value = 1 then some .unconfigured
  else if value = 2 then some .inactive
  else if value = 3 then some .active
  else if value = 4 then some .finalized
  else if value = 10 then some .configuring
  else if value = 11 then some .cleaningUp
  else if value = 12 then some .shuttingDown
  else if value = 13 then some .activating
  else if value = 14 then some .deactivating
  else if value = 15 then some .errorProcessing
  else none

def priorityCode : RequestPriority → UInt8
  | .normal => 0
  | .urgent => 1

def priority (value : UInt8) : Option RequestPriority :=
  if value = 0 then some .normal
  else if value = 1 then some .urgent
  else none

section

variable {P V : Type} (r : Rclcpp P V)

/-- The switch of `parameter_value`. -/
def typedValue (parameter : P) : Except String ParameterValue :=
  match r.getType parameter with
  | .bool => .ok (.bool (r.asBool parameter))
  | .integer => .ok (.int (r.asInt parameter))
  | .double => .ok (.double (r.asDouble parameter))
  | .string => .ok (.string (r.asString parameter))
  | .boolArray => .ok (.bools (r.asBoolArray parameter))
  | .integerArray => .ok (.ints (r.asIntegerArray parameter))
  | .doubleArray => .ok (.doubles (r.asDoubleArray parameter))
  | .stringArray => .ok (.strings (r.asStringArray parameter))
  | .other => .error "unsupported ROS parameter type"

def parameterValue (message : ParameterMessage V) : Except String ParameterValue := do
  let parameter ← r.fromParameterMsg message
  typedValue r parameter

def parameterMap (messages : List (ParameterMessage V)) : Except String ParameterMap :=
  messages.foldlM (fun result message => do
    let value ← parameterValue r message
    return result.insert message.name value) ∅

/-- The body of the loop of `handle_change_state`. -/
def transitionRequest (message : TransitionRequestMessage V) : Except String TransitionRequest :=
  match lifecycleState message.fromState, lifecycleState message.targetState with
  | some source, some target => do
    let parameters ← parameterMap r message.parameters
    return ⟨source, target, parameters⟩
  | _, _ => .error "invalid lifecycle state"

/-- What `handle_change_state` and `handle_patch_parameters` make of a request before they call the
application, or the message of their answer if they do not. -/
def submission : Request V → Except String Submission
  | .changeDeviceState deviceId requests code =>
    match priority code with
    | none => .error "invalid request priority"
    | some priority => do
      let requests ← requests.mapM (transitionRequest r)
      return .enqueue deviceId requests priority
  | .patchDeviceParameters deviceId parameters code =>
    match priority code with
    | none => .error "invalid request priority"
    | some priority => do
      let patch ← parameterMap r parameters
      return .patch deviceId patch priority

/-- The two handlers: the calls of the application and the answer. -/
def handle (application : Submission → SubmissionResult) (request : Request V) :
    List Submission × SubmissionResult :=
  match submission r request with
  | .ok call => ([call], application call)
  | .error message => ([], ⟨false, message⟩)

end

section

variable {P V : Type} (r : Rclcpp P V)

def parameterMessage (name : String) (value : ParameterValue) : ParameterMessage V :=
  r.toParameterMsg name value

instance keys_trans : IsTrans String (· ≤ ·) := inferInstance

instance keys_antisymm : Std.Antisymm fun a b : String => a ≤ b := inferInstance

instance keys_total : Std.Total fun a b : String => a ≤ b := inferInstance

/-- The loop over a `ParameterMap`, in the order of its keys. -/
def parameterMessages (parameters : ParameterMap) : List (ParameterMessage V) :=
  (parameters.keys.sort (· ≤ ·)).filterMap fun key =>
    (parameters.lookup key).map (parameterMessage r key)

def transitionMessage (request : TransitionRequest) : TransitionRequestMessage V :=
  ⟨stateCode request.fromState, stateCode request.targetState,
    parameterMessages r request.parameters⟩

/-- The request of a client that uses the same messages as the snapshots. -/
def requestOf : Submission → Request V
  | .enqueue id requests priority =>
    .changeDeviceState id (requests.map (transitionMessage r)) (priorityCode priority)
  | .patch id patch priority =>
    .patchDeviceParameters id (parameterMessages r patch) (priorityCode priority)

def Rclcpp.Has (parameter : P) : ParameterValue → Prop
  | .bool value => r.getType parameter = .bool ∧ r.asBool parameter = value
  | .int value => r.getType parameter = .integer ∧ r.asInt parameter = value
  | .double bits => r.getType parameter = .double ∧ r.asDouble parameter = bits
  | .string value => r.getType parameter = .string ∧ r.asString parameter = value
  | .bools values => r.getType parameter = .boolArray ∧ r.asBoolArray parameter = values
  | .ints values => r.getType parameter = .integerArray ∧ r.asIntegerArray parameter = values
  | .doubles bits => r.getType parameter = .doubleArray ∧ r.asDoubleArray parameter = bits
  | .strings values => r.getType parameter = .stringArray ∧ r.asStringArray parameter = values

/-- What `rclcpp` promises of a parameter that is written as a message and read again. -/
structure Rclcpp.Lossless : Prop where
  name : ∀ name value, (r.toParameterMsg name value).name = name
  value : ∀ name value, ∃ parameter,
    r.fromParameterMsg (r.toParameterMsg name value) = .ok parameter ∧ r.Has parameter value

/-- A message that `rclcpp` reads as a parameter with a value. -/
def Rclcpp.Says (message : ParameterMessage V) (value : ParameterValue) : Prop :=
  ∃ parameter, r.fromParameterMsg message = .ok parameter ∧ r.Has parameter value

end

theorem lifecycleState_code (state : LifecycleState) :
    lifecycleState (stateCode state) = some state := by
  cases state <;> rfl

theorem priority_code (p : RequestPriority) : priority (priorityCode p) = some p := by
  cases p <;> rfl

section

variable {P V : Type} (r : Rclcpp P V)

theorem typedValue_iff (parameter : P) (value : ParameterValue) :
    typedValue r parameter = .ok value ↔ r.Has parameter value := by
  unfold typedValue
  cases value with
  | bool | int | double | string | bools | ints | doubles | strings =>
    simp only [Rclcpp.Has]
    cases r.getType parameter <;> simp

theorem parameterValue_iff (message : ParameterMessage V) (value : ParameterValue) :
    parameterValue r message = .ok value ↔ r.Says message value := by
  unfold parameterValue Rclcpp.Says
  cases r.fromParameterMsg message with
  | error what =>
    constructor
    · rintro ⟨⟩
    · rintro ⟨_, ⟨⟩, -⟩
  | ok parameter =>
    constructor
    · exact fun h => ⟨parameter, rfl, (typedValue_iff r parameter value).mp h⟩
    · rintro ⟨_, ⟨⟩, hhas⟩
      exact (typedValue_iff r parameter value).mpr hhas

theorem parameterValue_message (hr : r.Lossless) (name : String) (value : ParameterValue) :
    parameterValue r (parameterMessage r name value) = .ok value :=
  (parameterValue_iff r _ value).mpr (hr.value name value)

theorem insert_entries (hr : r.Lossless) (parameters : ParameterMap) (keys : List String)
    (result : ParameterMap) :
    ∃ merged, (keys.filterMap fun key => (parameters.lookup key).map (parameterMessage r key)).foldlM
        (fun (result : ParameterMap) message => do
          let value ← parameterValue r message
          return result.insert message.name value) result = .ok merged ∧
      ∀ key, merged.lookup key =
        if key ∈ keys then (parameters.lookup key).or (result.lookup key)
        else result.lookup key := by
  induction keys generalizing result with
  | nil => exact ⟨result, rfl, fun key => by simp⟩
  | cons first keys ih =>
    cases hlookup : parameters.lookup first with
    | none =>
      obtain ⟨merged, hmerged, hkeys⟩ := ih result
      refine ⟨merged, ?_, fun key => ?_⟩
      · rw [List.filterMap_cons, hlookup]
        exact hmerged
      · rw [hkeys]
        by_cases hkey : key = first
        · rw [hkey, hlookup, if_pos (List.mem_cons_self ..), Option.none_or, ite_self]
        · simp only [List.mem_cons, hkey, false_or]
    | some value =>
      obtain ⟨merged, hmerged, hkeys⟩ := ih (result.insert first value)
      refine ⟨merged, ?_, fun key => ?_⟩
      · rw [List.filterMap_cons, hlookup]
        change ((parameterMessage r first value :: _).foldlM _ _) = _
        rw [List.foldlM_cons, parameterValue_message r hr]
        have hname : (parameterMessage r first value).name = first := hr.name first value
        rw [hname]
        exact hmerged
      · rw [hkeys]
        by_cases hkey : key = first
        · rw [hkey, hlookup, if_pos (List.mem_cons_self ..), Finmap.lookup_insert, Option.some_or,
            ite_self]
          rfl
        · rw [Finmap.lookup_insert_of_ne _ hkey]
          simp only [List.mem_cons, hkey, false_or]

theorem parameterMap_messages (hr : r.Lossless) (parameters : ParameterMap) :
    parameterMap r (parameterMessages r parameters) = .ok parameters := by
  obtain ⟨merged, hmerged, hkeys⟩ :=
    insert_entries r hr parameters (parameters.keys.sort (· ≤ ·)) ∅
  have heq : merged = parameters := by
    apply Finmap.ext_lookup
    intro key
    rw [hkeys, Finmap.lookup_empty, Option.or_none]
    split
    · rfl
    · next hkey =>
      rw [Finset.mem_sort, Finmap.mem_keys] at hkey
      exact (Finmap.lookup_eq_none.mpr hkey).symm
  rw [parameterMap, parameterMessages, hmerged, heq]

theorem transitionRequest_message (hr : r.Lossless) (request : TransitionRequest) :
    transitionRequest r (transitionMessage r request) = .ok request := by
  unfold transitionRequest transitionMessage
  simp only [lifecycleState_code, parameterMap_messages r hr]
  rfl

theorem mapM_transitionMessage (hr : r.Lossless) (requests : List TransitionRequest) :
    (requests.map (transitionMessage r)).mapM (transitionRequest r) = .ok requests := by
  induction requests with
  | nil => rfl
  | cons request requests ih =>
    rw [List.map_cons, List.mapM_cons, transitionRequest_message r hr, ih]
    rfl

/-- Requests made of the messages of the snapshots reach the application as they were meant. -/
theorem handle_requestOf (hr : r.Lossless) (application : Submission → SubmissionResult)
    (call : Submission) : handle r application (requestOf r call) = ([call], application call) := by
  have hsubmission : submission r (requestOf r call) = .ok call := by
    cases call with
    | enqueue id requests p =>
      simp only [submission, requestOf, priority_code, mapM_transitionMessage r hr]
      rfl
    | patch id patch p =>
      simp only [submission, requestOf, priority_code, parameterMap_messages r hr]
      rfl
  rw [handle, hsubmission]

/-- `rclcpp` with its messages as the values themselves; a message without one is not set. -/
def plainRclcpp : Rclcpp (Option ParameterValue) (Option ParameterValue) where
  fromParameterMsg message := .ok message.value
  getType
    | some (.bool _) => .bool
    | some (.int _) => .integer
    | some (.double _) => .double
    | some (.string _) => .string
    | some (.bools _) => .boolArray
    | some (.ints _) => .integerArray
    | some (.doubles _) => .doubleArray
    | some (.strings _) => .stringArray
    | none => .other
  asBool parameter := if let some (.bool value) := parameter then value else false
  asInt parameter := if let some (.int value) := parameter then value else 0
  asDouble parameter := if let some (.double bits) := parameter then bits else 0
  asString parameter := if let some (.string value) := parameter then value else ""
  asBoolArray parameter := if let some (.bools values) := parameter then values else []
  asIntegerArray parameter := if let some (.ints values) := parameter then values else []
  asDoubleArray parameter := if let some (.doubles bits) := parameter then bits else []
  asStringArray parameter := if let some (.strings values) := parameter then values else []
  toParameterMsg name value := ⟨name, some value⟩

theorem plainRclcpp_lossless : plainRclcpp.Lossless where
  name _ _ := rfl
  value _ value := ⟨some value, rfl, by cases value <;> exact ⟨rfl, rfl⟩⟩

theorem handle_requestOf_plain :
    handle plainRclcpp (fun _ => ⟨true, ""⟩)
        (requestOf plainRclcpp (.patch "lidar" (Finmap.singleton "speed" (.int 10)) .urgent)) =
      ([.patch "lidar" (Finmap.singleton "speed" (.int 10)) .urgent], ⟨true, ""⟩) :=
  handle_requestOf plainRclcpp plainRclcpp_lossless (fun _ => ⟨true, ""⟩) _

/-- A message that `rclcpp` reads as a parameter of a type that a device may have. -/
def Supported (message : ParameterMessage V) : Prop := ∃ value, r.Says message value

def WellFormedTransition (message : TransitionRequestMessage V) : Prop :=
  (lifecycleState message.fromState).isSome ∧ (lifecycleState message.targetState).isSome ∧
    ∀ p ∈ message.parameters, Supported r p

/-- A request in which every code has a meaning. -/
def WellFormed : Request V → Prop
  | .changeDeviceState _ requests code =>
    (priority code).isSome ∧ ∀ message ∈ requests, WellFormedTransition r message
  | .patchDeviceParameters _ parameters code =>
    (priority code).isSome ∧ ∀ p ∈ parameters, Supported r p

def MeansMap (messages : List (ParameterMessage V)) (parameters : ParameterMap) : Prop :=
  ∀ key, Option.Rel r.Says (messages.filter (·.name = key)).getLast? (parameters.lookup key)

def MeansTransition (message : TransitionRequestMessage V) (request : TransitionRequest) : Prop :=
  lifecycleState message.fromState = some request.fromState ∧
    lifecycleState message.targetState = some request.targetState ∧
      MeansMap r message.parameters request.parameters

def Means : Request V → Submission → Prop
  | .changeDeviceState deviceId messages code, .enqueue id requests p =>
    id = deviceId ∧ priority code = some p ∧
      List.Forall₂ (MeansTransition r) messages requests
  | .patchDeviceParameters deviceId parameters code, .patch id patch p =>
    id = deviceId ∧ priority code = some p ∧ MeansMap r parameters patch
  | _, _ => False

theorem parameterValue_cases (message : ParameterMessage V) :
    (∃ value, r.Says message value ∧ parameterValue r message = .ok value) ∨
      (¬ Supported r message ∧ ∃ what, parameterValue r message = .error what) := by
  cases hvalue : parameterValue r message with
  | ok value => exact Or.inl ⟨value, (parameterValue_iff r message value).mp hvalue, rfl⟩
  | error what =>
    refine Or.inr ⟨?_, what, rfl⟩
    rintro ⟨value, hsays⟩
    rw [(parameterValue_iff r message value).mpr hsays] at hvalue
    cases hvalue

theorem parameterMap_cases (messages : List (ParameterMessage V)) :
    ((∀ p ∈ messages, Supported r p) ∧ ∃ parameters,
        parameterMap r messages = .ok parameters ∧
          MeansMap r messages parameters) ∨
      ((¬ ∀ p ∈ messages, Supported r p) ∧ ∃ what,
        parameterMap r messages = .error what) := by
  induction messages using List.reverseRecOn with
  | nil => exact Or.inl ⟨by simp, ∅, rfl, fun key => .none⟩
  | append_singleton messages message ih =>
    have hsnoc : parameterMap r (messages ++ [message]) =
        parameterMap r messages >>= fun result => do
          let value ← parameterValue r message
          return result.insert message.name value := by
      rw [parameterMap, List.foldlM_append]
      congr 1
      funext result
      exact bind_pure _
    rw [hsnoc]
    simp only [List.forall_mem_append, List.forall_mem_singleton]
    rcases ih with ⟨hall, parameters, hok, hmeans⟩ | ⟨hnot, what, herror⟩
    · rw [hok]
      rcases parameterValue_cases r message with ⟨value, hsays, hvalue⟩ | ⟨hone, what, hwhat⟩
      · refine Or.inl ⟨⟨hall, value, hsays⟩, parameters.insert message.name value, ?_, fun key => ?_⟩
        · rw [hvalue]
          rfl
        · rw [List.filter_append]
          by_cases hkey : message.name = key
          · rw [List.filter_cons_of_pos (by simpa using hkey), List.filter_nil, List.getLast?_concat,
              ← hkey, Finmap.lookup_insert]
            exact .some hsays
          · rw [List.filter_cons_of_neg (by simpa using hkey), List.filter_nil, List.append_nil,
              Finmap.lookup_insert_of_ne _ (Ne.symm hkey)]
            exact hmeans key
      · refine Or.inr ⟨fun h => hone h.2, what, ?_⟩
        rw [hwhat]
        rfl
    · rw [herror]
      exact Or.inr ⟨fun h => hnot h.1, what, rfl⟩

theorem transitionRequest_cases (message : TransitionRequestMessage V) :
    (WellFormedTransition r message ∧ ∃ request,
        transitionRequest r message = .ok request ∧
          MeansTransition r message request) ∨
      (¬ WellFormedTransition r message ∧ ∃ what,
        transitionRequest r message = .error what) := by
  unfold transitionRequest WellFormedTransition
  cases hfrom : lifecycleState message.fromState with
  | none =>
    refine Or.inr ⟨fun h => ?_, _, rfl⟩
    cases h.1
  | some source =>
    cases htarget : lifecycleState message.targetState with
    | none =>
      refine Or.inr ⟨fun h => ?_, _, rfl⟩
      cases h.2.1
    | some target =>
      simp only
      rcases parameterMap_cases r message.parameters with
        ⟨hall, parameters, hok, hmeans⟩ | ⟨hnot, what, herror⟩
      · rw [hok]
        exact Or.inl ⟨⟨rfl, rfl, hall⟩, _, rfl, hfrom, htarget, hmeans⟩
      · rw [herror]
        exact Or.inr ⟨fun h => hnot h.2.2, what, rfl⟩

theorem mapM_cases (messages : List (TransitionRequestMessage V)) :
    ((∀ m ∈ messages, WellFormedTransition r m) ∧ ∃ requests,
        messages.mapM (transitionRequest r) = .ok requests ∧
          List.Forall₂ (MeansTransition r) messages requests) ∨
      ((¬ ∀ m ∈ messages, WellFormedTransition r m) ∧ ∃ what,
        messages.mapM (transitionRequest r) = .error what) := by
  induction messages with
  | nil => exact Or.inl ⟨by simp, [], rfl, .nil⟩
  | cons message messages ih =>
    rw [List.mapM_cons]
    simp only [List.forall_mem_cons]
    rcases transitionRequest_cases r message with
      ⟨hone, request, hok, hmeans⟩ | ⟨hone, what, herror⟩
    · rw [hok]
      rcases ih with ⟨hall, requests, hrest, hmeans'⟩ | ⟨hnot, what, herror⟩
      · rw [hrest]
        exact Or.inl ⟨⟨hone, hall⟩, _, rfl, .cons hmeans hmeans'⟩
      · rw [herror]
        exact Or.inr ⟨fun h => hnot h.2, what, rfl⟩
    · rw [herror]
      exact Or.inr ⟨fun h => hone h.1, what, rfl⟩

theorem submission_cases (request : Request V) :
    (WellFormed r request ∧ ∃ call, submission r request = .ok call ∧
        Means r request call) ∨
      (¬ WellFormed r request ∧ ∃ what, submission r request = .error what) := by
  cases request with
  | changeDeviceState deviceId requests code =>
    cases hpriority : priority code with
    | none =>
      refine Or.inr ⟨?_, "invalid request priority", by simp only [submission, hpriority]⟩
      rintro ⟨hsome, -⟩
      rw [hpriority] at hsome
      cases hsome
    | some p =>
      have hsome : (priority code).isSome = true := by
        rw [hpriority]
        rfl
      rcases mapM_cases r requests with
        ⟨hall, calls, hok, hmeans⟩ | ⟨hnot, what, herror⟩
      · refine Or.inl ⟨⟨hsome, hall⟩, .enqueue deviceId calls p, ?_, rfl, hpriority, hmeans⟩
        simp only [submission, hpriority, hok]
        rfl
      · refine Or.inr ⟨fun h => hnot h.2, what, ?_⟩
        simp only [submission, hpriority, herror]
        rfl
  | patchDeviceParameters deviceId parameters code =>
    cases hpriority : priority code with
    | none =>
      refine Or.inr ⟨?_, "invalid request priority", by simp only [submission, hpriority]⟩
      rintro ⟨hsome, -⟩
      rw [hpriority] at hsome
      cases hsome
    | some p =>
      have hsome : (priority code).isSome = true := by
        rw [hpriority]
        rfl
      rcases parameterMap_cases r parameters with
        ⟨hall, patch, hok, hmeans⟩ | ⟨hnot, what, herror⟩
      · refine Or.inl ⟨⟨hsome, hall⟩, .patch deviceId patch p, ?_, rfl, hpriority, hmeans⟩
        simp only [submission, hpriority, hok]
        rfl
      · refine Or.inr ⟨fun h => hnot h.2, what, ?_⟩
        simp only [submission, hpriority, herror]
        rfl

/-- A request is refused without a call of the application exactly when one of its codes has no
meaning; else the application is called once, with what the request says. -/
theorem handle_cases (application : Submission → SubmissionResult) (request : Request V) :
    (WellFormed r request ∧ ∃ call, Means r request call ∧
        handle r application request = ([call], application call)) ∨
      (¬ WellFormed r request ∧ ∃ message,
        handle r application request = ([], ⟨false, message⟩)) := by
  rcases submission_cases r request with
    ⟨hwell, call, hok, hmeans⟩ | ⟨hnot, what, herror⟩
  · exact Or.inl ⟨hwell, call, hmeans, by rw [handle, hok]⟩
  · exact Or.inr ⟨hnot, what, by rw [handle, herror]⟩

end

/-- `DeviceObservation` without its times. -/
structure DeviceObservation where
  id : String
  type : String
  enabled : Bool
  state : LifecycleState
  parameters : ParameterMap
  latestEvent : Option DeviceEvent
  lastTransition : Option TransitionRecord

structure DeviceEventMessage where
  level : UInt8
  code : String
  message : String
  source : String
  targetState : UInt8
  values : List (String × String)

structure TransitionRecordMessage (V : Type) where
  request : TransitionRequestMessage V
  result : UInt8
  discarded : Bool
  actualState : UInt8
  message : String

structure DeviceStateMessage (V : Type) where
  id : String
  type : String
  enabled : Bool
  lifecycleState : UInt8
  parameters : List (ParameterMessage V)
  hasLatestEvent : Bool
  latestEvent : DeviceEventMessage
  hasLastTransition : Bool
  lastTransition : TransitionRecordMessage V

def levelCode : EventLevel → UInt8
  | .ok => 0
  | .warn => 1
  | .error => 2
  | .stale => 3

def resultCode : TransitionResult → UInt8
  | .success => 0
  | .failure => 1
  | .error => 2

def keyValues (values : Finmap fun _ : String => String) : List (String × String) :=
  (values.keys.sort (· ≤ ·)).filterMap fun key => (values.lookup key).map (key, ·)

def eventMessage (event : DeviceEvent) : DeviceEventMessage :=
  ⟨levelCode event.level, event.code, event.message, event.source, stateCode event.targetState,
    keyValues event.values⟩

def noEvent : DeviceEventMessage := ⟨0, "", "", "", 0, []⟩

section

variable {P V : Type} (r : Rclcpp P V)

def recordMessage (record : TransitionRecord) : TransitionRecordMessage V :=
  ⟨transitionMessage r record.request, resultCode record.result, record.discarded,
    stateCode record.actualState, record.message⟩

def noRecord : TransitionRecordMessage V := ⟨⟨0, 0, []⟩, 0, false, 0, ""⟩

def deviceMessage (device : DeviceObservation) : DeviceStateMessage V :=
  ⟨device.id, device.type, device.enabled, stateCode device.state,
    parameterMessages r device.parameters,
    device.latestEvent.isSome, (device.latestEvent.map eventMessage).getD noEvent,
    device.lastTransition.isSome, (device.lastTransition.map (recordMessage r)).getD noRecord⟩

end

theorem stateCode_injective : Function.Injective stateCode := by
  intro a b h
  have hdecoded := congrArg lifecycleState h
  rw [lifecycleState_code, lifecycleState_code] at hdecoded
  exact Option.some.inj hdecoded

theorem levelCode_injective : Function.Injective levelCode := by
  intro a b h
  revert h
  cases a <;> cases b <;> decide

theorem resultCode_injective : Function.Injective resultCode := by
  intro a b h
  revert h
  cases a <;> cases b <;> decide

section

variable {P V : Type} (r : Rclcpp P V)

theorem parameterMessages_injective (hr : r.Lossless) : Function.Injective (parameterMessages r) := by
  intro a b h
  have hdecoded := congrArg (parameterMap r) h
  rw [parameterMap_messages r hr, parameterMap_messages r hr] at hdecoded
  exact Except.ok.inj hdecoded

theorem mem_keyValues {values : Finmap fun _ : String => String} {key value : String} :
    (key, value) ∈ keyValues values ↔ values.lookup key = some value := by
  rw [keyValues, List.mem_filterMap]
  constructor
  · rintro ⟨key', -, hmap⟩
    obtain ⟨value', hlookup, heq⟩ := Option.map_eq_some_iff.mp hmap
    cases heq
    exact hlookup
  · intro hlookup
    refine ⟨key, ?_, by rw [hlookup]; rfl⟩
    rw [Finset.mem_sort, Finmap.mem_keys]
    exact Finmap.mem_of_lookup_eq_some hlookup

theorem keyValues_injective : Function.Injective keyValues := by
  intro a b h
  apply Finmap.ext_lookup
  intro key
  apply Option.ext
  intro value
  rw [← mem_keyValues, ← mem_keyValues, h]

theorem transitionMessage_injective (hr : r.Lossless) : Function.Injective (transitionMessage r) := by
  intro a b h
  have hdecoded := congrArg (transitionRequest r) h
  rw [transitionRequest_message r hr, transitionRequest_message r hr] at hdecoded
  exact Except.ok.inj hdecoded

theorem eventMessage_injective : Function.Injective eventMessage := by
  rintro ⟨level, code, message, source, target, values⟩
    ⟨level', code', message', source', target', values'⟩ h
  simp only [eventMessage, DeviceEventMessage.mk.injEq] at h
  obtain ⟨hlevel, rfl, rfl, rfl, htarget, hvalues⟩ := h
  obtain rfl := levelCode_injective hlevel
  obtain rfl := stateCode_injective htarget
  obtain rfl := keyValues_injective hvalues
  rfl

theorem recordMessage_injective (hr : r.Lossless) : Function.Injective (recordMessage r) := by
  rintro ⟨request, result, discarded, actual, message⟩
    ⟨request', result', discarded', actual', message'⟩ h
  simp only [recordMessage, TransitionRecordMessage.mk.injEq] at h
  obtain ⟨hrequest, hresult, rfl, hactual, rfl⟩ := h
  obtain rfl := transitionMessage_injective r hr hrequest
  obtain rfl := resultCode_injective hresult
  obtain rfl := stateCode_injective hactual
  rfl

theorem optional_injective {α β : Type} {f : α → β} (hf : Function.Injective f) {none_ : β}
    {a b : Option α} (hmark : a.isSome = b.isSome)
    (h : (a.map f).getD none_ = (b.map f).getD none_) : a = b := by
  cases a with
  | none =>
    cases b with
    | none => rfl
    | some y => cases hmark
  | some x =>
    cases b with
    | none => cases hmark
    | some y => exact congrArg some (hf h)

/-- A snapshot loses nothing of what the manager knows of a device but the times. -/
theorem deviceMessage_injective (hr : r.Lossless) : Function.Injective (deviceMessage r) := by
  rintro ⟨id, type, enabled, state, parameters, event, record⟩
    ⟨id', type', enabled', state', parameters', event', record'⟩ h
  simp only [deviceMessage, DeviceStateMessage.mk.injEq] at h
  obtain ⟨rfl, rfl, rfl, hstate, hparameters, hmark, hevent, hmark', hrecord⟩ := h
  obtain rfl := stateCode_injective hstate
  obtain rfl := parameterMessages_injective r hr hparameters
  obtain rfl := optional_injective eventMessage_injective hmark hevent
  obtain rfl := optional_injective (recordMessage_injective r hr) hmark' hrecord
  rfl

theorem deviceMessage_injective_plain : Function.Injective (deviceMessage plainRclcpp) :=
  deviceMessage_injective plainRclcpp plainRclcpp_lossless

end

end DeviceManager.RosApi
