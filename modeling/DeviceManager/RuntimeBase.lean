import DeviceManager.Domain

namespace DeviceManager.RuntimeBase

open Domain

/-- The virtual functions that `DeviceRuntimeBase::request_transition` chooses from. -/
inductive Operation where
  | materialize (parameters : ParameterMap)
  | configure (parameters : ParameterMap)
  | activate
  | deactivate
  | cleanup (parameters : ParameterMap)
  | dematerialize

def unsupportedTransition : TransitionOutcome := ⟨.failure, "unsupported lifecycle transition"⟩

/-- `DeviceRuntimeBase::request_transition`: what it calls. -/
def requestTransition (request : TransitionRequest) : Option Operation :=
  match request.fromState, request.targetState with
  | .finalized, .unconfigured => some (.materialize request.parameters)
  | .unconfigured, .inactive => some (.configure request.parameters)
  | .inactive, .active => some .activate
  | .active, .inactive => some .deactivate
  | .inactive, .unconfigured => some (.cleanup request.parameters)
  | .unconfigured, .finalized | .inactive, .finalized | .active, .finalized => some .dematerialize
  | _, _ => none

end DeviceManager.RuntimeBase
