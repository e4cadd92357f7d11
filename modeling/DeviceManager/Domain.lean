import Mathlib.Data.Finmap
import Mathlib.Data.Finset.Card

namespace DeviceManager.Domain

inductive LifecycleState where
  | unknown | unconfigured | inactive | active | finalized
  | configuring | cleaningUp | shuttingDown | activating | deactivating | errorProcessing
  deriving DecidableEq, Repr, Inhabited

inductive TransitionResult where
  | success | failure | error
  deriving DecidableEq, Repr

inductive RequestPriority where
  | normal | urgent
  deriving DecidableEq, Repr

inductive EventLevel where
  | ok | warn | error | stale
  deriving DecidableEq, Repr

/-- `std::variant` of the parameter types. A double is kept as its 64-bit pattern. -/
inductive ParameterValue where
  | bool (value : Bool)
  | int (value : Int64)
  | double (bits : UInt64)
  | string (value : String)
  | bools (values : List Bool)
  | ints (values : List Int64)
  | doubles (bits : List UInt64)
  | strings (values : List String)
  deriving DecidableEq

abbrev ParameterMap := Finmap (fun _ : String => ParameterValue)

/-- The loop `for (parameter : patch) map.insert_or_assign(parameter)`: the
entries of the patch win. -/
def insertOrAssign (map patch : ParameterMap) : ParameterMap := patch ∪ map

/-- The key of the materialization gate. -/
def deviceEnable : String := "device.enable"

/-- `patch.size() == 1U && enable_patch != patch.end()`. -/
def loneEnable (patch : ParameterMap) : Bool :=
  patch.keys.card == 1 && decide (deviceEnable ∈ patch)

structure DeviceEvent where
  level : EventLevel
  code : String
  message : String
  source : String
  targetState : LifecycleState
  values : Finmap (fun _ : String => String)
  deriving DecidableEq

structure TransitionRequest where
  fromState : LifecycleState
  targetState : LifecycleState
  parameters : ParameterMap
  deriving DecidableEq

structure TransitionOutcome where
  result : TransitionResult
  message : String
  deriving DecidableEq

structure TransitionRecord where
  request : TransitionRequest
  result : TransitionResult
  discarded : Bool
  actualState : LifecycleState
  message : String
  deriving DecidableEq

structure HookContext where
  state : LifecycleState
  enabled : Bool
  parameters : ParameterMap
  latestEvent : Option DeviceEvent
  latestEventRevision : UInt64

structure SubmissionResult where
  accepted : Bool
  message : String
  deriving DecidableEq

/-- What a runtime call may throw: a `std::exception` or anything else. -/
inductive Thrown where
  | exception (what : String)
  | unknown
  deriving DecidableEq

def Thrown.message (thrown : Thrown) (fallback : String) : String :=
  match thrown with
  | .exception what => what
  | .unknown => fallback

abbrev Reply (α : Type) := Except Thrown α

/-- The default-constructed request of `record_error` and `record_discarded({}, ..)`. -/
def emptyRequest : TransitionRequest := ⟨.unknown, .unknown, ∅⟩

def standardParameterTransitions (state : LifecycleState) (parameters : ParameterMap) :
    List TransitionRequest :=
  match state with
  | .active =>
    [⟨.active, .inactive, ∅⟩, ⟨.inactive, .unconfigured, ∅⟩,
      ⟨.unconfigured, .inactive, parameters⟩, ⟨.inactive, .active, ∅⟩]
  | .inactive => [⟨.inactive, .unconfigured, ∅⟩, ⟨.unconfigured, .inactive, parameters⟩]
  | .finalized => [⟨.finalized, .unconfigured, ∅⟩, ⟨.unconfigured, .inactive, parameters⟩]
  | .unconfigured => [⟨.unconfigured, .inactive, parameters⟩]
  | _ => []

def isContiguous : List TransitionRequest → Bool
  | a :: b :: rest => decide (a.targetState = b.fromState) && isContiguous (b :: rest)
  | _ => true

theorem isContiguous_standardParameterTransitions (state : LifecycleState)
    (parameters : ParameterMap) :
    isContiguous (standardParameterTransitions state parameters) = true := by
  cases state <;> rfl

@[simp] theorem mem_insertOrAssign (map patch : ParameterMap) (key : String) :
    key ∈ insertOrAssign map patch ↔ key ∈ patch ∨ key ∈ map := Finmap.mem_union

theorem lookup_insertOrAssign_patch {map patch : ParameterMap} {key : String} (h : key ∈ patch) :
    (insertOrAssign map patch).lookup key = patch.lookup key := Finmap.lookup_union_left h

theorem lookup_insertOrAssign_map {map patch : ParameterMap} {key : String} (h : key ∉ patch) :
    (insertOrAssign map patch).lookup key = map.lookup key := Finmap.lookup_union_right h

/-- A lone `device.enable` patch has no other key. -/
theorem loneEnable_key {patch : ParameterMap} (h : loneEnable patch = true) {key : String}
    (hk : key ∈ patch) : key = deviceEnable := by
  simp only [loneEnable, Bool.and_eq_true, beq_iff_eq, decide_eq_true_eq] at h
  obtain ⟨a, ha⟩ := Finset.card_eq_one.mp h.1
  have he : deviceEnable ∈ patch.keys := Finmap.mem_keys.mpr h.2
  have hk' : key ∈ patch.keys := Finmap.mem_keys.mpr hk
  rw [ha, Finset.mem_singleton] at he hk'
  exact hk'.trans he.symm

/-- Two maps agree on every key other than `device.enable`. -/
def AgreeOffEnable (a b : ParameterMap) : Prop :=
  ∀ key, key ≠ deviceEnable → a.lookup key = b.lookup key

theorem AgreeOffEnable.refl (a : ParameterMap) : AgreeOffEnable a a := fun _ _ => rfl

theorem AgreeOffEnable.symm {a b : ParameterMap} (h : AgreeOffEnable a b) : AgreeOffEnable b a :=
  fun key hk => (h key hk).symm

theorem AgreeOffEnable.trans {a b c : ParameterMap} (h : AgreeOffEnable a b)
    (h' : AgreeOffEnable b c) : AgreeOffEnable a c := fun key hk => (h key hk).trans (h' key hk)

theorem agreeOffEnable_lone {map patch : ParameterMap} (h : loneEnable patch = true) :
    AgreeOffEnable map (insertOrAssign map patch) := by
  intro key hk
  exact (lookup_insertOrAssign_map fun hm => hk (loneEnable_key h hm)).symm

def agree (a b : ParameterMap) : Bool := decide (a.erase deviceEnable = b.erase deviceEnable)

theorem agree_iff {a b : ParameterMap} : agree a b = true ↔ AgreeOffEnable a b := by
  rw [agree, decide_eq_true_eq]
  constructor
  · intro h key hk
    rw [← Finmap.lookup_erase_ne hk, h, Finmap.lookup_erase_ne hk]
  · intro h
    apply Finmap.ext_lookup
    intro key
    by_cases hk : key = deviceEnable
    · rw [hk, Finmap.lookup_erase, Finmap.lookup_erase]
    · rw [Finmap.lookup_erase_ne hk, Finmap.lookup_erase_ne hk, h key hk]

/-- A lone `device.enable` patch changes no agreement. -/
theorem agree_lone {map patch : ParameterMap} (h : loneEnable patch = true) (m : ParameterMap) :
    agree m (insertOrAssign map patch) = agree m map := by
  have hlone : AgreeOffEnable map (insertOrAssign map patch) := agreeOffEnable_lone h
  rw [Bool.eq_iff_iff, agree_iff, agree_iff]
  exact ⟨fun hm => hm.trans hlone.symm, fun hm => hm.trans hlone⟩

end DeviceManager.Domain
