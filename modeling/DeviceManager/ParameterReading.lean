import DeviceManager.Domain
import DeviceManager.Narrowing
import DeviceManager.ParameterText

namespace DeviceManager.ParameterReading

open Domain ParameterText

def asBool : ParameterValue → Option Bool
  | .bool value => some value
  | _ => none

def asInt : ParameterValue → Option Int64
  | .int value => some value
  | _ => none

def asDouble : ParameterValue → Option UInt64
  | .double bits => some bits
  | _ => none

def asString : ParameterValue → Option String
  | .string value => some value
  | _ => none

/-- `static_cast<double>` of an integer. -/
def doubleOfInt (value : Int64) : UInt64 :=
  UInt64.ofNat ((if value.toInt < 0 then 2 ^ 63 else 0) +
    Binary64.nearest ((value.toInt.natAbs : ℚ) * grain))

/-- A parameter, and what `error_message` holds then. -/
def parameterAs {α : Type} (as : ParameterValue → Option α) (parameters : ParameterMap)
    (name errorMessage : String) : Option α × String :=
  match parameters.lookup name with
  | none => (none, errorMessage)
  | some found =>
    match as found with
    | some value => (some value, errorMessage)
    | none => (none, "invalid parameter type: " ++ name)

def boolParameter := @parameterAs Bool asBool

def integerParameter := @parameterAs Int64 asInt

def doubleParameter := @parameterAs UInt64 asDouble

def stringParameter := @parameterAs String asString

def numberParameter : ParameterMap → String → String → Option UInt64 × String :=
  parameterAs fun value => (asDouble value).or ((asInt value).map doubleOfInt)

/-- The overloads for several names: the first one that is there. -/
def oneOf {α : Type} (read : String → String → Option α × String) :
    List String → String → Option α × String
  | [], errorMessage => (none, errorMessage)
  | name :: names, errorMessage =>
    let value := read name errorMessage
    if value.1.isSome || value.2 ≠ "" then value else oneOf read names value.2

/-- `first_string`, `first_bool` and `first_int`: the first value that will do. -/
def first {α β : Type} (read : String → String → Option α × String) (take : α → Option β) :
    List String → β → String → β × String
  | [], fallback, errorMessage => (fallback, errorMessage)
  | name :: names, fallback, errorMessage =>
    let value := read name errorMessage
    if value.2 ≠ "" then (fallback, value.2)
    else
      match value.1.bind take with
      | some taken => (taken, value.2)
      | none => first read take names fallback value.2

def firstString (parameters : ParameterMap) : List String → String → String → String × String :=
  first (stringParameter parameters) fun value => if value = "" then none else some value

def firstBool (parameters : ParameterMap) : List String → Bool → String → Bool × String :=
  first (boolParameter parameters) some

def firstInt (parameters : ParameterMap) : List String → Int32 → String → Int32 × String :=
  first (integerParameter parameters) fun value => if 0 < value then some value.toInt32 else none

def isSpace (c : Char) : Bool := c = ' ' || (9 ≤ c.toNat && c.toNat ≤ 13)

def digitValue (c : Char) : ℕ :=
  if c.isDigit then c.toNat - '0'.toNat
  else if 'a' ≤ c ∧ c ≤ 'z' then c.toNat - 'a'.toNat + 10
  else if 'A' ≤ c ∧ c ≤ 'Z' then c.toNat - 'A'.toNat + 10
  else 36

/-- The base that `strtol` finds, with the text of the digits. -/
def scanBase : List Char → ℕ × List Char
  | '0' :: x :: c :: rest =>
    if (x = 'x' || x = 'X') && digitValue c < 16 then (16, c :: rest) else (8, '0' :: x :: c :: rest)
  | '0' :: rest => (8, '0' :: rest)
  | text => (10, text)

/-- `std::strtol` in base 0; nothing if there is no number. -/
def strtol (text : List Char) : Option ℤ :=
  let signed := DecimalText.scanSign (text.dropWhile isSpace)
  let scanned := scanBase signed.2
  let digits := scanned.2.takeWhile fun c => digitValue c < scanned.1
  if digits.isEmpty then none
  else
    let value : ℤ := digits.foldl (fun n c => n * scanned.1 + digitValue c) (0 : ℕ)
    some (max (-2 ^ 63) (min (2 ^ 63 - 1) (if signed.1 then -value else value)))

def parseIntValue (value : String) : Option Int32 := (strtol value.toList).map Int32.ofInt

def firstNumber (parameters : ParameterMap) : List String → Int32 → String → Int32 × String
  | [], fallback, errorMessage => (fallback, errorMessage)
  | name :: names, fallback, errorMessage =>
    let value := integerParameter parameters name errorMessage
    match value.1 with
    | some found => (found.toInt32, value.2)
    | none =>
      if value.2 ≠ "" then
        let text := stringParameter parameters name ""
        match text.1.map parseIntValue with
        | some (some parsed) => (parsed, text.2)
        | some none => (fallback, "invalid integer parameter: " ++ name)
        | none => (fallback, text.2)
      else firstNumber parameters names fallback value.2

def firstDouble (strtod : String → Option UInt64) (parameters : ParameterMap) :
    List String → UInt64 → String → UInt64 × String
  | [], fallback, errorMessage => (fallback, errorMessage)
  | name :: names, fallback, errorMessage =>
    let value := doubleParameter parameters name errorMessage
    match value.1 with
    | some found => (found, value.2)
    | none =>
      if value.2 ≠ "" then
        let integer := integerParameter parameters name ""
        match integer.1 with
        | some found => (doubleOfInt found, integer.2)
        | none =>
          let text := stringParameter parameters name ""
          match text.1.map strtod with
          | some (some parsed) => (parsed, text.2)
          | some none => (fallback, "invalid double parameter: " ++ name)
          | none => (fallback, text.2)
      else firstDouble strtod parameters names fallback value.2

/-- One assignment of a `config_from`. -/
abbrev Setting (C : Type) := ParameterMap → C → String → C × String

def assign {C α : Type} (read : ParameterMap → C → String → α × String) (store : C → α → C) :
    Setting C :=
  fun parameters config errorMessage =>
    (store config (read parameters config errorMessage).1, (read parameters config errorMessage).2)

/-- Assignments without a look at the error message between them. -/
def readGroup {C : Type} (parameters : ParameterMap) (group : List (Setting C)) (config : C)
    (errorMessage : String) : C × String :=
  group.foldl (fun state setting => setting parameters state.1 state.2) (config, errorMessage)

/-- A `config_from`: behind each group it returns if there is an error message. -/
def readGroups {C : Type} (parameters : ParameterMap) :
    List (List (Setting C)) → C → String → C × String
  | [], config, errorMessage => (config, errorMessage)
  | group :: groups, config, errorMessage =>
    let state := readGroup parameters group config errorMessage
    if state.2 ≠ "" then state else readGroups parameters groups state.1 state.2

def Sticky {C : Type} (setting : Setting C) : Prop :=
  ∀ parameters config errorMessage, errorMessage ≠ "" →
    (setting parameters config errorMessage).2 ≠ ""

theorem readGroup_sticky {C : Type} {group : List (Setting C)} (hg : ∀ s ∈ group, Sticky s)
    (parameters : ParameterMap) (config : C) {errorMessage : String} (h : errorMessage ≠ "") :
    (readGroup parameters group config errorMessage).2 ≠ "" := by
  induction group generalizing config errorMessage with
  | nil => exact h
  | cons setting group ih =>
    obtain ⟨hsetting, hrest⟩ := List.forall_mem_cons.mp hg
    exact ih hrest _ (hsetting parameters config errorMessage h)

theorem readGroup_accepted {C : Type} {group : List (Setting C)} (hg : ∀ s ∈ group.tail, Sticky s)
    {parameters : ParameterMap} {config : C} (h : (readGroup parameters group config "").2 = "") :
    readGroup parameters group config "" =
        (group.foldl (fun c s => (s parameters c "").1) config, "") ∧
      ∀ s ∈ group, ∃ c, (s parameters c "").2 = "" := by
  induction group generalizing config with
  | nil => exact ⟨rfl, List.forall_mem_nil _⟩
  | cons setting group ih =>
    have hquiet : (setting parameters config "").2 = "" := by
      by_contra hne
      exact readGroup_sticky hg parameters _ hne h
    have hstep : readGroup parameters (setting :: group) config "" =
        readGroup parameters group (setting parameters config "").1 "" := by
      have hpair : setting parameters config "" = ((setting parameters config "").1, "") :=
        Prod.ext rfl hquiet
      rw [readGroup, List.foldl_cons, hpair]
      rfl
    rw [hstep] at h ⊢
    obtain ⟨heq, hall⟩ := ih (fun s hs => hg s (List.mem_of_mem_tail hs)) h
    refine ⟨heq, List.forall_mem_cons.mpr ⟨⟨config, hquiet⟩, hall⟩⟩

/-- A configuration without an error message is what the assignments make of it in turn. -/
theorem readGroups_accepted {C : Type} {groups : List (List (Setting C))}
    (hg : ∀ group ∈ groups, ∀ s ∈ group.tail, Sticky s) {parameters : ParameterMap} {config : C}
    (h : (readGroups parameters groups config "").2 = "") :
    (readGroups parameters groups config "").1 =
        groups.flatten.foldl (fun c s => (s parameters c "").1) config ∧
      ∀ s ∈ groups.flatten, ∃ c, (s parameters c "").2 = "" := by
  induction groups generalizing config with
  | nil => exact ⟨rfl, List.forall_mem_nil _⟩
  | cons group groups ih =>
    obtain ⟨hgroup, hrest⟩ := List.forall_mem_cons.mp hg
    have hquiet : (readGroup parameters group config "").2 = "" := by
      by_contra hne
      rw [readGroups, if_pos hne] at h
      exact hne h
    obtain ⟨heq, hall⟩ := readGroup_accepted hgroup hquiet
    have hstep : readGroups parameters (group :: groups) config "" =
        readGroups parameters groups (readGroup parameters group config "").1 "" := by
      rw [readGroups, if_neg (not_not.mpr hquiet), hquiet]
    rw [hstep] at h ⊢
    obtain ⟨hlater, hlast⟩ := ih hrest h
    rw [hlater, heq, List.flatten_cons, List.foldl_append]
    exact ⟨rfl, List.forall_mem_append.mpr ⟨hall, hlast⟩⟩

theorem parameterAs_sticky {α : Type} (as : ParameterValue → Option α) (parameters : ParameterMap)
    (name : String) {errorMessage : String} (h : errorMessage ≠ "") :
    (parameterAs as parameters name errorMessage).2 ≠ "" := by
  unfold parameterAs
  split
  · exact h
  · split
    · exact h
    · intro he
      have hlength := congrArg String.length he
      rw [String.length_append] at hlength
      have : "invalid parameter type: ".length = 24 := rfl
      have : "".length = 0 := rfl
      omega

theorem first_sticky {α β : Type} {read : String → String → Option α × String}
    (hread : ∀ name errorMessage, errorMessage ≠ "" → (read name errorMessage).2 ≠ "")
    (take : α → Option β) (names : List String) (fallback : β) {errorMessage : String}
    (h : errorMessage ≠ "") : (first read take names fallback errorMessage).2 ≠ "" := by
  cases names with
  | nil => exact h
  | cons name names =>
    have hne := hread name errorMessage h
    rw [first, if_pos hne]
    exact hne

theorem first_eq {α β : Type} {read : String → String → Option α × String} {take : α → Option β}
    {names : List String} {fallback : β} (h : (first read take names fallback "").2 = "") :
    (first read take names fallback "").1 =
      (names.findSome? fun name => (read name "").1.bind take).getD fallback := by
  induction names with
  | nil => rfl
  | cons name names ih =>
    rw [first] at h ⊢
    by_cases hquiet : (read name "").2 = ""
    · rw [if_neg (not_not.mpr hquiet)] at h ⊢
      rw [hquiet] at h ⊢
      rw [List.findSome?_cons]
      cases hvalue : (read name "").1.bind take with
      | some taken => rfl
      | none =>
        rw [hvalue] at h
        exact ih h
    · rw [if_pos hquiet] at h
      exact absurd h hquiet

/-- The error message does not depend on the fallback. -/
theorem first_fallback {α β : Type} (read : String → String → Option α × String)
    (take : α → Option β) (names : List String) (fallback other : β) (errorMessage : String) :
    (first read take names fallback errorMessage).2 =
      (first read take names other errorMessage).2 := by
  induction names generalizing errorMessage with
  | nil => rfl
  | cons name names ih =>
    rw [first, first]
    split_ifs
    · rfl
    · cases (read name errorMessage).1.bind take with
      | some taken => rfl
      | none => exact ih _

end DeviceManager.ParameterReading
