import DeviceManager.Binary64
import DeviceManager.DecimalText
import DeviceManager.Domain

namespace DeviceManager.ParameterText

open Domain Rounding Binary64 DecimalText

/-- What one overload of `scalar_to_string` takes. -/
inductive Scalar where
  | bool (value : Bool)
  | int (value : Int64)
  | double (bits : UInt64)
  | string (value : String)
  deriving DecidableEq

/-- yaml-cpp's `YAML::DoubleQuoted` style: what the emitter writes between the quotes,
and what the loader makes of it. -/
structure DoubleQuoted where
  escape : String → List Char
  unescape : List Char → Option String

def negative (bits : UInt64) : Bool := 2 ^ 63 ≤ bits.toNat

def magnitude (bits : UInt64) : ℕ := bits.toNat % 2 ^ 63

/-- The magnitude of an infinity. Those of finite doubles are below it. -/
def infinite : ℕ := 2047 * 2 ^ 52

/-- `1 / grain` is the least positive double. -/
def grain : ℕ := 2 ^ 1074

/-- A finite magnitude with the six significant digits of a fresh `std::ostringstream`. -/
def printed (b : ℕ) : Numeral :=
  if units b = 0 then ⟨['0'], none, none⟩
  else general (significand 10 6 (units b / grain)) (exponent 10 6 (units b / grain))

def intText (value : ℤ) : List Char :=
  (if value < 0 then ['-'] else []) ++ Nat.toDigits 10 value.natAbs

def doubleText (bits : UInt64) : List Char :=
  (if negative bits then ['-'] else []) ++
    if magnitude bits < infinite then (printed (magnitude bits)).text
    else if magnitude bits = infinite then ['i', 'n', 'f'] else ['n', 'a', 'n']

/-- The four overloads of `scalar_to_string`. -/
def scalarToString (yaml : DoubleQuoted) : Scalar → List Char
  | .bool value => if value then ['t', 'r', 'u', 'e'] else ['f', 'a', 'l', 's', 'e']
  | .int value => intText value.toInt
  | .double bits => doubleText bits
  | .string value => '"' :: yaml.escape value ++ ['"']

def vectorToString (yaml : DoubleQuoted) (values : List Scalar) : List Char :=
  '[' :: [','].intercalate (values.map (scalarToString yaml)) ++ [']']

def parameterValueToString (yaml : DoubleQuoted) (value : ParameterValue) : String :=
  String.ofList <| match value with
  | .bool value => scalarToString yaml (.bool value)
  | .int value => scalarToString yaml (.int value)
  | .double bits => scalarToString yaml (.double bits)
  | .string value => scalarToString yaml (.string value)
  | .bools values => vectorToString yaml (values.map .bool)
  | .ints values => vectorToString yaml (values.map .int)
  | .doubles values => vectorToString yaml (values.map .double)
  | .strings values => vectorToString yaml (values.map .string)

/-- Every quote of the text stands behind a backslash, and the last backslash before
something. -/
def delimited : List Char → Bool
  | [] => true
  | [c] => c != '"' && c != '\\'
  | c :: d :: rest =>
    if c = '"' then false else if c = '\\' then delimited rest else delimited (d :: rest)

/-- A numeral is an integer unless it has a point or an exponent. -/
def numberOf (minus : Bool) (n : Numeral) : Option Scalar :=
  if n.plain then
    let value : ℤ := Nat.ofDigitChars 10 n.whole 0
    let value := if minus then -value else value
    if -2 ^ 63 ≤ value ∧ value < 2 ^ 63 then some (.int (Int64.ofInt value)) else none
  else
    some (.double (UInt64.ofNat ((if minus then 2 ^ 63 else 0) +
      min (nearest (n.value * grain)) infinite)))

def readNumber (text : List Char) : Option Scalar :=
  let (minus, rest) := scanSign text
  (scan rest).bind (numberOf minus)

def readScalar (yaml : DoubleQuoted) : List Char → Option Scalar
  | '"' :: rest =>
    if rest.getLast? = some '"' ∧ delimited rest.dropLast then
      (yaml.unescape rest.dropLast).map .string
    else none
  | ['t', 'r', 'u', 'e'] => some (.bool true)
  | ['f', 'a', 'l', 's', 'e'] => some (.bool false)
  | text => readNumber text

inductive Mode where
  | plain | quoted | escaped

/-- The texts between the commas of a sequence, up to its bracket. -/
def items : Mode → List Char → List Char → Option (List (List Char))
  | _, _, [] => none
  | .plain, item, c :: rest =>
    if c = ']' then if rest = [] then some [item] else none
    else if c = ',' then (items .plain [] rest).map (item :: ·)
    else items (if c = '"' then .quoted else .plain) (item ++ [c]) rest
  | .quoted, item, c :: rest =>
    items (if c = '"' then .plain else if c = '\\' then .escaped else .quoted) (item ++ [c]) rest
  | .escaped, item, c :: rest => items .quoted (item ++ [c]) rest

def Scalar.asBool : Scalar → Option Bool
  | .bool value => some value
  | _ => none

def Scalar.asInt : Scalar → Option Int64
  | .int value => some value
  | _ => none

def Scalar.asDouble : Scalar → Option UInt64
  | .double bits => some bits
  | _ => none

def Scalar.asString : Scalar → Option String
  | .string value => some value
  | _ => none

/-- A sequence has the type of its first scalar, and so have all others. -/
def gather (scalars : List Scalar) : Option ParameterValue :=
  match scalars with
  | [] => none
  | .bool _ :: _ => (scalars.mapM Scalar.asBool).map .bools
  | .int _ :: _ => (scalars.mapM Scalar.asInt).map .ints
  | .double _ :: _ => (scalars.mapM Scalar.asDouble).map .doubles
  | .string _ :: _ => (scalars.mapM Scalar.asString).map .strings

def Scalar.lift : Scalar → ParameterValue
  | .bool value => .bool value
  | .int value => .int value
  | .double bits => .double bits
  | .string value => .string value

/-- The value of a text. `[]` is a sequence without a type. -/
def read (yaml : DoubleQuoted) : List Char → Option ParameterValue
  | '[' :: rest =>
    (items .plain [] rest).bind fun texts =>
      if texts = [[]] then none else (texts.mapM (readScalar yaml)).bind gather
  | text => (readScalar yaml text).map Scalar.lift

def elements : ParameterValue → List Scalar
  | .bool value => [.bool value]
  | .int value => [.int value]
  | .double bits => [.double bits]
  | .string value => [.string value]
  | .bools values => values.map .bool
  | .ints values => values.map .int
  | .doubles values => values.map .double
  | .strings values => values.map .string

def isArray : ParameterValue → Bool
  | .bools _ | .ints _ | .doubles _ | .strings _ => true
  | _ => false

end DeviceManager.ParameterText
