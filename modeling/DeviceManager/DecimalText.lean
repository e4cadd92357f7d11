import Mathlib.Algebra.Order.Field.Power
import Mathlib.Algebra.Order.Ring.Rat
import Mathlib.Data.List.DropRight
import Mathlib.Data.List.TakeDrop
import Mathlib.Tactic.Linarith
import Mathlib.Tactic.Positivity
import Mathlib.Tactic.Ring

namespace DeviceManager.DecimalText

structure Numeral where
  whole : List Char
  fraction : Option (List Char)
  exponent : Option ℤ
  deriving DecidableEq

namespace Numeral

def plain (n : Numeral) : Bool := n.fraction.isNone && n.exponent.isNone

def digits (n : Numeral) : List Char := n.whole ++ n.fraction.getD []

def value (n : Numeral) : ℚ :=
  Nat.ofDigitChars 10 n.digits 0 * 10 ^ (n.exponent.getD 0 - (n.fraction.getD []).length)

def exponentText (e : ℤ) : List Char :=
  'e' :: (if e < 0 then '-' else '+') ::
    ((if e.natAbs < 10 then ['0'] else []) ++ Nat.toDigits 10 e.natAbs)

def text (n : Numeral) : List Char :=
  n.whole ++ (n.fraction.elim [] fun ds => '.' :: ds) ++ n.exponent.elim [] exponentText

def wellFormed (n : Numeral) : Prop :=
  n.whole ≠ [] ∧ ∀ c ∈ n.digits, c.isDigit = true

end Numeral

def scanSign : List Char → Bool × List Char
  | '-' :: rest => (true, rest)
  | '+' :: rest => (false, rest)
  | rest => (false, rest)

def scanExponent : List Char → Option (Option ℤ)
  | [] => some none
  | c :: rest =>
    if c = 'e' ∨ c = 'E' then
      let (negative, ds) := scanSign rest
      if ds ≠ [] ∧ ds.all Char.isDigit then
        some (some (if negative then -(Nat.ofDigitChars 10 ds 0 : ℤ) else Nat.ofDigitChars 10 ds 0))
      else none
    else none

def scanFraction : List Char → Option (List Char) × List Char
  | '.' :: rest => (some (rest.takeWhile Char.isDigit), rest.dropWhile Char.isDigit)
  | rest => (none, rest)

def scan (text : List Char) : Option Numeral :=
  let whole := text.takeWhile Char.isDigit
  let (fraction, rest) := scanFraction (text.dropWhile Char.isDigit)
  if whole = [] ∧ fraction.getD [] = [] then none
  else (scanExponent rest).map fun exponent => ⟨whole, fraction, exponent⟩

theorem takeWhile_digits {ds rest : List Char} (hd : ∀ c ∈ ds, c.isDigit = true)
    (hr : ∀ c ∈ rest.head?, c.isDigit = false) :
    (ds ++ rest).takeWhile Char.isDigit = ds ∧ (ds ++ rest).dropWhile Char.isDigit = rest := by
  rw [List.takeWhile_append_of_pos hd, List.dropWhile_append_of_pos hd]
  cases rest with
  | nil => simp
  | cons c rest =>
    have hc : c.isDigit = false := hr c rfl
    simp [hc]

theorem toDigits_isDigit {n : ℕ} {c : Char} (h : c ∈ Nat.toDigits 10 n) : c.isDigit = true :=
  Nat.isDigit_of_mem_toDigits (by decide) (by decide) h

theorem scanExponent_text (e : ℤ) : scanExponent (Numeral.exponentText e) = some (some e) := by
  have hdigits : ∀ c ∈ (if e.natAbs < 10 then ['0'] else []) ++ Nat.toDigits 10 e.natAbs,
      c.isDigit = true := by
    intro c hc
    obtain hc | hc := List.mem_append.mp hc
    · split at hc
      · rw [List.mem_singleton.mp hc]
        rfl
      · cases hc
    · exact toDigits_isDigit hc
  have hvalue : Nat.ofDigitChars 10
      ((if e.natAbs < 10 then ['0'] else []) ++ Nat.toDigits 10 e.natAbs) 0 = e.natAbs := by
    rw [Nat.ofDigitChars_append]
    split <;> simp [Nat.ofDigitChars_cons]
  have hne : (if e.natAbs < 10 then ['0'] else []) ++ Nat.toDigits 10 e.natAbs ≠ [] := by
    simp [Nat.toDigits_ne_nil]
  unfold Numeral.exponentText
  generalize (if e.natAbs < 10 then ['0'] else []) ++ Nat.toDigits 10 e.natAbs = ds at *
  have hall : ds.all Char.isDigit = true := List.all_eq_true.mpr hdigits
  by_cases he : e < 0
  · simp only [scanExponent, if_pos he, scanSign, true_or, if_true, hall, hvalue, ne_eq, hne,
      not_false_eq_true, and_self, Option.some.injEq]
    omega
  · simp only [scanExponent, if_neg he, scanSign, true_or, if_true, hall, hvalue, ne_eq, hne,
      not_false_eq_true, and_self, Option.some.injEq, Bool.false_eq_true, if_false]
    omega

theorem exponentText_head (e : Option ℤ) :
    ∀ c ∈ (e.elim [] Numeral.exponentText).head?, c.isDigit = false := by
  cases e with
  | none => simp
  | some e =>
    intro c hc
    obtain rfl : 'e' = c := Option.some.inj hc
    rfl

theorem scanFraction_text {f : Option (List Char)} (hf : ∀ c ∈ f.getD [], c.isDigit = true)
    (e : Option ℤ) :
    scanFraction ((f.elim [] fun ds => '.' :: ds) ++ e.elim [] Numeral.exponentText) =
      (f, e.elim [] Numeral.exponentText) := by
  cases f with
  | none =>
    cases e with
    | none => rfl
    | some e => rfl
  | some ds =>
    obtain ⟨htake, hdrop⟩ := takeWhile_digits hf (exponentText_head e)
    rw [Option.getD_some] at htake hdrop
    simp [scanFraction, htake, hdrop]

theorem scan_text {n : Numeral} (h : n.wellFormed) : scan n.text = some n := by
  obtain ⟨hne, hdigits⟩ := h
  have hwhole : ∀ c ∈ n.whole, c.isDigit = true := fun c hc =>
    hdigits c (List.mem_append_left _ hc)
  have hfraction : ∀ c ∈ n.fraction.getD [], c.isDigit = true := fun c hc =>
    hdigits c (List.mem_append_right _ hc)
  have hrest : ∀ c ∈ ((n.fraction.elim [] fun ds => '.' :: ds) ++
      n.exponent.elim [] Numeral.exponentText).head?, c.isDigit = false := by
    cases hf : n.fraction with
    | none => exact exponentText_head n.exponent
    | some ds =>
      intro c hc
      obtain rfl : '.' = c := Option.some.inj hc
      rfl
  obtain ⟨htake, hdrop⟩ := takeWhile_digits hwhole hrest
  have hexponent : scanExponent (n.exponent.elim [] Numeral.exponentText) = some n.exponent := by
    cases n.exponent with
    | none => rfl
    | some e => exact scanExponent_text e
  unfold scan Numeral.text
  rw [List.append_assoc, htake, hdrop, scanFraction_text hfraction]
  simp [hne, hexponent]

def stripped (ds : List Char) : Option (List Char) :=
  if ds.rdropWhile (· == '0') = [] then none else some (ds.rdropWhile (· == '0'))

/-- `printf`'s `%.6g` of the digits of `m` at the exponent `e`. -/
def general (m : ℕ) (e : ℤ) : Numeral :=
  let ds := Nat.toDigits 10 m
  let x := e + ds.length - 1
  if x < -4 ∨ 6 ≤ x then ⟨ds.take 1, stripped (ds.drop 1), some x⟩
  else if x < 0 then ⟨['0'], stripped (List.replicate (-x - 1).toNat '0' ++ ds), none⟩
  else ⟨ds.take (x + 1).toNat, stripped (ds.drop (x + 1).toNat), none⟩

theorem stripped_getD (ds : List Char) : (stripped ds).getD [] = ds.rdropWhile (· == '0') := by
  unfold stripped
  split
  · simp [*]
  · rfl

theorem stripped_split (ds : List Char) :
    ∃ k, ds = (stripped ds).getD [] ++ List.replicate k '0' := by
  refine ⟨(ds.rtakeWhile (· == '0')).length, ?_⟩
  rw [stripped_getD]
  have hzero : ds.rtakeWhile (· == '0') =
      List.replicate (ds.rtakeWhile (· == '0')).length '0' := by
    rw [List.eq_replicate_iff]
    refine ⟨rfl, fun c hc => ?_⟩
    simpa using List.mem_rtakeWhile_imp hc
  rw [← hzero, List.rdropWhile_append_rtakeWhile]

/-- Trailing zeros do not change the value. -/
theorem value_stripped (whole ds : List Char) (e : Option ℤ) :
    Numeral.value ⟨whole, stripped ds, e⟩ =
      Nat.ofDigitChars 10 (whole ++ ds) 0 * 10 ^ (e.getD 0 - ds.length) := by
  obtain ⟨k, hk⟩ := stripped_split ds
  simp only [Numeral.value, Numeral.digits]
  generalize (stripped ds).getD [] = kept at hk ⊢
  rw [hk, ← List.append_assoc, Nat.ofDigitChars_append (l := whole ++ kept),
    Nat.ofDigitChars_replicate_zero, List.length_append, List.length_replicate]
  push_cast
  have hpow : (10 : ℚ) ^ (e.getD 0 - (kept.length : ℤ)) =
      10 ^ k * 10 ^ (e.getD 0 - ((kept.length : ℤ) + k)) := by
    rw [← zpow_natCast, ← zpow_add₀ (by norm_num)]
    congr 1
    omega
  rw [hpow]
  ring

theorem length_toDigits_pow {m k : ℕ} (h : 10 ^ k ≤ m) : k < (Nat.toDigits 10 m).length := by
  obtain rfl | hk := Nat.eq_zero_or_pos k
  · exact Nat.length_toDigits_pos
  · by_contra hle
    have hlt := (Nat.length_toDigits_le_iff (b := 10) (n := m) (by decide) hk).mp (by omega)
    omega

/-- The text of `general` has the value that was printed. -/
theorem value_general {m : ℕ} (hm : 10 ^ 5 ≤ m) (e : ℤ) : (general m e).value = m * 10 ^ e := by
  have hlength := length_toDigits_pow hm
  have hwhole : Nat.ofDigitChars 10 (Nat.toDigits 10 m) 0 = m := Nat.ofDigitChars_ten_toDigits
  unfold general
  simp only []
  split_ifs with hfar hsmall
  · rw [value_stripped, List.take_append_drop, hwhole, List.length_drop, Option.getD_some]
    congr 2
    omega
  · have hpad : ∀ k, Nat.ofDigitChars 10 (['0'] ++ (List.replicate k '0' ++ Nat.toDigits 10 m)) 0 =
        m := by
      intro k
      rw [Nat.ofDigitChars_append, Nat.ofDigitChars_append, Nat.ofDigitChars_replicate_zero,
        Nat.ofDigitChars_cons, Nat.ofDigitChars_nil]
      simp
    rw [value_stripped, hpad, List.length_append, List.length_replicate, Option.getD_none]
    congr 2
    omega
  · rw [value_stripped, List.take_append_drop, hwhole, List.length_drop, Option.getD_none]
    congr 2
    omega

theorem stripped_isDigit {ds : List Char} (h : ∀ c ∈ ds, c.isDigit = true) :
    ∀ c ∈ (stripped ds).getD [], c.isDigit = true := by
  rw [stripped_getD]
  intro c hc
  exact h c ((List.rdropWhile_prefix _ _).subset hc)

theorem wellFormed_general (m : ℕ) (e : ℤ) : (general m e).wellFormed := by
  have hdigit : ∀ c ∈ Nat.toDigits 10 m, c.isDigit = true := fun c hc => toDigits_isDigit hc
  have hne : Nat.toDigits 10 m ≠ [] := Nat.toDigits_ne_nil
  have htake : ∀ k, ∀ c ∈ (Nat.toDigits 10 m).take k, c.isDigit = true := fun k c hc =>
    hdigit c (List.mem_of_mem_take hc)
  have hdrop : ∀ k, ∀ c ∈ (Nat.toDigits 10 m).drop k, c.isDigit = true := fun k c hc =>
    hdigit c (List.mem_of_mem_drop hc)
  unfold general Numeral.wellFormed Numeral.digits
  simp only []
  split_ifs with hfar hsmall
  · refine ⟨by simp [hne], fun c hc => ?_⟩
    obtain hc | hc := List.mem_append.mp hc
    · exact htake _ c hc
    · exact stripped_isDigit (hdrop _) c hc
  · refine ⟨by simp, fun c hc => ?_⟩
    obtain hc | hc := List.mem_append.mp hc
    · rw [List.mem_singleton.mp hc]
      rfl
    · refine stripped_isDigit (fun c hc => ?_) c hc
      obtain hc | hc := List.mem_append.mp hc
      · rw [List.eq_of_mem_replicate hc]
        rfl
      · exact hdigit c hc
  · refine ⟨?_, fun c hc => ?_⟩
    · rw [ne_eq, List.take_eq_nil_iff, not_or]
      exact ⟨by omega, hne⟩
    · obtain hc | hc := List.mem_append.mp hc
      · exact htake _ c hc
      · exact stripped_isDigit (hdrop _) c hc

theorem toDigits_shift {n : ℕ} (hn : 0 < n) (k : ℕ) :
    Nat.toDigits 10 (n * 10 ^ k) = Nat.toDigits 10 n ++ List.replicate k '0' := by
  induction k with
  | zero => simp
  | succ k ih =>
    have hsucc : n * 10 ^ (k + 1) = 10 * (n * 10 ^ k) + 0 := by
      rw [Nat.pow_succ]
      ring
    rw [hsucc, ← Nat.toDigits_append_toDigits (by decide) (by positivity) (by decide), ih,
      Nat.toDigits_zero, List.append_assoc, List.replicate_succ']

theorem lt_pow_length (m : ℕ) : m < 10 ^ (Nat.toDigits 10 m).length :=
  (Nat.length_toDigits_le_iff (by decide) Nat.length_toDigits_pos).mp (Nat.le_refl _)

theorem plain_value {n : Numeral} (h : n.plain = true) :
    n.value = Nat.ofDigitChars 10 n.whole 0 := by
  obtain ⟨whole, fraction, exponent⟩ := n
  simp only [Numeral.plain, Bool.and_eq_true, Option.isNone_iff_eq_none] at h
  obtain ⟨rfl, rfl⟩ := h
  simp [Numeral.value, Numeral.digits]

theorem plain_lt {m : ℕ} {e : ℤ} (h : (general m e).plain = true) :
    (m : ℚ) * 10 ^ e < 10 ^ 6 := by
  have hx : e + (Nat.toDigits 10 m).length - 1 < 6 := by
    by_contra hfar
    have hsci : e + (Nat.toDigits 10 m).length - 1 < -4 ∨
        6 ≤ e + (Nat.toDigits 10 m).length - 1 := Or.inr (by omega)
    unfold general at h
    simp only at h
    rw [if_pos hsci] at h
    simp [Numeral.plain] at h
  have hm : (m : ℚ) < 10 ^ (Nat.toDigits 10 m).length := by exact_mod_cast lt_pow_length m
  calc (m : ℚ) * 10 ^ e < 10 ^ (Nat.toDigits 10 m).length * 10 ^ e :=
        mul_lt_mul_of_pos_right hm (by positivity)
    _ = 10 ^ (((Nat.toDigits 10 m).length : ℤ) + e) := by
        rw [zpow_add₀ (by norm_num), zpow_natCast]
    _ ≤ 10 ^ ((6 : ℕ) : ℤ) := zpow_le_zpow_right₀ (by norm_num) (by omega)
    _ = 10 ^ 6 := by rw [zpow_natCast]

theorem plain_of_natural {m n : ℕ} {e : ℤ} (hm : 10 ^ 5 ≤ m) (hn : 0 < n) (hlt : n < 10 ^ 6)
    (h : (m : ℚ) * 10 ^ e = n) : (general m e).plain = true := by
  have he : e ≤ 0 := by
    by_contra hpos
    have hten : (10 : ℚ) ≤ 10 ^ e := by
      calc (10 : ℚ) = 10 ^ (1 : ℤ) := by norm_num
        _ ≤ 10 ^ e := zpow_le_zpow_right₀ (by norm_num) (by omega)
    have hm' : (10 : ℚ) ^ 5 ≤ m := by exact_mod_cast hm
    have hn' : (n : ℚ) < 10 ^ 6 := by exact_mod_cast hlt
    have hprod : (10 : ℚ) ^ 5 * 10 ≤ m * 10 ^ e :=
      mul_le_mul hm' hten (by norm_num) (by positivity)
    rw [h] at hprod
    linarith
  obtain ⟨k, rfl⟩ : ∃ k : ℕ, e = -k := ⟨(-e).toNat, by omega⟩
  have hmn : m = n * 10 ^ k := by
    rw [zpow_neg, zpow_natCast, mul_inv_eq_iff_eq_mul₀ (by positivity)] at h
    exact_mod_cast h
  have hlength : (Nat.toDigits 10 n).length ≤ 6 :=
    (Nat.length_toDigits_le_iff (by decide) (by decide)).mpr hlt
  have hpos : 0 < (Nat.toDigits 10 n).length := Nat.length_toDigits_pos
  unfold general
  rw [hmn, toDigits_shift hn k]
  simp only [List.length_append, List.length_replicate]
  rw [if_neg (by omega), if_neg (by omega)]
  have htake : (-(k : ℤ) + (((Nat.toDigits 10 n).length + k : ℕ) : ℤ) - 1 + 1).toNat =
      (Nat.toDigits 10 n).length := by omega
  rw [htake, List.drop_left]
  simp [Numeral.plain, stripped]

end DeviceManager.DecimalText
