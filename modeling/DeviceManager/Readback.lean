import DeviceManager.ParameterText

namespace DeviceManager.ParameterText

open Domain Rounding Binary64 DecimalText

theorem mapM_eq_some {α : Type} {f : Scalar → Option α} {g : α → Scalar}
    (hf : ∀ s a, f s = some a ↔ s = g a) (scalars : List Scalar) (values : List α) :
    scalars.mapM f = some values ↔ scalars = values.map g := by
  induction scalars generalizing values with
  | nil => cases values <;> simp
  | cons s scalars ih =>
    simp only [List.mapM_cons, Option.bind_eq_bind, Option.bind_eq_some_iff, Option.pure_def,
      Option.some.injEq, hf, ih]
    constructor
    · rintro ⟨a, rfl, values, rfl, rfl⟩
      rfl
    · intro h
      cases values with
      | nil => cases h
      | cons a values =>
        obtain ⟨rfl, rfl⟩ := List.cons.inj h
        exact ⟨a, rfl, values, rfl, rfl⟩

theorem asBool_eq (s : Scalar) (v : Bool) : s.asBool = some v ↔ s = .bool v := by
  cases s <;> simp [Scalar.asBool]

theorem asInt_eq (s : Scalar) (v : Int64) : s.asInt = some v ↔ s = .int v := by
  cases s <;> simp [Scalar.asInt]

theorem asDouble_eq (s : Scalar) (v : UInt64) : s.asDouble = some v ↔ s = .double v := by
  cases s <;> simp [Scalar.asDouble]

theorem asString_eq (s : Scalar) (v : String) : s.asString = some v ↔ s = .string v := by
  cases s <;> simp [Scalar.asString]

theorem cons_ne_map {α : Type} {g : α → Scalar} {s : Scalar} (h : ∀ a, s ≠ g a)
    (scalars : List Scalar) (values : List α) : s :: scalars ≠ values.map g := by
  intro heq
  cases values with
  | nil => cases heq
  | cons a values => exact h a (List.cons.inj heq).1

theorem gather_eq (scalars : List Scalar) (value : ParameterValue) :
    gather scalars = some value ↔
      isArray value = true ∧ scalars ≠ [] ∧ scalars = elements value := by
  cases scalars with
  | nil => simp [gather]
  | cons s scalars =>
    cases s <;>
      simp only [gather, Option.map_eq_some_iff, mapM_eq_some asBool_eq, mapM_eq_some asInt_eq,
        mapM_eq_some asDouble_eq, mapM_eq_some asString_eq] <;>
      cases value <;> simp [isArray, elements, cons_ne_map]

theorem text_head {n : Numeral} (h : n.wellFormed) :
    ∃ c rest, n.text = c :: rest ∧ c.isDigit = true := by
  obtain ⟨hne, hdigits⟩ := h
  cases hw : n.whole with
  | nil => exact (hne hw).elim
  | cons c whole =>
    refine ⟨c, whole ++ (n.fraction.elim [] fun ds => '.' :: ds) ++
      n.exponent.elim [] Numeral.exponentText, by simp [Numeral.text, hw], hdigits c ?_⟩
    simp [Numeral.digits, hw]

def signed (minus : Bool) (n : Numeral) : List Char := (if minus then ['-'] else []) ++ n.text

theorem scanSign_signed {n : Numeral} (h : n.wellFormed) (minus : Bool) :
    scanSign (signed minus n) = (minus, n.text) := by
  obtain ⟨c, rest, htext, hc⟩ := text_head h
  cases minus with
  | true => rfl
  | false =>
    rw [signed, htext]
    have hminus : c ≠ '-' := by
      rintro rfl
      exact absurd hc (by decide)
    have hplus : c ≠ '+' := by
      rintro rfl
      exact absurd hc (by decide)
    simp [scanSign, hminus, hplus]

theorem readScalar_signed (yaml : DoubleQuoted) {n : Numeral} (h : n.wellFormed) (minus : Bool) :
    readScalar yaml (signed minus n) = readNumber (signed minus n) := by
  obtain ⟨c, rest, htext, hc⟩ := text_head h
  cases minus with
  | true =>
    rw [signed]
    simp [readScalar]
  | false =>
    rw [signed, htext]
    have hquote : c ≠ '"' := by
      rintro rfl
      exact absurd hc (by decide)
    have ht : c ≠ 't' := by
      rintro rfl
      exact absurd hc (by decide)
    have hf : c ≠ 'f' := by
      rintro rfl
      exact absurd hc (by decide)
    simp [readScalar, hquote, ht, hf]

theorem readNumber_signed {n : Numeral} (h : n.wellFormed) (minus : Bool) :
    readNumber (signed minus n) = numberOf minus n := by
  unfold readNumber
  rw [scanSign_signed h]
  simp only [scan_text h, Option.bind_some]

theorem wellFormed_digits (n : ℕ) : Numeral.wellFormed ⟨Nat.toDigits 10 n, none, none⟩ := by
  refine ⟨Nat.toDigits_ne_nil, fun c hc => ?_⟩
  simp only [Numeral.digits, Option.getD_none, List.append_nil] at hc
  exact toDigits_isDigit hc

theorem wellFormed_printed (b : ℕ) : (printed b).wellFormed := by
  unfold printed
  split
  · exact wellFormed_digits 0
  · exact wellFormed_general _ _

theorem read_int (yaml : DoubleQuoted) (value : Int64) :
    readScalar yaml (intText value.toInt) = some (.int value) := by
  have htext : intText value.toInt = signed (decide (value.toInt < 0))
      ⟨Nat.toDigits 10 value.toInt.natAbs, none, none⟩ := by
    simp [intText, signed, Numeral.text]
  rw [htext, readScalar_signed yaml (wellFormed_digits _), readNumber_signed (wellFormed_digits _)]
  have habs : (if decide (value.toInt < 0) = true then -(value.toInt.natAbs : ℤ)
      else value.toInt.natAbs) = value.toInt := by
    split <;> rename_i h <;> simp at h <;> omega
  have hlow := value.le_toInt
  have hhigh := value.toInt_lt
  simp only [numberOf, Numeral.plain, Option.isNone_none, Bool.and_self, if_true,
    Nat.ofDigitChars_ten_toDigits, habs]
  rw [if_pos (by omega), Int64.ofInt_toInt]

theorem toNat_bits (bits : UInt64) :
    bits.toNat = (if negative bits then 2 ^ 63 else 0) + magnitude bits := by
  have hlt := bits.toNat_lt
  unfold negative magnitude
  split <;> rename_i h <;> simp at h <;> omega

theorem bits_eq {bits : UInt64} {b : ℕ} (hfinite : magnitude bits < infinite) :
    UInt64.ofNat ((if negative bits then 2 ^ 63 else 0) + min b infinite) = bits ↔
      b = magnitude bits := by
  have hbits := toNat_bits bits
  have hmin : min b infinite ≤ infinite := Nat.min_le_right _ _
  have hsize : (if negative bits then 2 ^ 63 else 0) + min b infinite < 2 ^ 64 := by
    unfold infinite at *
    split <;> omega
  rw [← UInt64.toNat_inj, UInt64.toNat_ofNat', Nat.mod_eq_of_lt hsize, hbits]
  omega

theorem nearest_grain {n : ℕ} (h : n < 2 ^ 53) : units (nearest (n * grain)) = n * grain := by
  have hn := nearest_short (k := 1074) h
  rw [Nat.cast_mul] at hn
  exact hn

def SixDigits (bits : UInt64) : Prop :=
  ∃ q : ℚ, Short 10 6 q ∧ nearest (q * grain) = magnitude bits

def SmallInteger (bits : UInt64) : Prop :=
  ∃ n : ℕ, n < 10 ^ 6 ∧ units (magnitude bits) = n * grain

theorem grain_pos : (0 : ℚ) < grain := by
  have h : 0 < grain := by
    unfold grain
    apply Nat.pow_pos
    decide
  exact Nat.cast_pos.mpr h

theorem six_digits {x : ℚ} (hx : 0 < x) : 10 ^ 5 ≤ significand 10 6 x :=
  le_significand (β := 10) (p := 6) (by decide) (by decide) hx

theorem printed_value {b : ℕ} (h : 0 < units b) :
    (printed b).value = rounded 10 6 (units b / grain) := by
  have hx : (0 : ℚ) < units b / grain := div_pos (by exact_mod_cast h) grain_pos
  rw [printed, if_neg h.ne', value_general (six_digits hx)]
  rfl

theorem printed_plain {b n : ℕ} (h : 0 < units b) (hn : n < 10 ^ 6) (he : units b = n * grain) :
    (printed b).plain = true := by
  have hx : (0 : ℚ) < units b / grain := div_pos (by exact_mod_cast h) grain_pos
  have hval : (units b : ℚ) / grain = n := by
    rw [he, Nat.cast_mul, mul_div_cancel_right₀ _ grain_pos.ne']
  have hpos : 0 < n := Nat.pos_of_ne_zero fun h0 => by simp [he, h0] at h
  have hself := rounded_closest (β := 10) (p := 6) (by decide) (by decide) hx
    (show Short 10 6 (n : ℚ) from ⟨n, 0, hn, by simp⟩)
  rw [hval, sub_self, abs_zero] at hself
  have hround : rounded 10 6 (n : ℚ) = n :=
    (sub_eq_zero.mp (abs_eq_zero.mp (le_antisymm hself (abs_nonneg _)))).symm
  rw [printed, if_neg h.ne']
  apply plain_of_natural (six_digits hx) hpos hn
  rw [hval]
  exact hround

theorem numberOf_plain {n : Numeral} (h : n.plain = true) (minus : Bool) (bits : UInt64) :
    numberOf minus n ≠ some (.double bits) := by
  rw [numberOf, if_pos h]
  simp only [ne_eq]
  split_ifs <;> simp

/-- A finite double is read back exactly when six digits determine it and it does not
look like an integer. -/
theorem read_double (yaml : DoubleQuoted) {bits : UInt64} (hfinite : magnitude bits < infinite) :
    readScalar yaml (doubleText bits) = some (.double bits) ↔ SixDigits bits ∧ ¬ SmallInteger bits := by
  have htext : doubleText bits = signed (negative bits) (printed (magnitude bits)) := by
    rw [doubleText, if_pos hfinite, signed]
  rw [htext, readScalar_signed yaml (wellFormed_printed _),
    readNumber_signed (wellFormed_printed _)]
  obtain hzero | hpos := Nat.eq_zero_or_pos (units (magnitude bits))
  · have hplain : (printed (magnitude bits)).plain = true := by
      rw [printed, if_pos hzero]
      rfl
    have hsmall : SmallInteger bits := ⟨0, by decide, by rw [hzero, Nat.zero_mul]⟩
    exact iff_of_false (numberOf_plain hplain _ _) fun h => h.2 hsmall
  · have hvalue := printed_value hpos
    constructor
    · intro h
      by_cases hplain : (printed (magnitude bits)).plain = true
      · exact (numberOf_plain hplain _ _ h).elim
      · rw [numberOf, if_neg hplain, Option.some.injEq, Scalar.double.injEq, bits_eq hfinite,
          hvalue] at h
        refine ⟨⟨_, rounded_short (by decide) (by decide) ?_, h⟩, ?_⟩
        · exact div_nonneg (Nat.cast_nonneg _) grain_pos.le
        · rintro ⟨n, hn, he⟩
          exact hplain (printed_plain hpos hn he)
    · rintro ⟨⟨q, hq, hb⟩, hlarge⟩
      have hq0 : 0 ≤ q := by
        obtain ⟨m, e, -, rfl⟩ := hq
        positivity
      have hback := nearest_rounded (by decide) (by decide) (by decide) grain_pos hq0 hq hb hpos
      rw [← hvalue] at hback
      have hplain : ¬ (printed (magnitude bits)).plain = true := by
        intro hplain
        apply hlarge
        have hnat := plain_value hplain
        have hlt : (printed (magnitude bits)).value < 10 ^ 6 := by
          rw [hvalue]
          rw [printed, if_neg hpos.ne'] at hplain
          exact plain_lt hplain
        rw [hnat] at hback hlt
        have hlt' : Nat.ofDigitChars 10 (printed (magnitude bits)).whole 0 < 10 ^ 6 := by
          exact_mod_cast hlt
        refine ⟨_, hlt', ?_⟩
        have hexact := nearest_grain (hlt'.trans (show 10 ^ 6 < 2 ^ 53 by decide))
        rw [hback] at hexact
        exact hexact
      rw [numberOf, if_neg hplain, Option.some.injEq, Scalar.double.injEq, bits_eq hfinite]
      exact hback

/-- What holds of yaml-cpp's quoted text: its quotes are escaped, and the loader undoes
the escapes. -/
structure DoubleQuoted.Documented (yaml : DoubleQuoted) : Prop where
  delimited : ∀ text : String, '\x00' ∉ text.toList → delimited (yaml.escape text) = true
  unescape_escape : ∀ text : String, '\x00' ∉ text.toList →
    yaml.unescape (yaml.escape text) = some text

def Scalar.valid : Scalar → Prop
  | .double bits => magnitude bits < infinite
  | .string value => '\x00' ∉ value.toList
  | _ => True

def Scalar.kept : Scalar → Prop
  | .double bits => SixDigits bits ∧ ¬ SmallInteger bits
  | _ => True

theorem read_scalar {yaml : DoubleQuoted} (hyaml : yaml.Documented) {s : Scalar} (hs : s.valid) :
    readScalar yaml (scalarToString yaml s) = some s ↔ s.kept := by
  cases s with
  | bool value => cases value <;> simp [scalarToString, readScalar, Scalar.kept]
  | int value => simp [scalarToString, read_int, Scalar.kept]
  | double bits => exact read_double yaml hs
  | string value =>
    simp [scalarToString, readScalar, Scalar.kept, hyaml.delimited value hs,
      hyaml.unescape_escape value hs]

theorem items_quoted (item body rest : List Char) (h : delimited body = true) :
    items .quoted item (body ++ '"' :: rest) = items .plain (item ++ body ++ ['"']) rest := by
  induction body using delimited.induct generalizing item with
  | case1 => simp [items]
  | case2 c =>
    simp only [delimited, Bool.and_eq_true, bne_iff_ne, ne_eq] at h
    simp [items, h.1, h.2]
  | case3 d body => simp [delimited] at h
  | case4 d body hq ih =>
    simp only [delimited, Char.reduceEq, if_false, if_true] at h
    simp [items, ih _ h]
  | case5 c d body hq hb ih =>
    rw [delimited, if_neg hq, if_neg hb] at h
    rw [List.cons_append, items, if_neg hq, if_neg hb, ih _ h]
    simp

def inner (c : Char) : Prop := c ≠ ']' ∧ c ≠ ',' ∧ c ≠ '"'

theorem items_plain (item rest : List Char) {ds : List Char} (h : ∀ c ∈ ds, inner c) :
    items .plain item (ds ++ rest) = items .plain (item ++ ds) rest := by
  induction ds generalizing item with
  | nil => simp
  | cons c ds ih =>
    obtain ⟨hb, hc, hq⟩ := h c (List.mem_cons_self ..)
    rw [List.cons_append, items, if_neg hb, if_neg hc, if_neg hq,
      ih _ fun d hd => h d (List.mem_cons_of_mem _ hd), List.append_assoc]
    rfl

theorem inner_isDigit {c : Char} (h : c.isDigit = true) : inner c := by
  refine ⟨?_, ?_, ?_⟩ <;> rintro rfl <;> exact absurd h (by decide)

theorem inner_append {ds es : List Char} (hd : ∀ c ∈ ds, inner c) (he : ∀ c ∈ es, inner c) :
    ∀ c ∈ ds ++ es, inner c := by
  intro c hc
  obtain hc | hc := List.mem_append.mp hc
  · exact hd c hc
  · exact he c hc

theorem inner_cons {c : Char} {ds : List Char} (h : inner c) (hd : ∀ c ∈ ds, inner c) :
    ∀ d ∈ c :: ds, inner d := by
  intro d hm
  obtain rfl | hm := List.mem_cons.mp hm
  · exact h
  · exact hd d hm

theorem inner_digits (n : ℕ) : ∀ c ∈ Nat.toDigits 10 n, inner c := fun _ hc =>
  inner_isDigit (toDigits_isDigit hc)

theorem inner_exponent (e : ℤ) : ∀ c ∈ Numeral.exponentText e, inner c := by
  unfold Numeral.exponentText
  apply inner_cons (by simp [inner])
  apply inner_cons (by split <;> simp [inner])
  apply inner_append _ (inner_digits _)
  split <;> simp [inner]

theorem inner_numeral {n : Numeral} (h : n.wellFormed) : ∀ c ∈ n.text, inner c := by
  have hwhole : ∀ c ∈ n.whole, inner c := fun c hc =>
    inner_isDigit (h.2 c (List.mem_append_left _ hc))
  have hfraction : ∀ c ∈ n.fraction.getD [], inner c := fun c hc =>
    inner_isDigit (h.2 c (List.mem_append_right _ hc))
  unfold Numeral.text
  apply inner_append
  · apply inner_append hwhole
    cases hf : n.fraction with
    | none => simp
    | some ds =>
      rw [hf] at hfraction
      exact inner_cons (by simp [inner]) hfraction
  · cases n.exponent with
    | none => simp
    | some e => exact inner_exponent e

theorem inner_double (bits : UInt64) : ∀ c ∈ doubleText bits, inner c := by
  unfold doubleText
  apply inner_append
  · split <;> simp [inner]
  · split
    · exact inner_numeral (wellFormed_printed _)
    · split <;> simp [inner]

/-- The commas and brackets of a scalar stand between quotes. -/
theorem items_scalar {yaml : DoubleQuoted} (hyaml : yaml.Documented) {s : Scalar} (hs : s.valid)
    (rest : List Char) : items .plain [] (scalarToString yaml s ++ rest) =
      items .plain (scalarToString yaml s) rest := by
  cases s with
  | bool value =>
    apply items_plain
    cases value <;> simp [scalarToString, inner]
  | int value =>
    apply items_plain
    apply inner_append _ (inner_digits _)
    split <;> simp [inner]
  | double bits => exact items_plain [] rest (inner_double bits)
  | string value =>
    have h := items_quoted ['"'] (yaml.escape value) rest (hyaml.delimited value hs)
    simp only [scalarToString, List.cons_append, List.append_assoc, List.nil_append] at h ⊢
    simp [items, h]

theorem items_scalars {yaml : DoubleQuoted} (hyaml : yaml.Documented) {scalars : List Scalar}
    (hne : scalars ≠ []) (hs : ∀ s ∈ scalars, s.valid) :
    items .plain [] ([','].intercalate (scalars.map (scalarToString yaml)) ++ [']']) =
      some (scalars.map (scalarToString yaml)) := by
  induction scalars with
  | nil => exact (hne rfl).elim
  | cons s scalars ih =>
    have hone := items_scalar hyaml (hs s (List.mem_cons_self ..))
    cases scalars with
    | nil => simp [hone, items]
    | cons t scalars =>
      have hrest := ih (by simp) fun s hm => hs s (List.mem_cons_of_mem _ hm)
      rw [List.map_cons] at hrest
      rw [List.map_cons, List.map_cons, List.intercalate_cons_cons, List.append_assoc,
        List.append_assoc, hone, List.singleton_append, items, if_neg (by decide), if_pos rfl,
        hrest]
      rfl

theorem scalar_text (yaml : DoubleQuoted) (s : Scalar) :
    ∃ c rest, scalarToString yaml s = c :: rest ∧ c ≠ '[' := by
  have hdigit : ∀ {c : Char}, c.isDigit = true → c ≠ '[' := by
    rintro c h rfl
    exact absurd h (by decide)
  have hsign : ∀ {b : Bool} {ds : List Char}, (∃ c rest, ds = c :: rest ∧ c ≠ '[') →
      ∃ c rest, (if b = true then ['-'] else []) ++ ds = c :: rest ∧ c ≠ '[' := by
    rintro b ds ⟨c, rest, rfl, hc⟩
    cases b with
    | true => exact ⟨'-', _, rfl, by decide⟩
    | false => exact ⟨c, rest, rfl, hc⟩
  cases s with
  | bool value => cases value <;> simp [scalarToString]
  | int value =>
    have h : ∃ c rest, Nat.toDigits 10 value.toInt.natAbs = c :: rest ∧ c ≠ '[' := by
      obtain ⟨c, rest, he⟩ := List.exists_cons_of_ne_nil
        (Nat.toDigits_ne_nil (n := value.toInt.natAbs) (b := 10))
      exact ⟨c, rest, he, hdigit (toDigits_isDigit (he ▸ List.mem_cons_self ..))⟩
    have := hsign (b := decide (value.toInt < 0)) h
    simpa [scalarToString, intText] using this
  | double bits =>
    apply hsign
    split
    · obtain ⟨c, rest, he, hc⟩ := text_head (wellFormed_printed (magnitude bits))
      exact ⟨c, rest, he, hdigit hc⟩
    · split <;> simp
  | string value => simp [scalarToString]

theorem mapM_self {f : Scalar → List Char} {g : List Char → Option Scalar}
    (scalars : List Scalar) :
    (scalars.map f).mapM g = some scalars ↔ ∀ s ∈ scalars, g (f s) = some s := by
  induction scalars with
  | nil => simp
  | cons s scalars ih =>
    simp only [List.map_cons, List.mapM_cons, Option.bind_eq_bind, Option.bind_eq_some_iff,
      Option.pure_def, Option.some.injEq, List.cons.injEq, List.forall_mem_cons]
    constructor
    · rintro ⟨t, ht, ts, hts, rfl, rfl⟩
      exact ⟨ht, ih.mp hts⟩
    · rintro ⟨hs, hall⟩
      exact ⟨s, hs, scalars, ih.mpr hall, rfl, rfl⟩

theorem read_sequence {yaml : DoubleQuoted} (hyaml : yaml.Documented) {value : ParameterValue}
    (harray : isArray value = true) (hs : ∀ s ∈ elements value, s.valid) :
    read yaml (vectorToString yaml (elements value)) = some value ↔
      elements value ≠ [] ∧ ∀ s ∈ elements value, s.kept := by
  by_cases hempty : elements value = []
  · simp [hempty, vectorToString, read, items]
  · have hitems := items_scalars hyaml hempty hs
    have hfull : (elements value).map (scalarToString yaml) ≠ [[]] := by
      intro h
      obtain ⟨s, rest, he⟩ := List.exists_cons_of_ne_nil hempty
      obtain ⟨c, text, htext, -⟩ := scalar_text yaml s
      rw [he, List.map_cons, htext] at h
      cases h
    simp only [vectorToString, read, List.cons_append, hitems, Option.bind_some, if_neg hfull,
      Option.bind_eq_some_iff, gather_eq, harray, true_and]
    constructor
    · rintro ⟨scalars, hread, -, rfl⟩
      refine ⟨hempty, fun s hm => ?_⟩
      exact (read_scalar hyaml (hs s hm)).mp ((mapM_self _).mp hread s hm)
    · rintro ⟨hne, hkept⟩
      refine ⟨elements value, (mapM_self _).mpr fun s hm => ?_, hne, rfl⟩
      exact (read_scalar hyaml (hs s hm)).mpr (hkept s hm)

theorem lift_injective : Function.Injective Scalar.lift := by
  intro s t h
  cases s <;> cases t <;> simp_all [Scalar.lift]

theorem read_single {yaml : DoubleQuoted} (hyaml : yaml.Documented) {s : Scalar} (hs : s.valid) :
    read yaml (scalarToString yaml s) = some s.lift ↔ s.kept := by
  obtain ⟨c, rest, htext, hc⟩ := scalar_text yaml s
  have hread : read yaml (scalarToString yaml s) =
      (readScalar yaml (scalarToString yaml s)).map Scalar.lift := by
    rw [htext]
    simp [read, hc]
  rw [hread, Option.map_eq_some_iff, ← read_scalar hyaml hs]
  constructor
  · rintro ⟨t, ht, he⟩
    rw [lift_injective he] at ht
    exact ht
  · exact fun h => ⟨s, h, rfl⟩

def kept (value : ParameterValue) : Prop :=
  elements value ≠ [] ∧ ∀ s ∈ elements value, s.kept

/-- A parameter survives the command line exactly when each of its doubles is determined
by six digits and is no small integer, and it is not an empty array. -/
theorem parameter_survives (yaml : DoubleQuoted) (hyaml : yaml.Documented) :
    (∀ value, (∀ s ∈ elements value, s.valid) →
      (read yaml (parameterValueToString yaml value).toList = some value ↔ kept value)) ∧
    ∀ value other, (∀ s ∈ elements value, s.valid) → (∀ s ∈ elements other, s.valid) →
      kept value → kept other →
      parameterValueToString yaml value = parameterValueToString yaml other → value = other := by
  have hread : ∀ value, (∀ s ∈ elements value, s.valid) →
      (read yaml (parameterValueToString yaml value).toList = some value ↔ kept value) := by
    intro value hs
    have hsingle : ∀ s : Scalar, s.valid →
        (read yaml (scalarToString yaml s) = some s.lift ↔
          [s] ≠ [] ∧ ∀ t ∈ [s], t.kept) := by
      intro s hv
      simpa using read_single hyaml hv
    unfold parameterValueToString kept
    rw [String.toList_ofList]
    cases value with
    | bool v => exact hsingle _ (hs _ (List.mem_singleton_self _))
    | int v => exact hsingle _ (hs _ (List.mem_singleton_self _))
    | double v => exact hsingle _ (hs _ (List.mem_singleton_self _))
    | string v => exact hsingle _ (hs _ (List.mem_singleton_self _))
    | bools vs => exact read_sequence hyaml rfl hs
    | ints vs => exact read_sequence hyaml rfl hs
    | doubles vs => exact read_sequence hyaml rfl hs
    | strings vs => exact read_sequence hyaml rfl hs
  refine ⟨hread, fun value other hv ho hkv hko htext => ?_⟩
  have h := (hread value hv).mpr hkv
  rw [htext, (hread other ho).mpr hko] at h
  exact (Option.some.inj h).symm

def backslashed : DoubleQuoted where
  escape text := text.toList.flatMap fun c => if c = '"' ∨ c = '\\' then ['\\', c] else [c]
  unescape := fun chars => some (String.ofList (unbackslash chars))
where
  unbackslash : List Char → List Char
    | [] => []
    | [c] => [c]
    | c :: d :: rest => if c = '\\' then d :: unbackslash rest else c :: unbackslash (d :: rest)

theorem delimited_append {c : Char} {rest : List Char} (hq : c ≠ '"') (hb : c ≠ '\\')
    (h : delimited rest = true) : delimited (c :: rest) = true := by
  cases rest with
  | nil => simp [delimited, hq, hb]
  | cons d rest => rw [delimited, if_neg hq, if_neg hb, h]

theorem unbackslash_cons {c : Char} (hb : c ≠ '\\') (rest : List Char) :
    backslashed.unbackslash (c :: rest) = c :: backslashed.unbackslash rest := by
  cases rest with
  | nil => rfl
  | cons d rest => rw [backslashed.unbackslash, if_neg hb]

theorem backslashed_documented : backslashed.Documented := by
  constructor
  · intro text _
    simp only [backslashed]
    induction text.toList with
    | nil => rfl
    | cons c chars ih =>
      rw [List.flatMap_cons]
      split
      · rw [List.cons_append, List.cons_append, delimited, if_neg (by decide), if_pos rfl]
        exact ih
      · rename_i h
        obtain ⟨hq, hb⟩ := not_or.mp h
        exact delimited_append hq hb ih
  · intro text _
    simp only [backslashed, Option.some.injEq]
    rw [← String.ofList_toList (s := text)]
    congr 1
    simp only [String.toList_ofList]
    induction text.toList with
    | nil => rfl
    | cons c chars ih =>
      rw [List.flatMap_cons]
      split
      · rw [List.cons_append, List.cons_append, backslashed.unbackslash, if_pos rfl]
        exact congrArg (c :: ·) ih
      · rename_i h
        obtain ⟨hq, hb⟩ := not_or.mp h
        rw [List.singleton_append, unbackslash_cons hb, ih]

theorem parameter_survives_quotes :
    read backslashed (parameterValueToString backslashed (.strings ["a,\"]", "\\"])).toList =
      some (.strings ["a,\"]", "\\"]) := by
  refine ((parameter_survives backslashed backslashed_documented).1 _ ?_).mpr ?_
  · simp [elements, Scalar.valid]
  · simp [kept, elements, Scalar.kept]

def two : UInt64 := 0x4000000000000000

theorem printed_two : printed (magnitude two) = ⟨['2'], none, none⟩ := by
  have hunits : units (magnitude two) = 2 * grain := by decide +kernel
  have hval : (units (magnitude two) : ℚ) / grain = 2 := by
    rw [hunits, Nat.cast_mul, mul_div_cancel_right₀ _ grain_pos.ne']
    rfl
  have hexp : exponent 10 6 2 = -5 := by
    have hlog : Nat.log 10 2 = 0 := Nat.log_of_lt (by decide)
    simp [exponent, hlog]
  have hsig : significand 10 6 2 = 200000 := by
    have h : (2 : ℚ) / ((10 : ℕ) : ℚ) ^ (-5 : ℤ) = ((200000 : ℕ) : ℚ) := by norm_num
    rw [significand, hexp, h, roundEven_natCast]
  have hne : units (magnitude two) ≠ 0 := by decide +kernel
  rw [printed, if_neg hne, hval, hexp, hsig]
  decide

/-- A double that prints like an integer, and empty arrays of two types. -/
theorem parameter_loses_type :
    parameterValueToString backslashed (.double two) =
      parameterValueToString backslashed (.int 2) ∧
    read backslashed (parameterValueToString backslashed (.double two)).toList = some (.int 2) ∧
    parameterValueToString backslashed (.bools []) =
      parameterValueToString backslashed (.strings []) := by
  have htwo : parameterValueToString backslashed (.double two) = String.ofList ['2'] := by
    have hfinite : magnitude two < infinite := by decide
    have hsign : negative two = false := by decide
    simp only [parameterValueToString, scalarToString, doubleText, if_pos hfinite, hsign,
      printed_two]
    rfl
  rw [htwo]
  refine ⟨rfl, ?_, rfl⟩
  rw [String.toList_ofList]
  decide

end DeviceManager.ParameterText
