import DeviceManager.OtpDecode

namespace DeviceManager.OtpImage

open LittleEndian ShiftRegister ByteImage OtpDecode

inductive Lens where
  | equidistant (k1 k2 k3 k4 : UInt64)
  | plumbBob (model : UInt8) (notFisheye : model ≠ 0x02) (k1 k2 p1 p2 k3 : UInt64)

structure Otp where
  width : UInt16
  height : UInt16
  fx : UInt64
  fy : UInt64
  cx : UInt64
  cy : UInt64
  lens : Lens
  serialNumber : List UInt8
  printable : ∀ b ∈ serialNumber, 0x20 ≤ b ∧ b ≤ 0x7E
  named : serialNumber ≠ []
  fits : serialNumber.length ≤ 16

def u16Bytes (value : UInt16) : List UInt8 := [lowByte value, highByte value]

def u32Bytes (value : UInt32) : List UInt8 :=
  [(value &&& 0xFF).toUInt8, ((value >>> 8) &&& 0xFF).toUInt8, ((value >>> 16) &&& 0xFF).toUInt8,
    ((value >>> 24) &&& 0xFF).toUInt8]

def doubleBytes (value : UInt64) : List UInt8 :=
  (List.range 8).map fun index => (value >>> UInt64.ofNat (index * 8)).toUInt8

def Lens.model : Lens → UInt8
  | .equidistant .. => 0x02
  | .plumbBob model .. => model

def Lens.distortionModel : Lens → String
  | .equidistant .. => "equidistant"
  | .plumbBob .. => "plumb_bob"

def Lens.d : Lens → List UInt64
  | .equidistant k1 k2 k3 k4 => [k1, k2, k3, k4]
  | .plumbBob _ _ k1 k2 p1 p2 k3 => [k1, k2, p1, p2, k3]

def Lens.fields : Lens → List (Nat × List UInt8)
  | .equidistant k1 k2 k3 k4 =>
    [(0xC5, doubleBytes k1), (0xCD, doubleBytes k2), (0xD5, doubleBytes k3), (0xDD, doubleBytes k4)]
  | .plumbBob _ _ k1 k2 p1 p2 k3 =>
    [(0x85, doubleBytes k1), (0x8D, doubleBytes k2), (0x95, doubleBytes p1), (0x9D, doubleBytes p2),
      (0xA5, doubleBytes k3)]

variable (otp : Otp)

def Otp.fields : List (Nat × List UInt8) :=
  [(0x60, u16Bytes otp.width), (0x62, u16Bytes otp.height), (0x64, [otp.lens.model]),
    (0x65, doubleBytes otp.fx), (0x6D, doubleBytes otp.fy), (0x75, doubleBytes otp.cx),
    (0x7D, doubleBytes otp.cy)] ++ otp.lens.fields

def Otp.body : List UInt8 := writeAll (List.replicate 0x2000 0xFF) otp.fields

def Otp.labelled : List UInt8 :=
  overwrite (overwrite otp.body 0x11C (u32Bytes (crc32 otp.body 0x60 0x11C))) 0x120 otp.serialNumber

/-- `valid_ox01f10_otp` of the tests, with any values. -/
def Otp.image : List UInt8 :=
  overwrite otp.labelled 0x141 (u32Bytes (crc32 otp.labelled 0x120 0x130))

def Otp.serial : String := String.ofList (otp.serialNumber.map fun b => Char.ofNat b.toNat)

def Otp.calibration : CameraCalibration where
  width := otp.width.toUInt32
  height := otp.height.toUInt32
  distortionModel := otp.lens.distortionModel
  d := otp.lens.d
  k := ![otp.fx, 0, otp.cx, 0, otp.fy, otp.cy, 0, 0, one]
  r := ![one, 0, 0, 0, one, 0, 0, 0, one]
  p := ![otp.fx, 0, otp.cx, 0, 0, otp.fy, otp.cy, 0, 0, 0, one, 0]

section Reading

variable {data : List UInt8} {offset : Nat}

theorem readLeU16_of_slice {value : UInt16} (h : slice data offset (offset + 2) = u16Bytes value) :
    readLeU16 data offset = value := by
  have hlow : (slice data offset (offset + 2)).getD 0 0 = data.getD (offset + 0) 0 :=
    getD_slice (by omega) 0
  have hhigh : (slice data offset (offset + 2)).getD 1 0 = data.getD (offset + 1) 0 :=
    getD_slice (by omega) 0
  rw [h] at hlow hhigh
  rw [readLeU16, ← hhigh, ← Nat.add_zero offset, ← hlow]
  exact word_bytes value

theorem toUInt8_mask (value : UInt32) : (value &&& 0xFF).toUInt8 = value.toUInt8 := by
  apply UInt8.toBitVec_inj.mp
  have hand : (value &&& 0xFF).toUInt8.toBitVec = value.toUInt8.toBitVec &&& BitVec.allOnes 8 := by
    rw [UInt32.toUInt8_and]
    rfl
  rw [hand, BitVec.and_allOnes]

theorem getLsbD_u32Bytes (value : UInt32) {i : Nat} (hi : i < 32) :
    ((u32Bytes value).getD (i / 8) 0).toBitVec.getLsbD (i % 8) = value.toBitVec.getLsbD i := by
  have hmod : i % 8 < 8 := Nat.mod_lt _ (by decide)
  have hplace := Nat.div_add_mod i 8
  rw [u32Bytes, toUInt8_mask, toUInt8_mask, toUInt8_mask, toUInt8_mask]
  obtain hb | hb | hb | hb : i / 8 = 0 ∨ i / 8 = 1 ∨ i / 8 = 2 ∨ i / 8 = 3 := by omega
  · rw [hb, Nat.mul_zero, Nat.zero_add] at hplace
    have hlt : i < 8 := by omega
    simp [hb, hplace, hlt]
  · rw [hb] at hplace ⊢
    simp [hmod, hplace]
  · rw [hb] at hplace ⊢
    simp [hmod, hplace]
  · rw [hb] at hplace ⊢
    simp [hmod, hplace]

theorem readLeU32_of_slice {value : UInt32} (h : slice data offset (offset + 4) = u32Bytes value) :
    readLeU32 data offset = value := by
  apply UInt32.toBitVec_inj.mp
  apply BitVec.eq_of_getLsbD_eq
  intro i hi
  have hbyte : (slice data offset (offset + 4)).getD (i / 8) 0 = data.getD (offset + i / 8) 0 :=
    getD_slice (by omega) 0
  rw [h] at hbyte
  rw [getLsbD_readLeU32 data offset hi, ← hbyte, getLsbD_u32Bytes value hi]

theorem getLsbD_shifted (b : UInt8) {index : Nat} (hindex : index < 8) {i : Nat} (hi : i < 64) :
    (b.toUInt64 <<< UInt64.ofNat (index * 8)).toBitVec.getLsbD i =
      (decide (i / 8 = index) && b.toBitVec.getLsbD (i % 8)) := by
  have hmod : index * 8 % 64 = index * 8 := by omega
  obtain hlt | heq | hgt := Nat.lt_trichotomy (i / 8) index
  · have hbelow : i < index * 8 := by omega
    have hne : i / 8 ≠ index := by omega
    simp [hmod, hbelow, hne]
  · have hnot : ¬i < index * 8 := by omega
    have hplace : i - index * 8 = i % 8 := by omega
    simp [hmod, hnot, heq, hi, hplace]
  · have hnot : ¬i < index * 8 := by omega
    have hne : i / 8 ≠ index := by omega
    have hhigh : b.toBitVec.getLsbD (i - index * 8) = false := BitVec.getLsbD_of_ge _ _ (by omega)
    simp [hmod, hnot, hne, hhigh]

/-- The bytes that the loop of `read_le_double` has seen are in their places. -/
theorem getLsbD_loop (data : List UInt8) (offset : Nat) {n : Nat} (hn : n ≤ 8) {i : Nat}
    (hi : i < 64) :
    ((List.range n).foldl (fun raw index => raw |||
        ((data.getD (offset + index) 0).toUInt64 <<< UInt64.ofNat (index * 8))) 0).toBitVec.getLsbD i =
      (decide (i / 8 < n) && (data.getD (offset + i / 8) 0).toBitVec.getLsbD (i % 8)) := by
  induction n with
  | zero => simp
  | succ n ih =>
    rw [List.range_succ, List.foldl_append, List.foldl_cons, List.foldl_nil, UInt64.toBitVec_or,
      BitVec.getLsbD_or, ih (by omega), getLsbD_shifted _ (by omega) hi]
    obtain hlt | heq | hgt := Nat.lt_trichotomy (i / 8) n
    · have hnext : i / 8 < n + 1 := by omega
      have hne : i / 8 ≠ n := by omega
      simp [hlt, hnext, hne]
    · simp [heq]
    · have hnext : ¬i / 8 < n + 1 := by omega
      have hne : i / 8 ≠ n := by omega
      have hnot : ¬i / 8 < n := by omega
      simp [hnext, hne, hnot]

theorem readLeDouble_of_slice {value : UInt64}
    (h : slice data offset (offset + 8) = doubleBytes value) : readLeDouble data offset = value := by
  apply UInt64.toBitVec_inj.mp
  apply BitVec.eq_of_getLsbD_eq
  intro i hi
  have hindex : i / 8 < 8 := by omega
  have hplace : i / 8 * 8 + i % 8 = i := by omega
  have hmod : i % 8 < 8 := Nat.mod_lt _ (by decide)
  have hshift : i / 8 * 8 % 64 = i / 8 * 8 := by omega
  have hbyte : (slice data offset (offset + 8)).getD (i / 8) 0 = data.getD (offset + i / 8) 0 :=
    getD_slice (by omega) 0
  have hvalue : (doubleBytes value).getD (i / 8) 0 =
      (value >>> UInt64.ofNat (i / 8 * 8)).toUInt8 := by
    simp [doubleBytes, List.getD_eq_getElem?_getD, hindex]
  have hbit : (value >>> UInt64.ofNat (i / 8 * 8)).toUInt8.toBitVec.getLsbD (i % 8) =
      value.toBitVec.getLsbD (i / 8 * 8 + i % 8) := by
    simp [hmod, hshift]
  rw [h, hvalue] at hbyte
  rw [readLeDouble, getLsbD_loop data offset (by decide) hi, ← hbyte, hbit, hplace]
  simp [hindex]

end Reading

theorem length_doubleBytes (value : UInt64) : (doubleBytes value).length = 8 := by
  rw [doubleBytes, List.length_map, List.length_range]

theorem laid_fields : Laid 0x60 0x11C otp.fields := by
  unfold Otp.fields
  cases otp.lens with
  | equidistant => simp [Laid, Lens.fields, length_doubleBytes, u16Bytes]
  | plumbBob => simp [Laid, Lens.fields, length_doubleBytes, u16Bytes]

theorem room : 0x11C ≤ (List.replicate 0x2000 (0xFF : UInt8)).length := by
  rw [List.length_replicate]
  decide

theorem length_body : otp.body.length = 0x2000 := by
  have hlen := length_writeAll room (laid_fields otp)
  rwa [List.length_replicate] at hlen

theorem length_checked :
    (overwrite otp.body 0x11C (u32Bytes (crc32 otp.body 0x60 0x11C))).length = 0x2000 := by
  rw [length_overwrite (by rw [length_body]; simp [u32Bytes]), length_body]

theorem length_labelled : otp.labelled.length = 0x2000 := by
  have hfits := otp.fits
  rw [Otp.labelled, length_overwrite (by rw [length_checked]; omega), length_checked]

theorem length_image : otp.image.length = 0x2000 := by
  rw [Otp.image, length_overwrite (by rw [length_labelled]; simp [u32Bytes]), length_labelled]

theorem slice_image {a b : Nat} (h : b ≤ 0x141) : slice otp.image a b = slice otp.labelled a b := by
  rw [Otp.image, slice_overwrite_before (by rw [length_labelled]; simp [u32Bytes]) h]

theorem slice_body {a b : Nat} (h : b ≤ 0x11C) : slice otp.image a b = slice otp.body a b := by
  have hfits := otp.fits
  rw [slice_image otp (by omega), Otp.labelled,
    slice_overwrite_before (by rw [length_checked]; omega) (by omega),
    slice_overwrite_before (by rw [length_body]; simp [u32Bytes]) h]

theorem slice_field {field : Nat × List UInt8} (h : field ∈ otp.fields)
    (hlast : field.1 + field.2.length ≤ 0x11C) :
    slice otp.image field.1 (field.1 + field.2.length) = field.2 := by
  rw [slice_body otp hlast, Otp.body]
  exact slice_writeAll room (laid_fields otp) h

theorem slice_checksum : slice otp.image 0x11C 0x120 = u32Bytes (crc32 otp.image 0x60 0x11C) := by
  have hfits := otp.fits
  rw [crc32_congr (slice_body otp (le_refl _)), slice_image otp (by decide), Otp.labelled,
    slice_overwrite_before (by rw [length_checked]; omega) (le_refl _)]
  exact slice_overwrite (by rw [length_body]; simp [u32Bytes])

theorem slice_serialNumber : slice otp.image 0x120 0x130 =
    otp.serialNumber ++ List.replicate (16 - otp.serialNumber.length) 0xFF := by
  have hfits := otp.fits
  have hroom : 0x120 + otp.serialNumber.length ≤
      (overwrite otp.body 0x11C (u32Bytes (crc32 otp.body 0x60 0x11C))).length := by
    rw [length_checked]
    omega
  have hrest : slice otp.body (0x120 + otp.serialNumber.length) 0x130 =
      List.replicate (16 - otp.serialNumber.length) 0xFF := by
    rw [Otp.body, slice_writeAll_behind room (laid_fields otp) (by omega), slice,
      List.take_replicate, List.drop_replicate]
    congr 1
    omega
  rw [slice_image otp (by decide), Otp.labelled,
    ← slice_append (by omega : 0x120 ≤ 0x120 + otp.serialNumber.length) (by omega),
    slice_overwrite hroom, slice_overwrite_behind hroom (le_refl _),
    slice_overwrite_behind (by rw [length_body]; simp [u32Bytes]) (by simp [u32Bytes]), hrest]

theorem slice_serialChecksum :
    slice otp.image 0x141 0x145 = u32Bytes (crc32 otp.image 0x120 0x130) := by
  rw [crc32_congr (slice_image otp (by decide)), Otp.image]
  exact slice_overwrite (by rw [length_labelled]; simp [u32Bytes])

theorem serialNumberOf_printable {bytes : List UInt8} (h : ∀ b ∈ bytes, 0x20 ≤ b ∧ b ≤ 0x7E)
    (n : Nat) : serialNumberOf (bytes ++ List.replicate n 0xFF) =
      bytes.map fun b => Char.ofNat b.toNat := by
  induction bytes with
  | nil =>
    cases n with
    | zero => rfl
    | succ n => rfl
  | cons b bytes ih =>
    obtain ⟨hlow, hhigh⟩ := h b (List.mem_cons_self ..)
    have hend : ¬(b = 0x00 ∨ b = 0xFF) := by
      rintro (rfl | rfl)
      · exact absurd hlow (by decide)
      · exact absurd hhigh (by decide)
    have hshown : ¬(b < 0x20 ∨ 0x7E < b) := by
      rw [not_or, UInt8.not_lt, UInt8.not_lt]
      exact ⟨hlow, hhigh⟩
    rw [List.cons_append, serialNumberOf, if_neg hend, if_neg hshown, List.map_cons,
      ih fun c hc => h c (List.mem_cons_of_mem _ hc)]

theorem readLeDouble_image {offset : Nat} {value : UInt64}
    (h : (offset, doubleBytes value) ∈ otp.fields) (hlast : offset + 8 ≤ 0x11C) :
    readLeDouble otp.image offset = value := by
  have hslice := slice_field otp h (by rwa [length_doubleBytes])
  rw [length_doubleBytes] at hslice
  exact readLeDouble_of_slice hslice

theorem readLeU16_image {offset : Nat} {value : UInt16}
    (h : (offset, u16Bytes value) ∈ otp.fields) (hlast : offset + 2 ≤ 0x11C) :
    readLeU16 otp.image offset = value := by
  have hslice := slice_field otp h hlast
  exact readLeU16_of_slice hslice

theorem model_image : otp.image.getD 0x64 0 = otp.lens.model := by
  have hfield : ((0x64, [otp.lens.model]) : Nat × List UInt8) ∈ otp.fields := by simp [Otp.fields]
  have hslice := slice_field otp hfield (by decide : 0x64 + 1 ≤ 0x11C)
  have hbyte : (slice otp.image 0x64 (0x64 + 1)).getD 0 0 = otp.image.getD (0x64 + 0) 0 :=
    getD_slice (by decide) 0
  rw [← Nat.add_zero 0x64, ← hbyte]
  exact congrArg (fun bytes => bytes.getD 0 0) hslice

theorem otpCalibration_image : otpCalibration otp.image = otp.calibration := by
  have hfx : readLeDouble otp.image 0x65 = otp.fx :=
    readLeDouble_image otp (by simp [Otp.fields]) (by decide)
  have hfy : readLeDouble otp.image 0x6D = otp.fy :=
    readLeDouble_image otp (by simp [Otp.fields]) (by decide)
  have hcx : readLeDouble otp.image 0x75 = otp.cx :=
    readLeDouble_image otp (by simp [Otp.fields]) (by decide)
  have hcy : readLeDouble otp.image 0x7D = otp.cy :=
    readLeDouble_image otp (by simp [Otp.fields]) (by decide)
  have hwidth : readLeU16 otp.image 0x60 = otp.width :=
    readLeU16_image otp (by simp [Otp.fields]) (by decide)
  have hheight : readLeU16 otp.image 0x62 = otp.height :=
    readLeU16_image otp (by simp [Otp.fields]) (by decide)
  have hmodel := model_image otp
  have hd : ∀ offset value, (offset, doubleBytes value) ∈ otp.lens.fields → offset + 8 ≤ 0x11C →
      readLeDouble otp.image offset = value := fun offset value h =>
    readLeDouble_image otp (List.mem_append_right _ h)
  unfold otpCalibration Otp.calibration
  simp only [hfx, hfy, hcx, hcy, hwidth, hheight, hmodel]
  cases hlens : otp.lens with
  | equidistant k1 k2 k3 k4 =>
    rw [hlens] at hd
    rw [hd 0xC5 k1 (by simp [Lens.fields]) (by decide),
      hd 0xCD k2 (by simp [Lens.fields]) (by decide),
      hd 0xD5 k3 (by simp [Lens.fields]) (by decide),
      hd 0xDD k4 (by simp [Lens.fields]) (by decide)]
    rfl
  | plumbBob model notFisheye k1 k2 p1 p2 k3 =>
    rw [hlens] at hd
    rw [hd 0x85 k1 (by simp [Lens.fields]) (by decide),
      hd 0x8D k2 (by simp [Lens.fields]) (by decide),
      hd 0x95 p1 (by simp [Lens.fields]) (by decide),
      hd 0x9D p2 (by simp [Lens.fields]) (by decide),
      hd 0xA5 k3 (by simp [Lens.fields]) (by decide)]
    rw [Lens.model, if_neg notFisheye, if_neg notFisheye]
    rfl

/-- What is programmed is read back. -/
theorem decodeOx01f10Otp_image :
    decodeOx01f10Otp otp.image = .ok (otp.serial, otp.calibration) := by
  have hserial : readOtpSerialNumber otp.image = otp.serial := by
    rw [readOtpSerialNumber, slice_serialNumber, serialNumberOf_printable otp.printable]
    rfl
  apply decodeOx01f10Otp_eq_ok.mpr
  refine ⟨?_, ?_, ?_, ?_, ?_⟩
  · rw [length_image]
    decide
  · exact (readLeU32_of_slice (slice_checksum otp)).symm
  · exact (readLeU32_of_slice (slice_serialChecksum otp)).symm
  · rw [hserial, Otp.serial]
    simp [otp.named]
  · rw [hserial, otpCalibration_image]

def sampleSerial : List UInt8 := [79, 84, 80, 45, 83, 78, 45, 48, 48, 49]

theorem sampleSerial_printable : ∀ b ∈ sampleSerial, 0x20 ≤ b ∧ b ≤ 0x7E := by
  simp [sampleSerial]

theorem sampleSerial_ne_nil : sampleSerial ≠ [] := List.cons_ne_nil _ _

theorem length_sampleSerial : sampleSerial.length ≤ 16 := by simp [sampleSerial]

def sample : Otp where
  width := 1280
  height := 960
  fx := 0x4073C757DEDB6644
  fy := 0x4073C66F489A95C6
  cx := 0x408409A3F5484B5B
  cy := 0x407E325F2EEB4231
  lens := .equidistant 0x3FB8FA2D098ECF2F 0xBF7F510E33A1218B 0xBF59775EAF837DDE 0x3F0B0775F3AABAB2
  serialNumber := sampleSerial
  printable := sampleSerial_printable
  named := sampleSerial_ne_nil
  fits := length_sampleSerial

/-- A model byte that has become another one. -/
theorem decodeOx01f10Otp_damaged_model :
    ∃ message, decodeOx01f10Otp (overwrite sample.image 0x64 [0x01]) = .error message := by
  have hroom : 0x64 + [(0x01 : UInt8)].length ≤ sample.image.length := by
    rw [length_image]
    decide
  have hdamaged := decodeOx01f10Otp_damaged sample.image (overwrite sample.image 0x64 [0x01])
    (sample.serial, sample.calibration)
    (burst_overwrite length_lsbBits hroom (by decide)) (decodeOx01f10Otp_image sample)
  have hharmed : ¬Unharmed sample.image (overwrite sample.image 0x64 [0x01]) := by
    rintro ⟨hsame, -, -⟩
    have hmodel := getD_within hsame (i := 0x64) (by decide) (by decide) 0
    have hbyte : (slice (overwrite sample.image 0x64 [0x01]) 0x64 (0x64 + 1)).getD 0 0 =
        (overwrite sample.image 0x64 [0x01]).getD (0x64 + 0) 0 := getD_slice (by decide) 0
    have hwritten := slice_overwrite hroom
    rw [List.length_singleton] at hwritten
    rw [hwritten] at hbyte
    rw [model_image, ← Nat.add_zero 0x64, ← hbyte] at hmodel
    exact absurd hmodel (by decide)
  rwa [if_neg hharmed] at hdamaged

end DeviceManager.OtpImage
