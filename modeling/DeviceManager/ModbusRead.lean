import DeviceManager.SocketCan
import Mathlib.Data.List.GetD

namespace DeviceManager.ModbusRead

open LittleEndian SocketCan

/-- Address, function code, byte count, data and checksum. -/
def IsResponse (deviceAddress : UInt8) (registerCount : UInt16) (data bytes : List UInt8) : Prop :=
  data.length = 2 * registerCount.toNat ∧ 2 * registerCount.toNat ≤ 255 ∧
    bytes = appendCrc
      (deviceAddress :: 0x03 :: UInt8.ofNat (2 * registerCount.toNat) :: data)

theorem updateExpectedSize_bytes (a : ModbusResponseAssembler) :
    a.updateExpectedSize.bytes = a.bytes := by
  unfold ModbusResponseAssembler.updateExpectedSize
  split_ifs <;> rfl

theorem append_empty (a : ModbusResponseAssembler) :
    a.append [] = (a, .error "收到空 CAN 响应分片") := rfl

theorem append_bytes {fragment : List UInt8} (h : fragment ≠ []) (a : ModbusResponseAssembler) :
    (a.append fragment).1.bytes = a.bytes ++ fragment := by
  unfold ModbusResponseAssembler.append
  rw [if_neg (by simpa using h)]
  exact updateExpectedSize_bytes _

theorem receive_consumes {failure : String} {fragments : List (List UInt8)} {bytes : List UInt8}
    {a : ModbusResponseAssembler} (h : receive failure a fragments = .ok bytes) :
    ∃ consumed, consumed <+: fragments ∧ (∀ fragment ∈ consumed, fragment ≠ []) ∧
      bytes = a.bytes ++ consumed.flatten := by
  induction fragments generalizing a with
  | nil => cases h
  | cons fragment fragments ih =>
    by_cases hf : fragment = []
    · rw [hf, receive, append_empty] at h
      cases h
    · have hbytes := append_bytes hf a
      rw [receive] at h
      split at h
      · cases h
      · next b hb =>
        rw [hb] at hbytes
        obtain rfl := Except.ok.inj h
        refine ⟨[fragment], ⟨fragments, rfl⟩, ?_, ?_⟩
        · simpa using hf
        · simpa using hbytes
      · next b hb =>
        rw [hb] at hbytes
        obtain ⟨consumed, hprefix, hall, he⟩ := ih h
        refine ⟨fragment :: consumed, List.cons_prefix_cons.mpr ⟨rfl, hprefix⟩, ?_, ?_⟩
        · exact List.forall_mem_cons.mpr ⟨hf, hall⟩
        · rw [he, hbytes, List.flatten_cons, List.append_assoc]

/-- A message that announces its own length, and is no exception. -/
structure Announced (bytes : List UInt8) : Prop where
  code : bytes.getD 1 0 ≠ 0x83
  size : bytes.length = (bytes.getD 2 0).toNat + 5

structure Underway (bytes : List UInt8) (a : ModbusResponseAssembler) : Prop where
  started : a.bytes <+: bytes
  short : a.bytes.length < bytes.length
  expected : a.expectedSize = (if a.bytes.length < 3 then none else some bytes.length)

theorem getD_started {as bs : List UInt8} (h : as <+: bs) {i : Nat} (hi : i < as.length) :
    as.getD i 0 = bs.getD i 0 := by
  obtain ⟨rest, rfl⟩ := h
  exact (List.getD_append as rest 0 i hi).symm

theorem expected_append {bytes fragment : List UInt8} {a : ModbusResponseAssembler}
    (hm : Announced bytes) (h : Underway bytes a) (hf : fragment ≠ [])
    (hp : a.bytes ++ fragment <+: bytes) :
    (a.append fragment).1.expectedSize =
      if (a.bytes ++ fragment).length < 3 then none else some bytes.length := by
  unfold ModbusResponseAssembler.append
  rw [if_neg (by simpa using hf)]
  have hlength : a.bytes.length < (a.bytes ++ fragment).length := by
    have := List.length_pos_iff.mpr hf
    rw [List.length_append]
    omega
  have hexpected := h.expected
  unfold ModbusResponseAssembler.updateExpectedSize
  simp only
  by_cases hthree : a.bytes.length < 3
  · rw [if_pos hthree] at hexpected
    by_cases htwo : (a.bytes ++ fragment).length < 2
    · rw [if_pos (Or.inr htwo), if_pos (by omega), hexpected]
    · have hcode : (a.bytes ++ fragment).getD 1 0 ≠ 0x83 := by
        rw [getD_started hp (by omega)]
        exact hm.code
      have hunknown : ¬(a.expectedSize.isSome ∨ (a.bytes ++ fragment).length < 2) := by
        rintro (hs | hl)
        · rw [hexpected] at hs
          cases hs
        · exact htwo hl
      rw [if_neg hunknown, if_neg hcode]
      by_cases hknown : 3 ≤ (a.bytes ++ fragment).length
      · rw [if_pos hknown, if_neg (by omega), getD_started hp (by omega), ← hm.size]
      · rw [if_neg hknown, if_pos (by omega), hexpected]
  · rw [if_neg hthree] at hexpected
    rw [if_pos (Or.inl (by rw [hexpected]; rfl)), if_neg (by omega), hexpected]

/-- A message is received however it is cut into fragments that are not empty. -/
theorem receive_message {bytes : List UInt8} (hm : Announced bytes) (failure : String)
    (more : List (List UInt8)) {consumed : List (List UInt8)} {a : ModbusResponseAssembler}
    (h : Underway bytes a) (hall : ∀ fragment ∈ consumed, fragment ≠ [])
    (hbytes : a.bytes ++ consumed.flatten = bytes) :
    receive failure a (consumed ++ more) = .ok bytes := by
  induction consumed generalizing a with
  | nil =>
    have hshort := h.short
    simp only [List.flatten_nil, List.append_nil] at hbytes
    rw [hbytes] at hshort
    exact (Nat.lt_irrefl _ hshort).elim
  | cons fragment consumed ih =>
    obtain ⟨hf, hrest⟩ := List.forall_mem_cons.mp hall
    rw [List.flatten_cons, ← List.append_assoc] at hbytes
    have hp : a.bytes ++ fragment <+: bytes := ⟨_, hbytes⟩
    have hread := append_bytes hf a
    have hexpected := expected_append hm h hf hp
    have hstatus : (a.append fragment).2 = (a.append fragment).1.status := by
      unfold ModbusResponseAssembler.append
      rw [if_neg (by simpa using hf)]
    have hle := hp.length_le
    have hsize := hm.size
    rw [List.cons_append, receive]
    by_cases hdone : (a.bytes ++ fragment).length = bytes.length
    · have hcomplete : (a.append fragment).2 = .complete := by
        rw [hstatus, ModbusResponseAssembler.status, hexpected, if_neg (by omega)]
        simp only [hread, hdone, gt_iff_lt, Nat.lt_irrefl, if_false, if_true]
      have heq : a.append fragment = ((a.append fragment).1, .complete) := by
        rw [← hcomplete]
      rw [heq]
      simp only
      rw [hread, hp.eq_of_length hdone]
    · have hincomplete : (a.append fragment).2 = .incomplete := by
        rw [hstatus, ModbusResponseAssembler.status, hexpected]
        by_cases hthree : (a.bytes ++ fragment).length < 3
        · rw [if_pos hthree]
        · rw [if_neg hthree]
          simp only [hread]
          rw [if_neg (by omega), if_neg hdone]
      have heq : a.append fragment = ((a.append fragment).1, .incomplete) := by
        rw [← hincomplete]
      rw [heq]
      refine ih ⟨?_, ?_, ?_⟩ hrest ?_
      · rwa [hread]
      · rw [hread]
        omega
      · rw [hexpected, hread]
      · rw [hread, hbytes]

theorem validateCrc_split (body : List UInt8) (low high : UInt8) :
    validateCrc (body ++ [low, high]) = true ↔
      2 ≤ body.length ∧ crc16 body = word low high := by
  have hlength : (body ++ [low, high]).length - 2 = body.length := by simp
  have hlow : (body ++ [low, high]).getD body.length 0 = low := by
    rw [List.getD_append_right body _ 0 _ (Nat.le_refl _), Nat.sub_self]
    rfl
  have hhigh : (body ++ [low, high]).getD ((body ++ [low, high]).length - 1) 0 = high := by
    rw [List.getD_append_right body _ 0 _ (by simp)]
    simp
  rw [validateCrc, hlength, hlow, hhigh, List.take_left]
  simp

theorem validateCrc_iff (bytes : List UInt8) :
    validateCrc bytes = true ↔ ∃ body, 2 ≤ body.length ∧ bytes = appendCrc body := by
  constructor
  · intro h
    have hsize : 4 ≤ bytes.length := by
      rw [validateCrc, Bool.and_eq_true] at h
      exact of_decide_eq_true h.1
    have hdrop : (bytes.drop (bytes.length - 2)).length = 2 := by
      rw [List.length_drop]
      omega
    obtain ⟨low, high, hlast⟩ := List.length_eq_two.mp hdrop
    obtain ⟨body, rfl⟩ : ∃ body, bytes = body ++ [low, high] :=
      ⟨bytes.take (bytes.length - 2), by rw [← hlast, List.take_append_drop]⟩
    obtain ⟨hbody, hcrc⟩ := (validateCrc_split body low high).mp h
    refine ⟨body, hbody, ?_⟩
    rw [appendCrc, hcrc, lowByte_word, highByte_word]
  · rintro ⟨body, hbody, rfl⟩
    exact (validateCrc_split body _ _).mpr ⟨hbody, (word_bytes _).symm⟩

theorem length_appendCrc (body : List UInt8) : (appendCrc body).length = body.length + 2 := by
  simp [appendCrc]

theorem toNat_byteCount {n : Nat} (h : n ≤ 255) : (UInt8.ofNat n).toNat = n := by
  rw [UInt8.toNat_ofNat']
  omega

theorem examine_ok {deviceAddress : UInt8} {registerCount : UInt16} {bytes data : List UInt8}
    (hcount : 0 < registerCount) :
    examine deviceAddress registerCount bytes = .ok data ↔
      IsResponse deviceAddress registerCount data bytes := by
  have hpositive : 0 < registerCount.toNat := hcount
  constructor
  · intro h
    unfold examine at h
    by_cases hcrc : validateCrc bytes = true
    · obtain ⟨body, -, rfl⟩ := (validateCrc_iff bytes).mp hcrc
      simp only [hcrc, Bool.not_true, Bool.false_eq_true, if_false] at h
      split_ifs at h with hexception hsize hhead hannounced
      push Not at hsize hhead hannounced
      rw [length_appendCrc] at hsize
      match body with
      | [] | [_] | [_, _] =>
        simp only [List.length_nil, List.length_cons] at hsize
        omega
      | b0 :: b1 :: b2 :: rest =>
        have hrest : rest.length = 2 * registerCount.toNat := by
          simp at hsize
          omega
        have hdata : rest = data := by
          have := Except.ok.inj h
          simp only [appendCrc, List.cons_append, List.drop_succ_cons, List.drop_zero] at this
          rwa [List.take_left' (by omega)] at this
        obtain ⟨rfl, rfl⟩ : b0 = deviceAddress ∧ b1 = 0x03 := hhead
        have hbyte : b2.toNat = 2 * registerCount.toNat := by
          rw [Nat.mul_comm]
          exact hannounced
        have hlt := UInt8.toNat_lt b2
        refine ⟨by rw [← hdata, hrest], by omega, ?_⟩
        rw [← hdata, ← hbyte, UInt8.ofNat_toNat]
    · rw [if_pos (by simpa using hcrc)] at h
      cases h
  · rintro ⟨hdata, hmax, rfl⟩
    have hcrc := (validateCrc_iff (appendCrc (deviceAddress :: 0x03 ::
      UInt8.ofNat (2 * registerCount.toNat) :: data))).mpr ⟨_, by simp, rfl⟩
    have hsize : (appendCrc (deviceAddress :: 0x03 ::
        UInt8.ofNat (2 * registerCount.toNat) :: data)).length = registerCount.toNat * 2 + 5 := by
      rw [length_appendCrc]
      simp only [List.length_cons, hdata]
      omega
    have hbyte : (UInt8.ofNat (2 * registerCount.toNat)).toNat = registerCount.toNat * 2 := by
      rw [toNat_byteCount hmax, Nat.mul_comm]
    unfold examine
    simp only [hcrc, Bool.not_true, Bool.false_eq_true, if_false]
    rw [if_neg (by omega), if_neg (not_not_intro hsize)]
    simp only [appendCrc, List.cons_append, List.getD_cons_zero, List.getD_cons_succ, hbyte,
      List.drop_succ_cons, List.drop_zero]
    rw [List.take_left' (by omega)]
    simp

/-- A response announces its length. -/
theorem IsResponse.announced {deviceAddress : UInt8} {registerCount : UInt16}
    {data bytes : List UInt8} (h : IsResponse deviceAddress registerCount data bytes) :
    Announced bytes := by
  obtain ⟨hdata, hmax, rfl⟩ := h
  constructor
  · show (0x03 : UInt8) ≠ 0x83
    decide
  · rw [length_appendCrc]
    show _ = (UInt8.ofNat (2 * registerCount.toNat)).toNat + 5
    rw [toNat_byteCount hmax]
    simp only [List.length_cons, hdata]

/-- A read returns data exactly when a prefix of the fragments, none of them empty, is the
response with these data. Every other read leaves the registers as they were. -/
theorem readHoldingRegisters_iff (bus : Bus) (deviceAddress : UInt8)
    (registerAddress registerCount : UInt16) (registerBytes : List UInt8)
    (hconnected : bus.connected = true)
    (hwrite : bus.write (request deviceAddress registerAddress registerCount) = .ok ())
    (hcount : 0 < registerCount) :
    let reading := readHoldingRegisters bus deviceAddress registerAddress registerCount registerBytes
    (∀ data, reading.ok = true ∧ reading.registerBytes = data ↔
      ∃ consumed, consumed <+: bus.fragments ∧ (∀ fragment ∈ consumed, fragment ≠ []) ∧
        IsResponse deviceAddress registerCount data consumed.flatten) ∧
      (reading.ok = false → reading.registerBytes = registerBytes) := by
  have hread : readRegisters bus deviceAddress registerAddress registerCount =
      (receive bus.failure ⟨[], none⟩ bus.fragments).bind (examine deviceAddress registerCount) := by
    have hne : registerCount ≠ 0 := by
      rintro rfl
      exact absurd hcount (by decide)
    have hsend : sendFrame bus (request deviceAddress registerAddress registerCount) = .ok () :=
      hwrite
    rw [readRegisters, if_neg hne, exchangeFrame, hconnected, hsend]
    cases receive bus.failure ⟨[], none⟩ bus.fragments <;> rfl
  have hok : ∀ data, readRegisters bus deviceAddress registerAddress registerCount = .ok data ↔
      ∃ consumed, consumed <+: bus.fragments ∧ (∀ fragment ∈ consumed, fragment ≠ []) ∧
        IsResponse deviceAddress registerCount data consumed.flatten := by
    intro data
    rw [hread]
    constructor
    · intro h
      cases hbytes : receive bus.failure ⟨[], none⟩ bus.fragments with
      | error message =>
        rw [hbytes] at h
        cases h
      | ok bytes =>
        rw [hbytes] at h
        obtain ⟨consumed, hprefix, hall, rfl⟩ := receive_consumes hbytes
        exact ⟨consumed, hprefix, hall, (examine_ok hcount).mp h⟩
    · rintro ⟨consumed, ⟨more, hmore⟩, hall, hresponse⟩
      have hstart : Underway consumed.flatten ⟨[], none⟩ := by
        refine ⟨List.nil_prefix, ?_, rfl⟩
        rw [hresponse.announced.size]
        exact Nat.succ_pos _
      rw [← hmore, receive_message hresponse.announced _ _ hstart hall rfl]
      exact (examine_ok hcount).mpr hresponse
  simp only [readHoldingRegisters]
  cases hresult : readRegisters bus deviceAddress registerAddress registerCount with
  | error message =>
    refine ⟨fun data => ?_, fun _ => rfl⟩
    rw [← hok, hresult]
    simp
  | ok read =>
    refine ⟨fun data => ?_, fun h => by cases h⟩
    rw [← hok, hresult]
    simp

def piecewise : Bus where
  connected := true
  write _ := .ok ()
  fragments := [[1], [3, 4, 0x12], [0x34, 0x56, 0x78, 0x81, 0x07], [9]]
  failure := timedOut

theorem readHoldingRegisters_piecewise :
    (readHoldingRegisters piecewise 1 0x100 2 []).ok = true ∧
      (readHoldingRegisters piecewise 1 0x100 2 []).registerBytes = [0x12, 0x34, 0x56, 0x78] := by
  refine ((readHoldingRegisters_iff piecewise 1 0x100 2 [] rfl rfl (by decide)).1 _).mpr ?_
  refine ⟨piecewise.fragments.take 3, List.take_prefix _ _, by decide, rfl, by decide, ?_⟩
  decide +kernel

end DeviceManager.ModbusRead
