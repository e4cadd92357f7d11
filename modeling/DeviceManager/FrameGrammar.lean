import DeviceManager.FrameCodec
import Mathlib.Data.Nat.Digits.Defs

namespace DeviceManager.FrameGrammar

open Stuffing Transducer LittleEndian FrameCodec

/-- A segment between two delimiters, without its escapes: the length, the limit and the
checksum over all but the last two bytes. -/
def accepted (segment : List UInt8) : Option SerialFrame :=
  match segment with
  | frameType :: sequence :: size :: rest =>
    if segment.length = 5 + size.toNat ∧ size.toNat ≤ kMaxPayloadSize ∧
        Nat.ofDigits 256 ((segment.drop (segment.length - 2)).map UInt8.toNat) =
          (crc16 (segment.take (segment.length - 2))).toNat
    then some ⟨frameType, sequence, rest.take size.toNat⟩
    else none
  | _ => none

/-- The reference decoder: the segments between the delimiters of the whole stream. -/
def frames (stream : List UInt8) : List SerialFrame :=
  (stream.splitOn kFrameSof).tail.dropLast.filterMap fun segment =>
    accepted (unstuff control segment)

theorem checksum_iff {crc : UInt16} (low high : UInt8) :
    crc = word low high ↔ Nat.ofDigits 256 ([low, high].map UInt8.toNat) = crc.toNat := by
  rw [← UInt16.toNat_inj, toNat_word]
  simp only [List.map_cons, List.map_nil, Nat.ofDigits_cons, Nat.ofDigits_nil]
  omega

theorem accepted_sized {frameType sequence size low high : UInt8} {payload : List UInt8}
    (hsize : payload.length = size.toNat) :
    accepted (frameType :: sequence :: size :: (payload ++ [low, high])) =
      if size.toNat ≤ kMaxPayloadSize ∧ crc16 (frameType :: sequence :: size :: payload) = word low high
      then some ⟨frameType, sequence, payload⟩ else none := by
  have hlength : (frameType :: sequence :: size :: (payload ++ [low, high])).length =
      5 + size.toNat := by
    simp
    omega
  have hsplit : frameType :: sequence :: size :: (payload ++ [low, high]) =
      (frameType :: sequence :: size :: payload) ++ [low, high] := rfl
  have hbody : (frameType :: sequence :: size :: payload).length = 5 + size.toNat - 2 := by
    simp
    omega
  unfold accepted
  simp only [hlength, true_and]
  rw [hsplit, List.drop_left' hbody, List.take_left' hbody, List.take_left' hsize]
  simp only [checksum_iff]

theorem finishFrame_accepted (buffer : List UInt8) : finishFrame buffer = accepted buffer := by
  match buffer with
  | [] | [_] | [_, _] => rfl
  | frameType :: sequence :: size :: rest =>
    by_cases hl : rest.length = size.toNat + 2
    · obtain ⟨payload, low, high, rfl⟩ : ∃ payload low high, rest = payload ++ [low, high] := by
        have hdrop : (rest.drop size.toNat).length = 2 := by simp [hl]
        obtain ⟨low, high, hd⟩ := List.length_eq_two.mp hdrop
        exact ⟨rest.take size.toNat, low, high, by rw [← hd, List.take_append_drop]⟩
      have hsize : size.toNat = payload.length := by
        rw [List.length_append] at hl
        exact (Nat.add_right_cancel hl).symm
      rw [accepted_sized hsize.symm, hsize]
      by_cases hmax : payload.length ≤ kMaxPayloadSize
      · rw [finishFrame_sized hsize hmax]
        simp only [hmax, true_and]
      · rw [if_neg fun h => hmax h.1]
        show (if _ then _ else _) = _
        split
        · rfl
        · exact if_pos (Or.inr (by omega))
    · have hlong : (frameType :: sequence :: size :: rest).length ≠ 5 + size.toNat := by
        simp
        omega
      show (if _ then _ else _) = if _ then _ else _
      rw [if_neg fun h : _ ∧ _ => hlong h.1]
      split
      · rfl
      · exact if_pos (Or.inl (by omega))

def restOf (escape : Bool) (segment : List UInt8) : List UInt8 :=
  unstuff control (if escape then kFrameEsc :: segment else segment)

theorem restOf_escaped (value : UInt8) (segment : List UInt8) :
    restOf true (value :: segment) = (value ^^^ kFrameXor) :: restOf false segment :=
  unstuff_escape control value segment

theorem restOf_plain {value : UInt8} (h : value ≠ kFrameEsc) (segment : List UInt8) :
    restOf false (value :: segment) = value :: restOf false segment :=
  unstuff_plain control h segment

theorem accepted_long {segment : List UInt8} (h : kMaxPayloadSize + 5 < segment.length) :
    accepted segment = none := by
  match segment with
  | [] | [_] | [_, _] => rfl
  | frameType :: sequence :: size :: rest =>
    refine if_neg ?_
    rintro ⟨hlength, hmax, -⟩
    omega

theorem feed_skipped {segment : List UInt8} (h : kFrameSof ∉ segment) :
    feed .create (segment ++ [kFrameSof]) = ([], inside []) := by
  induction segment with
  | nil => rfl
  | cons value segment ih =>
    obtain ⟨hv, hs⟩ := List.ne_and_not_mem_of_not_mem_cons h
    have hstep : feedByte .create value = (none, .create) := by
      rw [feedByte, if_neg hv.symm]
      rfl
    rw [List.cons_append, feed, run_cons, hstep]
    exact ih hs

/-- A segment ends with what the reference accepts of it. The buffer may have been given up
before: then the segment is too long. -/
theorem feed_segment {segment : List UInt8} (h : kFrameSof ∉ segment) (buffer : List UInt8)
    (escape : Bool) :
    feed ⟨buffer, true, escape⟩ (segment ++ [kFrameSof]) =
      ((accepted (buffer ++ restOf escape segment)).toList, inside []) := by
  induction segment generalizing buffer escape with
  | nil =>
    have hrest : restOf escape [] = [] := by cases escape <;> rfl
    rw [List.nil_append, feed, run_cons, feedByte_sof, hrest, List.append_nil, run_nil,
      List.append_nil]
    cases buffer with
    | nil => rfl
    | cons value buffer => exact congrArg (fun frame => (frame.toList, _)) (finishFrame_accepted _)
  | cons value segment ih =>
    obtain ⟨hv, hs⟩ := List.ne_and_not_mem_of_not_mem_cons h
    rw [List.cons_append, feed, run_cons]
    cases escape with
    | true =>
      have hstep : feedByte ⟨buffer, true, true⟩ value =
          (none, ⟨buffer ++ [value ^^^ kFrameXor], true, false⟩) := by
        rw [feedByte, if_neg hv.symm]
        rfl
      have hrest := ih hs (buffer ++ [value ^^^ kFrameXor]) false
      rw [feed] at hrest
      rw [hstep, hrest, restOf_escaped, List.append_assoc]
      rfl
    | false =>
      by_cases he : value = kFrameEsc
      · have hstep : feedByte ⟨buffer, true, false⟩ value = (none, ⟨buffer, true, true⟩) := by
          rw [he]
          rfl
        have hrest := ih hs buffer true
        rw [feed] at hrest
        rw [hstep, hrest, he]
        rfl
      · rw [restOf_plain he]
        by_cases hl : (buffer ++ [value]).length > kMaxPayloadSize + 5
        · have hstep : feedByte ⟨buffer, true, false⟩ value = (none, .create) := by
            rw [feedByte, if_neg hv.symm, if_neg (by simp), if_neg (by simp), if_neg he, if_pos hl]
            rfl
          have hskip := feed_skipped hs
          rw [feed] at hskip
          rw [hstep, hskip, accepted_long]
          · rfl
          · rw [List.length_append] at hl ⊢
            rw [List.length_cons]
            rw [List.length_singleton] at hl
            omega
        · have hstep : feedByte ⟨buffer, true, false⟩ value = (none, inside (buffer ++ [value])) := by
            rw [feedByte, if_neg hv.symm, if_neg (by simp), if_neg (by simp), if_neg he, if_neg hl]
            rfl
          have hrest := ih hs (buffer ++ [value]) false
          rw [feed] at hrest
          rw [hstep, inside, hrest, List.append_assoc]
          rfl

theorem feed_open {tail : List UInt8} (h : kFrameSof ∉ tail) (d : SerialFrameDecoder) :
    (feed d tail).1 = [] := by
  induction tail generalizing d with
  | nil => rfl
  | cons value tail ih =>
    obtain ⟨hv, ht⟩ := List.ne_and_not_mem_of_not_mem_cons h
    have hnone : (feedByte d value).1 = none := by
      unfold feedByte
      rw [if_neg hv.symm]
      split_ifs <;> rfl
    have hrest := ih ht (feedByte d value).2
    rw [feed] at hrest
    rw [feed, run_cons, hnone, hrest]
    rfl

/-- The segments from a delimiter on. -/
theorem feed_segments (stream : List UInt8) :
    (feed (inside []) stream).1 =
      (stream.splitOn kFrameSof).dropLast.filterMap fun segment =>
        accepted (unstuff control segment) := by
  induction hn : stream.length using Nat.strongRecOn generalizing stream with
  | _ n ih =>
    by_cases hm : kFrameSof ∈ stream
    · obtain ⟨segment, rest, rfl, hs⟩ := List.eq_append_cons_of_mem hm
      have hshort : rest.length < n := by
        rw [← hn, List.length_append, List.length_cons]
        omega
      have hfirst := feed_segment hs [] false
      have hrest := ih rest.length hshort rest rfl
      rw [feed] at hfirst hrest
      rw [List.splitOn_append_cons_self_of_not_mem hs, List.dropLast_cons_of_ne_nil (by simp),
        List.filterMap_cons, ← hrest, feed, List.append_cons, run_append, inside, hfirst]
      cases haccept : accepted (unstuff control segment) with
      | none =>
        simp [restOf, haccept, inside]
      | some frame => simp [restOf, haccept, inside]
    · rw [List.splitOn_eq_singleton hm]
      exact feed_open hm _

/-- The decoder emits the frames of the reference decoder, however the stream is cut. -/
theorem decoder_grammar (chunks : List (List UInt8)) :
    (feedAll .create chunks).1 = frames chunks.flatten := by
  rw [feedAll, runChunks_eq, frames]
  generalize chunks.flatten = stream
  by_cases hm : kFrameSof ∈ stream
  · obtain ⟨skipped, rest, rfl, hs⟩ := List.eq_append_cons_of_mem hm
    have hfirst := feed_skipped hs
    have hrest := feed_segments rest
    rw [feed] at hfirst hrest
    rw [List.splitOn_append_cons_self_of_not_mem hs, List.tail_cons, ← hrest, List.append_cons,
      run_append, hfirst]
    rfl
  · rw [List.splitOn_eq_singleton hm]
    exact feed_open hm _

example : frames ([5] ++ framed ⟨1, 7, [0x7D]⟩ ++ [9]) = [⟨1, 7, [0x7D]⟩] := by decide +kernel

end DeviceManager.FrameGrammar
