import DeviceManager.FrameGrammar

namespace DeviceManager.DecoderBound

open Transducer FrameCodec FrameGrammar

def limit : ℕ := kMaxPayloadSize + 5

def escapes : Bool → List UInt8 → List Bool
  | _, [] => []
  | true, _ :: segment => true :: escapes false segment
  | false, value :: segment =>
    if value = kFrameEsc then escapes true segment else false :: escapes false segment

/-- After every byte of the stream, in whatever chunks it is fed. -/
def Bounded (stream : List UInt8) : Prop :=
  ∀ chunks : List (List UInt8), chunks.flatten <+: stream →
    (feedAll .create chunks).2.buffer.length ≤ limit

def Checked (escape : Bool) (segment : List UInt8) (held : ℕ) : Prop :=
  (escapes escape segment)[limit - held]? ≠ some true

def Small (d : SerialFrameDecoder) : Prop := d.buffer.length ≤ limit

theorem bounded_iff_throughout (stream : List UInt8) :
    Bounded stream ↔ Throughout feedByte Small .create stream := by
  constructor
  · intro h done hdone
    have hone := h [done] (by simpa using hdone)
    rw [feedAll, runChunks_eq, List.flatten_singleton] at hone
    exact hone
  · intro h chunks hchunks
    rw [feedAll, runChunks_eq]
    exact h _ hchunks

theorem throughout_skipped {segment : List UInt8} (h : kFrameSof ∉ segment) :
    Throughout feedByte Small .create segment := by
  induction segment with
  | nil => exact throughout_nil.mpr (Nat.zero_le _)
  | cons value segment ih =>
    obtain ⟨hv, hs⟩ := List.ne_and_not_mem_of_not_mem_cons h
    have hstep : feedByte .create value = (none, .create) := by
      rw [feedByte, if_neg hv.symm]
      rfl
    rw [throughout_cons, hstep]
    exact ⟨Nat.zero_le _, ih hs⟩

/-- A segment overruns the limit exactly when the symbol that does it is escaped. -/
theorem throughout_segment {segment : List UInt8} (h : kFrameSof ∉ segment) {buffer : List UInt8}
    (hb : buffer.length ≤ limit) (escape : Bool) :
    Throughout feedByte Small ⟨buffer, true, escape⟩ segment ↔
      Checked escape segment buffer.length := by
  induction segment generalizing buffer escape with
  | nil =>
    rw [throughout_nil, Checked]
    simp [escapes, Small, hb]
  | cons value segment ih =>
    obtain ⟨hv, hs⟩ := List.ne_and_not_mem_of_not_mem_cons h
    have hhere : Small ⟨buffer, true, escape⟩ := hb
    rw [throughout_cons, and_iff_right hhere, Checked]
    cases escape with
    | true =>
      have hstep : feedByte ⟨buffer, true, true⟩ value =
          (none, ⟨buffer ++ [value ^^^ kFrameXor], true, false⟩) := by
        rw [feedByte, if_neg hv.symm]
        rfl
      rw [hstep, escapes]
      by_cases hfull : buffer.length = limit
      · have hover : ¬ Throughout feedByte Small ⟨buffer ++ [value ^^^ kFrameXor], true, false⟩
            segment := by
          intro hall
          have hfirst : (buffer ++ [value ^^^ kFrameXor]).length ≤ limit :=
            hall [] List.nil_prefix
          rw [List.length_append, List.length_singleton] at hfirst
          omega
        rw [hfull, Nat.sub_self]
        simp [hover]
      · have hroom : (buffer ++ [value ^^^ kFrameXor]).length ≤ limit := by
          rw [List.length_append, List.length_singleton]
          omega
        have hindex : limit - buffer.length = limit - (buffer.length + 1) + 1 := by omega
        rw [ih hs hroom false, Checked, List.length_append, List.length_singleton, hindex,
          List.getElem?_cons_succ]
    | false =>
      by_cases he : value = kFrameEsc
      · have hstep : feedByte ⟨buffer, true, false⟩ value = (none, ⟨buffer, true, true⟩) := by
          rw [he]
          rfl
        rw [hstep, escapes, if_pos he]
        exact ih hs hb true
      · rw [escapes, if_neg he]
        by_cases hfull : buffer.length = limit
        · have hstep : feedByte ⟨buffer, true, false⟩ value = (none, .create) := by
            have hl : (buffer ++ [value]).length > kMaxPayloadSize + 5 := by
              rw [List.length_append, hfull]
              exact Nat.lt_succ_self _
            rw [feedByte, if_neg hv.symm, if_neg (by simp), if_neg (by simp), if_neg he, if_pos hl]
            rfl
          rw [hstep, hfull, Nat.sub_self]
          simp [throughout_skipped hs]
        · have hroom : (buffer ++ [value]).length ≤ limit := by
            rw [List.length_append, List.length_singleton]
            omega
          have hstep : feedByte ⟨buffer, true, false⟩ value =
              (none, ⟨buffer ++ [value], true, false⟩) := by
            have hl : ¬ (buffer ++ [value]).length > kMaxPayloadSize + 5 := Nat.not_lt.mpr hroom
            rw [feedByte, if_neg hv.symm, if_neg (by simp), if_neg (by simp), if_neg he, if_neg hl]
          have hindex : limit - buffer.length = limit - (buffer.length + 1) + 1 := by omega
          rw [hstep, ih hs hroom false, Checked, List.length_append, List.length_singleton, hindex,
            List.getElem?_cons_succ]

theorem throughout_sof {d : SerialFrameDecoder} {stream : List UInt8} :
    Throughout feedByte Small d (kFrameSof :: stream) ↔
      Small d ∧ Throughout feedByte Small (inside []) stream := by
  rw [throughout_cons, feedByte_sof]

theorem throughout_segments (stream : List UInt8) :
    Throughout feedByte Small (inside []) stream ↔
      ∀ segment ∈ stream.splitOn kFrameSof, (escapes false segment)[limit]? ≠ some true := by
  induction hn : stream.length using Nat.strongRecOn generalizing stream with
  | _ n ih =>
    by_cases hm : kFrameSof ∈ stream
    · obtain ⟨segment, rest, rfl, hs⟩ := List.eq_append_cons_of_mem hm
      have hshort : rest.length < n := by
        rw [← hn, List.length_append, List.length_cons]
        omega
      have hfirst : Throughout feedByte Small (inside []) segment ↔
          (escapes false segment)[limit]? ≠ some true :=
        throughout_segment hs (Nat.zero_le _) false
      rw [List.splitOn_append_cons_self_of_not_mem hs, List.forall_mem_cons, throughout_append,
        throughout_sof, ih rest.length hshort rest rfl, hfirst]
      constructor
      · exact fun h => ⟨h.1, h.2.2⟩
      · exact fun h => ⟨h.1, hfirst.mpr h.1 segment (List.prefix_refl _), h.2⟩
    · rw [List.splitOn_eq_singleton hm, List.forall_mem_singleton]
      exact throughout_segment hm (Nat.zero_le _) false

/-- The buffer keeps to its limit exactly on the streams in which no segment has an escaped
symbol as the first one beyond it. -/
theorem bounded_iff (stream : List UInt8) :
    Bounded stream ↔ ∀ segment ∈ (stream.splitOn kFrameSof).tail,
      (escapes false segment)[kMaxPayloadSize + 5]? ≠ some true := by
  rw [bounded_iff_throughout]
  by_cases hm : kFrameSof ∈ stream
  · obtain ⟨skipped, rest, rfl, hs⟩ := List.eq_append_cons_of_mem hm
    have hskipped := throughout_skipped hs
    rw [List.splitOn_append_cons_self_of_not_mem hs, List.tail_cons, throughout_append,
      throughout_sof, throughout_segments, and_iff_right hskipped,
      and_iff_right (hskipped skipped (List.prefix_refl _))]
    exact Iff.rfl
  · rw [List.splitOn_eq_singleton hm, List.tail_cons]
    simp [throughout_skipped hm]

def escapedNoise (count : ℕ) : List UInt8 :=
  kFrameSof :: (List.replicate count [kFrameEsc, 0x5E]).flatten

theorem feed_pairs (buffer : List UInt8) (count : ℕ) :
    (feed (inside buffer) (List.replicate count [kFrameEsc, 0x5E]).flatten).2 =
      inside (buffer ++ List.replicate count kFrameSof) := by
  induction count generalizing buffer with
  | zero => rw [List.replicate_zero, List.replicate_zero, List.append_nil]; rfl
  | succ count ih =>
    have hpair : run feedByte (inside buffer) [kFrameEsc, 0x5E] =
        ([], inside (buffer ++ [kFrameSof])) := rfl
    have hrest := ih (buffer ++ [kFrameSof])
    rw [feed] at hrest
    rw [List.replicate_succ, List.flatten_cons, feed, run_append, hpair, hrest,
      List.append_assoc, List.singleton_append, ← List.replicate_succ]

theorem escapedNoise_held (count : ℕ) :
    (feed .create (escapedNoise count)).2.buffer.length = count := by
  have hpairs := feed_pairs [] count
  rw [feed] at hpairs
  rw [escapedNoise, feed, run_cons, feedByte_sof, hpairs]
  exact List.length_replicate

theorem escapedNoise_unbounded : ¬ Bounded (escapedNoise 70) := by
  intro h
  have hend := h [escapedNoise 70] (by simp)
  have hheld := escapedNoise_held 70
  rw [feedAll, runChunks_eq, List.flatten_singleton] at hend
  rw [feed] at hheld
  rw [hheld] at hend
  exact absurd hend (by decide)

end DeviceManager.DecoderBound
