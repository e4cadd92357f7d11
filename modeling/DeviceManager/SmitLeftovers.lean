import DeviceManager.SmitFrames

namespace DeviceManager.SmitLeftovers

open Draining SmitProtocol SmitFrames

def Begins (s : List UInt8) : Prop :=
  s ≠ [] ∧ ∃ payload, payload.length + 4 ≤ 2048 ∧ s <+: frame payload

/-- No end of these bytes begins a frame. -/
def Inert (r : List UInt8) : Prop := ∀ s, s <:+ r → ¬Begins s

theorem Inert.suffix {r t : List UInt8} (h : Inert r) (ht : t <:+ r) : Inert t :=
  fun s hs => h s (hs.trans ht)

theorem inert_nil : Inert [] := fun _ hs hb => hb.1 (List.suffix_nil.mp hs)

theorem frame_eq {payload : List UInt8} {high low : UInt8}
    (h : payload.length = readU16Be high low) :
    frame payload = kSof1 :: kSof2 :: high :: low :: payload := by
  have hlow := low.toNat_lt
  have hhigh : (high.toNat * 256 + low.toNat) / 256 = high.toNat := by omega
  have hmod : (high.toNat * 256 + low.toNat) % 256 = low.toNat := by omega
  rw [frame, h, readU16Be, hhigh, hmod, UInt8.ofNat_toNat, UInt8.ofNat_toNat]

theorem begins_sof1 : Begins [kSof1] := ⟨List.cons_ne_nil _ _, [], by decide, by decide⟩

theorem begins_sof2 : Begins [kSof1, kSof2] := ⟨List.cons_ne_nil _ _, [], by decide, by decide⟩

theorem begins_high {high : UInt8} (h : high.toNat < 8) : Begins [kSof1, kSof2, high] := by
  have hlength : (List.replicate (high.toNat * 256) (0 : UInt8)).length = readU16Be high 0 := by
    rw [List.length_replicate, readU16Be, UInt8.toNat_zero, Nat.add_zero]
  refine ⟨List.cons_ne_nil _ _, List.replicate (high.toNat * 256) 0, ?_, ?_⟩
  · rw [List.length_replicate]
    omega
  · rw [frame_eq hlength]
    exact ⟨_, rfl⟩

theorem Begins.head {s : List UInt8} (h : Begins s) {b : UInt8} (hb : b ∈ s.head?) : b = kSof1 := by
  obtain ⟨-, payload, -, more, hs⟩ := h
  cases s with
  | nil => cases hb
  | cons a s =>
    obtain rfl : a = b := Option.some.inj hb
    exact (List.cons.inj hs).1

theorem suffix_tail {a : UInt8} {t s : List UInt8} (ht : ¬Begins (a :: t)) (hs : Begins s)
    (h : s <:+ a :: t) : s <:+ t := by
  obtain rfl | hsuffix := List.suffix_cons_iff.mp h
  · exact absurd hs ht
  · exact hsuffix

variable {α : Type} [LT α] [DecidableLT α] [Add α] [Sub α] [Mul α] [Div α] [Floating α]

/-- Bytes that begin no frame are dropped, whatever comes behind them, and no start of a frame
is dropped with them. -/
theorem turn_skip {t : List UInt8} (hne : t ≠ []) (ht : ¬Begins t) (hshort : t.length ≤ 3) :
    ∃ n, 0 < n ∧ n ≤ t.length ∧
      (∀ x, 4 ≤ (t ++ x).length →
        (turn (t ++ x) : Option (List (Callback α) × Nat)) = some ([], n)) ∧
      ∀ s, s <:+ t → Begins s → s <:+ t.drop n := by
  match t with
  | [] => exact absurd rfl hne
  | [a] =>
    have ha : a ≠ kSof1 := by
      rintro rfl
      exact ht begins_sof1
    exact ⟨1, Nat.one_pos, Nat.le_refl 1, fun x hx => turn_drop hx (Or.inl ha),
      fun s hs hb => suffix_tail ht hb hs⟩
  | [a, b] =>
    have hab : a ≠ kSof1 ∨ b ≠ kSof2 := by
      by_contra hboth
      push Not at hboth
      obtain ⟨rfl, rfl⟩ := hboth
      exact ht begins_sof2
    exact ⟨1, Nat.one_pos, Nat.le_succ 1, fun x hx => turn_drop hx hab,
      fun s hs hb => suffix_tail ht hb hs⟩
  | [a, b, high] =>
    by_cases hab : a = kSof1 ∧ b = kSof2
    · -- the length is too large whatever its low byte is
      obtain ⟨rfl, rfl⟩ := hab
      have hhigh : 8 ≤ high.toNat := Nat.le_of_not_lt fun h => ht (begins_high h)
      refine ⟨2, Nat.two_pos, Nat.le_succ 2, fun x hx => ?_, fun s hs hb => ?_⟩
      · have hmax : totalLength ([kSof1, kSof2, high] ++ x) > kMaxFrameLength := by
          show 2048 < high.toNat * 256 + (x.getD 0 0).toNat + 4
          omega
        exact turn_oversized hx ⟨rfl, rfl⟩ hmax
      · have hsecond : ¬Begins [kSof2, high] := fun h =>
          absurd (h.head (rfl : kSof2 ∈ some kSof2)) (by decide)
        exact suffix_tail hsecond hb (suffix_tail ht hb hs)
    · have hor : a ≠ kSof1 ∨ b ≠ kSof2 := by
        rw [← not_and_or]
        exact hab
      exact ⟨1, Nat.one_pos, Nat.le_add_left 1 2, fun x hx => turn_drop hx hor,
        fun s hs hb => suffix_tail ht hb hs⟩
  | a :: b :: c :: e :: t =>
    rw [List.length_cons, List.length_cons, List.length_cons, List.length_cons] at hshort
    omega

/-- Behind bytes that begin no frame the loop makes what it makes of a buffer without them. -/
theorem drains_inert {t x rest : List UInt8} {out : List (Callback α)} (ht : Inert t)
    (hshort : t.length ≤ 3) (h : Drains turn x out rest) :
    ∃ left, Inert left ∧ Drains turn (t ++ x) out (left ++ rest) ∧
      (left = [] ∨ (left ++ rest).length ≤ 3) := by
  induction hn : t.length using Nat.strong_induction_on generalizing t with
  | h k ih =>
    by_cases hne : t = []
    · rw [hne]
      exact ⟨[], inert_nil, h, Or.inl rfl⟩
    · by_cases hlong : 4 ≤ (t ++ x).length
      · obtain ⟨n, hpos, hle, hturn, -⟩ := turn_skip (α := α) hne (ht t (List.suffix_refl t)) hshort
        have hlength : (t.drop n).length = t.length - n := List.length_drop
        obtain ⟨left, hleft, hdrains, hor⟩ := ih (t.drop n).length (by omega)
          (ht.suffix (List.drop_suffix n t)) (by omega) rfl
        rw [← List.drop_append_of_le_length hle] at hdrains
        exact ⟨left, hleft, Drains.next (hturn x hlong) hdrains, hor⟩
      · have hstop : (t ++ x).length ≤ 3 := Nat.le_of_lt_succ (Nat.lt_of_not_le hlong)
        have hx : x.length ≤ 3 := by
          rw [List.length_append] at hstop
          omega
        obtain ⟨rfl, rfl⟩ := h.unique (Drains.stop (turn_short hx))
        exact ⟨t, ht, Drains.stop (turn_short hstop), Or.inr hstop⟩

theorem feed_beside {left buffer chunk : List UInt8} {size : Nat} (hleft : Inert left)
    (hshort : left = [] ∨ (left ++ buffer).length ≤ 3 ∧ size ≤ 9997) (hchunk : chunk.length ≤ size) :
    ∃ (callbacks : List (Callback α)) (rest more : List UInt8),
      feed buffer chunk = some (callbacks, rest) ∧
        feed (left ++ buffer) chunk = some (callbacks, more ++ rest) ∧ Inert more ∧
        (more = [] ∨ (more ++ rest).length ≤ 3 ∧ size ≤ 9997) := by
  by_cases hnil : left = []
  · subst hnil
    obtain hfull | ⟨callbacks, rest, hfeed, -⟩ := feed_cases (α := α) buffer chunk
    · exact ⟨[], [], [], feed_overfull hfull, feed_overfull hfull, inert_nil, Or.inl rfl⟩
    · exact ⟨callbacks, rest, [], hfeed, hfeed, inert_nil, Or.inl rfl⟩
  · -- there is room for a chunk behind three bytes
    obtain ⟨hthree, hsize⟩ := hshort.resolve_left hnil
    rw [List.length_append] at hthree
    have hroom : (left ++ buffer ++ chunk).length ≤ 10000 := by
      rw [List.length_append, List.length_append]
      omega
    have hroom' : (buffer ++ chunk).length ≤ 10000 := by
      rw [List.length_append]
      omega
    obtain hfull | ⟨callbacks, rest, hfeed, hdrains⟩ := feed_cases (α := α) buffer chunk
    · exact absurd hroom' (Nat.not_le.mpr hfull)
    · obtain ⟨more, hmore, hbeside, hor⟩ := drains_inert hleft (by omega) hdrains
      rw [← List.append_assoc] at hbeside
      exact ⟨callbacks, rest, more, hfeed, (feed_room hroom _ _).mpr hbeside, hmore,
        hor.imp_right fun h => ⟨h, hsize⟩⟩

theorem exists_four {r : List UInt8} (h : 4 ≤ r.length) :
    ∃ first second high low rest, r = first :: second :: high :: low :: rest := by
  match r with
  | first :: second :: high :: low :: rest => exact ⟨first, second, high, low, rest, rfl⟩

theorem begins_of_stop {r : List UInt8}
    (h : (turn r : Option (List (Callback α) × Nat)) = none) (hlong : 4 ≤ r.length) :
    ∃ high low rest, r = kSof1 :: kSof2 :: high :: low :: rest ∧
      rest.length < readU16Be high low ∧ readU16Be high low + 4 ≤ 2048 := by
  obtain hshort | ⟨⟨hfirst, hsecond⟩, hmax, hhalf⟩ := stop_cases h
  · omega
  · obtain ⟨first, second, high, low, rest, rfl⟩ := exists_four hlong
    obtain rfl : first = kSof1 := hfirst
    obtain rfl : second = kSof2 := hsecond
    have hlength : rest.length + 4 < readU16Be high low + 4 := hhalf
    exact ⟨high, low, rest, rfl, Nat.lt_of_add_lt_add_right hlength, hmax⟩

theorem turn_header {high low : UInt8} {rest : List UInt8}
    (hlength : rest.length < readU16Be high low) (hmax : readU16Be high low + 4 ≤ 2048) :
    (turn (kSof1 :: kSof2 :: high :: low :: rest) : Option (List (Callback α) × Nat)) = none := by
  have hlong : ¬(kSof1 :: kSof2 :: high :: low :: rest).length < kHeaderLength :=
    Nat.not_lt.mpr (Nat.le_add_left 4 rest.length)
  have hsof : ¬((kSof1 :: kSof2 :: high :: low :: rest).getD 0 0 ≠ kSof1 ∨
      (kSof1 :: kSof2 :: high :: low :: rest).getD 1 0 ≠ kSof2) :=
    fun h => h.elim (fun h => h rfl) fun h => h rfl
  have hroom : ¬totalLength (kSof1 :: kSof2 :: high :: low :: rest) > kMaxFrameLength :=
    Nat.not_lt.mpr hmax
  have hhalf : (kSof1 :: kSof2 :: high :: low :: rest).length <
      totalLength (kSof1 :: kSof2 :: high :: low :: rest) := Nat.add_lt_add_right hlength 4
  unfold turn
  rw [if_neg hlong, if_neg hsof, if_neg hroom, if_pos hhalf]

theorem begins_header {high low : UInt8} {rest : List UInt8}
    (hlength : rest.length < readU16Be high low) (hmax : readU16Be high low + 4 ≤ 2048) :
    Begins (kSof1 :: kSof2 :: high :: low :: rest) := by
  have htotal : (rest ++ List.replicate (readU16Be high low - rest.length) (0 : UInt8)).length =
      readU16Be high low := by
    rw [List.length_append, List.length_replicate]
    omega
  refine ⟨List.cons_ne_nil _ _, _, htotal ▸ hmax, ?_⟩
  rw [frame_eq htotal]
  exact ⟨_, rfl⟩

theorem length_of_inert {r : List UInt8}
    (hstop : (turn r : Option (List (Callback α) × Nat)) = none) (h : Inert r) : r.length ≤ 3 := by
  by_contra hlong
  obtain ⟨high, low, rest, rfl, hlength, hmax⟩ := begins_of_stop hstop (by omega)
  exact h _ (List.suffix_refl _) (begins_header hlength hmax)

theorem exists_header {s : List UInt8} (hs : Begins s)
    (hstop : (turn s : Option (List (Callback α) × Nat)) = none) :
    ∃ filler high low rest, kSof1 ∉ filler ∧
      s ++ filler = kSof1 :: kSof2 :: high :: low :: rest ∧ rest.length < readU16Be high low ∧
      readU16Be high low + 4 ≤ 2048 := by
  by_cases hlong : 4 ≤ s.length
  · obtain ⟨high, low, rest, rfl, hlength, hmax⟩ := begins_of_stop hstop hlong
    exact ⟨[], high, low, rest, List.not_mem_nil, List.append_nil _, hlength, hmax⟩
  · obtain ⟨hne, payload, hpayload, hprefix⟩ := hs
    -- the length is completed with a low byte that is not zero
    have hfit : ∀ high : UInt8, high.toNat < 8 →
        ([] : List UInt8).length < readU16Be high 1 ∧ readU16Be high 1 + 4 ≤ 2048 := by
      intro high hh
      have hone : readU16Be high 1 = high.toNat * 256 + 1 := rfl
      rw [hone, List.length_nil]
      omega
    match s with
    | [] => exact absurd rfl hne
    | [a] =>
      obtain ⟨rfl, -⟩ := List.cons_prefix_cons.mp hprefix
      exact ⟨[kSof2, 0, 1], 0, 1, [], by decide, rfl, hfit 0 (by decide)⟩
    | [a, b] =>
      obtain ⟨rfl, hsecond⟩ := List.cons_prefix_cons.mp hprefix
      obtain ⟨rfl, -⟩ := List.cons_prefix_cons.mp hsecond
      exact ⟨[0, 1], 0, 1, [], by decide, rfl, hfit 0 (by decide)⟩
    | [a, b, high] =>
      obtain ⟨rfl, hsecond⟩ := List.cons_prefix_cons.mp hprefix
      obtain ⟨rfl, hthird⟩ := List.cons_prefix_cons.mp hsecond
      obtain ⟨rfl, -⟩ := List.cons_prefix_cons.mp hthird
      refine ⟨[1], _, 1, [], by decide, rfl, hfit _ ?_⟩
      rw [UInt8.toNat_ofNat']
      omega
    | a :: b :: c :: e :: s =>
      rw [List.length_cons, List.length_cons, List.length_cons, List.length_cons] at hlong
      omega

theorem exists_completion {s : List UInt8} (hs : Begins s)
    (hstop : (turn s : Option (List (Callback α) × Nat)) = none) :
    ∃ gap payload, kSof1 ∉ gap ∧ payload.length + 4 ≤ 2048 ∧ s ++ gap ++ [kSof1] = frame payload := by
  obtain ⟨filler, high, low, rest, hfiller, hs, hlength, hmax⟩ := exists_header hs hstop
  let zeros := List.replicate (readU16Be high low - 1 - rest.length) (0 : UInt8)
  have htotal : (rest ++ zeros ++ [kSof1]).length = readU16Be high low := by
    rw [List.length_append, List.length_append, List.length_replicate, List.length_singleton]
    omega
  have hzeros : kSof1 ∉ zeros := fun h => absurd (List.eq_of_mem_replicate h) (by decide)
  refine ⟨filler ++ zeros, rest ++ zeros ++ [kSof1], ?_, htotal ▸ hmax, ?_⟩
  · rw [List.mem_append]
    exact fun h => h.elim hfiller hzeros
  · rw [frame_eq htotal, ← List.append_assoc, hs]
    rfl

theorem exists_begins {r : List UInt8}
    (hstop : (turn r : Option (List (Callback α) × Nat)) = none) (hr : ¬Inert r) :
    ∃ s, Begins s ∧ (turn s : Option (List (Callback α) × Nat)) = none ∧
      ∀ more out rest, 4 ≤ more.length →
        Drains turn (s ++ more) (out : List (Callback α)) rest → Drains turn (r ++ more) out rest := by
  by_cases hlong : 4 ≤ r.length
  · obtain ⟨high, low, rest, rfl, hlength, hmax⟩ := begins_of_stop hstop hlong
    exact ⟨_, begins_header hlength hmax, hstop, fun _ _ _ _ h => h⟩
  · have hshort : r.length ≤ 3 := Nat.le_of_lt_succ (Nat.lt_of_not_le hlong)
    clear hstop hlong
    induction hn : r.length using Nat.strong_induction_on generalizing r with
    | h k ih =>
      by_cases hb : Begins r
      · exact ⟨r, hb, turn_short hshort, fun _ _ _ _ h => h⟩
      · unfold Inert at hr
        push Not at hr
        obtain ⟨s, hs, hbegins⟩ := hr
        have hne : r ≠ [] := by
          rintro rfl
          exact hbegins.1 (List.suffix_nil.mp hs)
        obtain ⟨n, hpos, hle, hturn, hkeep⟩ := turn_skip (α := α) hne hb hshort
        have hlength : (r.drop n).length = r.length - n := List.length_drop
        obtain ⟨t, ht, hstop, hdrains⟩ := ih (r.drop n).length (by omega)
          (fun hi => hi s (hkeep s hs hbegins) hbegins) (by omega) rfl
        refine ⟨t, ht, hstop, fun more out rest hmore h => ?_⟩
        have hroom : 4 ≤ (r ++ more).length := by
          rw [List.length_append]
          exact Nat.le_add_left_of_le hmore
        have hnext := hdrains more out rest hmore h
        rw [← List.drop_append_of_le_length hle] at hnext
        exact Drains.next (hturn more hroom) hnext

theorem not_infix_of_not_mem {bytes : List UInt8} (h : kSof1 ∉ bytes) :
    ¬[kSof1, kSof2] <:+: bytes := fun hi => h (hi.subset List.mem_cons_self)

/-- Bytes without a start byte make nothing. -/
theorem drains_quiet {bytes : List UInt8} (h : kSof1 ∉ bytes) :
    ∃ rest, Drains turn bytes ([] : List (Callback α)) rest := by
  obtain ⟨rest, hd⟩ := drains_garbage (α := α) (not_infix_of_not_mem h) (fun _ hn => by cases hn)
    (Drains.stop turn_nil)
  rw [List.append_nil] at hd
  exact ⟨rest, hd⟩

/-- What has begun a frame takes the first byte of a frame of the session with it: then it does
not matter how that frame goes on. -/
theorem exists_swallow {r : List UInt8}
    (hstop : (turn r : Option (List (Callback α) × Nat)) = none) (hr : ¬Inert r) :
    ∃ gap, kSof1 ∉ gap ∧ ∃ out : List (Callback α), ∀ tail, kSof1 ∉ tail → 4 ≤ tail.length →
      ∃ rest, Drains turn (r ++ (gap ++ kSof1 :: tail)) out rest := by
  obtain ⟨s, hs, hstop, hdrains⟩ := exists_begins hstop hr
  obtain ⟨gap, payload, hgap, hpayload, hframe⟩ := exists_completion hs hstop
  refine ⟨gap, hgap, (expected payload).toList, fun tail htail hlength => ?_⟩
  obtain ⟨rest, hrest⟩ := drains_quiet (α := α) htail
  have hroom : 4 ≤ (gap ++ kSof1 :: tail).length := by
    rw [List.length_append, List.length_cons]
    omega
  have hwhole : s ++ (gap ++ kSof1 :: tail) = frame payload ++ tail := by
    rw [← hframe, List.append_assoc, List.append_assoc, List.singleton_append]
  have hturn := turn_frame (α := α) hpayload tail
  have hnext : Drains turn (frame payload ++ tail) ((expected payload).toList ++ []) rest :=
    Drains.next hturn (by rw [List.drop_left]; exact hrest)
  rw [List.append_nil] at hnext
  exact ⟨rest, hdrains _ _ _ hroom (hwhole ▸ hnext)⟩

def numbered (number : UInt8) : List UInt8 :=
  let body := kMsgIdConfig :: number :: List.replicate 30 0
  body ++ [crc8 body]

theorem expected_numbered (number : UInt8) :
    (expected (numbered number) : Option (Callback α)) =
      some (.config (configOf (numbered number))) := by
  have hcrc : CrcCorrect (numbered number) := by
    unfold CrcCorrect numbered
    rw [List.getLast?_append, List.dropLast_concat]
    rfl
  have hhead : (numbered number).head? = some kMsgIdConfig := rfl
  have hne : ¬some kMsgIdConfig = some kMsgIdPointCloud := by decide
  have hlength : kConfigPayloadMinLength ≤ (numbered number).length := Nat.le_refl 33
  unfold expected
  simp only [hhead, hcrc, hlength, hne, and_self, if_true, false_and, if_false]

theorem frame_numbered {number : UInt8} (h : number = 0 ∨ number = 1) :
    ∃ tail, frame (numbered number) = kSof1 :: tail ∧ kSof1 ∉ tail ∧ 4 ≤ tail.length := by
  have hlength : 4 ≤ (frame (numbered number)).tail.length := Nat.le_add_left 4 32
  refine ⟨(frame (numbered number)).tail, rfl, ?_, hlength⟩
  obtain rfl | rfl := h
  · decide +kernel
  · decide +kernel

theorem drains_numbered {gap : List UInt8} (hgap : kSof1 ∉ gap) (number : UInt8)
    {more : List UInt8} (hmore : kSof1 ∉ more) :
    ∃ rest, Drains turn (gap ++ (frame (numbered number) ++ more))
      [Callback.config (configOf (numbered number) : SmitConfigInfo α)] rest := by
  obtain ⟨last, hlast⟩ := drains_quiet (α := α) hmore
  have hframe : (numbered number).length + 4 ≤ 2048 := Nat.le_of_ble_eq_true rfl
  have hnext := Drains.next (turn_frame (α := α) hframe more)
    (by rw [List.drop_left]; exact hlast)
  rw [expected_numbered] at hnext
  exact drains_garbage (not_infix_of_not_mem hgap) (by rintro _ ⟨⟩; decide) hnext

end DeviceManager.SmitLeftovers
