import DeviceManager.OradarScan
import DeviceManager.OrdFrames
import DeviceManager.Tiles
import Mathlib.Data.List.Induction

namespace DeviceManager.OrdBlocks

open LittleEndian BigEndian OrdFrames OradarScan Tiles

/-- `ScanBlockData` with its one layer, whose two vectors have one size. -/
structure ScanBlockData where
  blockId : UInt8
  timestamp : UInt32
  syncMode : UInt8
  frameCnt : UInt16
  ranges : List UInt16
  intensities : List UInt16
  same_length : intensities.length = ranges.length

/-- `LASER_SCAN_BLOCK_LENGTH_10HZ` and the others for their types; nothing is read for another
type. -/
def blockLength (dataType : UInt8) : Nat :=
  if dataType = 0x04 then 378
  else if dataType = 0x05 then 252
  else if dataType = 0x06 then 192
  else if dataType = 0x07 then 150
  else if dataType = 0x08 then 126
  else 0

/-- `offsetof(PointCloudPacket, pc_data)` behind the frame head. -/
def kPointOffset : Nat := kHeadSize + 12

/-- `getScanBlockData` on a message from the queue; nothing if it reads behind the end. -/
def getScanBlockData (message : List UInt8) : Option ScanBlockData :=
  let blockLength := blockLength (message.getD (kHeadSize + 2) 0)
  if message.length < kPointOffset + 4 * blockLength then none
  else some {
    blockId := message.getD (kHeadSize + 3) 0
    timestamp := read32 message (kHeadSize + 6)
    frameCnt := word (message.getD (kHeadSize + 4) 0) (message.getD (kHeadSize + 5) 0)
    syncMode := message.getD (kHeadSize + 10) 0
    ranges := (List.range blockLength).map fun i => read16 message (kPointOffset + 4 * i)
    intensities := (List.range blockLength).map fun i => read16 message (kPointOffset + 4 * i + 2)
    same_length := by simp }

/-- The local variables of `getScanFrameData` and the frame it fills. -/
structure Assembly where
  seen : Fin 6 → Bool
  begun : Bool
  timestamp : UInt32
  layer : FrameData

def Assembly.create (layer : FrameData) : Assembly := ⟨fun _ => false, false, 0, layer⟩

/-- `std::vector::resize`. -/
def resize (xs : List UInt16) (size : Nat) : List UInt16 :=
  xs.take size ++ List.replicate (size - xs.length) 0

/-- `_index` where it is less than six. -/
def ScanBlockData.index (b : ScanBlockData) : Option (Fin 6) :=
  if h : (b.blockId - 1).toNat < 6 then some ⟨(b.blockId - 1).toNat, h⟩ else none

def Assembly.start (a : Assembly) (b : ScanBlockData) : Assembly :=
  if a.begun then a
  else
    { a with
      begun := true
      timestamp := b.timestamp
      layer := ⟨resize a.layer.ranges (b.ranges.length * 6),
        resize a.layer.intensities (b.ranges.length * 6)⟩ }

/-- The loop that copies a block; nothing if it writes behind the end of the frame. -/
def Assembly.copy (a : Assembly) (k : Fin 6) (b : ScanBlockData) : Option Assembly := do
  let ranges ← writeAt a.layer.ranges (k * b.ranges.length) b.ranges
  let intensities ← writeAt a.layer.intensities (k * b.ranges.length) b.intensities
  return { a with seen := Function.update a.seen k true, layer := ⟨ranges, intensities⟩ }

def Assembly.collect (a : Assembly) (b : ScanBlockData) : Option Assembly :=
  match b.index with
  | some k => (a.start b).copy k b
  | none => some a

/-- The last test of a turn. -/
def Assembly.complete (a : Assembly) (b : ScanBlockData) : Bool :=
  (decide (b.index = some 0) || decide (b.index = some 5)) && decide (∀ k, a.seen k = true)

/-- How the loop ends: with a frame and the blocks that are left for the next call, without
another block in time, or with a write behind the end of the frame. -/
inductive Outcome where
  | frame (a : Assembly) (rest : List ScanBlockData)
  | timedOut
  | fault

/-- The loop of `getScanFrameData` over the blocks that come in time. -/
def gather (a : Assembly) : List ScanBlockData → Outcome
  | [] => .timedOut
  | b :: blocks =>
    match a.collect b with
    | none => .fault
    | some a => if a.complete b then .frame a blocks else gather a blocks

def valid (blocks : List ScanBlockData) : List ScanBlockData := blocks.filter (·.index.isSome)

def latest (k : Fin 6) (blocks : List ScanBlockData) : Option ScanBlockData :=
  (blocks.filter fun b => b.index = some k).getLast?

def Complete (blocks : List ScanBlockData) : Prop :=
  (∀ k, (latest k blocks).isSome) ∧
    ∃ b, blocks.getLast? = some b ∧ (b.index = some 0 ∨ b.index = some 5)

def Shows (field : ScanBlockData → List UInt16) (width : Nat) (xs : List UInt16)
    (blocks : List ScanBlockData) : Prop :=
  ∃ f : Fin 6 → List UInt16, (∀ k, (f k).length = width) ∧ xs = tiles f ∧
    ∀ k b, latest k blocks = some b → f k = field b

structure Pictures (width : Nat) (a : Assembly) (blocks : List ScanBlockData) : Prop where
  timestamp : (valid blocks).head?.map ScanBlockData.timestamp = some a.timestamp
  ranges : Shows ScanBlockData.ranges width a.layer.ranges blocks
  intensities : Shows ScanBlockData.intensities width a.layer.intensities blocks

def Uniform (width : Nat) (blocks : List ScanBlockData) : Prop :=
  ∀ b ∈ blocks, b.index.isSome → b.ranges.length = width

theorem latest_snoc (k : Fin 6) (blocks : List ScanBlockData) (b : ScanBlockData) :
    latest k (blocks ++ [b]) = if b.index = some k then some b else latest k blocks := by
  rw [latest, List.filter_append]
  by_cases h : b.index = some k
  · rw [if_pos h, List.filter_cons_of_pos (by simpa using h), List.filter_nil]
    exact List.getLast?_concat
  · rw [if_neg h, List.filter_cons_of_neg (by simpa using h), List.filter_nil, List.append_nil]
    rfl

theorem valid_snoc (blocks : List ScanBlockData) (b : ScanBlockData) :
    valid (blocks ++ [b]) = valid blocks ++ if b.index.isSome then [b] else [] := by
  rw [valid, List.filter_append]
  cases h : b.index.isSome with
  | true => simp [valid, h]
  | false => simp [valid, h]

theorem latest_of_valid {blocks : List ScanBlockData} (h : valid blocks = []) (k : Fin 6) :
    latest k blocks = none := by
  rw [latest, List.getLast?_eq_none_iff, List.filter_eq_nil_iff]
  intro b hb hindex
  have hmem : b ∈ valid blocks := by
    rw [valid, List.mem_filter, of_decide_eq_true hindex]
    exact ⟨hb, rfl⟩
  rw [h] at hmem
  exact List.not_mem_nil hmem

theorem length_resize (xs : List UInt16) (size : Nat) : (resize xs size).length = size := by
  rw [resize, List.length_append, List.length_take, List.length_replicate]
  omega

theorem shows_resize {blocks : List ScanBlockData} (h : valid blocks = [])
    (field : ScanBlockData → List UInt16) (xs : List UInt16) (width : Nat) :
    Shows field width (resize xs (width * 6)) blocks := by
  have hlen : (resize xs (width * 6)).length = 6 * width := by
    rw [length_resize, Nat.mul_comm]
  obtain ⟨f, hf, htiles⟩ := exists_tiles hlen
  refine ⟨f, hf, htiles, fun k b hb => ?_⟩
  rw [latest_of_valid h k] at hb
  cases hb

theorem shows_write {field : ScanBlockData → List UInt16} {width : Nat} {xs : List UInt16}
    {blocks : List ScanBlockData} (h : Shows field width xs blocks) {k : Fin 6} {b : ScanBlockData}
    (hindex : b.index = some k) (hwidth : (field b).length = width) :
    ∃ ys, writeAt xs (k * width) (field b) = some ys ∧ Shows field width ys (blocks ++ [b]) := by
  obtain ⟨f, hf, rfl, hlatest⟩ := h
  refine ⟨_, writeAt_tiles hf k hwidth, Function.update f k (field b), fun j => ?_, rfl,
    fun j b' hb' => ?_⟩
  · by_cases hj : j = k
    · rw [hj, Function.update_self, hwidth]
    · rw [Function.update_of_ne hj, hf]
  · rw [latest_snoc, hindex] at hb'
    by_cases hj : j = k
    · rw [hj, if_pos rfl] at hb'
      rw [hj, Function.update_self, Option.some.inj hb']
    · rw [if_neg fun h => hj (Option.some.inj h).symm] at hb'
      rw [Function.update_of_ne hj]
      exact hlatest j b' hb'

/-- A block that is too large for the frame that another one began. -/
def Overflows (blocks : List ScanBlockData) (b : ScanBlockData) : Prop :=
  ∃ first k, (valid blocks).head? = some first ∧ b.index = some k ∧ b.ranges ≠ [] ∧
    6 * first.ranges.length < (k + 1) * b.ranges.length

inductive Unfinished : List ScanBlockData → Prop
  | nil : Unfinished []
  | snoc {blocks : List ScanBlockData} {b : ScanBlockData} : Unfinished blocks →
      ¬ Overflows blocks b → ¬ Complete (blocks ++ [b]) → Unfinished (blocks ++ [b])

def Meets (blocks : List ScanBlockData) : Outcome → Prop
  | .frame a rest => ∃ used b, blocks = used ++ b :: rest ∧ Unfinished used ∧ ¬ Overflows used b ∧
      Complete (used ++ [b]) ∧
        (valid (used ++ [b])).head?.map ScanBlockData.timestamp = some a.timestamp ∧
          ∀ width, Uniform width (used ++ [b]) → Pictures width a (used ++ [b])
  | .timedOut => Unfinished blocks
  | .fault => ∃ used b rest, blocks = used ++ b :: rest ∧ Unfinished used ∧ Overflows used b

structure Tracks (a : Assembly) (blocks : List ScanBlockData) : Prop where
  seen : ∀ k, a.seen k = (latest k blocks).isSome
  begun : a.begun = true ↔ valid blocks ≠ []
  first : ∀ first, (valid blocks).head? = some first → a.timestamp = first.timestamp ∧
    a.layer.ranges.length = 6 * first.ranges.length ∧
      a.layer.intensities.length = 6 * first.ranges.length
  pictures : ∀ width, Uniform width blocks → valid blocks ≠ [] → Pictures width a blocks

theorem tracks_create (layer : FrameData) : Tracks (.create layer) [] := by
  refine ⟨fun _ => rfl, ?_, fun first h => ?_, fun _ _ h => absurd rfl h⟩
  · simp [Assembly.create, valid]
  · cases h

theorem Uniform.init {width : Nat} {blocks : List ScanBlockData} {b : ScanBlockData}
    (h : Uniform width (blocks ++ [b])) : Uniform width blocks :=
  fun b' hb' => h b' (List.mem_append_left _ hb')

theorem Uniform.last {width : Nat} {blocks : List ScanBlockData} {b : ScanBlockData}
    (h : Uniform width (blocks ++ [b])) : b.index.isSome → b.ranges.length = width :=
  h b (by simp)

theorem Tracks.not_begun {a : Assembly} {blocks : List ScanBlockData} (h : Tracks a blocks)
    (hbegun : ¬ a.begun = true) : valid blocks = [] := by
  by_contra hne
  exact hbegun (h.begun.mpr hne)

theorem Tracks.start {a : Assembly} {blocks : List ScanBlockData} (h : Tracks a blocks)
    (b : ScanBlockData) : ∃ first, (valid blocks ++ [b]).head? = some first ∧
      (a.start b).timestamp = first.timestamp ∧ (a.start b).begun = true ∧
        (a.start b).seen = a.seen ∧
          (a.start b).layer.ranges.length = 6 * first.ranges.length ∧
            (a.start b).layer.intensities.length = 6 * first.ranges.length := by
  unfold Assembly.start
  by_cases hbegun : a.begun = true
  · rw [if_pos hbegun]
    have hne := h.begun.mp hbegun
    obtain ⟨first, hfirst⟩ := Option.ne_none_iff_exists'.mp (mt List.head?_eq_none_iff.mp hne)
    obtain ⟨htime, hranges, hintensities⟩ := h.first first hfirst
    refine ⟨first, ?_, htime, hbegun, rfl, hranges, hintensities⟩
    rw [List.head?_append_of_ne_nil _ hne, hfirst]
  · rw [if_neg hbegun, h.not_begun hbegun]
    refine ⟨b, rfl, rfl, rfl, rfl, ?_, ?_⟩
    · rw [length_resize, Nat.mul_comm]
    · rw [length_resize, Nat.mul_comm]

theorem Tracks.shows_start {a : Assembly} {blocks : List ScanBlockData} (h : Tracks a blocks)
    {b : ScanBlockData} {width : Nat} (huniform : Uniform width blocks)
    (hwidth : b.ranges.length = width) :
    Shows ScanBlockData.ranges width (a.start b).layer.ranges blocks ∧
      Shows ScanBlockData.intensities width (a.start b).layer.intensities blocks := by
  unfold Assembly.start
  by_cases hbegun : a.begun = true
  · rw [if_pos hbegun]
    have hpictures := h.pictures width huniform (h.begun.mp hbegun)
    exact ⟨hpictures.ranges, hpictures.intensities⟩
  · have hnone := h.not_begun hbegun
    rw [if_neg hbegun, hwidth]
    exact ⟨shows_resize hnone _ _ _, shows_resize hnone _ _ _⟩

theorem Tracks.skip {a : Assembly} {blocks : List ScanBlockData} (h : Tracks a blocks)
    {b : ScanBlockData} (hindex : b.index = none) : Tracks a (blocks ++ [b]) := by
  have hvalid : valid (blocks ++ [b]) = valid blocks := by
    rw [valid_snoc, hindex]
    exact List.append_nil _
  have hlatest : ∀ k, latest k (blocks ++ [b]) = latest k blocks := by
    intro k
    rw [latest_snoc, hindex, if_neg (by simp)]
  refine ⟨fun k => ?_, ?_, ?_, fun width huniform hne => ?_⟩
  · rw [hlatest, h.seen]
  · rw [hvalid, h.begun]
  · rw [hvalid]
    exact h.first
  · rw [hvalid] at hne
    obtain ⟨htime, ⟨f, hf, hxs, hfield⟩, ⟨g, hg, hys, hfield'⟩⟩ :=
      h.pictures width huniform.init hne
    refine ⟨by rw [hvalid, htime], ⟨f, hf, hxs, fun k b' hb' => ?_⟩,
      ⟨g, hg, hys, fun k b' hb' => ?_⟩⟩
    · exact hfield k b' (by rwa [hlatest] at hb')
    · exact hfield' k b' (by rwa [hlatest] at hb')

theorem Tracks.overflows_iff {a : Assembly} {blocks : List ScanBlockData} (h : Tracks a blocks)
    {b : ScanBlockData} {k : Fin 6} (hindex : b.index = some k) :
    Overflows blocks b ↔ b.ranges ≠ [] ∧
      (a.start b).layer.ranges.length < k * b.ranges.length + b.ranges.length := by
  obtain ⟨first, hfirst, -, -, -, hranges, -⟩ := h.start b
  rw [hranges, ← Nat.succ_mul]
  constructor
  · rintro ⟨first', k', hfirst', hindex', hne, hlt⟩
    have hvalid : valid blocks ≠ [] := by
      intro hnil
      rw [hnil] at hfirst'
      cases hfirst'
    rw [List.head?_append_of_ne_nil _ hvalid, hfirst'] at hfirst
    rw [hindex] at hindex'
    cases hindex'
    cases hfirst
    exact ⟨hne, hlt⟩
  · rintro ⟨hne, hlt⟩
    refine ⟨first, k, ?_, hindex, hne, hlt⟩
    by_cases hvalid : valid blocks = []
    · -- the first block fits into its own frame
      rw [hvalid, List.nil_append, List.head?_cons] at hfirst
      cases hfirst
      have hle : (k : Nat).succ * b.ranges.length ≤ 6 * b.ranges.length :=
        Nat.mul_le_mul_right _ k.isLt
      omega
    · rwa [List.head?_append_of_ne_nil _ hvalid] at hfirst

theorem Assembly.copy_eq {a : Assembly} {k : Fin 6} {b : ScanBlockData}
    {ranges intensities : List UInt16}
    (hranges : writeAt a.layer.ranges (k * b.ranges.length) b.ranges = some ranges)
    (hintensities : writeAt a.layer.intensities (k * b.ranges.length) b.intensities =
      some intensities) :
    a.copy k b = some { a with
      seen := Function.update a.seen k true, layer := ⟨ranges, intensities⟩ } := by
  unfold Assembly.copy
  rw [hranges]
  change (do
    let intensities ← writeAt a.layer.intensities (k * b.ranges.length) b.intensities
    _) = _
  rw [hintensities]
  rfl

theorem Tracks.copied {a : Assembly} {blocks : List ScanBlockData} (h : Tracks a blocks)
    {b : ScanBlockData} {k : Fin 6} (hindex : b.index = some k)
    {ranges intensities : List UInt16}
    (hranges : writeAt (a.start b).layer.ranges (k * b.ranges.length) b.ranges = some ranges)
    (hintensities : writeAt (a.start b).layer.intensities (k * b.ranges.length) b.intensities =
      some intensities) :
    Tracks { a.start b with
      seen := Function.update (a.start b).seen k true, layer := ⟨ranges, intensities⟩ }
      (blocks ++ [b]) := by
  obtain ⟨first, hfirst, htime, hbegun, hseen, hlen, hlen'⟩ := h.start b
  have hvalid : valid (blocks ++ [b]) = valid blocks ++ [b] := by
    rw [valid_snoc, hindex]
    rfl
  refine ⟨fun j => ?_, ?_, fun first' hfirst' => ?_, fun width huniform _ => ?_⟩
  · rw [latest_snoc, hindex]
    change Function.update (a.start b).seen k true j = _
    by_cases hj : j = k
    · rw [hj, Function.update_self, if_pos rfl]
      rfl
    · rw [Function.update_of_ne hj, if_neg fun h => hj (Option.some.inj h).symm, hseen, h.seen]
  · rw [hvalid]
    simp [hbegun]
  · rw [hvalid, hfirst] at hfirst'
    cases hfirst'
    refine ⟨htime, ?_, ?_⟩
    · rw [← hlen]
      exact length_writeAt hranges
    · rw [← hlen']
      exact length_writeAt hintensities
  · have hwidth := huniform.last (by rw [hindex]; rfl)
    obtain ⟨hshows, hshows'⟩ := h.shows_start huniform.init hwidth
    obtain ⟨xs, hxs, hshown⟩ := shows_write hshows hindex hwidth
    obtain ⟨ys, hys, hshown'⟩ := shows_write hshows' hindex (by rw [b.same_length, hwidth])
    rw [← hwidth, hranges] at hxs
    rw [← hwidth, hintensities] at hys
    cases hxs
    cases hys
    refine ⟨?_, hshown, hshown'⟩
    rw [hvalid, hfirst, Option.map_some, htime]

theorem Tracks.collect {a : Assembly} {blocks : List ScanBlockData} (h : Tracks a blocks)
    (b : ScanBlockData) : (a.collect b = none ∧ Overflows blocks b) ∨
      ∃ next, a.collect b = some next ∧ ¬ Overflows blocks b ∧ Tracks next (blocks ++ [b]) := by
  unfold Assembly.collect
  cases hindex : b.index with
  | none =>
    refine Or.inr ⟨a, rfl, ?_, h.skip hindex⟩
    rintro ⟨-, k, -, hk, -⟩
    rw [hindex] at hk
    cases hk
  | some k =>
    obtain ⟨first, -, -, -, -, hlen, hlen'⟩ := h.start b
    rw [h.overflows_iff hindex, ← writeAt_eq_none]
    cases hranges : writeAt (a.start b).layer.ranges (k * b.ranges.length) b.ranges with
    | none =>
      refine Or.inl ⟨?_, rfl⟩
      change (a.start b).copy k b = none
      unfold Assembly.copy
      rw [hranges]
      rfl
    | some ranges =>
      obtain ⟨intensities, hintensities⟩ : ∃ intensities, writeAt (a.start b).layer.intensities
          (k * b.ranges.length) b.intensities = some intensities := by
        apply Option.ne_none_iff_exists'.mp
        intro hnone
        obtain ⟨hne, hlt⟩ := writeAt_eq_none.mp hnone
        have hsome : writeAt (a.start b).layer.ranges (k * b.ranges.length) b.ranges = none := by
          refine writeAt_eq_none.mpr ⟨fun hnil => hne ?_, ?_⟩
          · rw [← List.length_eq_zero_iff, b.same_length, hnil, List.length_nil]
          · rw [b.same_length] at hlt
            omega
        rw [hranges] at hsome
        cases hsome
      exact Or.inr ⟨_, Assembly.copy_eq hranges hintensities, by simp,
        h.copied hindex hranges hintensities⟩

theorem Tracks.complete_iff {a : Assembly} {blocks : List ScanBlockData} {b : ScanBlockData}
    (h : Tracks a (blocks ++ [b])) : a.complete b = true ↔ Complete (blocks ++ [b]) := by
  unfold Assembly.complete Complete
  simp only [Bool.and_eq_true, Bool.or_eq_true, decide_eq_true_eq, h.seen, List.getLast?_concat,
    Option.some.injEq, exists_eq_left']
  exact And.comm

theorem gather_tracks {a : Assembly} {used : List ScanBlockData} (h : Tracks a used)
    (hused : Unfinished used) (blocks : List ScanBlockData) :
    Meets (used ++ blocks) (gather a blocks) := by
  induction blocks generalizing a used with
  | nil =>
    rw [List.append_nil]
    exact hused
  | cons b blocks ih =>
    rcases h.collect b with ⟨hnone, hover⟩ | ⟨next, hnext, hfits, htracks⟩
    · rw [gather, hnone]
      exact ⟨used, b, blocks, rfl, hused, hover⟩
    · rw [gather, hnext]
      change Meets _ (if next.complete b then .frame next blocks else gather next blocks)
      by_cases hcomplete : next.complete b = true
      · have hvalid : valid (used ++ [b]) ≠ [] := by
          intro hnil
          have hall := (htracks.complete_iff.mp hcomplete).1 0
          rw [latest_of_valid hnil] at hall
          cases hall
        obtain ⟨first, hfirst⟩ :=
          Option.ne_none_iff_exists'.mp (mt List.head?_eq_none_iff.mp hvalid)
        rw [if_pos hcomplete]
        refine ⟨used, b, rfl, hused, hfits, htracks.complete_iff.mp hcomplete, ?_,
          fun width huniform => htracks.pictures width huniform hvalid⟩
        rw [hfirst, Option.map_some, (htracks.first first hfirst).1]
      · have hopen : Unfinished (used ++ [b]) :=
          .snoc hused hfits (mt htracks.complete_iff.mpr hcomplete)
        rw [if_neg hcomplete, List.append_cons]
        exact ih htracks hopen

/-- A call that returns takes the first blocks that make a frame, and what it returns is the
time of the first and the points of the latest; it writes behind the end of the frame at the
first block that is too large. -/
theorem gather_create (layer : FrameData) (blocks : List ScanBlockData) :
    Meets blocks (gather (.create layer) blocks) :=
  gather_tracks (tracks_create layer) .nil blocks

/-- Before the last of its blocks the call was neither done nor in trouble. -/
theorem Unfinished.before {used : List ScanBlockData} {b : ScanBlockData}
    {rest : List ScanBlockData} (h : Unfinished (used ++ b :: rest)) :
    ¬ Overflows used b ∧ ¬ Complete (used ++ [b]) := by
  induction rest using List.reverseRecOn with
  | nil =>
    generalize hblocks : used ++ [b] = blocks at h
    cases h with
    | nil => simp at hblocks
    | snoc _ hfits hopen =>
      obtain ⟨rfl, hlast⟩ := List.append_inj' hblocks rfl
      cases hlast
      exact ⟨hfits, hopen⟩
  | append_singleton rest c ih =>
    rw [← List.cons_append, ← List.append_assoc] at h
    generalize hblocks : used ++ b :: rest ++ [c] = blocks at h
    cases h with
    | nil => simp at hblocks
    | snoc hinit _ _ =>
      obtain ⟨rfl, -⟩ := List.append_inj' hblocks rfl
      exact ih hinit

/-- The loop writes behind the end of the frame exactly when a block that is too large for the
frame comes before the call is done. -/
theorem gather_eq_fault_iff (layer : FrameData) (blocks : List ScanBlockData) :
    gather (.create layer) blocks = .fault ↔
      ∃ used b rest, blocks = used ++ b :: rest ∧ Unfinished used ∧ Overflows used b := by
  have hmeets := gather_create layer blocks
  constructor
  · intro hfault
    rw [hfault] at hmeets
    exact hmeets
  · rintro ⟨used, b, rest, rfl, hused, hover⟩
    cases hgather : gather (.create layer) (used ++ b :: rest) with
    | fault => rfl
    | timedOut =>
      rw [hgather] at hmeets
      exact absurd hover (Unfinished.before hmeets).1
    | frame a rest' =>
      rw [hgather] at hmeets
      obtain ⟨used', b', hblocks, hused', hfits, hcomplete, -⟩ := hmeets
      rcases List.append_eq_append_iff.mp hblocks with ⟨more, rfl, hmore⟩ | ⟨more, rfl, hmore⟩
      · cases more with
        | nil =>
          rw [List.nil_append] at hmore
          cases hmore
          rw [List.append_nil] at hfits
          exact absurd hover hfits
        | cons c more =>
          cases hmore
          exact absurd hover hused'.before.1
      · cases more with
        | nil =>
          rw [List.nil_append] at hmore
          cases hmore
          rw [List.append_nil] at hover
          exact absurd hover hfits
        | cons c more =>
          cases hmore
          exact absurd hcomplete hused.before.2

def Finished (places : List (Option (Fin 6))) : Prop :=
  (∀ k, some k ∈ places) ∧ (places.getLast? = some (some 0) ∨ places.getLast? = some (some 5))

instance (places : List (Option (Fin 6))) : Decidable (Finished places) :=
  inferInstanceAs (Decidable (_ ∧ _))

theorem isSome_latest (k : Fin 6) (blocks : List ScanBlockData) :
    (latest k blocks).isSome ↔ some k ∈ blocks.map ScanBlockData.index := by
  rw [latest, List.getLast?_isSome, List.mem_map]
  constructor
  · intro hne
    obtain ⟨b, hb⟩ := List.exists_mem_of_ne_nil _ hne
    rw [List.mem_filter, decide_eq_true_eq] at hb
    exact ⟨b, hb⟩
  · rintro ⟨b, hb, hindex⟩
    apply List.ne_nil_of_mem (a := b)
    rw [List.mem_filter, decide_eq_true_eq]
    exact ⟨hb, hindex⟩

theorem complete_iff_finished (blocks : List ScanBlockData) :
    Complete blocks ↔ Finished (blocks.map ScanBlockData.index) := by
  unfold Complete Finished
  simp only [isSome_latest, List.getLast?_map, Option.map_eq_some_iff]
  apply and_congr_right
  intro _
  constructor
  · rintro ⟨b, hb, h | h⟩
    · exact Or.inl ⟨b, hb, h⟩
    · exact Or.inr ⟨b, hb, h⟩
  · rintro (⟨b, hb, h⟩ | ⟨b, hb, h⟩)
    · exact ⟨b, hb, Or.inl h⟩
    · exact ⟨b, hb, Or.inr h⟩

theorem Uniform.not_overflows {width : Nat} {blocks : List ScanBlockData} {b : ScanBlockData}
    (h : Uniform width (blocks ++ [b])) : ¬ Overflows blocks b := by
  rintro ⟨first, k, hfirst, hindex, -, hlt⟩
  have hmem : first ∈ valid blocks := List.mem_of_head? hfirst
  rw [valid, List.mem_filter] at hmem
  rw [h.last (by rw [hindex]; rfl), h.init first hmem.1 hmem.2] at hlt
  have hle : ((k : Nat) + 1) * width ≤ 6 * width := Nat.mul_le_mul_right _ k.isLt
  omega

theorem Unfinished.not_complete {blocks : List ScanBlockData} (h : Unfinished blocks) {n : Nat}
    (hn : n ≤ blocks.length) : ¬ Complete (blocks.take n) := by
  induction h with
  | nil =>
    rw [List.take_nil]
    rintro ⟨hall, -⟩
    cases hall 0
  | snoc _ _ hopen ih =>
    rcases Nat.lt_or_eq_of_le hn with hlt | rfl
    · rw [List.length_append, List.length_singleton] at hlt
      rw [List.take_append_of_le_length (by omega)]
      exact ih (by omega)
    · rw [List.take_length]
      exact hopen

structure Rotations where
  block : Nat → Fin 6 → ScanBlockData
  width : Nat
  index_block : ∀ r k, (block r k).index = some k
  length_block : ∀ r k, (block r k).ranges.length = width

namespace Rotations

variable (s : Rotations)

def nth (p : Nat) : ScanBlockData := s.block (p / 6) ⟨p % 6, Nat.mod_lt _ (by decide)⟩

/-- Blocks in the order of the device, from a place on. -/
def stream (p : Nat) : Nat → List ScanBlockData
  | 0 => []
  | n + 1 => s.nth p :: stream (p + 1) n

theorem index_nth (p : Nat) : (s.nth p).index = some ⟨p % 6, Nat.mod_lt _ (by decide)⟩ :=
  s.index_block _ _

theorem length_stream (p n : Nat) : (s.stream p n).length = n := by
  induction n generalizing p with
  | zero => rfl
  | succ n ih => rw [stream, List.length_cons, ih]

theorem stream_add (p m n : Nat) : s.stream p (m + n) = s.stream p m ++ s.stream (p + m) n := by
  induction m generalizing p with
  | zero => rw [Nat.zero_add, Nat.add_zero]; rfl
  | succ m ih =>
    rw [Nat.add_right_comm, stream, ih, stream, List.cons_append, Nat.add_right_comm, Nat.add_assoc]

theorem stream_succ (p n : Nat) : s.stream p (n + 1) = s.stream p n ++ [s.nth (p + n)] :=
  s.stream_add p n 1

theorem take_stream (p : Nat) {m n : Nat} (h : m ≤ n) : (s.stream p n).take m = s.stream p m := by
  obtain ⟨k, rfl⟩ := Nat.exists_eq_add_of_le h
  rw [stream_add, List.take_left' (s.length_stream p m)]

theorem drop_stream (p : Nat) {m n : Nat} (h : m ≤ n) :
    (s.stream p n).drop m = s.stream (p + m) (n - m) := by
  obtain ⟨k, rfl⟩ := Nat.exists_eq_add_of_le h
  rw [stream_add, List.drop_left' (s.length_stream p m), Nat.add_sub_cancel_left]

theorem uniform_stream (p n : Nat) : Uniform s.width (s.stream p n) := by
  induction n generalizing p with
  | zero =>
    intro b hb
    cases hb
  | succ n ih =>
    intro b hb hindex
    rw [stream, List.mem_cons] at hb
    rcases hb with rfl | hb
    · exact s.length_block _ _
    · exact ih (p + 1) b hb hindex

theorem head?_valid_stream (p : Nat) {n : Nat} (h : 0 < n) :
    (valid (s.stream p n)).head?.map ScanBlockData.timestamp = some (s.nth p).timestamp := by
  obtain ⟨n, rfl⟩ := Nat.exists_eq_succ_of_ne_zero (Nat.ne_of_gt h)
  rw [stream, valid, List.filter_cons_of_pos (by rw [index_nth]; rfl)]
  rfl

/-- The last block for a place among so many blocks. -/
theorem latest_stream {p n q : Nat} (hp : p ≤ q) (hlt : q < p + n) (hle : p + n ≤ q + 6) :
    latest ⟨q % 6, Nat.mod_lt _ (by decide)⟩ (s.stream p n) = some (s.nth q) := by
  induction n with
  | zero => omega
  | succ n ih =>
    rw [stream_succ, latest_snoc, index_nth]
    by_cases h : (p + n) % 6 = q % 6
    · have hq : q = p + n := by omega
      rw [hq, if_pos rfl]
    · rw [if_neg (by simpa using h)]
      apply ih
      · rcases Nat.lt_or_ge q (p + n) with hlt | hge
        · exact hlt
        · have hq : q = p + n := by omega
          exact absurd (by rw [hq]) h
      · omega

theorem map_index_stream (p n : Nat) : (s.stream p n).map ScanBlockData.index =
    (List.range n).map fun i => some ⟨(p % 6 + i) % 6, Nat.mod_lt _ (by decide)⟩ := by
  induction n with
  | zero => rfl
  | succ n ih =>
    rw [stream_succ, List.map_append, ih, List.range_succ, List.map_append, List.map_singleton,
      List.map_singleton, index_nth]
    simp only [Nat.mod_add_mod]

end Rotations

def span (p : Nat) : Nat := if p % 6 ≤ 1 then 6 else 12 - p % 6

theorem span_bounds (p : Nat) : 6 ≤ span p ∧ span p ≤ 12 := by
  unfold span
  split <;> omega

theorem finished_span (c : Fin 6) :
    Finished ((List.range (span c)).map fun i => some ⟨(c + i) % 6, Nat.mod_lt _ (by decide)⟩) ∧
      ∀ n < span c, ¬ Finished ((List.range n).map fun i =>
        some ⟨(c + i) % 6, Nat.mod_lt _ (by decide)⟩) := by
  revert c
  decide

namespace Rotations

variable (s : Rotations)

theorem complete_span (p : Nat) : Complete (s.stream p (span p)) ∧
    ∀ n < span p, ¬ Complete (s.stream p n) := by
  have h := finished_span ⟨p % 6, Nat.mod_lt _ (by decide)⟩
  have hspan : span (p % 6) = span p := by
    unfold span
    rw [Nat.mod_mod]
  simp only [complete_iff_finished, map_index_stream]
  rw [hspan] at h
  exact h

def Frame (p n : Nat) (a : Assembly) : Prop :=
  a.timestamp = (s.nth p).timestamp ∧ ∃ f : Fin 6 → ScanBlockData,
    a.layer = ⟨tiles fun k => (f k).ranges, tiles fun k => (f k).intensities⟩ ∧
      ∀ q, p ≤ q → q < p + n → p + n ≤ q + 6 → f ⟨q % 6, Nat.mod_lt _ (by decide)⟩ = s.nth q

theorem gather_stream (layer : FrameData) (p : Nat) {n : Nat} (h : span p ≤ n) :
    ∃ a, gather (.create layer) (s.stream p n) =
      .frame a (s.stream (p + span p) (n - span p)) ∧ s.Frame p (span p) a := by
  obtain ⟨hcomplete, hopen⟩ := s.complete_span p
  have hmeets := gather_create layer (s.stream p n)
  cases hgather : gather (.create layer) (s.stream p n) with
  | timedOut =>
    rw [hgather] at hmeets
    have hnot := Unfinished.not_complete hmeets (n := span p) (by rw [length_stream]; exact h)
    rw [take_stream _ _ h] at hnot
    exact absurd hcomplete hnot
  | fault =>
    rw [hgather] at hmeets
    obtain ⟨used, b, rest, hblocks, -, hover⟩ := hmeets
    have huniform := s.uniform_stream p n
    rw [hblocks, List.append_cons] at huniform
    exact absurd hover (Uniform.not_overflows fun b' hb' =>
      huniform b' (List.mem_append_left _ hb'))
  | frame a rest =>
    rw [hgather] at hmeets
    obtain ⟨used, b, hblocks, hunfinished, -, hfull, htime, hpictures⟩ := hmeets
    rw [List.append_cons] at hblocks
    have hlen : (used ++ [b]).length ≤ n := by
      have htotal := congrArg List.length hblocks
      rw [length_stream, List.length_append] at htotal
      omega
    have hused : used ++ [b] = s.stream p (used ++ [b]).length := by
      rw [← take_stream _ _ hlen, hblocks, List.take_left]
    have hspan : (used ++ [b]).length = span p := by
      rcases Nat.lt_trichotomy (used ++ [b]).length (span p) with hlt | heq | hgt
      · rw [hused] at hfull
        exact absurd hfull (hopen _ hlt)
      · exact heq
      · have hle : span p ≤ used.length := by
          rw [List.length_append, List.length_singleton] at hgt
          omega
        have hnot := hunfinished.not_complete hle
        have htake : used.take (span p) = s.stream p (span p) := by
          rw [← List.take_append_of_le_length hle, hused, take_stream _ _ (Nat.le_of_lt hgt)]
        rw [htake] at hnot
        exact absurd hcomplete hnot
    have hrest : rest = s.stream (p + span p) (n - span p) := by
      rw [← drop_stream _ _ h, hblocks, ← hspan, List.drop_left]
    rw [hspan] at hused
    rw [hused] at htime hpictures
    refine ⟨a, by rw [hrest], ?_, ?_⟩
    · have hpos : 0 < span p := Nat.lt_of_lt_of_le (by decide) (span_bounds p).1
      rw [s.head?_valid_stream p hpos] at htime
      exact (Option.some.inj htime).symm
    · obtain ⟨-, ⟨f, -, hf, hfield⟩, ⟨g, -, hg, hfield'⟩⟩ :=
        hpictures s.width (s.uniform_stream _ _)
      have hsome := fun k => Option.isSome_iff_exists.mp (hcomplete.1 k)
      choose shown hshown using hsome
      refine ⟨shown, ?_, fun q hp hlt hle => ?_⟩
      · rw [funext fun k => hfield k _ (hshown k)] at hf
        rw [funext fun k => hfield' k _ (hshown k)] at hg
        rw [← hf, ← hg]
      · exact Option.some.inj ((hshown _).symm.trans (s.latest_stream hp hlt hle))

def picture (first : ScanBlockData) (f : Fin 6 → ScanBlockData) : UInt32 × FrameData :=
  (first.timestamp, ⟨tiles fun k => (f k).ranges, tiles fun k => (f k).intensities⟩)

/-- The frames of one call after another. Begun at the first block of a turn, each is a turn.
Begun at the second, each has its first part from the next turn. Begun at another, the first
has its time from the turn before and the others are turns. -/
def result (p n : Nat) : UInt32 × FrameData :=
  let r := p / 6 + n
  if p % 6 = 0 then picture (s.block r 0) (s.block r)
  else if p % 6 = 1 then picture (s.block r 1) fun k => s.block (if k = 0 then r + 1 else r) k
  else picture (if n = 0 then s.nth p else s.block (r + 1) 0) (s.block (r + 1))

theorem nth_of {p : Nat} {k : Fin 6} (h : p % 6 = k) : s.nth p = s.block (p / 6) k := by
  have hk : (⟨p % 6, Nat.mod_lt _ (by decide)⟩ : Fin 6) = k := Fin.ext h
  rw [nth, hk]

theorem Frame.eq_picture {s : Rotations} {p n : Nat} {a : Assembly} (h : s.Frame p n a)
    {f : Fin 6 → ScanBlockData} (hf : ∀ k : Fin 6, ∃ r, f k = s.block r k ∧ p ≤ 6 * r + k ∧
      6 * r + k < p + n ∧ p + n ≤ 6 * r + k + 6) :
    (a.timestamp, a.layer) = picture (s.nth p) f := by
  obtain ⟨htime, shown, hlayer, hshown⟩ := h
  have heq : shown = f := by
    funext k
    obtain ⟨r, hr, hp, hlt, hle⟩ := hf k
    have hplace := hshown (6 * r + k) hp hlt hle
    have hmod : (6 * r + (k : Nat)) % 6 = k := by omega
    have hk : (⟨(6 * r + k) % 6, Nat.mod_lt _ (by decide)⟩ : Fin 6) = k := Fin.ext hmod
    have hturn : (6 * r + (k : Nat)) / 6 = r := by omega
    rw [hk, s.nth_of hmod, hturn] at hplace
    rw [hplace, hr]
  rw [picture, htime, hlayer, heq]

theorem Frame.eq_result {s : Rotations} {p : Nat} {a : Assembly} (h : s.Frame p (span p) a) :
    (a.timestamp, a.layer) = s.result p 0 := by
  unfold result
  simp only [Nat.add_zero, if_true]
  by_cases h0 : p % 6 = 0
  · have hspan : span p = 6 := if_pos (by omega)
    rw [if_pos h0, h.eq_picture (f := s.block (p / 6)) fun k => ⟨_, rfl, by omega⟩,
      s.nth_of (k := 0) h0]
  · rw [if_neg h0]
    by_cases h1 : p % 6 = 1
    · have hspan : span p = 6 := if_pos (by omega)
      rw [if_pos h1, ← s.nth_of (k := 1) h1]
      apply h.eq_picture
      intro k
      by_cases hk : k = 0
      · refine ⟨p / 6 + 1, by rw [if_pos hk], ?_⟩
        rw [hk, Fin.val_zero]
        omega
      · have hpos : (k : Nat) ≠ 0 := fun h => hk (Fin.ext h)
        exact ⟨p / 6, by rw [if_neg hk], by omega⟩
    · have hspan : span p = 12 - p % 6 := if_neg (by omega)
      rw [if_neg h1, h.eq_picture (f := s.block (p / 6 + 1)) fun k => ⟨_, rfl, by omega⟩]

/-- The next call goes on where one ended. -/
theorem result_succ (p n : Nat) : s.result (p + span p) n = s.result p (n + 1) := by
  unfold result span
  by_cases h0 : p % 6 = 0
  · have hturn : (p + 6) / 6 + n = p / 6 + (n + 1) := by omega
    simp only [h0, Nat.zero_le, if_true, Nat.add_mod_right, hturn]
  · by_cases h1 : p % 6 = 1
    · have hturn : (p + 6) / 6 + n = p / 6 + (n + 1) := by omega
      simp only [h1, Nat.le_refl, if_true, Nat.add_mod_right, hturn, Nat.one_ne_zero, if_false]
    · have hmod : (p + (12 - p % 6)) % 6 = 0 := by omega
      have hturn : (p + (12 - p % 6)) / 6 + n = p / 6 + (n + 1) + 1 := by omega
      have hlt : ¬ p % 6 ≤ 1 := by omega
      simp only [hlt, h0, h1, hmod, hturn, if_true, if_false, Nat.add_one_ne_zero]

end Rotations

end DeviceManager.OrdBlocks
