import DeviceManager.Segments
import DeviceManager.SmitAssembly

namespace DeviceManager.ScanSegments

open Transducer Segments Floating SmitProtocol SmitAssembly

variable {α : Type}

/-- A point with the motor speed and the frequency that were known when it came. -/
structure Sample (α : Type) where
  point : SmitPoint α
  config : Nat × Nat

/-- The points that belong together, with a part that is lost at a bad packet or a reset. What
comes before the first configuration is in no epoch. -/
def epochs : Option (Nat × Nat) → List (Call α) → List (List (Sample α))
  | _, [] => [[]]
  | _, .setConfig motorSpeed lidarFreq :: calls => epochs (some (motorSpeed, lidarFreq)) calls
  | config, .reset :: calls => [] :: epochs config calls
  | none, .addPacket _ :: calls => epochs none calls
  | some config, .addPacket packet :: calls =>
    if !packet.crcOk || packet.pointCount > kMaxPoints then [] :: epochs (some config) calls
    else (epochs (some config) calls).modifyHead ((pointsOf packet).map (⟨·, config⟩) ++ ·)

theorem epochs_cons (config : Option (Nat × Nat)) (calls : List (Call α)) :
    ∃ epoch later, epochs config calls = epoch :: later := by
  induction calls generalizing config with
  | nil => exact ⟨[], [], rfl⟩
  | cons c calls ih =>
    cases c with
    | setConfig motorSpeed lidarFreq =>
      rw [epochs]
      exact ih _
    | reset => exact ⟨[], _, rfl⟩
    | addPacket packet =>
      cases config with
      | none =>
        rw [epochs]
        exact ih none
      | some config =>
        rw [epochs]
        split
        · exact ⟨[], _, rfl⟩
        · obtain ⟨epoch, later, he⟩ := ih (some config)
          rw [he]
          exact ⟨_, later, rfl⟩

theorem epochs_config {known : Nat × Nat → Prop} {config : Option (Nat × Nat)}
    {calls : List (Call α)} (hconfig : ∀ c ∈ config, known c)
    (hcalls : ∀ motorSpeed lidarFreq, .setConfig motorSpeed lidarFreq ∈ calls →
      known (motorSpeed, lidarFreq)) :
    ∀ epoch ∈ epochs config calls, ∀ p ∈ epoch, known p.config := by
  induction calls generalizing config with
  | nil =>
    intro epoch he p hp
    rw [epochs, List.mem_singleton] at he
    rw [he] at hp
    cases hp
  | cons c calls ih =>
    have hrest := fun motorSpeed lidarFreq h => hcalls motorSpeed lidarFreq (List.mem_cons_of_mem c h)
    have hbreak : ∀ epoch ∈ [] :: epochs config calls, ∀ p ∈ epoch, known p.config := by
      intro epoch he p hp
      obtain rfl | he := List.mem_cons.mp he
      · cases hp
      · exact ih hconfig hrest epoch he p hp
    cases c with
    | setConfig motorSpeed lidarFreq =>
      rw [epochs]
      refine ih ?_ hrest
      rintro _ ⟨⟩
      exact hcalls motorSpeed lidarFreq List.mem_cons_self
    | reset =>
      rw [epochs]
      exact hbreak
    | addPacket packet =>
      cases config with
      | none =>
        rw [epochs]
        exact ih hconfig hrest
      | some config =>
        rw [epochs]
        split
        · exact hbreak
        · obtain ⟨first, later, hfirst⟩ := epochs_cons (some config) calls
          have hall := ih hconfig hrest
          rw [hfirst] at hall ⊢
          intro epoch he p hp
          obtain rfl | he := List.mem_cons.mp he
          · obtain hp | hp := List.mem_append.mp hp
            · obtain ⟨point, -, rfl⟩ := List.mem_map.mp hp
              exact hconfig config rfl
            · exact hall first List.mem_cons_self p hp
          · exact hall epoch (List.mem_cons_of_mem _ he) p hp

variable [LE α] [DecidableLE α] [LT α] [DecidableLT α] [Add α] [Floating α]

def crosses (angleMinDeg : α) (p q : Sample α) : Bool :=
  didRawAngleCrossBoundary (normalizeRawAngle p.point.angleDeg)
    (normalizeRawAngle q.point.angleDeg) (normalizeRawAngle angleMinDeg)

def inside (angleMinDeg angleMaxDeg : α) (p : Sample α) : Bool :=
  isRawAngleInWindow (normalizeRawAngle p.point.angleDeg) (normalizeRawAngle angleMinDeg)
    (normalizeRawAngle angleMaxDeg) false

def CrossedAt (angleMinDeg : α) (epoch : List (Sample α)) (k : Nat) : Prop :=
  0 < k ∧ ∃ p q, epoch[k - 1]? = some p ∧ epoch[k]? = some q ∧ crosses angleMinDeg p q

/-- The points from one crossing up to the next. -/
structure Stretch (angleMinDeg : α) (epoch : List (Sample α)) (i j : Nat) : Prop where
  lt : i < j
  first : CrossedAt angleMinDeg epoch i
  next : CrossedAt angleMinDeg epoch j
  between : ∀ k < j, i < k → ¬CrossedAt angleMinDeg epoch k

/-- Points inside the window, between two points outside. -/
structure MaximalRun (angleMinDeg angleMaxDeg : α) (epoch : List (Sample α)) (i j : Nat) :
    Prop where
  lt : i < j
  before : 0 < i ∧ ∃ p, epoch[i - 1]? = some p ∧ ¬inside angleMinDeg angleMaxDeg p
  within : ∀ k < j, i ≤ k → ∃ p, epoch[k]? = some p ∧ inside angleMinDeg angleMaxDeg p
  behind : ∃ p, epoch[j]? = some p ∧ ¬inside angleMinDeg angleMaxDeg p

def fullBounds (angleMinDeg : α) : Bounds (Sample α) where
  starts p a := p.any (crosses angleMinDeg · a)
  stops p a := p.any (crosses angleMinDeg · a)
  apart _ _ hs hns := absurd hs hns

def partialBounds (angleMinDeg angleMaxDeg : α) : Bounds (Sample α) where
  starts p a := p.any (!inside angleMinDeg angleMaxDeg ·) && inside angleMinDeg angleMaxDeg a
  stops _ a := !inside angleMinDeg angleMaxDeg a
  apart p a hs _ q := by
    have hp : inside angleMinDeg angleMaxDeg p = false := by
      simp only [Option.any_some, Bool.and_eq_true, Bool.not_eq_true'] at hs
      exact hs.1
    simp [hp]

variable {angleMinDeg angleMaxDeg : α} {epoch : List (Sample α)}

theorem at_crossed {k : Nat} :
    At (fullBounds angleMinDeg).starts epoch k ↔ CrossedAt angleMinDeg epoch k := by
  unfold At CrossedAt
  cases k with
  | zero => simp [fullBounds]
  | succ k =>
    simp only [fullBounds, Nat.succ_ne_zero, if_false, Nat.add_sub_cancel, Nat.succ_pos, true_and]
    cases epoch[k]? with
    | none => simp
    | some p => simp

theorem span_full {i j : Nat} :
    Span (fullBounds angleMinDeg) epoch i j ↔ Stretch angleMinDeg epoch i j := by
  constructor
  · intro h
    exact ⟨h.lt, at_crossed.mp h.start, at_crossed.mp h.stop,
      fun k hk hik hc => h.between k hk hik (at_crossed.mpr hc)⟩
  · intro h
    exact ⟨h.lt, at_crossed.mpr h.first, at_crossed.mpr h.next,
      fun k hk hik hc => h.between k hk hik (at_crossed.mp hc)⟩

theorem at_start {k : Nat} :
    At (partialBounds angleMinDeg angleMaxDeg).starts epoch k ↔
      (0 < k ∧ ∃ p, epoch[k - 1]? = some p ∧ ¬inside angleMinDeg angleMaxDeg p) ∧
        ∃ p, epoch[k]? = some p ∧ inside angleMinDeg angleMaxDeg p := by
  unfold At
  cases k with
  | zero => simp [partialBounds]
  | succ k =>
    simp only [partialBounds, Nat.succ_ne_zero, if_false, Nat.add_sub_cancel, Nat.succ_pos, true_and]
    cases epoch[k]? <;> cases epoch[k + 1]? <;> simp

theorem at_stop {k : Nat} :
    At (partialBounds angleMinDeg angleMaxDeg).stops epoch k ↔
      ∃ p, epoch[k]? = some p ∧ ¬inside angleMinDeg angleMaxDeg p := by
  simp [At, partialBounds]

theorem span_partial {i j : Nat} :
    Span (partialBounds angleMinDeg angleMaxDeg) epoch i j ↔
      MaximalRun angleMinDeg angleMaxDeg epoch i j := by
  constructor
  · intro h
    obtain ⟨hbefore, hfirst⟩ := at_start.mp h.start
    refine ⟨h.lt, hbefore, fun k hk hik => ?_, at_stop.mp h.stop⟩
    obtain rfl | hlt := Nat.eq_or_lt_of_le hik
    · exact hfirst
    · have hlength := Nat.lt_trans hk h.stop.lt
      refine ⟨epoch[k], List.getElem?_eq_getElem hlength, ?_⟩
      by_contra hout
      exact h.between k hk hlt (at_stop.mpr ⟨_, List.getElem?_eq_getElem hlength, hout⟩)
  · intro h
    refine ⟨h.lt, at_start.mpr ⟨h.before, h.within i h.lt (Nat.le_refl i)⟩, at_stop.mpr h.behind, ?_⟩
    intro k hk hik hs
    obtain ⟨p, hp, hin⟩ := h.within k hk (Nat.le_of_lt hik)
    obtain ⟨q, hq, hout⟩ := at_stop.mp hs
    rw [hp] at hq
    exact hout (Option.some.inj hq ▸ hin)

theorem addPointFull_eq {a : SmitScanAssembler α} {point : SmitPoint α} {crossed : Bool}
    (h : (a.havePrevious && didRawAngleCrossBoundary a.previousRawAngleDeg
      (normalizeRawAngle point.angleDeg) (normalizeRawAngle a.angleMinDeg)) = crossed) :
    addPointFull a point =
      (if crossed && a.collecting && !a.points.isEmpty then some a.scan else none,
        { a with points := if crossed then [foldPoint point]
                   else if a.collecting then a.points ++ [foldPoint point] else a.points
                 collecting := crossed || a.collecting
                 previousRawAngleDeg := normalizeRawAngle point.angleDeg
                 havePrevious := true }) := by
  obtain ⟨amin, amax, speed, freq, known, points, collecting, havePrevious, side, raw⟩ := a
  unfold addPointFull
  simp only at h
  simp only [h]
  cases crossed <;> cases collecting <;> rfl

theorem addPointPartial_eq {a : SmitScanAssembler α} {point : SmitPoint α} {inWindow opens : Bool}
    (h : isRawAngleInWindow (normalizeRawAngle point.angleDeg) (normalizeRawAngle a.angleMinDeg)
      (normalizeRawAngle a.angleMaxDeg) false = inWindow)
    (hopens : (a.havePrevious && !a.previousInWindow && inWindow) = opens) :
    addPointPartial a point =
      (if a.collecting && !inWindow && !a.points.isEmpty then some a.scan else none,
        { a with points := if a.collecting then if inWindow then a.points ++ [foldPoint point] else []
                   else if opens then [foldPoint point] else a.points
                 collecting := if a.collecting then inWindow else opens
                 previousRawAngleDeg := normalizeRawAngle point.angleDeg
                 previousInWindow := inWindow
                 havePrevious := true }) := by
  obtain ⟨amin, amax, speed, freq, known, points, collecting, havePrevious, side, raw⟩ := a
  unfold addPointPartial
  simp only at h hopens
  simp only [h, hopens]
  cases collecting <;> cases opens <;> cases inWindow <;> rfl

variable [Sub α]

def bounds (angleMinDeg angleMaxDeg : α) : Bounds (Sample α) :=
  if isFullCircleWindow angleMinDeg angleMaxDeg then fullBounds angleMinDeg
  else partialBounds angleMinDeg angleMaxDeg

theorem span_bounds {i j : Nat} :
    Span (bounds angleMinDeg angleMaxDeg) epoch i j ↔
      if isFullCircleWindow angleMinDeg angleMaxDeg then Stretch angleMinDeg epoch i j
      else MaximalRun angleMinDeg angleMaxDeg epoch i j := by
  unfold bounds
  split
  · exact span_full
  · exact span_partial

def scanOf (angleMinDeg angleMaxDeg : α) (closed : List (Sample α) × Sample α) : SmitScan α :=
  ⟨closed.1.map fun p => foldPoint p.point, angleMinDeg, angleMaxDeg, closed.2.config.1,
    closed.2.config.2⟩

/-- What the assembler holds, against the pass over the points of the epoch. -/
structure Tracks (angleMinDeg angleMaxDeg : α) (config : Option (Nat × Nat))
    (s : Option (Sample α) × Option (List (Sample α))) (a : SmitScanAssembler α) : Prop where
  window : a.angleMinDeg = angleMinDeg ∧ a.angleMaxDeg = angleMaxDeg
  known : a.hasConfig = config.isSome
  config : ∀ c ∈ config, (a.motorSpeed, a.lidarFreq) = c
  previous : a.havePrevious = s.1.isSome
  raw : ∀ p ∈ s.1, a.previousRawAngleDeg = normalizeRawAngle p.point.angleDeg
  side : isFullCircleWindow angleMinDeg angleMaxDeg = false →
    ∀ p ∈ s.1, a.previousInWindow = inside angleMinDeg angleMaxDeg p
  collecting : a.collecting = s.2.isSome
  points : ∀ stretch ∈ s.2, stretch ≠ [] ∧ a.points = stretch.map fun p => foldPoint p.point

/-- Behind a point only the collected points and the side of the window depend on the mode. -/
theorem Tracks.next {c : Nat × Nat} {s : Option (Sample α) × Option (List (Sample α))}
    {a : SmitScanAssembler α} (h : Tracks angleMinDeg angleMaxDeg (some c) s a)
    (point : SmitPoint α) (side : Bool) (stretch : Option (List (Sample α)))
    (points : List (SmitPoint α))
    (hside : isFullCircleWindow angleMinDeg angleMaxDeg = false →
      side = inside angleMinDeg angleMaxDeg ⟨point, c⟩)
    (hpoints : ∀ collected ∈ stretch,
      collected ≠ [] ∧ points = collected.map fun p => foldPoint p.point) :
    Tracks angleMinDeg angleMaxDeg (some c) (some ⟨point, c⟩, stretch)
      { a with points, collecting := stretch.isSome, previousInWindow := side,
               previousRawAngleDeg := normalizeRawAngle point.angleDeg, havePrevious := true } where
  window := h.window
  known := h.known
  config := h.config
  previous := rfl
  raw := by
    rintro _ ⟨⟩
    rfl
  side hpart := by
    rintro _ ⟨⟩
    exact hside hpart
  collecting := rfl
  points := hpoints

theorem Tracks.scan {c : Nat × Nat} {p : Option (Sample α)} {stretch : List (Sample α)}
    {a : SmitScanAssembler α} (h : Tracks angleMinDeg angleMaxDeg (some c) (p, some stretch) a)
    (point : SmitPoint α) :
    a.points.isEmpty = false ∧ a.scan = scanOf angleMinDeg angleMaxDeg (stretch, ⟨point, c⟩) := by
  obtain ⟨hne, hpoints⟩ := h.points stretch rfl
  obtain ⟨hmin, hmax⟩ := h.window
  have hconfig := h.config c rfl
  constructor
  · rw [hpoints]
    simpa using hne
  · rw [SmitScanAssembler.scan, hpoints, hmin, hmax, scanOf, ← hconfig]

theorem addPointFull_tracks {c : Nat × Nat} {s : Option (Sample α) × Option (List (Sample α))}
    {a : SmitScanAssembler α} (hfull : isFullCircleWindow angleMinDeg angleMaxDeg = true)
    (h : Tracks angleMinDeg angleMaxDeg (some c) s a) (point : SmitPoint α) :
    (addPointFull a point).1 =
        (step (fullBounds angleMinDeg) s ⟨point, c⟩).1.map (scanOf angleMinDeg angleMaxDeg) ∧
      Tracks angleMinDeg angleMaxDeg (some c)
        (step (fullBounds angleMinDeg) s ⟨point, c⟩).2 (addPointFull a point).2 := by
  obtain ⟨p, stretch⟩ := s
  have hcross : (a.havePrevious && didRawAngleCrossBoundary a.previousRawAngleDeg
      (normalizeRawAngle point.angleDeg) (normalizeRawAngle a.angleMinDeg)) =
      p.any (crosses angleMinDeg · ⟨point, c⟩) := by
    rw [h.previous, h.window.1]
    cases p with
    | none => rfl
    | some p =>
      rw [h.raw p rfl]
      rfl
  have hcollecting := h.collecting
  have hside : isFullCircleWindow angleMinDeg angleMaxDeg = false →
      a.previousInWindow = inside angleMinDeg angleMaxDeg ⟨point, c⟩ := fun hf => by
    rw [hfull] at hf
    cases hf
  have hnext := fun stretch points => h.next point a.previousInWindow stretch points hside
  rw [addPointFull_eq hcross]
  simp only [step, fullBounds]
  by_cases hc : p.any (crosses angleMinDeg · ⟨point, c⟩) = true
  · simp only [hc, if_true, Bool.true_and, Bool.true_or]
    cases stretch with
    | none =>
      simp only [hcollecting]
      exact ⟨rfl, hnext (some _) _ (by rintro _ ⟨⟩; exact ⟨by simp, rfl⟩)⟩
    | some stretch =>
      obtain ⟨hne, hscan⟩ := h.scan point
      simp only [hcollecting, hne, hscan]
      exact ⟨rfl, hnext (some _) _ (by rintro _ ⟨⟩; exact ⟨by simp, rfl⟩)⟩
  · simp only [hc, Bool.false_and, Bool.false_or]
    cases stretch with
    | none =>
      simp only [hcollecting]
      exact ⟨rfl, hnext none _ (by rintro _ ⟨⟩)⟩
    | some stretch =>
      simp only [hcollecting]
      refine ⟨rfl, hnext (some _) _ ?_⟩
      rintro _ ⟨⟩
      obtain ⟨-, hpoints⟩ := h.points stretch rfl
      exact ⟨by simp, by simp [hpoints]⟩

theorem addPointPartial_tracks {c : Nat × Nat} {s : Option (Sample α) × Option (List (Sample α))}
    {a : SmitScanAssembler α} (hpart : isFullCircleWindow angleMinDeg angleMaxDeg = false)
    (h : Tracks angleMinDeg angleMaxDeg (some c) s a) (point : SmitPoint α) :
    (addPointPartial a point).1 =
        (step (partialBounds angleMinDeg angleMaxDeg) s ⟨point, c⟩).1.map
          (scanOf angleMinDeg angleMaxDeg) ∧
      Tracks angleMinDeg angleMaxDeg (some c)
        (step (partialBounds angleMinDeg angleMaxDeg) s ⟨point, c⟩).2 (addPointPartial a point).2 := by
  obtain ⟨p, stretch⟩ := s
  have hin : isRawAngleInWindow (normalizeRawAngle point.angleDeg) (normalizeRawAngle a.angleMinDeg)
      (normalizeRawAngle a.angleMaxDeg) false = inside angleMinDeg angleMaxDeg ⟨point, c⟩ := by
    rw [h.window.1, h.window.2]
    rfl
  have hopens : (a.havePrevious && !a.previousInWindow && inside angleMinDeg angleMaxDeg ⟨point, c⟩) =
      (p.any (!inside angleMinDeg angleMaxDeg ·) && inside angleMinDeg angleMaxDeg ⟨point, c⟩) := by
    rw [h.previous]
    cases p with
    | none => rfl
    | some p =>
      rw [h.side hpart p rfl]
      rfl
  have hcollecting := h.collecting
  rw [addPointPartial_eq hin hopens]
  simp only [step, partialBounds]
  obtain hi | hi := Bool.eq_false_or_eq_true (inside angleMinDeg angleMaxDeg ⟨point, c⟩)
  · have hnext := fun stretch points => h.next point true stretch points fun _ => hi.symm
    simp only [hi, Bool.and_true, Bool.not_true, Bool.and_false, Bool.false_and]
    cases stretch with
    | none =>
      simp only [hcollecting]
      obtain ho | ho := Bool.eq_false_or_eq_true (p.any (!inside angleMinDeg angleMaxDeg ·))
      · simp only [ho]
        exact ⟨rfl, hnext (some _) _ (by rintro _ ⟨⟩; exact ⟨by simp, rfl⟩)⟩
      · simp only [ho]
        exact ⟨rfl, hnext none _ (by rintro _ ⟨⟩)⟩
    | some stretch =>
      simp only [hcollecting]
      refine ⟨rfl, hnext (some _) _ ?_⟩
      rintro _ ⟨⟩
      obtain ⟨-, hpoints⟩ := h.points stretch rfl
      exact ⟨by simp, by simp [hpoints]⟩
  · have hnext := fun points => h.next point false none points (fun _ => hi.symm) (by rintro _ ⟨⟩)
    simp only [hi, Bool.and_false, Bool.not_false, Bool.and_true]
    cases stretch with
    | none =>
      simp only [hcollecting]
      exact ⟨rfl, hnext _⟩
    | some stretch =>
      obtain ⟨hne, hscan⟩ := h.scan point
      simp only [hcollecting, hne, hscan]
      exact ⟨rfl, hnext _⟩

/-- One point: the assembler emits the stretch that the pass emits. -/
theorem addPoint_tracks {c : Nat × Nat} {s : Option (Sample α) × Option (List (Sample α))}
    {a : SmitScanAssembler α} (h : Tracks angleMinDeg angleMaxDeg (some c) s a)
    (point : SmitPoint α) :
    (addPoint a point).1 =
        (step (bounds angleMinDeg angleMaxDeg) s ⟨point, c⟩).1.map (scanOf angleMinDeg angleMaxDeg) ∧
      Tracks angleMinDeg angleMaxDeg (some c)
        (step (bounds angleMinDeg angleMaxDeg) s ⟨point, c⟩).2 (addPoint a point).2 := by
  have hmode : addPoint a point = if isFullCircleWindow angleMinDeg angleMaxDeg then
      addPointFull a point else addPointPartial a point := by
    rw [addPoint, h.window.1, h.window.2]
  rw [hmode]
  unfold bounds
  split
  · exact addPointFull_tracks ‹_› h point
  · exact addPointPartial_tracks (Bool.not_eq_true _ ▸ ‹_›) h point

theorem run_tracks {c : Nat × Nat} {s : Option (Sample α) × Option (List (Sample α))}
    {a : SmitScanAssembler α} (h : Tracks angleMinDeg angleMaxDeg (some c) s a)
    (points : List (SmitPoint α)) :
    (run addPoint a points).1 =
        (run (step (bounds angleMinDeg angleMaxDeg)) s (points.map (⟨·, c⟩))).1.map
          (scanOf angleMinDeg angleMaxDeg) ∧
      Tracks angleMinDeg angleMaxDeg (some c)
        (run (step (bounds angleMinDeg angleMaxDeg)) s (points.map (⟨·, c⟩))).2
        (run addPoint a points).2 := by
  induction points generalizing s a with
  | nil => exact ⟨rfl, h⟩
  | cons point points ih =>
    obtain ⟨hout, hnext⟩ := addPoint_tracks h point
    obtain ⟨hrest, hlast⟩ := ih hnext
    rw [List.map_cons, run_cons, run_cons, hout, hrest, List.map_append]
    refine ⟨congrArg (· ++ _) ?_, hlast⟩
    cases (step (bounds angleMinDeg angleMaxDeg) s ⟨point, c⟩).1 <;> rfl

theorem reset_tracks {config : Option (Nat × Nat)} {a : SmitScanAssembler α}
    (hwindow : a.angleMinDeg = angleMinDeg ∧ a.angleMaxDeg = angleMaxDeg)
    (hknown : a.hasConfig = config.isSome)
    (hconfig : ∀ c ∈ config, (a.motorSpeed, a.lidarFreq) = c) :
    Tracks angleMinDeg angleMaxDeg config (none, none) a.reset where
  window := hwindow
  known := hknown
  config := hconfig
  previous := rfl
  raw := by rintro _ ⟨⟩
  side := by rintro _ _ ⟨⟩
  collecting := rfl
  points := by rintro _ ⟨⟩

theorem Tracks.reset {config : Option (Nat × Nat)}
    {s : Option (Sample α) × Option (List (Sample α))} {a : SmitScanAssembler α}
    (h : Tracks angleMinDeg angleMaxDeg config s a) :
    Tracks angleMinDeg angleMaxDeg config (none, none) a.reset :=
  reset_tracks h.window h.known h.config

theorem Tracks.setWindow {config : Option (Nat × Nat)}
    {s : Option (Sample α) × Option (List (Sample α))} {a : SmitScanAssembler α}
    (h : Tracks angleMinDeg angleMaxDeg config s a) (windowMin windowMax : α) :
    Tracks windowMin windowMax config (none, none) (a.setWindow windowMin windowMax) := by
  apply reset_tracks
  · exact ⟨rfl, rfl⟩
  · exact h.known
  · exact h.config

theorem Tracks.setConfig {config : Option (Nat × Nat)}
    {s : Option (Sample α) × Option (List (Sample α))} {a : SmitScanAssembler α}
    (h : Tracks angleMinDeg angleMaxDeg config s a) (motorSpeed lidarFreq : Nat) :
    Tracks angleMinDeg angleMaxDeg (some (motorSpeed, lidarFreq)) s
      (a.setConfig motorSpeed lidarFreq) where
  window := h.window
  known := rfl
  config := by
    rintro _ ⟨⟩
    rfl
  previous := h.previous
  raw := h.raw
  side := h.side
  collecting := h.collecting
  points := h.points

def passPacket (angleMinDeg angleMaxDeg : α) (config : Option (Nat × Nat))
    (s : Option (Sample α) × Option (List (Sample α))) (packet : SmitPointPacket α) :
    List (SmitScan α) × (Option (Sample α) × Option (List (Sample α))) :=
  match config with
  | none => ([], s)
  | some c =>
    if !packet.crcOk || packet.pointCount > kMaxPoints then ([], (none, none))
    else
      ((run (step (bounds angleMinDeg angleMaxDeg)) s ((pointsOf packet).map (⟨·, c⟩))).1.map
          (scanOf angleMinDeg angleMaxDeg),
        (run (step (bounds angleMinDeg angleMaxDeg)) s ((pointsOf packet).map (⟨·, c⟩))).2)

theorem addPacket_tracks {config : Option (Nat × Nat)}
    {s : Option (Sample α) × Option (List (Sample α))} {a : SmitScanAssembler α}
    (h : Tracks angleMinDeg angleMaxDeg config s a) (packet : SmitPointPacket α) :
    (addPacket a packet).1 = (passPacket angleMinDeg angleMaxDeg config s packet).1 ∧
      Tracks angleMinDeg angleMaxDeg config
        (passPacket angleMinDeg angleMaxDeg config s packet).2 (addPacket a packet).2 := by
  have hknown := h.known
  cases config with
  | none =>
    have hadd : addPacket a packet = ([], a) := by
      rw [addPacket, hknown]
      rfl
    rw [hadd]
    exact ⟨rfl, h⟩
  | some c =>
    have hopen : ¬(!a.hasConfig) = true := by simp [hknown]
    unfold addPacket passPacket
    rw [if_neg hopen]
    simp only
    split_ifs with hbad
    · exact ⟨rfl, h.reset⟩
    · exact run_tracks h (pointsOf packet)

def scans (angleMinDeg angleMaxDeg : α) (epoch : List (Sample α)) : List (SmitScan α) :=
  (spans (bounds angleMinDeg angleMaxDeg) epoch).map fun s =>
    scanOf angleMinDeg angleMaxDeg (slice epoch s, epoch.getD s.2 ⟨emptyPoint, 0, 0⟩)

theorem scans_eq (epoch : List (Sample α)) :
    scans angleMinDeg angleMaxDeg epoch =
      (run (step (bounds angleMinDeg angleMaxDeg)) (none, none) epoch).1.map
        (scanOf angleMinDeg angleMaxDeg) := by
  rw [run_spans epoch ⟨emptyPoint, 0, 0⟩, List.map_map]
  rfl

/-- From the middle of an epoch on. -/
theorem assemble_tracks {config : Option (Nat × Nat)}
    {s : Option (Sample α) × Option (List (Sample α))} {a : SmitScanAssembler α}
    (h : Tracks angleMinDeg angleMaxDeg config s a) (calls : List (Call α))
    {epoch : List (Sample α)} {later : List (List (Sample α))}
    (he : epochs config calls = epoch :: later) :
    (assemble a calls).1 =
      (run (step (bounds angleMinDeg angleMaxDeg)) s epoch).1.map (scanOf angleMinDeg angleMaxDeg) ++
        later.flatMap (scans angleMinDeg angleMaxDeg) := by
  induction calls generalizing config s a epoch later with
  | nil =>
    obtain ⟨rfl, rfl⟩ := List.cons.inj he
    rfl
  | cons c calls ih =>
    -- behind a reset or a bad packet a new epoch begins
    have hbreak : [] :: epochs config calls = epoch :: later →
        (assemble a.reset calls).1 =
          (run (step (bounds angleMinDeg angleMaxDeg)) s epoch).1.map
            (scanOf angleMinDeg angleMaxDeg) ++ later.flatMap (scans angleMinDeg angleMaxDeg) := by
      intro hcons
      obtain ⟨rfl, rfl⟩ := List.cons.inj hcons
      obtain ⟨first, rest, hfirst⟩ := epochs_cons config calls
      rw [ih h.reset hfirst, hfirst, List.flatMap_cons, scans_eq]
      rfl
    cases c with
    | setConfig motorSpeed lidarFreq =>
      rw [epochs] at he
      exact ih (h.setConfig motorSpeed lidarFreq) he
    | reset =>
      rw [epochs] at he
      exact hbreak he
    | addPacket packet =>
      obtain ⟨hout, hnext⟩ := addPacket_tracks h packet
      have hcall : call a (.addPacket packet) = addPacket a packet := rfl
      cases config with
      | none =>
        rw [epochs] at he
        rw [assemble, hcall, hout]
        exact ih hnext he
      | some config =>
        rw [epochs] at he
        by_cases hbad : (!packet.crcOk || packet.pointCount > kMaxPoints) = true
        · have hadd : addPacket a packet = ([], a.reset) := by
            rw [addPacket, h.known]
            exact if_pos hbad
          rw [if_pos hbad] at he
          rw [assemble, hcall, hadd]
          exact hbreak he
        · obtain ⟨first, rest, hfirst⟩ := epochs_cons (some config) calls
          rw [if_neg hbad, hfirst] at he
          obtain ⟨rfl, rfl⟩ := List.cons.inj he
          have hpass : passPacket angleMinDeg angleMaxDeg (some config) s packet =
              ((run (step (bounds angleMinDeg angleMaxDeg)) s
                  ((pointsOf packet).map (⟨·, config⟩))).1.map (scanOf angleMinDeg angleMaxDeg),
                (run (step (bounds angleMinDeg angleMaxDeg)) s
                  ((pointsOf packet).map (⟨·, config⟩))).2) := if_neg hbad
          rw [hpass] at hout hnext
          rw [assemble, hcall, hout, ih hnext hfirst, run_append, List.map_append, List.append_assoc]

theorem create_tracks (angleMinDeg angleMaxDeg : α) :
    Tracks angleMinDeg angleMaxDeg none (none, none) (.create angleMinDeg angleMaxDeg) := by
  have hreset : (SmitScanAssembler.create angleMinDeg angleMaxDeg).reset =
      .create angleMinDeg angleMaxDeg := rfl
  rw [← hreset]
  apply reset_tracks
  · exact ⟨rfl, rfl⟩
  · rfl
  · rintro _ ⟨⟩

theorem assemble_epochs (angleMinDeg angleMaxDeg : α) (calls : List (Call α)) :
    (assemble (.create angleMinDeg angleMaxDeg) calls).1 =
      (epochs none calls).flatMap (scans angleMinDeg angleMaxDeg) := by
  obtain ⟨first, rest, hfirst⟩ := epochs_cons none calls
  rw [assemble_tracks (create_tracks angleMinDeg angleMaxDeg) calls hfirst, hfirst,
    List.flatMap_cons, scans_eq]

theorem mem_assemble {calls : List (Call α)} {scan : SmitScan α}
    (h : scan ∈ (assemble (.create angleMinDeg angleMaxDeg) calls).1) :
    ∃ epoch ∈ epochs none calls, ∃ i j, Span (bounds angleMinDeg angleMaxDeg) epoch i j ∧
      scan = scanOf angleMinDeg angleMaxDeg
        (slice epoch (i, j), epoch.getD j ⟨emptyPoint, 0, 0⟩) := by
  rw [assemble_epochs, List.mem_flatMap] at h
  obtain ⟨epoch, hepoch, hscan⟩ := h
  obtain ⟨⟨i, j⟩, hs, rfl⟩ := List.mem_map.mp hscan
  exact ⟨epoch, hepoch, i, j, mem_spans.mp hs, rfl⟩

/-- The scans are those of the epochs: for a full circle the stretches between two successive
crossings of the start of the window, otherwise the maximal runs inside the window. They do not
overlap. How the points come in packets does not matter. -/
theorem assemble_scans (angleMinDeg angleMaxDeg : α) (calls : List (Call α)) :
    (assemble (.create angleMinDeg angleMaxDeg) calls).1 =
        (epochs none calls).flatMap (scans angleMinDeg angleMaxDeg) ∧
      ∀ epoch : List (Sample α),
        (∀ i j, (i, j) ∈ spans (bounds angleMinDeg angleMaxDeg) epoch ↔
          if isFullCircleWindow angleMinDeg angleMaxDeg then Stretch angleMinDeg epoch i j
          else MaximalRun angleMinDeg angleMaxDeg epoch i j) ∧
        (spans (bounds angleMinDeg angleMaxDeg) epoch).Pairwise fun s t => s.2 ≤ t.1 := by
  refine ⟨assemble_epochs angleMinDeg angleMaxDeg calls, fun epoch => ⟨fun i j => ?_, ?_⟩⟩
  · exact mem_spans.trans span_bounds
  · exact spans_pairwise epoch

end DeviceManager.ScanSegments
