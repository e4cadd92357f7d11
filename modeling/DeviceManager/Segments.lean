import DeviceManager.Transducer
import Mathlib.Data.List.GetD
import Mathlib.Data.List.Induction
import Mathlib.Data.List.Nodup

namespace DeviceManager.Segments

open Transducer

variable {α : Type*}

/-- Where a stretch of a list starts and where it stops, each decided by a symbol and the one
in front of it. A stretch that starts without a stop starts right behind one. -/
structure Bounds (α : Type*) where
  starts : Option α → α → Bool
  stops : Option α → α → Bool
  apart : ∀ p a, starts (some p) a → ¬stops (some p) a →
    ∀ q, stops q p ∧ ¬starts q p

variable (b : Bounds α)

/-- One pass: the symbol before and the stretch that is open. A stretch is emitted with the
symbol that stops it. -/
def step (s : Option α × Option (List α)) (a : α) :
    Option (List α × α) × (Option α × Option (List α)) :=
  (if b.stops s.1 a then s.2.map (·, a) else none,
    (some a,
      match (if b.stops s.1 a then none else s.2) with
      | some open' => some (open' ++ [a])
      | none => if b.starts s.1 a then some [a] else none))

def At (p : Option α → α → Bool) (as : List α) (k : Nat) : Prop :=
  ∃ a, as[k]? = some a ∧ p (if k = 0 then none else as[k - 1]?) a = true

instance (p : Option α → α → Bool) (as : List α) (k : Nat) : Decidable (At p as k) :=
  match h : as[k]? with
  | none => .isFalse fun ⟨a, ha, _⟩ => by rw [h] at ha; cases ha
  | some a =>
    decidable_of_iff (p (if k = 0 then none else as[k - 1]?) a = true)
      ⟨fun hp => ⟨a, h, hp⟩, fun ⟨_, ha, hp⟩ => by rw [h] at ha; cases ha; exact hp⟩

structure Span (as : List α) (i j : Nat) : Prop where
  lt : i < j
  start : At b.starts as i
  stop : At b.stops as j
  between : ∀ k < j, i < k → ¬At b.stops as k

instance (as : List α) (i j : Nat) : Decidable (Span b as i j) :=
  decidable_of_iff (i < j ∧ At b.starts as i ∧ At b.stops as j ∧ ∀ k < j, i < k → ¬At b.stops as k)
    ⟨fun ⟨hl, hs, hp, hb⟩ => ⟨hl, hs, hp, hb⟩, fun h => ⟨h.lt, h.start, h.stop, h.between⟩⟩

/-- The stretches of a list, by their ends. -/
def spans (as : List α) : List (Nat × Nat) :=
  (List.range as.length).flatMap fun j =>
    ((List.range j).filter fun i => Span b as i j).map fun i => (i, j)

def slice (as : List α) (s : Nat × Nat) : List α := (as.drop s.1).take (s.2 - s.1)

theorem mem_slice {as : List α} {i j : Nat} {a : α} (h : a ∈ slice as (i, j)) :
    ∃ k, i ≤ k ∧ k < j ∧ as[k]? = some a := by
  obtain ⟨n, hn⟩ := List.mem_iff_getElem?.mp h
  unfold slice at hn
  rw [List.getElem?_take] at hn
  split at hn
  · rw [List.getElem?_drop] at hn
    exact ⟨i + n, Nat.le_add_right i n, by omega, hn⟩
  · cases hn

theorem slice_pairwise {R : α → α → Prop} [Trans R R R] {as : List α} {i j : ℕ}
    (h : ∀ k p q, i < k → k < j → as[k - 1]? = some p → as[k]? = some q → R p q) :
    (slice as (i, j)).Pairwise R := by
  rw [← List.isChain_iff_pairwise, List.isChain_iff_getElem]
  intro n hn
  have hlength : (slice as (i, j)).length ≤ j - i := by
    unfold slice
    rw [List.length_take]
    exact Nat.min_le_left _ _
  have hget : ∀ m (hm : m < (slice as (i, j)).length),
      as[i + m]? = some ((slice as (i, j)).get ⟨m, hm⟩) := by
    intro m hm
    have hsome := List.getElem?_eq_getElem hm
    unfold slice at hsome
    rw [List.getElem?_take, List.getElem?_drop] at hsome
    split at hsome
    · exact hsome
    · cases hsome
  refine h (i + n + 1) _ _ (by omega) (by omega) ?_ (hget (n + 1) hn)
  exact hget n (by omega)

variable {b}

theorem At.lt {p : Option α → α → Bool} {as : List α} {k : Nat} (h : At p as k) :
    k < as.length := by
  obtain ⟨a, ha, -⟩ := h
  exact (List.getElem?_eq_some_iff.mp ha).1

theorem at_append {p : Option α → α → Bool} {as : List α} {k : Nat} (h : k < as.length)
    (bs : List α) : At p (as ++ bs) k ↔ At p as k := by
  unfold At
  rw [List.getElem?_append_left h, List.getElem?_append_left (Nat.lt_of_le_of_lt (Nat.sub_le k 1) h)]

theorem at_length {p : Option α → α → Bool} (as : List α) (a : α) :
    At p (as ++ [a]) as.length ↔ p as.getLast? a = true := by
  have hlast : (if as.length = 0 then none else (as ++ [a])[as.length - 1]?) = as.getLast? := by
    cases as with
    | nil => rfl
    | cons c as =>
      rw [if_neg (by simp), List.getElem?_append_left (by simp),
        List.getLast?_eq_getElem?]
  unfold At
  rw [hlast, List.getElem?_concat_length]
  simp

theorem mem_spans {as : List α} {i j : Nat} : (i, j) ∈ spans b as ↔ Span b as i j := by
  unfold spans
  simp only [List.mem_flatMap, List.mem_range, List.mem_map, List.mem_filter, decide_eq_true_eq,
    Prod.mk.injEq]
  constructor
  · rintro ⟨_, -, _, ⟨-, h⟩, rfl, rfl⟩
    exact h
  · intro h
    exact ⟨j, h.stop.lt, i, ⟨h.lt, h⟩, rfl, rfl⟩

structure Live (b : Bounds α) (as : List α) (i : Nat) : Prop where
  start : At b.starts as i
  between : ∀ k, i < k → ¬At b.stops as k

theorem not_start_inside {as : List α} {i k : Nat} (hi : At b.starts as i)
    (hstop : ∀ m ≤ k, i < m → ¬At b.stops as m) (hik : i < k) : ¬At b.starts as k := by
  rintro ⟨a, ha, hs⟩
  have hk : k ≠ 0 := Nat.ne_of_gt (Nat.zero_lt_of_lt hik)
  have hlt : k < as.length := (List.getElem?_eq_some_iff.mp ha).1
  have hprevious : k - 1 < as.length := Nat.lt_of_le_of_lt (Nat.sub_le k 1) hlt
  rw [if_neg hk, List.getElem?_eq_getElem hprevious] at hs
  have hns : ¬b.stops (some as[k - 1]) a := fun hp =>
    hstop k (Nat.le_refl k) hik ⟨a, ha, by rwa [if_neg hk, List.getElem?_eq_getElem hprevious]⟩
  have hapart := b.apart _ _ hs hns (if k - 1 = 0 then none else as[k - 1 - 1]?)
  by_cases he : i = k - 1
  · obtain ⟨c, hc, hsc⟩ := hi
    rw [he, List.getElem?_eq_getElem hprevious] at hc
    rw [he, ← Option.some.inj hc] at hsc
    exact hapart.2 hsc
  · exact hstop (k - 1) (Nat.sub_le k 1) (by omega)
      ⟨_, List.getElem?_eq_getElem hprevious, hapart.1⟩

theorem Live.unique {as : List α} {i i' : Nat} (h : Live b as i) (h' : Live b as i') : i = i' := by
  rcases Nat.lt_trichotomy i i' with hlt | he | hlt
  · exact absurd h'.start (not_start_inside h.start (fun m _ hm => h.between m hm) hlt)
  · exact he
  · exact absurd h.start (not_start_inside h'.start (fun m _ hm => h'.between m hm) hlt)

/-- The stretches come one behind the other. -/
theorem Span.disjoint {as : List α} {i j i' j' : Nat} (h : Span b as i j) (h' : Span b as i' j')
    (hlt : j < j') : j ≤ i' := by
  by_contra hle
  exact h'.between j hlt (Nat.lt_of_not_le hle) h.stop

theorem Span.unique {as : List α} {i i' j : Nat} (h : Span b as i j) (h' : Span b as i' j) :
    i = i' := by
  have hinside : ∀ {m n : Nat}, Span b as m j → Span b as n j → ¬m < n := fun hm hn hlt =>
    not_start_inside hm.start (fun k hk hmk => hm.between k (Nat.lt_of_le_of_lt hk hn.lt) hmk) hlt
      hn.start
  have h1 := hinside h h'
  have h2 := hinside h' h
  omega

theorem filter_range {p : Nat → Prop} [DecidablePred p] {n i : Nat} (hi : i < n) (hp : p i)
    (hu : ∀ k < n, p k → k = i) : ((List.range n).filter fun k => p k) = [i] := by
  have hcongr : ((List.range n).filter fun k => p k) = (List.range n).filter (· == i) := by
    refine List.filter_congr fun k hk => ?_
    by_cases he : k = i
    · simp [he, hp]
    · have hnp : ¬p k := fun h => he (hu k (List.mem_range.mp hk) h)
      simp [he, hnp]
  rw [hcongr, List.filter_beq, List.count_eq_one_of_mem List.nodup_range (List.mem_range.mpr hi)]
  rfl

theorem filter_range_none {p : Nat → Prop} [DecidablePred p] {n : Nat} (h : ∀ k < n, ¬p k) :
    ((List.range n).filter fun k => p k) = [] := by
  rw [List.filter_eq_nil_iff]
  intro k hk
  simpa using h k (List.mem_range.mp hk)

theorem span_append {as : List α} {i j : Nat} (hj : j < as.length) (bs : List α) :
    Span b (as ++ bs) i j ↔ Span b as i j := by
  constructor
  · intro h
    refine ⟨h.lt, (at_append (Nat.lt_trans h.lt hj) bs).mp h.start, (at_append hj bs).mp h.stop, ?_⟩
    exact fun k hk hik hs => h.between k hk hik ((at_append (Nat.lt_trans hk hj) bs).mpr hs)
  · intro h
    refine ⟨h.lt, (at_append (Nat.lt_trans h.lt hj) bs).mpr h.start, (at_append hj bs).mpr h.stop, ?_⟩
    exact fun k hk hik hs => h.between k hk hik ((at_append (Nat.lt_trans hk hj) bs).mp hs)

theorem span_length {as : List α} {a : α} {i : Nat} (hi : i < as.length) :
    Span b (as ++ [a]) i as.length ↔ b.stops as.getLast? a = true ∧ Live b as i := by
  constructor
  · intro h
    refine ⟨(at_length as a).mp h.stop, (at_append hi [a]).mp h.start, ?_⟩
    exact fun k hik hs => h.between k hs.lt hik ((at_append hs.lt [a]).mpr hs)
  · rintro ⟨hstop, hlive⟩
    refine ⟨hi, (at_append hi [a]).mpr hlive.start, (at_length as a).mpr hstop, ?_⟩
    exact fun k hk hik hs => hlive.between k hik ((at_append hk [a]).mp hs)

theorem spans_append (as : List α) (a : α) :
    spans b (as ++ [a]) = spans b as ++
      ((List.range as.length).filter fun i => Span b (as ++ [a]) i as.length).map
        fun i => (i, as.length) := by
  have hbefore : ((List.range as.length).flatMap fun j =>
      ((List.range j).filter fun i => Span b (as ++ [a]) i j).map fun i => (i, j)) = spans b as := by
    refine List.flatMap_congr fun j hj => ?_
    have hcongr : ((List.range j).filter fun i => Span b (as ++ [a]) i j) =
        (List.range j).filter fun i => Span b as i j :=
      List.filter_congr fun i _ => decide_eq_decide.mpr (span_append (List.mem_range.mp hj) [a])
    rw [hcongr]
  rw [← hbefore, spans, List.length_append, List.length_singleton, List.range_succ,
    List.flatMap_append, List.flatMap_singleton]

/-- What is open, against the stretches of the symbols read. -/
def Open (b : Bounds α) (as : List α) : Option (List α) → Prop
  | none => ∀ i, ¬Live b as i
  | some stretch => ∃ i, Live b as i ∧ stretch = as.drop i

theorem last_span {as : List α} {s : Option (List α)} (h : Open b as s) (a d : α) :
    (((List.range as.length).filter fun i => Span b (as ++ [a]) i as.length).map
        fun i => (slice (as ++ [a]) (i, as.length), (as ++ [a]).getD as.length d)) =
      (if b.stops as.getLast? a then s.map (·, a) else none).toList := by
  have hget : (as ++ [a]).getD as.length d = a := by simp
  by_cases hstop : b.stops as.getLast? a = true
  · rw [if_pos hstop]
    cases s with
    | none =>
      rw [filter_range_none]
      · rfl
      · exact fun k hk hs => h k ((span_length hk).mp hs).2
    | some stretch =>
      obtain ⟨i, hlive, rfl⟩ := h
      have hi := hlive.start.lt
      rw [filter_range hi ((span_length hi).mpr ⟨hstop, hlive⟩)
        fun k hk hs => ((span_length hk).mp hs).2.unique hlive]
      simp only [List.map_cons, List.map_nil, hget, slice, Option.map_some, Option.toList_some]
      rw [List.drop_append_of_le_length (Nat.le_of_lt hi), List.take_left' (List.length_drop)]
  · rw [if_neg hstop, filter_range_none]
    · rfl
    · exact fun k hk hs => hstop ((span_length hk).mp hs).1

theorem live_append {as : List α} {a : α} {i : Nat} :
    Live b (as ++ [a]) i ↔
      (i < as.length ∧ Live b as i ∧ ¬b.stops as.getLast? a) ∨
        (i = as.length ∧ b.starts as.getLast? a) := by
  constructor
  · intro h
    have hlt := h.start.lt
    rw [List.length_append, List.length_singleton] at hlt
    by_cases hi : i < as.length
    · refine Or.inl ⟨hi, ⟨(at_append hi [a]).mp h.start, ?_⟩, ?_⟩
      · exact fun k hik hs => h.between k hik ((at_append hs.lt [a]).mpr hs)
      · exact fun hs => h.between as.length hi ((at_length as a).mpr hs)
    · obtain rfl : i = as.length := by omega
      exact Or.inr ⟨rfl, (at_length as a).mp h.start⟩
  · rintro (⟨hi, h, hns⟩ | ⟨rfl, hs⟩)
    · refine ⟨(at_append hi [a]).mpr h.start, fun k hik hs => ?_⟩
      have hlt := hs.lt
      rw [List.length_append, List.length_singleton] at hlt
      by_cases hk : k < as.length
      · exact h.between k hik ((at_append hk [a]).mp hs)
      · obtain rfl : k = as.length := by omega
        exact hns ((at_length as a).mp hs)
    · refine ⟨(at_length as a).mpr hs, fun k hik hp => ?_⟩
      have hlt := hp.lt
      rw [List.length_append, List.length_singleton] at hlt
      omega

theorem open_step {as : List α} {s : Option (List α)} (h : Open b as s) (a : α) :
    Open b (as ++ [a]) (step b (as.getLast?, s) a).2.2 := by
  have hstart : ∀ hs : b.starts as.getLast? a = true, Open b (as ++ [a]) (some [a]) := fun hs =>
    ⟨as.length, live_append.mpr (Or.inr ⟨rfl, hs⟩), by simp⟩
  have hnone : b.starts as.getLast? a ≠ true → (∀ i, Live b as i → b.stops as.getLast? a = true) →
      Open b (as ++ [a]) none := by
    intro hs hall i hlive
    obtain ⟨-, hl, hns⟩ | ⟨-, hs'⟩ := live_append.mp hlive
    · exact hns (hall i hl)
    · exact hs hs'
  unfold step
  by_cases hstop : b.stops as.getLast? a = true
  · simp only [if_pos hstop]
    by_cases hs : b.starts as.getLast? a = true
    · rw [if_pos hs]
      exact hstart hs
    · rw [if_neg hs]
      exact hnone hs fun _ _ => hstop
  · simp only [if_neg hstop]
    cases s with
    | none =>
      by_cases hs : b.starts as.getLast? a = true
      · simp only [if_pos hs]
        exact hstart hs
      · simp only [if_neg hs]
        exact hnone hs fun i hl => absurd hl (h i)
    | some stretch =>
      obtain ⟨i, hlive, rfl⟩ := h
      refine ⟨i, live_append.mpr (Or.inl ⟨hlive.start.lt, hlive, hstop⟩), ?_⟩
      rw [List.drop_append_of_le_length (Nat.le_of_lt hlive.start.lt)]

/-- The pass after any symbols: what it has emitted and what it holds. -/
theorem run_open (as : List α) (d : α) :
    ∃ s, run (step b) (none, none) as =
        ((spans b as).map fun s => (slice as s, as.getD s.2 d), (as.getLast?, s)) ∧ Open b as s := by
  induction as using List.reverseRecOn with
  | nil => exact ⟨none, rfl, fun i h => by obtain ⟨a, ha, -⟩ := h.start; cases ha⟩
  | append_singleton as a ih =>
    obtain ⟨s, hrun, hopen⟩ := ih
    refine ⟨(step b (as.getLast?, s) a).2.2, ?_, open_step hopen a⟩
    have hbefore : ((spans b as).map fun s => (slice as s, as.getD s.2 d)) =
        (spans b as).map fun s => (slice (as ++ [a]) s, (as ++ [a]).getD s.2 d) := by
      refine List.map_congr_left fun t ht => ?_
      obtain ⟨i, j⟩ := t
      have hspan := mem_spans.mp ht
      have hj := hspan.stop.lt
      have hi := hspan.start.lt
      unfold slice
      rw [List.drop_append_of_le_length (Nat.le_of_lt hi),
        List.take_append_of_le_length (by rw [List.length_drop]; omega), List.getD_append _ _ _ _ hj]
    have hlast := last_span hopen a d
    rw [run_append, hrun, run_cons, run_nil, spans_append, List.map_append, List.map_map, hbefore,
      List.append_nil, List.getLast?_concat]
    exact Prod.ext (congrArg (_ ++ ·) hlast.symm) rfl

theorem run_spans (as : List α) (d : α) :
    (run (step b) (none, none) as).1 = (spans b as).map fun s => (slice as s, as.getD s.2 d) := by
  obtain ⟨s, hrun, -⟩ := run_open (b := b) as d
  rw [hrun]

theorem spans_pairwise (as : List α) : (spans b as).Pairwise fun s t => s.2 ≤ t.1 := by
  induction as using List.reverseRecOn with
  | nil => exact List.Pairwise.nil
  | append_singleton as a ih =>
    rw [spans_append, List.pairwise_append]
    have hnew : ∀ t ∈ ((List.range as.length).filter fun i => Span b (as ++ [a]) i as.length).map
        (fun i => (i, as.length)), Span b (as ++ [a]) t.1 t.2 ∧ t.2 = as.length := by
      rintro t ht
      obtain ⟨i, hi, rfl⟩ := List.mem_map.mp ht
      exact ⟨of_decide_eq_true (List.mem_filter.mp hi).2, rfl⟩
    refine ⟨ih, ?_, ?_⟩
    · rw [List.pairwise_map]
      refine (List.pairwise_lt_range (n := as.length)).filter _ |>.imp_of_mem ?_
      intro i i' hi hi' hlt
      have hs := of_decide_eq_true (List.mem_filter.mp hi).2
      have ht := of_decide_eq_true (List.mem_filter.mp hi').2
      exact absurd (hs.unique ht) (Nat.ne_of_lt hlt)
    · rintro ⟨i, j⟩ hs t ht
      obtain ⟨hspan, hlength⟩ := hnew t ht
      have hj := (mem_spans.mp hs).stop.lt
      have hbefore := (span_append hj [a]).mpr (mem_spans.mp hs)
      exact hbefore.disjoint hspan (by omega)

end DeviceManager.Segments
