import DeviceManager.SuffixMinimum

namespace DeviceManager

open SuffixMinimum

/-- `CircleMinTracker<T>`, whose `int64_t` indices do not wrap within 2^63 pushes: they are integers
here. -/
structure CircleMinTracker (α : Type) where
  window : ℤ
  minValue : α
  backup : α
  minIndex : ℤ
  count : ℤ

namespace CircleMinTracker

variable {α : Type}

def create [Zero α] (window : ℤ) : CircleMinTracker α := ⟨window, 0, 0, 0, 0⟩

def getMin (t : CircleMinTracker α) : α := t.minValue

/-- The old fields stay. -/
def reset (t : CircleMinTracker α) : CircleMinTracker α := { t with count := 0 }

def Fresh [Zero α] (t : CircleMinTracker α) : Prop :=
  t = create t.window ∨ ∃ s : CircleMinTracker α, t = s.reset

theorem Fresh.count [Zero α] {t : CircleMinTracker α} (h : Fresh t) : t.count = 0 := by
  obtain h | ⟨s, h⟩ := h
  · exact congrArg CircleMinTracker.count h
  · exact congrArg CircleMinTracker.count h

variable [LinearOrder α]

def pushBack (t : CircleMinTracker α) (value : α) : CircleMinTracker α :=
  let t :=
    if t.count = 0 then { t with minValue := value, minIndex := 0, backup := value }
    else if value ≤ t.minValue then
      { t with minValue := value, minIndex := t.count, backup := value }
    else
      let t := if value < t.backup then { t with backup := value } else t
      if t.window ≤ t.count - t.minIndex then
        { t with minValue := t.backup, minIndex := t.count, backup := value }
      else t
  { t with count := t.count + 1 }

/-- The fields behind these values, none before the first: the minimum reaches back a window
behind `min_index_`, the backup reaches back to it. -/
structure Tracks (t : CircleMinTracker α) (values : List α) : Prop where
  count : t.count = values.length
  index : values ≠ [] → 0 ≤ t.minIndex ∧ t.minIndex < t.count ∧ t.count ≤ t.minIndex + t.window
  minimum : values ≠ [] → Minimum values (t.minIndex - t.window).toNat t.minValue
  backup : values ≠ [] → Minimum values t.minIndex.toNat t.backup

theorem tracks_nil {t : CircleMinTracker α} (h : t.count = 0) : Tracks t [] :=
  ⟨h, fun hne => absurd rfl hne, fun hne => absurd rfl hne, fun hne => absurd rfl hne⟩

/-- What a push does to the fields. -/
theorem pushBack_cases (t : CircleMinTracker α) (value : α) :
    (t.count = 0 ∧ t.pushBack value = ⟨t.window, value, value, 0, t.count + 1⟩) ∨
    (t.count ≠ 0 ∧ value ≤ t.minValue ∧
      t.pushBack value = ⟨t.window, value, value, t.count, t.count + 1⟩) ∨
    (t.count ≠ 0 ∧ t.minValue < value ∧ t.window ≤ t.count - t.minIndex ∧
      t.pushBack value = ⟨t.window, min t.backup value, value, t.count, t.count + 1⟩) ∨
    (t.count ≠ 0 ∧ t.minValue < value ∧ t.count - t.minIndex < t.window ∧
      t.pushBack value =
        ⟨t.window, t.minValue, min t.backup value, t.minIndex, t.count + 1⟩) := by
  unfold pushBack
  by_cases hcount : t.count = 0
  · exact Or.inl ⟨hcount, by rw [if_pos hcount]⟩
  · right
    rw [if_neg hcount]
    by_cases hlow : value ≤ t.minValue
    · exact Or.inl ⟨hcount, hlow, by rw [if_pos hlow]⟩
    · right
      rw [if_neg hlow]
      have hhigh := not_le.mp hlow
      have hbackup : (if value < t.backup then { t with backup := value } else t) =
          { t with backup := min t.backup value } := by
        split_ifs with hbelow
        · rw [min_eq_right hbelow.le]
        · rw [min_eq_left (not_lt.mp hbelow)]
      simp only [hbackup]
      by_cases hfull : t.window ≤ t.count - t.minIndex
      · exact Or.inl ⟨hcount, hhigh, hfull, by rw [if_pos hfull]⟩
      · exact Or.inr ⟨hcount, hhigh, not_le.mp hfull, by rw [if_neg hfull]⟩

theorem pushBack_window (t : CircleMinTracker α) (value : α) :
    (t.pushBack value).window = t.window := by
  obtain ⟨-, h⟩ | ⟨-, -, h⟩ | ⟨-, -, -, h⟩ | ⟨-, -, -, h⟩ := pushBack_cases t value <;> rw [h]

theorem tracks_snoc {values : List α} {value minValue backup : α} {window index count : ℤ}
    (hcount : count = values.length) (hlow : 0 ≤ index) (hhigh : index ≤ count)
    (hwindow : count < index + window)
    (hminimum : Minimum (values ++ [value]) (index - window).toNat minValue)
    (hbackup : Minimum (values ++ [value]) index.toNat backup) :
    Tracks ⟨window, minValue, backup, index, count + 1⟩ (values ++ [value]) := by
  refine ⟨?_, fun _ => ⟨hlow, ?_, ?_⟩, fun _ => hminimum, fun _ => hbackup⟩
  · rw [List.length_append, List.length_singleton, hcount]
    rfl
  · exact Int.lt_add_one_iff.mpr hhigh
  · exact Int.add_one_le_iff.mpr hwindow

theorem pushBack_count (t : CircleMinTracker α) (value : α) :
    (t.pushBack value).count = t.count + 1 := by
  obtain ⟨-, h⟩ | ⟨-, -, h⟩ | ⟨-, -, -, h⟩ | ⟨-, -, -, h⟩ := pushBack_cases t value <;> rw [h]

theorem Tracks.pushBack {t : CircleMinTracker α} {values : List α} (h : Tracks t values)
    (hwindow : 1 ≤ t.window) (value : α) : Tracks (t.pushBack value) (values ++ [value]) := by
  have hcount := h.count
  have hvalues : t.count ≠ 0 → values ≠ [] := by
    rintro hne rfl
    exact hne hcount
  obtain ⟨hzero, ht⟩ | ⟨hne, hlow, ht⟩ | ⟨hne, hhigh, hfull, ht⟩ | ⟨hne, hhigh, hfull, ht⟩ :=
    pushBack_cases t value
  · obtain rfl := List.length_eq_zero_iff.mp (by omega : values.length = 0)
    have hfirst : Minimum ([] ++ [value]) 0 value := minimum_last
    have hstart : (0 - t.window).toNat = 0 := by omega
    rw [ht]
    exact tracks_snoc hcount le_rfl (by omega) (by omega) (hstart ▸ hfirst) hfirst
  · obtain ⟨hleft, hright, hspan⟩ := h.index (hvalues hne)
    have hminimum := h.minimum (hvalues hne)
    rw [ht]
    exact tracks_snoc hcount (by omega) le_rfl (by omega)
      (minimum_snoc_low hminimum hlow (by omega) (by omega))
      (minimum_snoc_low hminimum hlow (by omega) (by omega))
  · obtain ⟨hleft, hright, hspan⟩ := h.index (hvalues hne)
    -- the backup becomes the minimum: it reaches back exactly a window
    have hback := minimum_snoc (v := value) (h.backup (hvalues hne))
    have hstart : t.minIndex.toNat = (t.count - t.window).toNat := by omega
    have hend : t.count.toNat = values.length := by omega
    rw [ht]
    exact tracks_snoc hcount (by omega) le_rfl (by omega) (hstart ▸ hback)
      (hend.symm ▸ minimum_last)
  · obtain ⟨hleft, hright, hspan⟩ := h.index (hvalues hne)
    rw [ht]
    exact tracks_snoc hcount hleft hright.le (by omega)
      (minimum_snoc_high (h.minimum (hvalues hne)) hhigh.le)
      (minimum_snoc (h.backup (hvalues hne)))

theorem Tracks.pushAll {t : CircleMinTracker α} (hwindow : 1 ≤ t.window) {before : List α}
    (h : Tracks t before) (values : List α) :
    Tracks (values.foldl CircleMinTracker.pushBack t) (before ++ values) ∧
      (values.foldl CircleMinTracker.pushBack t).window = t.window := by
  induction values generalizing t before with
  | nil =>
    rw [List.append_nil]
    exact ⟨h, rfl⟩
  | cons value values ih =>
    have hkeeps := pushBack_window t value
    obtain ⟨htracks, hlast⟩ := ih (hkeeps.symm ▸ hwindow) (h.pushBack hwindow value)
    rw [List.append_assoc] at htracks
    exact ⟨htracks, hlast.trans hkeeps⟩

/-- The minimum of the last values: of more than a window of them, or of all, and of no more
than two windows. -/
structure Bracket (window : ℤ) (values : List α) (m : α) : Prop where
  suffix : ∃ suffix, suffix <:+ values ∧ min (values.length : ℤ) (window + 1) ≤ suffix.length ∧
    suffix.length ≤ 2 * window ∧ IsLeast {x | x ∈ suffix} m
  below : ∀ x ∈ values.drop (values.length - window.toNat), m ≤ x
  recent : m ∈ values.drop (values.length - (2 * window).toNat)

theorem Tracks.bracket {t : CircleMinTracker α} {values : List α} (h : Tracks t values)
    (hne : values ≠ []) : Bracket t.window values t.getMin := by
  obtain ⟨hleft, hright, hspan⟩ := h.index hne
  have hcount := h.count
  have hminimum := h.minimum hne
  refine ⟨⟨_, List.drop_suffix _ values, ?_, ?_, hminimum⟩, fun x hx => ?_, ?_⟩
  · rw [List.length_drop]
    omega
  · rw [List.length_drop]
    omega
  · exact hminimum.2 (List.drop_subset_drop_left values (by omega) hx)
  · exact List.drop_subset_drop_left values (by omega) hminimum.1

theorem getMin_bracket [Zero α] (t : CircleMinTracker α) (hfresh : Fresh t)
    (hwindow : 1 ≤ t.window) (values : List α) (hne : values ≠ []) :
    Bracket t.window values (values.foldl pushBack t).getMin := by
  obtain ⟨htracks, hkeeps⟩ := (tracks_nil hfresh.count).pushAll hwindow values
  have hbracket := htracks.bracket hne
  rwa [hkeeps] at hbracket

theorem twoWindows_bracket : Bracket 2 [(5 : ℤ), 3, 4, 6, 7, 8] 6 := by
  have hbracket := getMin_bracket (create 2) (Or.inl rfl) (by decide) [(5 : ℤ), 3, 4, 6, 7, 8]
    (by decide)
  have hmin : ([(5 : ℤ), 3, 4, 6, 7, 8].foldl pushBack (create 2)).getMin = 6 := by decide
  rwa [hmin] at hbracket

end CircleMinTracker

end DeviceManager
