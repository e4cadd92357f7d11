import Mathlib.Data.List.FinRange
import Mathlib.Data.List.GetD

namespace DeviceManager.Tiles

variable {α : Type*} {n width : Nat}

def tiles (f : Fin n → List α) : List α := (List.finRange n).flatMap f

/-- Values over those from a place on; there is no result if they reach over the end. -/
def writeAt (xs : List α) (start : Nat) (values : List α) : Option (List α) :=
  if values = [] ∨ start + values.length ≤ xs.length then
    some (xs.take start ++ values ++ xs.drop (start + values.length))
  else none

theorem length_flatMap {ι : Type*} {f : ι → List α} {is : List ι}
    (h : ∀ i ∈ is, (f i).length = width) : (is.flatMap f).length = is.length * width := by
  induction is with
  | nil => simp
  | cons i is ih =>
    rw [List.flatMap_cons, List.length_append, h i (List.mem_cons_self ..),
      ih fun j hj => h j (List.mem_cons_of_mem _ hj), List.length_cons, Nat.succ_mul, Nat.add_comm]

theorem tiles_split (f : Fin n → List α) (k : Fin n) :
    ∃ before after : List (Fin n), List.finRange n = before ++ k :: after ∧
      before.length = k ∧ k ∉ before ∧ k ∉ after ∧
        tiles f = before.flatMap f ++ f k ++ after.flatMap f := by
  have hnodup := List.nodup_finRange n
  have hk : (k : Nat) < (List.finRange n).length := by
    rw [List.length_finRange]
    exact k.isLt
  have hget : (List.finRange n)[(k : Nat)] = k := by simp
  have hsplit : List.finRange n =
      (List.finRange n).take k ++ k :: (List.finRange n).drop (k + 1) := by
    conv => lhs; rw [← List.take_append_drop k (List.finRange n), List.drop_eq_getElem_cons hk, hget]
  refine ⟨_, _, hsplit, ?_, ?_, ?_, ?_⟩
  · rw [List.length_take]
    omega
  · rw [hsplit] at hnodup
    intro hmem
    exact (List.nodup_append.mp hnodup).2.2 k hmem k (List.mem_cons_self ..) rfl
  · rw [hsplit] at hnodup
    exact (List.nodup_cons.mp (List.nodup_append.mp hnodup).2.1).1
  · rw [tiles]
    conv => lhs; rw [hsplit]
    rw [List.flatMap_append, List.flatMap_cons, ← List.append_assoc]

theorem flatMap_update {f : Fin n → List α} {k : Fin n} {is : List (Fin n)} (h : k ∉ is)
    (values : List α) : is.flatMap (Function.update f k values) = is.flatMap f := by
  apply List.flatMap_congr
  intro i hi
  have hne : i ≠ k := by
    rintro rfl
    exact h hi
  rw [Function.update_of_ne hne]

theorem writeAt_tiles {f : Fin n → List α} (h : ∀ k, (f k).length = width) (k : Fin n)
    {values : List α} (hvalues : values.length = width) :
    writeAt (tiles f) (k * width) values = some (tiles (Function.update f k values)) := by
  obtain ⟨before, after, hsplit, hlen, hbefore, hafter, htiles⟩ := tiles_split f k
  have hstart : (before.flatMap f).length = k * width := by
    rw [length_flatMap fun i _ => h i, hlen]
  have hfits : k * width + values.length ≤ (tiles f).length := by
    rw [htiles, List.length_append, List.length_append, hstart, h k, hvalues]
    omega
  have hupdated : tiles (Function.update f k values) =
      before.flatMap f ++ values ++ after.flatMap f := by
    rw [tiles, hsplit, List.flatMap_append, List.flatMap_cons, flatMap_update hbefore,
      flatMap_update hafter, Function.update_self, List.append_assoc]
  have hdrop : (before.flatMap f ++ f k).length = k * width + values.length := by
    rw [List.length_append, hstart, h k, hvalues]
  have htake : (tiles f).take (k * width) = before.flatMap f := by
    rw [htiles, List.append_assoc, List.take_left' hstart]
  have hrest : (tiles f).drop (k * width + values.length) = after.flatMap f := by
    rw [htiles, List.drop_left' hdrop]
  rw [writeAt, if_pos (Or.inr hfits), hupdated, htake, hrest]

theorem writeAt_eq_none {xs values : List α} {start : Nat} :
    writeAt xs start values = none ↔ values ≠ [] ∧ xs.length < start + values.length := by
  unfold writeAt
  split
  case isTrue h =>
    simp only [reduceCtorEq, ne_eq, false_iff, not_and, Nat.not_lt]
    intro hne
    exact h.resolve_left hne
  case isFalse h =>
    rw [not_or] at h
    simp only [true_iff]
    exact ⟨h.1, by omega⟩

theorem length_writeAt {xs ys values : List α} {start : Nat}
    (h : writeAt xs start values = some ys) : ys.length = xs.length := by
  unfold writeAt at h
  split at h
  case isTrue hfits =>
    cases h
    rw [List.length_append, List.length_append, List.length_take, List.length_drop]
    rcases hfits with rfl | hfits
    · simp only [List.length_nil]
      omega
    · omega
  case isFalse => cases h

theorem exists_tiles {xs : List α} (h : xs.length = n * width) :
    ∃ f : Fin n → List α, (∀ k, (f k).length = width) ∧ xs = tiles f := by
  induction n generalizing xs with
  | zero =>
    refine ⟨fun k => k.elim0, fun k => k.elim0, ?_⟩
    rw [Nat.zero_mul, List.length_eq_zero_iff] at h
    rw [h]
    rfl
  | succ n ih =>
    have hfirst : (xs.take width).length = width := by
      rw [List.length_take, h, Nat.succ_mul]
      omega
    have hlen : (xs.drop width).length = n * width := by
      rw [List.length_drop, h, Nat.succ_mul]
      omega
    obtain ⟨f, hf, hrest⟩ := ih hlen
    refine ⟨Fin.cons (xs.take width) f, fun k => ?_, ?_⟩
    · cases k using Fin.cases with
      | zero => exact hfirst
      | succ k => exact hf k
    · rw [tiles, List.finRange_succ, List.flatMap_cons, List.flatMap_map, Fin.cons_zero]
      conv => lhs; rw [← List.take_append_drop width xs, hrest]
      rfl

end DeviceManager.Tiles
