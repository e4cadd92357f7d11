import Mathlib.Data.List.Basic

namespace DeviceManager.Stuffing

variable {α : Type*} [DecidableEq α]

/-- Two reserved symbols, and an involution that moves both of them off the delimiter. -/
structure Code (α : Type*) where
  delimiter : α
  escape : α
  flip : α → α
  escape_ne : escape ≠ delimiter
  flip_flip : ∀ a, flip (flip a) = a
  flip_delimiter : flip delimiter ≠ delimiter
  flip_escape : flip escape ≠ delimiter

def stuff (c : Code α) (a : α) : List α :=
  if a = c.delimiter ∨ a = c.escape then [c.escape, c.flip a] else [a]

/-- Undo `stuff` on a whole text; an escape at its end is dropped. -/
def unstuff (c : Code α) : List α → List α
  | [] => []
  | [a] => if a = c.escape then [] else [a]
  | a :: b :: rest => if a = c.escape then c.flip b :: unstuff c rest else a :: unstuff c (b :: rest)

variable (c : Code α)

theorem unstuff_escape (b : α) (rest : List α) :
    unstuff c (c.escape :: b :: rest) = c.flip b :: unstuff c rest := if_pos rfl

theorem unstuff_plain {a : α} (h : a ≠ c.escape) (rest : List α) :
    unstuff c (a :: rest) = a :: unstuff c rest := by
  cases rest with
  | nil => exact if_neg h
  | cons b rest => exact if_neg h

theorem stuff_reserved {a : α} (h : a = c.delimiter ∨ a = c.escape) :
    stuff c a = [c.escape, c.flip a] := if_pos h

theorem stuff_plain {a : α} (hd : a ≠ c.delimiter) (he : a ≠ c.escape) : stuff c a = [a] :=
  if_neg (not_or.mpr ⟨hd, he⟩)

/-- What has been stuffed is what `unstuff` gives back. -/
theorem unstuff_flatMap (as : List α) : unstuff c (as.flatMap (stuff c)) = as := by
  induction as with
  | nil => rfl
  | cons a as ih =>
    rw [List.flatMap_cons]
    by_cases h : a = c.delimiter ∨ a = c.escape
    · rw [stuff_reserved c h, List.cons_append, List.singleton_append, unstuff_escape, c.flip_flip,
        ih]
    · obtain ⟨hd, he⟩ := not_or.mp h
      rw [stuff_plain c hd he, List.singleton_append, unstuff_plain c he, ih]

theorem delimiter_not_mem_stuff (a : α) : c.delimiter ∉ stuff c a := by
  by_cases h : a = c.delimiter ∨ a = c.escape
  · have hflip : c.flip a ≠ c.delimiter := by
      obtain rfl | rfl := h
      · exact c.flip_delimiter
      · exact c.flip_escape
    rw [stuff_reserved c h]
    simp [c.escape_ne.symm, hflip.symm]
  · obtain ⟨hd, he⟩ := not_or.mp h
    rw [stuff_plain c hd he]
    simpa using Ne.symm hd

theorem delimiter_not_mem (as : List α) : c.delimiter ∉ as.flatMap (stuff c) := by
  rw [List.mem_flatMap]
  rintro ⟨a, -, ha⟩
  exact delimiter_not_mem_stuff c a ha

end DeviceManager.Stuffing
