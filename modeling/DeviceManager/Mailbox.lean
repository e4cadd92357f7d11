import DeviceManager.Lockstep
import Mathlib.Data.List.Forall2

namespace DeviceManager.Mailbox

section Letters

variable {κ α : Type*}

/-- A request for the letters with a key: the letter that comes before the time is over, if one
comes, and those that come later. -/
structure Exchange (κ α : Type*) where
  key : κ
  own : Option α
  late : List α

def Exchange.keep (e : Exchange κ α) (last : Option α) : Option α :=
  (e.own.toList ++ e.late).getLast?.or last

variable [DecidableEq κ] {key : α → κ} {last : Option α}

/-- Who asks for a key takes the letter that lies in the box if it has that key, and else waits for
the one that may come. -/
def Exchange.pick (key : α → κ) (e : Exchange κ α) (last : Option α) : Option α :=
  if last.map key = some e.key then last else e.own

def picks (key : α → κ) : Option α → List (Exchange κ α) → List (Option α)
  | _, [] => []
  | last, e :: rest => e.pick key last :: picks key (e.keep last) rest

/-- Nobody asks for the key of the letter that lies in the box. -/
def Fresh (key : α → κ) : Option α → List (Exchange κ α) → Prop
  | _, [] => True
  | last, e :: rest => last.map key ≠ some e.key ∧ Fresh key (e.keep last) rest

theorem Exchange.key_of_pick {e : Exchange κ α} (hown : ∀ a ∈ e.own, key a = e.key) :
    ∀ a ∈ e.pick key last, key a = e.key := by
  intro a ha
  unfold Exchange.pick at ha
  split_ifs at ha with hlast
  · rw [Option.mem_def.mp ha, Option.map_some, Option.some.injEq] at hlast
    exact hlast
  · exact hown a ha

/-- Each takes the letter of its own time as long as nobody asks for what lies there already. -/
theorem picks_fresh {exchanges : List (Exchange κ α)} (h : Fresh key last exchanges) :
    picks key last exchanges = exchanges.map Exchange.own := by
  induction exchanges generalizing last with
  | nil => rfl
  | cons e rest ih =>
    obtain ⟨hhere, hrest⟩ := h
    rw [picks, Exchange.pick, if_neg hhere, ih hrest, List.map_cons]

theorem key_picks {exchanges : List (Exchange κ α)}
    (hown : ∀ e ∈ exchanges, ∀ a ∈ e.own, key a = e.key) :
    List.Forall₂ (fun e taken => ∀ a ∈ taken, key a = e.key) exchanges
      (picks key last exchanges) := by
  induction exchanges generalizing last with
  | nil => exact .nil
  | cons e rest ih =>
    obtain ⟨hhere, hrest⟩ := List.forall_mem_cons.mp hown
    exact .cons (e.key_of_pick hhere) (ih hrest)

section Related

variable {β : Type*} {R : α → β → Prop}

theorem rel_toList {a : Option α} {b : Option β} (h : Option.Rel R a b) :
    List.Forall₂ R a.toList b.toList := by
  cases h with
  | some hab => exact .cons hab .nil
  | none => exact .nil

theorem rel_or {a a' : Option α} {b b' : Option β} (h : Option.Rel R a b)
    (h' : Option.Rel R a' b') : Option.Rel R (a.or a') (b.or b') := by
  cases h with
  | some hab => exact .some hab
  | none => exact h'

theorem rel_getLast? {as : List α} {bs : List β} (h : List.Forall₂ R as bs) :
    Option.Rel R as.getLast? bs.getLast? := by
  have hreverse := List.rel_reverse h
  rw [← List.head?_reverse, ← List.head?_reverse]
  generalize as.reverse = xs at hreverse ⊢
  generalize bs.reverse = ys at hreverse ⊢
  cases hreverse with
  | nil => exact .none
  | cons hab _ => exact .some hab

end Related

structure Exchange.Related {β : Type*} (R : α → β → Prop) (e : Exchange κ α) (f : Exchange κ β) :
    Prop where
  same_key : e.key = f.key
  own : Option.Rel R e.own f.own
  late : List.Forall₂ R e.late f.late

theorem picks_related {β : Type*} {R : α → β → Prop} {other : β → κ} {lastOther : Option β}
    (hkey : ∀ a b, R a b → key a = other b) {exchanges : List (Exchange κ α)}
    {others : List (Exchange κ β)} (h : List.Forall₂ (Exchange.Related R) exchanges others)
    (hlast : Option.Rel R last lastOther) :
    List.Forall₂ (Option.Rel R) (picks key last exchanges) (picks other lastOther others) := by
  induction h generalizing last lastOther with
  | nil => exact .nil
  | @cons e f exchanges others hhere _ ih =>
    have hletters : List.Forall₂ R (e.own.toList ++ e.late) (f.own.toList ++ f.late) :=
      List.rel_append (rel_toList hhere.own) hhere.late
    refine .cons ?_ (ih (rel_or (rel_getLast? hletters) hlast))
    have hmap : last.map key = lastOther.map other := by
      cases hlast with
      | some hab => exact congrArg some (hkey _ _ hab)
      | none => rfl
    unfold Exchange.pick
    rw [hmap, hhere.same_key]
    split_ifs
    · exact hlast
    · exact hhere.own

end Letters

section Hidden

open Lockstep

variable {σ α β γ : Type*} {step : σ → α → List β × σ} {hidden : α → Bool} {view : σ → σ}
  {seen : β → Option γ}

/-- What is seen of a run, where some inputs change only what is not in view. -/
theorem play_hidden
    (hskip : ∀ s a, hidden a = true → (step s a).1.filterMap seen = [] ∧ view (step s a).2 = view s)
    (hkeep : ∀ s a, hidden a = false → (step (view s) a).1.filterMap seen =
      (step s a).1.filterMap seen ∧ (step (view s) a).2 = view (step s a).2)
    (s : σ) (as : List α) :
    (play step s as).1.filterMap seen =
        (play step (view s) (as.filter fun a => !hidden a)).1.filterMap seen ∧
      view (play step s as).2 = (play step (view s) (as.filter fun a => !hidden a)).2 := by
  induction as generalizing s with
  | nil => exact ⟨rfl, rfl⟩
  | cons a as ih =>
    obtain ⟨hseen, hview⟩ := ih (step s a).2
    rw [play_cons, List.filterMap_append, hseen]
    cases ha : hidden a with
    | true =>
      obtain ⟨hnone, hsame⟩ := hskip s a ha
      rw [List.filter_cons_of_neg (by simp [ha]), hnone, List.nil_append, ← hsame]
      exact ⟨rfl, hview⟩
    | false =>
      obtain ⟨hout, hnext⟩ := hkeep s a ha
      rw [List.filter_cons_of_pos (by simp [ha]), play_cons, hnext, List.filterMap_append, hout]
      exact ⟨rfl, hview⟩

end Hidden

end DeviceManager.Mailbox
