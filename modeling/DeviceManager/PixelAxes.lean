import Mathlib.Algebra.Field.Basic
import Mathlib.Algebra.GroupWithZero.Basic

namespace DeviceManager.PixelAxes

variable {K : Type*}

@[ext] structure Axis (K : Type*) where
  focal : K
  center : K

inductive PixelStep (K : Type*) where
  | crop (offset : K)
  | resize (factor : K)
  | widen (scale : K)
  | flip (last : K)

@[ext] structure Axes (K : Type*) where
  x : Axis K
  y : Axis K

structure Steps (K : Type*) where
  x : List (PixelStep K)
  y : List (PixelStep K)

def Steps.none : Steps K := ⟨[], []⟩

def Steps.append (steps more : Steps K) : Steps K := ⟨steps.x ++ more.x, steps.y ++ more.y⟩

variable [Field K]

def Axis.after (a : Axis K) : PixelStep K → Axis K
  | .crop offset => { a with center := a.center - offset }
  | .resize factor => ⟨a.focal * factor, a.center * factor⟩
  | .widen scale => { a with focal := a.focal * scale }
  | .flip last => { a with center := last - a.center }

def Axis.follow (a : Axis K) (steps : List (PixelStep K)) : Axis K := steps.foldl Axis.after a

def Axes.follow (a : Axes K) (steps : Steps K) : Axes K := ⟨a.x.follow steps.x, a.y.follow steps.y⟩

def PixelStep.Proper : PixelStep K → Prop
  | .resize factor => factor ≠ 0
  | _ => True

theorem Axis.follow_append (a : Axis K) (steps more : List (PixelStep K)) :
    a.follow (steps ++ more) = (a.follow steps).follow more := List.foldl_append

theorem Axes.follow_append (a : Axes K) (steps more : Steps K) :
    a.follow (steps.append more) = (a.follow steps).follow more := by
  ext1
  · exact a.x.follow_append steps.x more.x
  · exact a.y.follow_append steps.y more.y

/-- Proper steps neither join principal points nor part them. -/
theorem Axis.after_center {a b : Axis K} {step : PixelStep K} (h : step.Proper) :
    (a.after step).center = (b.after step).center ↔ a.center = b.center := by
  cases step with
  | crop offset => exact sub_left_inj
  | resize factor => exact mul_left_inj' h
  | widen scale => exact Iff.rfl
  | flip last => exact sub_right_inj

theorem Axis.follow_center {a b : Axis K} {steps : List (PixelStep K)}
    (h : ∀ step ∈ steps, step.Proper) :
    (a.follow steps).center = (b.follow steps).center ↔ a.center = b.center := by
  induction steps generalizing a b with
  | nil => exact Iff.rfl
  | cons step steps ih =>
    obtain ⟨hstep, hrest⟩ := List.forall_mem_cons.mp h
    exact (ih hrest).trans (Axis.after_center hstep)

end DeviceManager.PixelAxes
