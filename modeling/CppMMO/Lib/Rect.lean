import Mathlib.Algebra.Order.Field.Basic
import Mathlib.Data.List.Count
import Mathlib.Tactic.Linarith

/-! Half-open axis-aligned rectangles over an ordered field: their four
quadrants, and the distance from a point to the closest point of a rectangle. -/

set_option autoImplicit false

namespace CppMMO.Lib

/-- The rectangle `[x, x + width) × [y, y + height)`. -/
structure Rect (K : Type) where
  x : K
  y : K
  width : K
  height : K
deriving DecidableEq

namespace Rect

variable {K : Type} [Field K] [LinearOrder K]

def Contains (rect : Rect K) (px py : K) : Prop :=
  px ≥ rect.x ∧ px < rect.x + rect.width ∧ py ≥ rect.y ∧ py < rect.y + rect.height

instance (rect : Rect K) (px py : K) : Decidable (rect.Contains px py) :=
  inferInstanceAs (Decidable (_ ∧ _ ∧ _ ∧ _))

def nw (rect : Rect K) : Rect K :=
  ⟨rect.x, rect.y, rect.width / 2, rect.height / 2⟩

def ne (rect : Rect K) : Rect K :=
  ⟨rect.x + rect.width / 2, rect.y, rect.width / 2, rect.height / 2⟩

def sw (rect : Rect K) : Rect K :=
  ⟨rect.x, rect.y + rect.height / 2, rect.width / 2, rect.height / 2⟩

def se (rect : Rect K) : Rect K :=
  ⟨rect.x + rect.width / 2, rect.y + rect.height / 2, rect.width / 2, rect.height / 2⟩

def clamp (low high value : K) : K := max low (min value high)

def closestDistSq (rect : Rect K) (px py : K) : K :=
  (px - clamp rect.x (rect.x + rect.width) px) ^ 2 +
    (py - clamp rect.y (rect.y + rect.height) py) ^ 2

variable [IsStrictOrderedRing K]

/-- Which quadrant a point of the rectangle is in, by the two middle lines. No sign
condition on the sides is needed: a rectangle without positive sides contains no point. -/
theorem contains_quadrant_iff (rect : Rect K) (px py : K) :
    (rect.nw.Contains px py ↔ rect.Contains px py ∧
        px < rect.x + rect.width / 2 ∧ py < rect.y + rect.height / 2) ∧
      (rect.ne.Contains px py ↔ rect.Contains px py ∧
        ¬ px < rect.x + rect.width / 2 ∧ py < rect.y + rect.height / 2) ∧
      (rect.sw.Contains px py ↔ rect.Contains px py ∧
        px < rect.x + rect.width / 2 ∧ ¬ py < rect.y + rect.height / 2) ∧
      (rect.se.Contains px py ↔ rect.Contains px py ∧
        ¬ px < rect.x + rect.width / 2 ∧ ¬ py < rect.y + rect.height / 2) := by
  simp only [Contains, nw, ne, sw, se, not_lt]
  refine ⟨⟨?_, ?_⟩, ⟨?_, ?_⟩, ⟨?_, ?_⟩, ⟨?_, ?_⟩⟩
  · rintro ⟨left, right, top, bottom⟩
    refine ⟨⟨left, ?_, top, ?_⟩, right, bottom⟩ <;> linarith
  · rintro ⟨⟨left, -, top, -⟩, west, north⟩
    exact ⟨left, west, top, north⟩
  · rintro ⟨left, right, top, bottom⟩
    refine ⟨⟨?_, ?_, top, ?_⟩, left, bottom⟩ <;> linarith
  · rintro ⟨⟨-, right, top, -⟩, east, north⟩
    exact ⟨east, by linarith, top, north⟩
  · rintro ⟨left, right, top, bottom⟩
    refine ⟨⟨left, ?_, ?_, ?_⟩, right, top⟩ <;> linarith
  · rintro ⟨⟨left, -, -, bottom⟩, west, south⟩
    exact ⟨left, west, south, by linarith⟩
  · rintro ⟨left, right, top, bottom⟩
    refine ⟨⟨?_, ?_, ?_, ?_⟩, left, top⟩ <;> linarith
  · rintro ⟨⟨-, right, -, bottom⟩, east, south⟩
    exact ⟨east, by linarith, south, by linarith⟩

/-- The quadrants cover the rectangle and nothing else. -/
theorem contains_iff_quadrant (rect : Rect K) (px py : K) :
    rect.Contains px py ↔ rect.nw.Contains px py ∨ rect.ne.Contains px py ∨
      rect.sw.Contains px py ∨ rect.se.Contains px py := by
  obtain ⟨inNw, inNe, inSw, inSe⟩ := contains_quadrant_iff rect px py
  rw [inNw, inNe, inSw, inSe]
  by_cases west : px < rect.x + rect.width / 2 <;>
    by_cases north : py < rect.y + rect.height / 2 <;> simp [west, north]

def quadrants (rect : Rect K) : List (Rect K) := [rect.nw, rect.ne, rect.sw, rect.se]

/-- A point of the rectangle lies in exactly one quadrant, any other point in none. -/
theorem countP_quadrants (rect : Rect K) (px py : K) :
    rect.quadrants.countP (fun quadrant => quadrant.Contains px py) =
      if rect.Contains px py then 1 else 0 := by
  obtain ⟨inNw, inNe, inSw, inSe⟩ := contains_quadrant_iff rect px py
  simp only [quadrants, List.countP_cons, List.countP_nil, decide_eq_true_eq, inNw, inNe, inSw, inSe]
  by_cases west : px < rect.x + rect.width / 2 <;>
    by_cases north : py < rect.y + rect.height / 2 <;> simp [west, north]

theorem sq_sub_clamp_le {low high inner : K} (lower : low ≤ inner) (upper : inner ≤ high)
    (value : K) : (value - clamp low high value) ^ 2 ≤ (value - inner) ^ 2 := by
  unfold clamp
  rcases le_total value high with below | above
  · rw [min_eq_left below]
    rcases le_total low value with inside | outside
    · rw [max_eq_right inside, sub_self]
      simpa using sq_nonneg (value - inner)
    · rw [max_eq_left outside]
      nlinarith
  · rw [min_eq_right above, max_eq_right (lower.trans upper)]
    nlinarith

theorem closestDistSq_le {rect : Rect K} {innerX innerY : K}
    (inside : rect.Contains innerX innerY) (px py : K) :
    rect.closestDistSq px py ≤ (px - innerX) ^ 2 + (py - innerY) ^ 2 :=
  add_le_add (sq_sub_clamp_le inside.1 inside.2.1.le px)
    (sq_sub_clamp_le inside.2.2.1 inside.2.2.2.le py)

end Rect

end CppMMO.Lib
