import Mathlib.Analysis.SpecialFunctions.Complex.Arg
import Mathlib.Analysis.SpecialFunctions.Trigonometric.Arctan
import DeviceMap.Vector

/-! The exact reals as the numbers of the map. Nothing rounds except where the
geometry asks for a whole number, and every number is finite. -/
namespace DeviceMap

namespace Exact

/-- The nearest whole number, halves away from zero. -/
noncomputable def round (x : ℝ) : ℝ := if 0 ≤ x then ⌊x + 1 / 2⌋ else ⌈x - 1 / 2⌉

/-- Two numbers are within a half of each other. -/
def Near (x y : ℝ) : Prop := |x - y| ≤ 1 / 2

theorem round_near (x : ℝ) : Near (round x) x := by
  unfold Near round
  rw [abs_le]
  split
  · have below := Int.floor_le (x + 1 / 2)
    have above := Int.lt_floor_add_one (x + 1 / 2)
    constructor <;> linarith
  · have above := Int.le_ceil (x - 1 / 2)
    have below := Int.ceil_lt_add_one (x - 1 / 2)
    constructor <;> linarith

theorem round_add_le (x y : ℝ) : |round x + y| ≤ |x + y| + 1 / 2 := by
  have shifted := abs_add_le (round x - x) (x + y)
  have near : |round x - x| ≤ 1 / 2 := round_near x
  have joined : round x - x + (x + y) = round x + y := by ring
  rw [joined] at shifted
  linarith

/-- The other direction of rounding of halves does as well. -/
theorem neg_round_neg_near (x : ℝ) : Near (-round (-x)) x := by
  have mirrored := round_near (-x)
  unfold Near at mirrored ⊢
  rw [abs_sub_comm, sub_neg_eq_add, add_comm]
  rwa [sub_neg_eq_add] at mirrored

/-- Rounding does not leave a range with whole ends. -/
theorem round_within {x : ℝ} {n : ℕ} (within : |x| ≤ n) : |round x| ≤ n := by
  obtain ⟨above, below⟩ := abs_le.mp within
  unfold round
  split
  · rename_i positive
    have low : 0 ≤ ⌊x + 1 / 2⌋ := Int.floor_nonneg.mpr (by linarith)
    have high : ⌊x + 1 / 2⌋ < (n : ℤ) + 1 := Int.floor_lt.mpr (by push_cast; linarith)
    rw [abs_of_nonneg (by exact_mod_cast low)]
    exact_mod_cast Int.lt_add_one_iff.mp high
  · rename_i negative
    have high : ⌈x - 1 / 2⌉ ≤ 0 := Int.ceil_le.mpr (by push_cast; linarith)
    have low : -(n : ℤ) - 1 < ⌈x - 1 / 2⌉ := Int.lt_ceil.mpr (by push_cast; linarith)
    rw [abs_of_nonpos (by exact_mod_cast high), neg_le]
    exact_mod_cast Int.le_of_sub_one_lt low

end Exact

noncomputable instance : Scalar ℝ where
  decLt := inferInstance
  decLe := inferInstance
  pi := Real.pi
  abs := fun x => |x|
  sqrt := Real.sqrt
  round := Exact.round
  sin := Real.sin
  cos := Real.cos
  atan := Real.arctan
  atan2 := fun y x => Complex.arg ⟨x, y⟩
  isFinite := fun _ => true
  isNaN := fun _ => false

namespace Exact

/-- The literals of the geometry are the usual ones. -/
@[simp] theorem literal (n : ℕ) : @OfNat.ofNat ℝ n instOfNatOfScalar = (n : ℝ) := by
  change (OfScientific.ofScientific n false 0 : ℝ) = n
  rw [NNRatCast.ofScientific_eq_ite, if_neg Bool.false_ne_true]
  simp

@[simp] theorem decimal_one : (1.0 : ℝ) = 1 := by norm_num

/-- A number between the bounds is its own nearest number between them. -/
theorem clamp_inside {low high x : ℝ} (above : low ≤ x) (below : x ≤ high) :
    Scalar.clamp low high x = x := by
  unfold Scalar.clamp
  rw [if_neg (not_lt.mpr above), if_neg (not_lt.mpr below)]

end Exact

namespace Vec2
variable {α : Type} [Scalar α]

@[simp] theorem add_mk (a b c d : α) : (⟨a, b⟩ : Vec2 α) + ⟨c, d⟩ = ⟨a + c, b + d⟩ := rfl
@[simp] theorem sub_x (p q : Vec2 α) : (p - q).x = p.x - q.x := rfl
@[simp] theorem sub_y (p q : Vec2 α) : (p - q).y = p.y - q.y := rfl
@[simp] theorem div_x (p : Vec2 α) (k : α) : (p / k).x = p.x / k := rfl
@[simp] theorem div_y (p : Vec2 α) (k : α) : (p / k).y = p.y / k := rfl

end Vec2
end DeviceMap
