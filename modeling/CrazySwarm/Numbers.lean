import CrazySwarm.Models
import Mathlib.Analysis.Real.Sqrt
import Mathlib.Analysis.SpecialFunctions.Pow.Real
import Mathlib.Analysis.SpecialFunctions.Trigonometric.Basic

/-! Float arithmetic for the safety and planning models: the functions of `math`, the real
numbers as exact floats, and comparison as IEEE 754 has it, with not-a-number. -/
namespace CrazySwarm

/-! The numerals of the reals rest on these facts, under one name in every module. -/
namespace Numerals

scoped instance two : Nat.AtLeastTwo 2 := ⟨le_rfl⟩
scoped instance three : Nat.AtLeastTwo 3 := ⟨by decide⟩
scoped instance four : Nat.AtLeastTwo 4 := ⟨by decide⟩
scoped instance ten : Nat.AtLeastTwo 10 := ⟨by decide⟩
scoped instance twenty : Nat.AtLeastTwo 20 := ⟨by decide⟩
scoped instance thirty : Nat.AtLeastTwo 30 := ⟨by decide⟩
scoped instance fifty : Nat.AtLeastTwo 50 := ⟨by decide⟩
scoped instance hundred : Nat.AtLeastTwo 100 := ⟨by decide⟩

end Numerals

open scoped Numerals

/-- The further operations of the `math` module and of `**` with a small exponent. -/
class PyMath (F : Type) extends PyFloat F where
  hypot : F → F → F
  pow : F → Nat → F
  cos : F → F
  sin : F → F

namespace PyFloat

variable {F : Type} [PyFloat F]

scoped instance : Add F := ⟨add⟩
scoped instance : Sub F := ⟨sub⟩
scoped instance : Mul F := ⟨mul⟩
scoped instance : Div F := ⟨div⟩

def neg (a : F) : F := zero - a
def abs (a : F) : F := if lt a zero then neg a else a

/-- `math.isclose` with the default relative tolerance. -/
def isClose (a b absTol : F) : Bool :=
  eq a b || le (abs (a - b)) (max (ofRat 1e-9 * max (abs a) (abs b)) absTol)

end PyFloat

/-- Exact real arithmetic. -/
noncomputable instance : PyMath ℝ where
  lt a b := decide (a < b)
  le a b := decide (a ≤ b)
  eq a b := decide (a = b)
  add a b := a + b
  sub a b := a - b
  mul a b := a * b
  div a b := a / b
  sqrt a := Real.sqrt a
  ofRat a := a
  hypot a b := Real.sqrt (a ^ 2 + b ^ 2)
  pow a n := a ^ n
  cos := Real.cos
  sin := Real.sin

/-- For evaluating the model; `hypot` is exact on squares, `cos` and `sin` at zero. -/
instance : PyMath ℚ where
  hypot a b := PyFloat.sqrt (a ^ 2 + b ^ 2)
  pow a n := a ^ n
  cos a := 1 - a ^ 2 / 2
  sin a := a

/-- Comparison of IEEE 754 floats: the numbers are ordered linearly, up to equality of the
two zeros, and every comparison with not-a-number is false. -/
class IeeeOrder (F : Type) [PyFloat F] : Prop where
  le_iff (a b : F) : PyFloat.le a b = true ↔ PyFloat.lt a b = true ∨ PyFloat.eq a b = true
  lt_irrefl (a : F) : PyFloat.lt a a = false
  lt_trans {a b c : F} : PyFloat.lt a b = true → PyFloat.lt b c = true → PyFloat.lt a c = true
  eq_symm {a b : F} : PyFloat.eq a b = true → PyFloat.eq b a = true
  eq_trans {a b c : F} : PyFloat.eq a b = true → PyFloat.eq b c = true → PyFloat.eq a c = true
  lt_of_eq_of_lt {a b c : F} :
    PyFloat.eq a b = true → PyFloat.lt b c = true → PyFloat.lt a c = true
  lt_of_lt_of_eq {a b c : F} :
    PyFloat.lt a b = true → PyFloat.eq b c = true → PyFloat.lt a c = true
  number_of_lt {a b : F} : PyFloat.lt a b = true → PyFloat.eq a a = true ∧ PyFloat.eq b b = true
  total {a b : F} : PyFloat.eq a a = true → PyFloat.eq b b = true →
    PyFloat.lt a b = true ∨ PyFloat.eq a b = true ∨ PyFloat.lt b a = true

instance : IeeeOrder ℚ where
  le_iff a b := by simp [PyFloat.le, PyFloat.lt, PyFloat.eq, le_iff_lt_or_eq]
  lt_irrefl a := by simp [PyFloat.lt]
  lt_trans := by simp only [PyFloat.lt, decide_eq_true_eq]; exact lt_trans
  eq_symm := by simp only [PyFloat.eq, decide_eq_true_eq]; exact Eq.symm
  eq_trans := by simp only [PyFloat.eq, decide_eq_true_eq]; exact Eq.trans
  lt_of_eq_of_lt := by simp only [PyFloat.eq, PyFloat.lt, decide_eq_true_eq]; exact Eq.trans_lt
  lt_of_lt_of_eq := by simp only [PyFloat.eq, PyFloat.lt, decide_eq_true_eq]; exact LT.lt.trans_eq
  number_of_lt := by simp [PyFloat.eq]
  total {a b} _ _ := by
    simpa only [PyFloat.eq, PyFloat.lt, decide_eq_true_eq] using lt_trichotomy a b

/-- A float that may be not-a-number; arithmetic passes it on. -/
inductive Ieee (K : Type) where
  | nan
  | number (value : K)
  deriving DecidableEq, Repr

namespace Ieee

def both (f : ℚ → ℚ → ℚ) : Ieee ℚ → Ieee ℚ → Ieee ℚ
  | number a, number b => number (f a b)
  | _, _ => nan

def compare (f : ℚ → ℚ → Bool) : Ieee ℚ → Ieee ℚ → Bool
  | number a, number b => f a b
  | _, _ => false

def each (f : ℚ → ℚ) : Ieee ℚ → Ieee ℚ
  | number a => number (f a)
  | nan => nan

instance : PyMath (Ieee ℚ) where
  lt := compare PyFloat.lt
  le := compare PyFloat.le
  eq := compare PyFloat.eq
  add := both PyFloat.add
  sub := both PyFloat.sub
  mul := both PyFloat.mul
  div := both PyFloat.div
  sqrt := each PyFloat.sqrt
  ofRat := number
  hypot := both PyMath.hypot
  pow a n := each (PyMath.pow · n) a
  cos := each PyMath.cos
  sin := each PyMath.sin

@[simp] theorem lt_eq_true {a b : Ieee ℚ} :
    PyFloat.lt a b = true ↔ ∃ x y : ℚ, a = number x ∧ b = number y ∧ x < y := by
  rcases a with _ | x <;> rcases b with _ | y <;> simp [PyFloat.lt, compare]

@[simp] theorem le_eq_true {a b : Ieee ℚ} :
    PyFloat.le a b = true ↔ ∃ x y : ℚ, a = number x ∧ b = number y ∧ x ≤ y := by
  rcases a with _ | x <;> rcases b with _ | y <;> simp [PyFloat.le, compare]

@[simp] theorem eq_eq_true {a b : Ieee ℚ} :
    PyFloat.eq a b = true ↔ ∃ x : ℚ, a = number x ∧ b = number x := by
  rcases a with _ | x <;> rcases b with _ | y <;> simp [PyFloat.eq, compare]
  exact eq_comm

instance : IeeeOrder (Ieee ℚ) where
  le_iff a b := by
    rcases a with _ | x <;> rcases b with _ | y <;> simp [le_iff_lt_or_eq]
    rw [eq_comm]
  lt_irrefl a := by
    rcases a with _ | x <;> simp [PyFloat.lt, compare]
  lt_trans := by
    simp only [lt_eq_true]
    rintro _ _ _ ⟨x, y, rfl, rfl, below⟩ ⟨_, z, ⟨⟩, rfl, above⟩
    exact ⟨x, z, rfl, rfl, below.trans above⟩
  eq_symm := by
    simp only [eq_eq_true]
    rintro _ _ ⟨x, rfl, rfl⟩
    exact ⟨x, rfl, rfl⟩
  eq_trans := by
    simp only [eq_eq_true]
    rintro _ _ _ ⟨x, rfl, rfl⟩ ⟨_, ⟨⟩, rfl⟩
    exact ⟨x, rfl, rfl⟩
  lt_of_eq_of_lt := by
    simp only [eq_eq_true]
    rintro _ _ _ ⟨x, rfl, rfl⟩ below
    exact below
  lt_of_lt_of_eq := by
    simp only [eq_eq_true]
    rintro _ _ _ below ⟨x, rfl, rfl⟩
    exact below
  number_of_lt := by
    simp only [lt_eq_true, eq_eq_true]
    rintro _ _ ⟨x, y, rfl, rfl, _⟩
    exact ⟨⟨x, rfl, rfl⟩, ⟨y, rfl, rfl⟩⟩
  total := by
    simp only [eq_eq_true, lt_eq_true]
    rintro _ _ ⟨x, rfl, _⟩ ⟨y, rfl, _⟩
    rcases lt_trichotomy x y with below | rfl | above
    · exact .inl ⟨x, y, rfl, rfl, below⟩
    · exact .inr (.inl ⟨x, rfl, rfl⟩)
    · exact .inr (.inr ⟨y, x, rfl, rfl, above⟩)

end Ieee

namespace IeeeOrder
open PyFloat

variable {F : Type} [PyFloat F] [IeeeOrder F] {a b c : F}

theorem le_of_lt (below : lt a b = true) : le a b = true := (le_iff a b).mpr (.inl below)
theorem le_of_eq (same : eq a b = true) : le a b = true := (le_iff a b).mpr (.inr same)

theorem le_trans (first : le a b = true) (second : le b c = true) : le a c = true := by
  rcases (le_iff a b).mp first with below | same <;> rcases (le_iff b c).mp second with above | eq
  · exact le_of_lt (lt_trans below above)
  · exact le_of_lt (lt_of_lt_of_eq below eq)
  · exact le_of_lt (lt_of_eq_of_lt same above)
  · exact le_of_eq (eq_trans same eq)

theorem lt_of_le_of_lt (first : le a b = true) (second : lt b c = true) : lt a c = true := by
  rcases (le_iff a b).mp first with below | same
  · exact lt_trans below second
  · exact lt_of_eq_of_lt same second

theorem lt_of_lt_of_le (first : lt a b = true) (second : le b c = true) : lt a c = true := by
  rcases (le_iff b c).mp second with below | same
  · exact lt_trans first below
  · exact lt_of_lt_of_eq first same

/-- Among numbers the failed comparison is the opposite one. -/
theorem le_of_not_lt (a_number : eq a a = true) (b_number : eq b b = true)
    (not_above : lt b a = false) : le a b = true := by
  rcases total a_number b_number with below | same | above
  · exact le_of_lt below
  · exact le_of_eq same
  · rw [not_above] at above
    cases above

theorem not_lt_of_le (first : le a b = true) : lt b a = false := by
  by_contra above
  have := lt_of_le_of_lt first (Bool.eq_true_of_not_eq_false above)
  rw [lt_irrefl] at this
  cases this

end IeeeOrder

/-! The generic operations at the real numbers. -/
section Real
open PyFloat

@[simp] theorem real_lt (a b : ℝ) : PyFloat.lt a b = decide (a < b) := rfl
@[simp] theorem real_le (a b : ℝ) : PyFloat.le a b = decide (a ≤ b) := rfl
@[simp] theorem real_eq (a b : ℝ) : PyFloat.eq a b = decide (a = b) := rfl
@[simp] theorem real_add (a b : ℝ) : PyFloat.add a b = a + b := rfl
@[simp] theorem real_sub (a b : ℝ) : PyFloat.sub a b = a - b := rfl
@[simp] theorem real_mul (a b : ℝ) : PyFloat.mul a b = a * b := rfl
@[simp] theorem real_div (a b : ℝ) : PyFloat.div a b = a / b := rfl
@[simp] theorem real_sqrt (a : ℝ) : PyFloat.sqrt a = Real.sqrt a := rfl
@[simp] theorem real_ofRat (a : ℚ) : (PyFloat.ofRat a : ℝ) = a := rfl
@[simp] theorem real_hypot (a b : ℝ) : PyMath.hypot a b = Real.sqrt (a ^ 2 + b ^ 2) := rfl
@[simp] theorem real_pow (a : ℝ) (n : Nat) : PyMath.pow a n = a ^ n := rfl
@[simp] theorem real_cos (a : ℝ) : PyMath.cos a = Real.cos a := rfl
@[simp] theorem real_sin (a : ℝ) : PyMath.sin a = Real.sin a := rfl
@[simp] theorem real_zero : (PyFloat.zero : ℝ) = 0 := by simp [PyFloat.zero]

end Real

/-- Exact arithmetic: every operation is the one of an ordered field. -/
class Exact (F : Type) [Field F] [LinearOrder F] [IsStrictOrderedRing F] [PyMath F] : Prop where
  lt_eq (a b : F) : PyFloat.lt a b = decide (a < b)
  le_eq (a b : F) : PyFloat.le a b = decide (a ≤ b)
  eq_eq (a b : F) : PyFloat.eq a b = decide (a = b)
  add_eq (a b : F) : PyFloat.add a b = a + b
  sub_eq (a b : F) : PyFloat.sub a b = a - b
  mul_eq (a b : F) : PyFloat.mul a b = a * b
  div_eq (a b : F) : PyFloat.div a b = a / b
  ofRat_eq (a : ℚ) : (PyFloat.ofRat a : F) = a
  pow_eq (a : F) (n : Nat) : PyMath.pow a n = a ^ n
  sqrt_nonneg (a : F) : 0 ≤ PyFloat.sqrt a

instance : Exact ℝ where
  lt_eq _ _ := rfl
  le_eq _ _ := rfl
  eq_eq _ _ := rfl
  add_eq _ _ := rfl
  sub_eq _ _ := rfl
  mul_eq _ _ := rfl
  div_eq _ _ := rfl
  ofRat_eq _ := rfl
  pow_eq _ _ := rfl
  sqrt_nonneg := Real.sqrt_nonneg

instance : Exact ℚ where
  lt_eq _ _ := rfl
  le_eq _ _ := rfl
  eq_eq _ _ := rfl
  add_eq _ _ := rfl
  sub_eq _ _ := rfl
  mul_eq _ _ := rfl
  div_eq _ _ := rfl
  ofRat_eq a := (Rat.cast_id a).symm
  pow_eq _ _ := rfl
  sqrt_nonneg a := by
    rw [show PyFloat.sqrt a = mkRat _ _ from rfl]
    exact Rat.mkRat_nonneg (Int.natCast_nonneg _) _

/-- An exact square root of zero. -/
class ExactSqrt (F : Type) [Field F] [PyFloat F] : Prop where
  sqrt_zero : PyFloat.sqrt (0 : F) = 0

instance : ExactSqrt ℝ where
  sqrt_zero := Real.sqrt_zero

instance : ExactSqrt ℚ where
  sqrt_zero := by decide +kernel

namespace Exact

variable {F : Type} [Field F] [LinearOrder F] [IsStrictOrderedRing F] [PyMath F] [Exact F]

@[simp] theorem lt_true {a b : F} : PyFloat.lt a b = true ↔ a < b := by simp [lt_eq]
@[simp] theorem lt_false {a b : F} : PyFloat.lt a b = false ↔ b ≤ a := by simp [lt_eq]
@[simp] theorem le_true {a b : F} : PyFloat.le a b = true ↔ a ≤ b := by simp [le_eq]
@[simp] theorem le_false {a b : F} : PyFloat.le a b = false ↔ b < a := by simp [le_eq]
@[simp] theorem eq_true {a b : F} : PyFloat.eq a b = true ↔ a = b := by simp [eq_eq]
@[simp] theorem eq_false {a b : F} : PyFloat.eq a b = false ↔ a ≠ b := by simp [eq_eq]

@[simp] theorem plus (a b : F) : @HAdd.hAdd F F F (@instHAdd F PyFloat.instAdd) a b = a + b :=
  add_eq a b
@[simp] theorem minus (a b : F) : @HSub.hSub F F F (@instHSub F PyFloat.instSub) a b = a - b :=
  sub_eq a b
@[simp] theorem times (a b : F) : @HMul.hMul F F F (@instHMul F PyFloat.instMul) a b = a * b :=
  mul_eq a b
@[simp] theorem over_eq (a b : F) : @HDiv.hDiv F F F (@instHDiv F PyFloat.instDiv) a b = a / b :=
  div_eq a b

@[simp] theorem ofRat_cast (a : ℚ) : (PyFloat.ofRat a : F) = a := ofRat_eq a
@[simp] theorem zero_eq : (PyFloat.zero : F) = 0 := by simp [PyFloat.zero]

@[simp] theorem max_eq (a b : F) : PyFloat.max a b = Max.max a b := by
  unfold PyFloat.max
  by_cases below : a < b
  · rw [if_pos (lt_true.mpr below), max_eq_right below.le]
  · rw [if_neg (by simpa using below), max_eq_left (not_lt.mp below)]

@[simp] theorem min_eq (a b : F) : PyFloat.min a b = Min.min a b := by
  unfold PyFloat.min
  by_cases below : b < a
  · rw [if_pos (lt_true.mpr below), min_eq_right below.le]
  · rw [if_neg (by simpa using below), min_eq_left (not_lt.mp below)]

theorem abs_eq (a : F) : PyFloat.abs a = |a| := by
  unfold PyFloat.abs PyFloat.neg
  by_cases negative : a < 0
  · rw [if_pos (by simpa using negative), abs_of_neg negative, minus, zero_eq, zero_sub]
  · rw [if_neg (by simpa using negative), abs_of_nonneg (not_lt.mp negative)]

@[simp] theorem ge_true {a b : F} : PyFloat.ge a b = true ↔ b ≤ a := by simp [PyFloat.ge]
@[simp] theorem gt_true {a b : F} : PyFloat.gt a b = true ↔ b < a := by simp [PyFloat.gt]
@[simp] theorem atMost_true {a b : F} : PyFloat.atMost a b = true ↔ a ≤ b := by
  simp [PyFloat.atMost]

end Exact

/-- `math.pi` and the remainder of floats. -/
class PyAngle (F : Type) extends PyMath F where
  pi : F
  mod : F → F → F

/-- For evaluating the model, with an approximate circle. -/
instance : PyAngle ℚ where
  pi := 355 / 113
  mod a b := a - b * (a / b).floor

/-- `math.ceil`, and `round` to an integer or to a number of decimals. -/
class PyRound (F : Type) where
  ceil : F → Int
  round : F → Int
  roundDigits : F → Nat → F

/-- The nearest integer; of two as near, the even one. -/
def roundHalfEven {F : Type} [Field F] [LinearOrder F] [FloorRing F] (a : F) : Int :=
  let below := ⌊a⌋
  if a - below < 1 / 2 then below
  else if 1 / 2 < a - below then below + 1
  else if below % 2 = 0 then below else below + 1

noncomputable instance : PyRound ℝ where
  ceil a := ⌈a⌉
  round := roundHalfEven
  roundDigits a digits := roundHalfEven (a * 10 ^ digits) / 10 ^ digits

instance : PyRound ℚ where
  ceil a := ⌈a⌉
  round := roundHalfEven
  roundDigits a digits := roundHalfEven (a * 10 ^ digits) / 10 ^ digits

theorem abs_roundHalfEven_sub_le {F : Type} [Field F] [LinearOrder F] [IsStrictOrderedRing F]
    [FloorRing F] (a : F) : |(roundHalfEven a : F) - a| ≤ 1 / 2 := by
  have below := Int.floor_le a
  have above := Int.lt_floor_add_one a
  unfold roundHalfEven
  simp only
  split
  · rw [abs_le]
    constructor <;> linarith
  · split
    · push_cast
      rw [abs_le]
      constructor <;> linarith
    · split
      · rw [abs_le]
        constructor <;> linarith
      · push_cast
        rw [abs_le]
        constructor <;> linarith

/-- `** (1.0 / 3.0)`. -/
class PyRoot (F : Type) where
  cbrt : F → F

noncomputable instance : PyRoot ℝ where
  cbrt a := a ^ (1 / 3 : ℝ)

/-- Halve the interval between a number with a smaller cube and one with a larger cube. -/
def cbrtBetween (n : Nat) : Nat → Nat → Nat → Nat
  | 0, low, _ => low
  | steps + 1, low, high =>
    let middle := (low + high) / 2
    if middle ^ 3 ≤ n then cbrtBetween n steps middle high else cbrtBetween n steps low middle

/-- For evaluating the model; exact on cubes. -/
instance : PyRoot ℚ where
  cbrt a :=
    let root (n : Nat) := cbrtBetween n (n.log2 + 2) 0 (n + 1)
    mkRat (root a.num.toNat) (root a.den)

/-- Exact rounding. -/
class ExactRound (F : Type) [Field F] [LinearOrder F] [IsStrictOrderedRing F] [PyRound F] :
    Prop where
  le_ceil (a : F) : a ≤ PyRound.ceil a
  ceil_lt (a : F) : (PyRound.ceil a : F) < a + 1
  roundDigits_near (a : F) (digits : Nat) :
    |PyRound.roundDigits a digits - a| ≤ 1 / 2 / 10 ^ digits

theorem roundDigits_half_even_near {F : Type} [Field F] [LinearOrder F] [IsStrictOrderedRing F]
    [FloorRing F] (a : F) (digits : Nat) :
    |(roundHalfEven (a * 10 ^ digits) : F) / 10 ^ digits - a| ≤ 1 / 2 / 10 ^ digits := by
  have scale : (0 : F) < 10 ^ digits := by positivity
  rw [← mul_div_cancel_right₀ a scale.ne', ← sub_div, abs_div, abs_of_pos scale,
    mul_div_cancel_right₀ a scale.ne']
  exact div_le_div_of_nonneg_right (abs_roundHalfEven_sub_le _) scale.le

instance : ExactRound ℝ where
  le_ceil := Int.le_ceil
  ceil_lt := Int.ceil_lt_add_one
  roundDigits_near := roundDigits_half_even_near

instance : ExactRound ℚ where
  le_ceil := Int.le_ceil
  ceil_lt := Int.ceil_lt_add_one
  roundDigits_near := roundDigits_half_even_near

end CrazySwarm
