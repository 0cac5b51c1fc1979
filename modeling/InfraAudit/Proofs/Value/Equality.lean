import InfraAudit.Value

/-!
Equality of values does not depend on the side (`Value.beq_comm`). It is not that of logic:
the two zeros are equal doubles, and a double that is not a number does not even equal
itself.
-/
namespace InfraAudit

/-! ### Numbers -/

open Float.Model (UnpackedFloat)

theorem compare_swap (x y : UnpackedFloat) : x.compare y = (y.compare x).map Ordering.swap := by
  cases x with
  | notANumber => cases y <;> rfl
  | infinity s =>
    cases y with
    | infinity t => cases s <;> cases t <;> rfl
    | _ => cases s <;> rfl
  | zero s =>
    cases y with
    | infinity t => cases t <;> rfl
    | finite t => cases t <;> rfl
    | _ => rfl
  | finite s m e =>
    cases y with
    | infinity t => cases t <;> rfl
    | finite t n f =>
      -- Exponents are compared before significands, both in the same direction.
      have exponents : compare e f = (compare f e).swap := Std.OrientedOrd.eq_swap
      have significands : compare m n = (compare n m).swap := Std.OrientedOrd.eq_swap
      have both : (compare e f).then (compare m n) = ((compare f e).then (compare n m)).swap := by
        rw [Ordering.swap_then, exponents, significands]
      cases s with
      | negative =>
        cases t with
        | negative => exact congrArg (fun order => some order.swap) both
        | positive => rfl
      | positive =>
        cases t with
        | negative => rfl
        | positive => exact congrArg some both
    | _ => cases s <;> rfl

theorem double_beq_comm (x y : Float) : (x == y) = (y == x) := by
  have swapped := compare_swap x.toModel.unpack y.toModel.unpack
  show (x.toModel.unpack.compare y.toModel.unpack == some .eq) = (y.toModel.unpack.compare x.toModel.unpack == some .eq)
  rw [swapped]
  cases y.toModel.unpack.compare x.toModel.unpack with
  | none => rfl
  | some order => cases order <;> rfl

theorem Number.beq_comm (m n : Number) : (m == n) = (n == m) := by
  cases m with
  | int m =>
    cases n with
    | int n =>
      show (m == n) = (n == m)
      exact BEq.comm
    | double y => rfl
  | double x =>
    cases n with
    | int n => rfl
    | double y => exact double_beq_comm x y

/-! ### Values -/

namespace Value

-- By recursion over both values at once; values of different forms are never equal.
mutual

theorem beq_comm (v w : Value) : v.beq w = w.beq v := by
  cases v with
  | null => cases w <;> rfl
  | bool a =>
    cases w with
    | bool b => exact BEq.comm
    | _ => rfl
  | number m =>
    cases w with
    | number n => exact Number.beq_comm m n
    | _ => rfl
  | string s =>
    cases w with
    | string t => exact BEq.comm
    | _ => rfl
  | array items =>
    cases w with
    | array others => exact beqItems_comm items others
    | _ => rfl
  | object fields =>
    cases w with
    | object others => exact beqFields_comm fields others
    | _ => rfl

theorem beqItems_comm (items others : List Value) : beqItems items others = beqItems others items := by
  cases items with
  | nil => cases others <;> rfl
  | cons v rest =>
    cases others with
    | nil => rfl
    | cons w others => rw [beqItems, beqItems, beq_comm v w, beqItems_comm rest others]

theorem beqFields_comm (fields others : Fields) : beqFields fields others = beqFields others fields := by
  cases fields with
  | nil => cases others <;> rfl
  | cons f rest =>
    cases others with
    | nil => rfl
    | cons g others =>
      obtain ⟨k, v⟩ := f
      obtain ⟨l, w⟩ := g
      have keys : (k == l) = (l == k) := BEq.comm
      rw [beqFields, beqFields, keys, beq_comm v w, beqFields_comm rest others]

end

end Value

end InfraAudit
