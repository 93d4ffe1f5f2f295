import Mathlib.Order.Basic
import Mathlib.Algebra.Order.Group.Nat

/-!
# CkbLightClient — machine arithmetic of the proof verifier

The verifier computes with three kinds of machine numbers: `u64` block and epoch
numbers, `usize` counts of headers, and 256-bit difficulties (`U256`). Rust panics
when a `u64`/`usize` subtraction underflows (debug builds), when a `U256` operator
overflows, and when a slice or an index is out of range. The model keeps every one
of these as an explicit exit, so that "the function never panics" is a statement
about the model and not an assumption of it.

* `U256` carries its bound as a field; the saturating and checked operations of the
  source are total on it, the plain operators return `Exit.panic` on overflow.
* `Exit ε` is how a call ends without a value: `Err(e)` or a panic.
* `subU`, `addU64`, `getOrPanic`, `sliceOrPanic` are the fallible steps of the source.
-/

namespace CkbLightClient

/-- The number of `U256` values. -/
def U256.size : Nat := 2 ^ 256

/-- A 256-bit unsigned difficulty; the bound is part of the value. -/
structure U256 where
  val : Nat
  isLt : val < U256.size
  deriving DecidableEq, Repr

namespace U256

theorem size_pos : 0 < size := Nat.two_pow_pos 256

/-- `U256::max_value()`. -/
def maxValue : U256 := ⟨size - 1, Nat.sub_lt size_pos Nat.one_pos⟩

/-- A literal, reduced modulo `2 ^ 256`. -/
def ofNat (n : Nat) : U256 := ⟨n % size, Nat.mod_lt _ size_pos⟩

instance (n : Nat) : OfNat U256 n := ⟨ofNat n⟩

theorem ext_val {a b : U256} (h : a.val = b.val) : a = b := by
  cases a; cases b; simp only at h; subst h; rfl

/-- Difficulties are compared as numbers. -/
instance : LinearOrder U256 := LinearOrder.lift' U256.val fun _ _ => ext_val

theorem lt_def {a b : U256} : a < b ↔ a.val < b.val := Iff.rfl
theorem le_def {a b : U256} : a ≤ b ↔ a.val ≤ b.val := Iff.rfl

@[simp] theorem val_ofNat (n : Nat) : (ofNat n).val = n % size := rfl

theorem val_ofNat_of_lt {n : Nat} (h : n < size) : (ofNat n).val = n := Nat.mod_eq_of_lt h

@[simp] theorem ofNat_val (a : U256) : ofNat a.val = a :=
  ext_val (val_ofNat_of_lt a.isLt)

/-- `a.saturating_mul(&b)`: the product, or `U256::max_value()` when it does not fit. -/
def saturatingMul (a b : U256) : U256 :=
  ⟨min (a.val * b.val) (size - 1), lt_of_le_of_lt (min_le_right _ _) maxValue.isLt⟩

@[simp] theorem val_saturatingMul (a b : U256) :
    (a.saturatingMul b).val = min (a.val * b.val) (size - 1) := rfl

/-- `a / tau` (the `DivAssign<u64>` of the source), rounding down. -/
def divU64 (a : U256) (d : Nat) : U256 :=
  ⟨a.val / d, lt_of_le_of_lt (Nat.div_le_self _ _) a.isLt⟩

@[simp] theorem val_divU64 (a : U256) (d : Nat) : (a.divU64 d).val = a.val / d := rfl

/-- `a.checked_add(&b)`. -/
def checkedAdd (a b : U256) : Option U256 :=
  if h : a.val + b.val < size then some ⟨a.val + b.val, h⟩ else none

theorem checkedAdd_eq_some {a b c : U256} :
    a.checkedAdd b = some c ↔ a.val + b.val < size ∧ c.val = a.val + b.val := by
  unfold checkedAdd
  split
  · refine ⟨fun h => ?_, fun h => ?_⟩
    · cases h; exact ⟨‹_›, rfl⟩
    · exact congrArg some (ext_val h.2.symm)
  · simp only [reduceCtorEq, false_iff, not_and]
    exact fun h' => absurd h' ‹_›

theorem checkedAdd_eq_none {a b : U256} : a.checkedAdd b = none ↔ size ≤ a.val + b.val := by
  unfold checkedAdd
  split <;> simp_all

/-! ### Literals that fit

On values below `2 ^ 256` the operations compute on the numbers. -/

theorem ofNat_le_ofNat {a b : Nat} (ha : a < size) (hb : b < size) :
    ofNat a ≤ ofNat b ↔ a ≤ b := by
  rw [le_def, val_ofNat_of_lt ha, val_ofNat_of_lt hb]

theorem ofNat_lt_ofNat {a b : Nat} (ha : a < size) (hb : b < size) :
    ofNat a < ofNat b ↔ a < b := by
  rw [lt_def, val_ofNat_of_lt ha, val_ofNat_of_lt hb]

theorem divU64_ofNat {n : Nat} (h : n < size) (m : Nat) : (ofNat n).divU64 m = ofNat (n / m) :=
  ext_val (by
    rw [val_divU64, val_ofNat_of_lt h, val_ofNat_of_lt (lt_of_le_of_lt (Nat.div_le_self _ _) h)])

theorem saturatingMul_ofNat {a b : Nat} (ha : a < size) (hb : b < size) (h : a * b < size) :
    (ofNat a).saturatingMul (ofNat b) = ofNat (a * b) :=
  ext_val (by
    rw [val_saturatingMul, val_ofNat_of_lt ha, val_ofNat_of_lt hb, val_ofNat_of_lt h]
    exact min_eq_left (Nat.le_sub_one_of_lt h))

theorem checkedAdd_ofNat {a b : Nat} (h : a + b < size) :
    (ofNat a).checkedAdd (ofNat b) = some (ofNat (a + b)) := by
  have ha : a < size := by omega
  have hb : b < size := by omega
  rw [checkedAdd_eq_some, val_ofNat_of_lt ha, val_ofNat_of_lt hb, val_ofNat_of_lt h]
  exact ⟨h, rfl⟩

end U256

/-- How a Rust call ends without producing its value: it returns `Err(e)`, or it
panics (arithmetic overflow, an index or slice out of range, `panic!`, `assert!`). -/
inductive Exit (ε : Type) where
  | err (e : ε)
  | panic
  deriving DecidableEq, Repr

/-- The bound of a `u64`. -/
def u64Size : Nat := 2 ^ 64

section Fallible

variable {ε α : Type}

/-- `a - b` on `u64` or `usize`: panics when it would underflow. -/
def subU (a b : Nat) : Except (Exit ε) Nat :=
  if b ≤ a then .ok (a - b) else .error .panic

/-- `a + b` on `u64`: panics when it would overflow. -/
def addU64 (a b : Nat) : Except (Exit ε) Nat :=
  if a + b < u64Size then .ok (a + b) else .error .panic

/-- `xs[i]`: panics when `i` is out of range. -/
def getOrPanic (xs : List α) (i : Nat) : Except (Exit ε) α :=
  match xs[i]? with
  | some x => .ok x
  | none => .error .panic

/-- `&xs[a..b]`: panics unless `a ≤ b ≤ xs.len()`. -/
def sliceOrPanic (xs : List α) (a b : Nat) : Except (Exit ε) (List α) :=
  if a ≤ b ∧ b ≤ xs.length then .ok ((xs.drop a).take (b - a)) else .error .panic

/-- `xs.split_off(i)`, the part it returns: panics when `i > xs.len()`. -/
def splitOffOrPanic (xs : List α) (i : Nat) : Except (Exit ε) (List α) :=
  if i ≤ xs.length then .ok (xs.drop i) else .error .panic

/-- `a * b` on `U256` (with `b` a `u64` or a `U256`): panics when it overflows. -/
def mulU256 (a : U256) (b : Nat) : Except (Exit ε) U256 :=
  if h : a.val * b < U256.size then .ok ⟨a.val * b, h⟩ else .error .panic

/-- `a + b` on `U256`: panics when it overflows. -/
def addU256 (a b : U256) : Except (Exit ε) U256 :=
  if h : a.val + b.val < U256.size then .ok ⟨a.val + b.val, h⟩ else .error .panic

/-- `a - b` on `U256`: panics when it underflows. -/
def subU256 (a b : U256) : Except (Exit ε) U256 :=
  if b.val ≤ a.val then .ok ⟨a.val - b.val, lt_of_le_of_lt (Nat.sub_le _ _) a.isLt⟩
  else .error .panic

@[simp] theorem subU_of_le {a b : Nat} (h : b ≤ a) :
    (subU a b : Except (Exit ε) Nat) = .ok (a - b) :=
  if_pos h

@[simp] theorem subU_of_lt {a b : Nat} (h : a < b) :
    (subU a b : Except (Exit ε) Nat) = .error .panic :=
  if_neg (Nat.not_le.mpr h)

@[simp] theorem addU64_of_lt {a b : Nat} (h : a + b < u64Size) :
    (addU64 a b : Except (Exit ε) Nat) = .ok (a + b) :=
  if_pos h

theorem subU_eq_ok {a b c : Nat} :
    (subU a b : Except (Exit ε) Nat) = .ok c ↔ b ≤ a ∧ c = a - b := by
  unfold subU
  split <;> simp_all [eq_comm]

theorem addU64_eq_ok {a b c : Nat} :
    (addU64 a b : Except (Exit ε) Nat) = .ok c ↔ a + b < u64Size ∧ c = a + b := by
  unfold addU64
  split <;> simp_all [eq_comm]

@[simp] theorem getOrPanic_of_lt {xs : List α} {i : Nat} (h : i < xs.length) :
    (getOrPanic xs i : Except (Exit ε) α) = .ok xs[i] := by
  simp [getOrPanic, List.getElem?_eq_getElem h]

theorem getOrPanic_eq_ok {xs : List α} {i : Nat} {x : α} :
    (getOrPanic xs i : Except (Exit ε) α) = .ok x ↔ xs[i]? = some x := by
  unfold getOrPanic
  cases xs[i]? <;> simp

@[simp] theorem sliceOrPanic_of_le {xs : List α} {a b : Nat} (h₁ : a ≤ b)
    (h₂ : b ≤ xs.length) :
    (sliceOrPanic xs a b : Except (Exit ε) (List α)) = .ok ((xs.drop a).take (b - a)) :=
  if_pos ⟨h₁, h₂⟩

theorem sliceOrPanic_eq_ok {xs ys : List α} {a b : Nat} :
    (sliceOrPanic xs a b : Except (Exit ε) (List α)) = .ok ys ↔
      a ≤ b ∧ b ≤ xs.length ∧ ys = (xs.drop a).take (b - a) := by
  unfold sliceOrPanic
  split <;> simp_all [eq_comm]

theorem splitOffOrPanic_eq_ok {xs ys : List α} {i : Nat} :
    (splitOffOrPanic xs i : Except (Exit ε) (List α)) = .ok ys ↔
      i ≤ xs.length ∧ ys = xs.drop i := by
  unfold splitOffOrPanic
  split <;> simp_all [eq_comm]

theorem addU256_eq_ok {a b c : U256} :
    (addU256 a b : Except (Exit ε) U256) = .ok c ↔
      a.val + b.val < U256.size ∧ c.val = a.val + b.val := by
  unfold addU256
  split
  · refine ⟨fun h => ?_, fun h => ?_⟩
    · cases h; exact ⟨‹_›, rfl⟩
    · exact congrArg Except.ok (U256.ext_val h.2.symm)
  · simp only [reduceCtorEq, false_iff, not_and]
    exact fun h' => absurd h' ‹_›

theorem mulU256_eq_ok {a c : U256} {b : Nat} :
    (mulU256 a b : Except (Exit ε) U256) = .ok c ↔
      a.val * b < U256.size ∧ c.val = a.val * b := by
  unfold mulU256
  split
  · refine ⟨fun h => ?_, fun h => ?_⟩
    · cases h; exact ⟨‹_›, rfl⟩
    · exact congrArg Except.ok (U256.ext_val h.2.symm)
  · simp only [reduceCtorEq, false_iff, not_and]
    exact fun h' => absurd h' ‹_›

theorem mulU256_ofNat {a b : Nat} (ha : a < U256.size) (h : a * b < U256.size) :
    (mulU256 (.ofNat a) b : Except (Exit ε) U256) = .ok (.ofNat (a * b)) := by
  rw [mulU256_eq_ok, U256.val_ofNat_of_lt ha, U256.val_ofNat_of_lt h]
  exact ⟨h, rfl⟩

theorem addU256_ofNat {a b : Nat} (h : a + b < U256.size) :
    (addU256 (.ofNat a) (.ofNat b) : Except (Exit ε) U256) = .ok (.ofNat (a + b)) := by
  have ha : a < U256.size := by omega
  have hb : b < U256.size := by omega
  rw [addU256_eq_ok, U256.val_ofNat_of_lt ha, U256.val_ofNat_of_lt hb, U256.val_ofNat_of_lt h]
  exact ⟨h, rfl⟩

theorem subU256_ofNat {a b : Nat} (ha : a < U256.size) (hb : b ≤ a) :
    (subU256 (.ofNat a) (.ofNat b) : Except (Exit ε) U256) = .ok (.ofNat (a - b)) := by
  have hb' : b < U256.size := by omega
  have hle : (U256.ofNat b).val ≤ (U256.ofNat a).val := by
    rwa [U256.val_ofNat_of_lt ha, U256.val_ofNat_of_lt hb']
  rw [subU256, if_pos hle]
  exact congrArg Except.ok (U256.ext_val (by
    show (U256.ofNat a).val - (U256.ofNat b).val = (U256.ofNat (a - b)).val
    rw [U256.val_ofNat_of_lt ha, U256.val_ofNat_of_lt hb', U256.val_ofNat_of_lt (by omega)]))

@[simp] theorem pure_eq_ok (a : α) : (pure a : Except (Exit ε) α) = .ok a := rfl

@[simp] theorem throw_eq_error (e : Exit ε) : (throw e : Except (Exit ε) α) = .error e := rfl

/-- Binding an `Ok` runs the continuation. -/
@[simp] theorem ok_bind {β : Type} (a : α) (f : α → Except (Exit ε) β) :
    (Except.ok a >>= f) = f a := rfl

@[simp] theorem error_bind {β : Type} (e : Exit ε) (f : α → Except (Exit ε) β) :
    ((Except.error e : Except (Exit ε) α) >>= f) = .error e := rfl

/-- A guard that throws succeeds exactly when its condition fails. -/
@[simp] theorem ite_error_eq_ok {c : Prop} [Decidable c] {e : Exit ε} {t : Except (Exit ε) α}
    {a : α} :
    ((if c then .error e else t) = .ok a) ↔ ¬ c ∧ t = .ok a := by
  split <;> simp_all

/-- Peeling one successful step off a chain of binds. -/
theorem bind_eq_ok {β : Type} {x : Except (Exit ε) α} {f : α → Except (Exit ε) β} {b : β} :
    (x >>= f) = .ok b ↔ ∃ a, x = .ok a ∧ f a = .ok b := by
  cases x <;> simp

/-- A collaborator's check whose error becomes an early return passes when the check does. -/
@[simp] theorem mapError_err_eq_ok {x : Except ε α} {a : α} :
    (x.mapError Exit.err : Except (Exit ε) α) = .ok a ↔ x = .ok a := by
  cases x <;> simp [Except.mapError]

end Fallible

end CkbLightClient
