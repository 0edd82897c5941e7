import Mathlib.Order.Basic
import Mathlib.Algebra.Order.Ring.Nat

/-!
# Machine words of the executor

`cfx_types` gives the executor three unsigned widths: `u64` for base gas,
`U256` for every balance, nonce and gas amount, and `U512` for the one place
where a product of two `U256` must not overflow, the fee check of
`transact_preprocessing`. A word of `bits` bits is a `Fin (2 ^ bits)`, so an
out-of-range word cannot be built.

The `uint` crate panics whenever `+`, `-`, `*` or `/` leaves the width, and so
do `try_into().unwrap()` and `as_u64` on a value that does not fit. Each such
operation is a `checked…` function here, returning `none` exactly where the
Rust code would panic; the executor turns that `none` into a fault. The
operations that cannot panic are total: `saturatingMul` clamps at the
largest word, `fullMul` doubles the width, and `wrappingAdd` is the `u64`
addition of a release build, which wraps.

The model never uses `Fin`'s own `+`, `-` or `*`: they wrap silently, which is
what none of the Rust operations above do.

The ordered semiring structure of `ℕ` is imported here, at the bottom of the
development, so that `2 ^ n`, `min` and `List.sum` over `ℕ` elaborate to the
same instances in every module as under the whole of Mathlib.
-/

namespace Hemvm

/-- An unsigned machine word of `bits` bits. -/
abbrev Word (bits : Nat) := Fin (2 ^ bits)

/-- Rust `u64` (and `usize`, on the 64-bit targets the node is built for). -/
abbrev U64 := Word 64

abbrev U256 := Word 256

abbrev U512 := Word 512

namespace Word

variable {m n : Nat}

/-- Zero, at any width. -/
def zero : Word n := ⟨0, Nat.two_pow_pos n⟩

@[simp] theorem val_zero : (zero : Word n).val = 0 := rfl

/-- `a + b`, or `none` where the `uint` crate panics on overflow. -/
def checkedAdd (a b : Word n) : Option (Word n) :=
  if h : a.val + b.val < 2 ^ n then some ⟨a.val + b.val, h⟩ else none

/-- `a - b`, or `none` where the `uint` crate panics on underflow. -/
def checkedSub (a b : Word n) : Option (Word n) :=
  if h : b.val ≤ a.val then some ⟨a.val - b.val, by omega⟩ else none

/-- `a * b`, or `none` where the `uint` crate panics on overflow. -/
def checkedMul (a b : Word n) : Option (Word n) :=
  if h : a.val * b.val < 2 ^ n then some ⟨a.val * b.val, h⟩ else none

/-- `a / b`, or `none` where Rust panics on a zero divisor. -/
def checkedDiv (a b : Word n) : Option (Word n) :=
  if b.val = 0 then none
  else some ⟨a.val / b.val, Nat.lt_of_le_of_lt (Nat.div_le_self _ _) a.isLt⟩

/-- `saturating_mul`: the product, clamped at the largest word. -/
def saturatingMul (a b : Word n) : Word n :=
  ⟨Min.min (a.val * b.val) (2 ^ n - 1), by have := Nat.two_pow_pos n; omega⟩

/-- `u64` addition with overflow checks off (a release build): it wraps. -/
def wrappingAdd (a b : Word n) : Word n :=
  ⟨(a.val + b.val) % 2 ^ n, Nat.mod_lt _ (Nat.two_pow_pos n)⟩

/-- `a >> k`. -/
def shr (a : Word n) (k : Nat) : Word n :=
  ⟨a.val >>> k, by
    rw [Nat.shiftRight_eq_div_pow]
    exact Nat.lt_of_le_of_lt (Nat.div_le_self _ _) a.isLt⟩

/-- `Ord::min`. -/
def min (a b : Word n) : Word n := if a.val ≤ b.val then a else b

/-- A lossless conversion into a wider word: `U256::from(u64)`,
`U512::from(U256)`. -/
def widen (h : m ≤ n) (a : Word m) : Word n :=
  ⟨a.val, Nat.lt_of_lt_of_le a.isLt (Nat.pow_le_pow_right (by decide) h)⟩

/-- A conversion into a narrower word, or `none` where Rust panics:
`U256::try_from(U512).unwrap()`, `U256::as_u64`. -/
def cast (a : Word m) : Option (Word n) :=
  if h : a.val < 2 ^ n then some ⟨a.val, h⟩ else none

/-- `U256::full_mul`: the exact product of two `U256`, as a `U512`. -/
def fullMul (a b : U256) : U512 :=
  ⟨a.val * b.val, by
    rw [show (512 : Nat) = 256 + 256 from rfl, Nat.pow_add]
    exact Nat.mul_lt_mul_of_lt_of_le a.isLt (Nat.le_of_lt b.isLt) (Nat.two_pow_pos _)⟩

/-! ## Value lemmas

Each operation is characterised once by what it does to `val`; later
modules reason in `Nat` and `omega` from these. -/

/-- The shape every checked operation has: a guarded `some`. -/
private theorem guarded_eq_some {p : Prop} [Decidable p] {v : Nat} {hv : p → v < 2 ^ n}
    {c : Word n} :
    (if h : p then some (⟨v, hv h⟩ : Word n) else none) = some c ↔ p ∧ c.val = v := by
  by_cases h : p <;> simp [h, Fin.ext_iff, eq_comm]

private theorem guarded_eq_none {p : Prop} [Decidable p] {v : Nat} {hv : p → v < 2 ^ n} :
    (if h : p then some (⟨v, hv h⟩ : Word n) else none) = none ↔ ¬p := by
  by_cases h : p <;> simp [h]

theorem checkedAdd_eq_some {a b c : Word n} :
    checkedAdd a b = some c ↔ a.val + b.val < 2 ^ n ∧ c.val = a.val + b.val :=
  guarded_eq_some

theorem checkedAdd_eq_none {a b : Word n} :
    checkedAdd a b = none ↔ 2 ^ n ≤ a.val + b.val :=
  guarded_eq_none.trans Nat.not_lt

theorem checkedSub_eq_some {a b c : Word n} :
    checkedSub a b = some c ↔ b.val ≤ a.val ∧ c.val = a.val - b.val :=
  guarded_eq_some

theorem checkedSub_eq_none {a b : Word n} : checkedSub a b = none ↔ a.val < b.val :=
  guarded_eq_none.trans Nat.not_le

theorem checkedMul_eq_some {a b c : Word n} :
    checkedMul a b = some c ↔ a.val * b.val < 2 ^ n ∧ c.val = a.val * b.val :=
  guarded_eq_some

theorem cast_eq_some {a : Word m} {c : Word n} :
    cast a = some c ↔ a.val < 2 ^ n ∧ c.val = a.val :=
  guarded_eq_some

theorem cast_eq_none {a : Word m} : (cast a : Option (Word n)) = none ↔ 2 ^ n ≤ a.val :=
  guarded_eq_none.trans Nat.not_lt

theorem checkedAdd_of_lt {a b : Word n} (h : a.val + b.val < 2 ^ n) :
    ∃ c, checkedAdd a b = some c ∧ c.val = a.val + b.val :=
  ⟨_, dif_pos h, rfl⟩

theorem checkedSub_of_le {a b : Word n} (h : b.val ≤ a.val) :
    ∃ c, checkedSub a b = some c ∧ c.val = a.val - b.val :=
  ⟨_, dif_pos h, rfl⟩

theorem cast_of_lt {a : Word m} (h : a.val < 2 ^ n) :
    ∃ c : Word n, cast a = some c ∧ c.val = a.val :=
  ⟨_, dif_pos h, rfl⟩

@[simp] theorem val_saturatingMul (a b : Word n) :
    (saturatingMul a b).val = Min.min (a.val * b.val) (2 ^ n - 1) := rfl

/-- `saturating_mul` is the exact product whenever that product fits. -/
theorem val_saturatingMul_of_lt {a b : Word n} (h : a.val * b.val < 2 ^ n) :
    (saturatingMul a b).val = a.val * b.val := by
  simp only [val_saturatingMul]; omega

@[simp] theorem val_wrappingAdd (a b : Word n) :
    (wrappingAdd a b).val = (a.val + b.val) % 2 ^ n := rfl

@[simp] theorem val_shr (a : Word n) (k : Nat) : (shr a k).val = a.val / 2 ^ k :=
  Nat.shiftRight_eq_div_pow _ _

@[simp] theorem val_min (a b : Word n) : (min a b).val = Min.min a.val b.val := by
  unfold min; split <;> omega

@[simp] theorem val_widen (h : m ≤ n) (a : Word m) : (widen h a).val = a.val := rfl

@[simp] theorem val_fullMul (a b : U256) : (fullMul a b).val = a.val * b.val := rfl

end Word

end Hemvm
