import Hemvm.Types

/-!
# Base gas and the gas settlement

Two pieces of `executor.rs` arithmetic, separated from the state so that
their laws can be stated over plain numbers.

`gasRequiredFor` is `gas_required_for`: the base gas of a transaction, a fold
over its data in `u64`, wrapping as a release build computes it. `settleGas` is the middle of
`transact_postprocessing`, from `gas_used` to the refund: it decides whether
the transaction was over-gassed (`charge_all`) and splits the gas limit into
what is charged and what is refunded.

## Main results

* `gasRequiredFor_closed_form` — below the bounds of a real gas schedule the
  fold never wraps: the base gas is the base plus `tx_data_zero_gas` per zero
  byte and `tx_data_non_zero_gas` per other byte.
* `settleGas_eq_none` — the settlement panics exactly when `gas_left`
  exceeds the gas limit or three times `gas_left` leaves `U256`.
* `settleGas_spec` — on success, the charged gas is the limit minus a quarter
  of it when at least a quarter was left, and the gas used otherwise; the fee
  and the refund are the saturated products of the charged and the remaining
  gas with the price.
* `settleGas_gasCharged_eq_max` — the charged gas is
  `max gas_used ⌈3·gas/4⌉`.
-/

namespace Hemvm

/-- `gas_required_for`: the base gas (`tx_create_gas` or `tx_gas`) plus the
data gas of every byte, added in `u64`.

The `+` of the fold is modelled as a build without overflow checks computes
it (the default of a release build): it wraps. With overflow checks on, the
fold panics at the first sum past `2 ^ 64 - 1` instead. The two builds agree
below the bound of `gasRequiredFor_closed_form`, which every real gas
schedule meets; over every `Spec`, the results that preprocessing never
panics (`transactPreprocessing_ne_panic`, and `transact_panic` through it)
are results about the release build. -/
def gasRequiredFor (isCreate : Bool) (data : Bytes) (spec : Spec) : U64 :=
  data.foldl
    (fun g b => Word.wrappingAdd g (if b = 0 then spec.txDataZeroGas else spec.txDataNonZeroGas))
    (if isCreate then spec.txCreateGas else spec.txGas)

/-- The fold of `gas_required_for` from any start `g`, as long as nothing it
adds reaches `2 ^ 64`: every addition is exact. -/
theorem val_foldl_wrappingAdd_dataGas (zero nonZero : U64) (data : Bytes) (g : U64)
    (hFit : g.val + zero.val * data.count 0 + nonZero.val * data.countP (· != 0) < 2 ^ 64) :
    (data.foldl (fun g b => Word.wrappingAdd g (if b = 0 then zero else nonZero)) g).val =
      g.val + zero.val * data.count 0 + nonZero.val * data.countP (· != 0) := by
  induction data generalizing g with
  | nil => simp
  | cons b data ih =>
    rw [List.foldl_cons]
    by_cases hb : b = 0
    · subst hb
      simp only [List.count_cons_self, List.countP_cons, bne_self_eq_false, Bool.false_eq_true,
        if_false, if_true, Nat.add_zero, Nat.mul_succ] at hFit ⊢
      rw [ih _ (by rw [Word.val_wrappingAdd]; omega), Word.val_wrappingAdd]
      omega
    · have hne : (b != 0) = true := bne_iff_ne.mpr hb
      simp only [List.count_cons_of_ne (Ne.symm hb), List.countP_cons, hne, hb, if_true, if_false,
        Nat.mul_succ] at hFit ⊢
      rw [ih _ (by rw [Word.val_wrappingAdd]; omega), Word.val_wrappingAdd]
      omega

/-- Every byte is a zero byte or a non-zero one. -/
theorem count_zero_add_countP_ne_zero (data : Bytes) :
    data.count 0 + data.countP (· != 0) = data.length := by
  rw [List.length_eq_countP_add_countP (· == 0)]
  simp only [List.count, bne, beq_iff_eq, decide_not]
  rfl

/-- **Base gas in closed form**: while the gas schedule stays below `2 ^ 32`
and the data below `2 ^ 31` bytes, the `u64` fold never wraps, and the base gas
is the base plus the data gas of the zero and of the non-zero bytes. -/
theorem gasRequiredFor_closed_form (isCreate : Bool) (data : Bytes) (spec : Spec)
    (hTxGas : spec.txGas.val < 2 ^ 32) (hTxCreateGas : spec.txCreateGas.val < 2 ^ 32)
    (hZeroGas : spec.txDataZeroGas.val < 2 ^ 32)
    (hNonZeroGas : spec.txDataNonZeroGas.val < 2 ^ 32) (hLength : data.length < 2 ^ 31) :
    (gasRequiredFor isCreate data spec).val =
      (if isCreate then spec.txCreateGas else spec.txGas).val +
        spec.txDataZeroGas.val * data.count 0 +
          spec.txDataNonZeroGas.val * data.countP (· != 0) := by
  have hBase : (if isCreate then spec.txCreateGas else spec.txGas).val < 2 ^ 32 := by
    split <;> assumption
  have hZero := Nat.mul_le_mul_right (data.count 0) hZeroGas.le
  have hNonZero := Nat.mul_le_mul_right (data.countP (· != 0)) hNonZeroGas.le
  have hCount := count_zero_add_countP_ne_zero data
  exact val_foldl_wrappingAdd_dataGas _ _ data _ (by omega)

theorem gasRequiredFor_closed_form_call :
    (gasRequiredFor false [0, 1, 2] ⟨21000, 53000, 4, 16, 0⟩).val = 21000 + 4 * 1 + 16 * 2 :=
  gasRequiredFor_closed_form false [0, 1, 2] ⟨21000, 53000, 4, 16, 0⟩
    (by decide) (by decide) (by decide) (by decide) (by decide)

/-- The values the settlement of `transact_postprocessing` computes. -/
structure GasSettlement where
  gasUsed : U256
  gasCharged : U256
  feesValue : U256
  refundValue : U256
  deriving DecidableEq, Repr

/-- The settlement of `transact_postprocessing`, `none` where it panics. -/
def settleGas (gas gasLeft gasPrice : U256) : Option GasSettlement := do
  -- gas_used is only used to estimate gas needed
  let gasUsed ← Word.checkedSub gas gasLeft
  -- gas_left should be smaller than 1/4 of gas_limit, otherwise
  -- 3/4 of gas_limit is charged.
  let chargeAll : Bool := (← Word.checkedAdd (← Word.checkedAdd gasLeft gasLeft) gasLeft) ≥ gasUsed
  if chargeAll then
    let gasRefunded := Word.shr gas 2
    let gasCharged ← Word.checkedSub gas gasRefunded
    return ⟨gasUsed, gasCharged, Word.saturatingMul gasCharged gasPrice,
      Word.saturatingMul gasRefunded gasPrice⟩
  else
    return ⟨gasUsed, gasUsed, Word.saturatingMul gasUsed gasPrice,
      Word.saturatingMul gasLeft gasPrice⟩

section Settlement

variable {gas gasLeft gasPrice : U256} {s : GasSettlement}

/-- The quarter refunded on the over-gassed path never exceeds the limit. -/
private theorem shr_two_le (gas : U256) : (Word.shr gas 2).val ≤ gas.val := by
  simp only [Word.val_shr]; omega

/-- **The settlement, on success**: the charged gas is the limit minus a
quarter when at least a quarter of it was left, the gas used otherwise; fee
and refund are the saturated products of the charged and the remaining gas
with the price. -/
theorem settleGas_spec (h : settleGas gas gasLeft gasPrice = some s) :
    gasLeft.val ≤ gas.val ∧ 3 * gasLeft.val < 2 ^ 256 ∧
    s.gasUsed.val = gas.val - gasLeft.val ∧
    s.gasCharged.val =
      (if gas.val ≤ 4 * gasLeft.val then gas.val - gas.val / 4 else gas.val - gasLeft.val) ∧
    s.feesValue = Word.saturatingMul s.gasCharged gasPrice ∧
    s.refundValue.val = min ((gas.val - s.gasCharged.val) * gasPrice.val) (2 ^ 256 - 1) := by
  unfold settleGas at h
  obtain ⟨gasUsed, hUsed, h⟩ := Option.bind_eq_some.mp h
  obtain ⟨twoGasLeft, hTwo, h⟩ := Option.bind_eq_some.mp h
  obtain ⟨threeGasLeft, hThree, h⟩ := Option.bind_eq_some.mp h
  obtain ⟨hle, hUsedVal⟩ := Word.checkedSub_eq_some.mp hUsed
  have hTwoVal := (Word.checkedAdd_eq_some.mp hTwo).2
  obtain ⟨hFit, hThreeVal⟩ := Word.checkedAdd_eq_some.mp hThree
  dsimp only at h
  split at h
  · rename_i hAll
    obtain ⟨gasCharged, hc, hs⟩ := Option.bind_eq_some.mp h
    cases hs
    have hcVal := (Word.checkedSub_eq_some.mp hc).2
    have hAll' : gasUsed.val ≤ threeGasLeft.val := of_decide_eq_true hAll
    simp only [Word.val_shr] at hcVal
    refine ⟨hle, by omega, hUsedVal, ?_, rfl, ?_⟩
    · rw [if_pos (by omega)]; exact hcVal
    · simp only [Word.val_saturatingMul, Word.val_shr]
      congr 2; omega
  · rename_i hNotAll
    cases h
    have hNotAll' : ¬ gasUsed.val ≤ threeGasLeft.val := fun h => hNotAll (decide_eq_true h)
    refine ⟨hle, by omega, hUsedVal, ?_, rfl, ?_⟩
    · rw [if_neg (by omega)]; exact hUsedVal
    · simp only [Word.val_saturatingMul]
      congr 2; omega

/-- The settlement succeeds whenever `gas_left` fits the limit and its triple
fits a word. -/
theorem settleGas_isSome (hle : gasLeft.val ≤ gas.val) (hFit : 3 * gasLeft.val < 2 ^ 256) :
    (settleGas gas gasLeft gasPrice).isSome := by
  have := shr_two_le gas
  unfold settleGas Word.checkedSub Word.checkedAdd
  simp (disch := omega) only [dif_pos, Option.bind_eq_bind, Option.some_bind]
  split <;> rfl

/-- **When the settlement panics**: exactly when `gas_left` exceeds the gas
limit, or `gas_left + gas_left + gas_left` overflows. -/
theorem settleGas_eq_none :
    settleGas gas gasLeft gasPrice = none ↔
      gas.val < gasLeft.val ∨ 2 ^ 256 ≤ 3 * gasLeft.val := by
  rw [← Option.not_isSome_iff_eq_none]
  constructor
  · intro h
    by_contra hc
    exact h (settleGas_isSome (by omega) (by omega))
  · intro hc hs
    obtain ⟨s, h⟩ := Option.isSome_iff_exists.mp hs
    have := settleGas_spec h
    omega

/-- **Closed form of the charged gas**: `max gas_used ⌈3·gas/4⌉`, hence
between `⌈3·gas/4⌉` and the limit. -/
theorem settleGas_gasCharged_eq_max (h : settleGas gas gasLeft gasPrice = some s) :
    s.gasCharged.val = max s.gasUsed.val ((3 * gas.val + 3) / 4) := by
  obtain ⟨hle, -, hUsed, hCharged, -⟩ := settleGas_spec h
  rw [hCharged, hUsed]
  split <;> omega

/-- **No saturation where the full fee fits a word**: then the fee is the
charged gas times the price and the refund the rest of the limit times the
price, both exactly. -/
theorem settleGas_exact (h : settleGas gas gasLeft gasPrice = some s)
    (hFit : gas.val * gasPrice.val < 2 ^ 256) :
    s.gasCharged.val ≤ gas.val ∧ s.feesValue.val = s.gasCharged.val * gasPrice.val ∧
      s.refundValue.val = (gas.val - s.gasCharged.val) * gasPrice.val := by
  obtain ⟨-, -, -, hCharged, hFees, hRefund⟩ := settleGas_spec h
  have hle : s.gasCharged.val ≤ gas.val := by rw [hCharged]; split <;> omega
  have hFeeFit := Nat.lt_of_le_of_lt (Nat.mul_le_mul_right gasPrice.val hle) hFit
  have hRefundFit :=
    Nat.lt_of_le_of_lt (Nat.mul_le_mul_right gasPrice.val (Nat.sub_le gas.val s.gasCharged.val)) hFit
  refine ⟨hle, by rw [hFees]; exact Word.val_saturatingMul_of_lt hFeeFit, ?_⟩
  rw [hRefund]; omega

end Settlement

end Hemvm
