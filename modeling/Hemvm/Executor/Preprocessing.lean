import Hemvm.Executor.Basic

/-!
# `transact_preprocessing`

The checks that decide whether a transaction is admitted, in the source's
order: the nonce, the base gas, the balance against value plus gas cost (in
`U512`), the existence of the sender; then the nonce bump, the fee debit and
the root frame.

## Main results

* `transactPreprocessing_run` — every run is one of the four cases of
  `PreprocessingRun`: a reject that leaves the context untouched, a
  not-enough-cash charge, a pass, or the state's nonce overflow.
-/

namespace Hemvm

open ExecM

/-- `transact_preprocessing`. -/
def transactPreprocessing (x : TXExecutor) (tx : Transaction) (options : TransactOptions) :
    ExecM PreCheckResult := do
  let ⟨observer, checkSettings⟩ := options
  let spec := x.spec
  let sender := tx.sender
  let nonce ← read (·.nonce sender)
  -- Validate transaction nonce
  if tx.nonce < nonce then
    return .fail (.notExecutedDrop (.oldNonce nonce tx.nonce))
  else if tx.nonce > nonce then
    return .fail (.notExecutedToReconsiderPacking (.invalidNonce nonce tx.nonce))
  let baseGasRequired := gasRequiredFor (decide (tx.action = .create)) tx.data spec
  if tx.gas < Word.widen (by decide) baseGasRequired then
    return .fail (.notExecutedDrop (.notEnoughBaseGas baseGasRequired (← orPanic (Word.cast tx.gas))))
  let balance ← read (·.balance sender)
  let gasCost : U512 := if checkSettings.chargeGas then Word.fullMul tx.gas tx.gasPrice else Word.zero
  let senderBalance : U512 := Word.widen (by decide) balance
  let totalCost ← orPanic (Word.checkedAdd (Word.widen (by decide) tx.value) gasCost)
  let txSubstate := Substate.new
  if senderBalance < totalCost then
    -- Sender is responsible for the insufficient balance.
    let actualGasCost : U256 ← orPanic (Word.cast (Word.min gasCost senderBalance))
    -- We don't want to bump nonce for non-existent account when we
    -- can't charge gas fee.
    if !(← read (·.exists sender)) && checkSettings.realExecution then
      return .fail (.notExecutedToReconsiderPacking .senderDoesNotExist)
    write (.incNonce sender spec.accountStartNonce)
    write (.subBalance sender actualGasCost)
    let observer ← traceInternalTransfer observer
      (.balance (sender.address.withSpace tx.space)) .gasPayment actualGasCost
    return .fail (.executionErrorBumpNonce
      (.notEnoughCash totalCost senderBalance actualGasCost)
      (Executed.notEnoughBalanceFeeCharged tx actualGasCost observer.drain spec))
  else
    write (.incNonce sender spec.accountStartNonce)
  -- Subtract the transaction fee from sender or contract.
  let gasCost : U256 ← orPanic (Word.cast gasCost)
  let observer ← traceInternalTransfer observer
    (.balance (sender.address.withSpace tx.space)) .gasPayment gasCost
  write (.subBalance sender gasCost)
  let initGas ← orPanic (Word.checkedSub tx.gas (Word.widen (by decide) baseGasRequired))
  let topFrame ← match tx.action with
    | .create => do
      let addressScheme := match tx.space with
        | .ethereum => CreateContractAddress.fromSenderNonce
      let (newAddress, _codeHash) := x.machine.contractAddress addressScheme
        (Word.widen (by decide) x.env.number) sender nonce tx.data
      let params : ActionParams :=
        { space := sender.space, codeAddress := newAddress.address, codeHash := none,
          address := newAddress.address, sender := sender.address,
          originalSender := sender.address, gas := initGas, gasPrice := tx.gasPrice,
          value := .transfer tx.value, code := some tx.data, data := none,
          callType := .none, createType := .create, paramsType := .embedded }
      pure (CallCreateFrame.newCreateRaw params 0 false)
    | .call address => do
      let address := address.withSpace sender.space
      let params : ActionParams :=
        { space := sender.space, codeAddress := address.address, address := address.address,
          sender := sender.address, originalSender := sender.address, gas := initGas,
          gasPrice := tx.gasPrice, value := .transfer tx.value,
          code := ← read (·.code address), codeHash := ← read (·.codeHash address),
          data := some tx.data, callType := .call, createType := .none,
          paramsType := .separate }
      pure (CallCreateFrame.newCallRaw params 0 false)
  return .pass topFrame (FrameStack.new txSubstate observer baseGasRequired)

/-- The base gas of a transaction, as `transact_preprocessing` computes it. -/
def TXExecutor.baseGas (x : TXExecutor) (tx : Transaction) : U64 :=
  gasRequiredFor (decide (tx.action = .create)) tx.data x.spec

/-- The gas fee preprocessing charges: the limit times the price, when gas is
charged at all. -/
def gasCostOf (settings : TransactCheckSettings) (tx : Transaction) : Nat :=
  if settings.chargeGas then tx.gas.val * tx.gasPrice.val else 0

/-- The trace pocket of the sender's balance. -/
def senderPocket (tx : Transaction) : AddressPocket :=
  .balance (tx.sender.address.withSpace tx.space)

/-- **What one run of `transact_preprocessing` can do**, from the context
`c`: reject and leave `c` as it was, charge a sender that cannot cover the
cost, admit the transaction, or stop on the state's nonce overflow. -/
inductive PreprocessingRun (x : TXExecutor) (tx : Transaction) (options : TransactOptions)
    (c : Ctx) : Except Fault (PreCheckResult × Ctx) → Prop
  | reject {out : ExecutionOutcome} (hOut : out.IsReject) :
      PreprocessingRun x tx options c (.ok (.fail out, c))
  | notEnoughCash {required got : U512} {actualGasCost : U256} {w₁ w₂ : World}
      (hNonce : tx.nonce = c.world.nonce tx.sender)
      (hBase : (x.baseGas tx).val ≤ tx.gas.val)
      (hRequired : required.val = tx.value.val + gasCostOf options.checkSettings tx)
      (hGot : got.val = (c.world.balance tx.sender).val)
      (hShort : got.val < required.val)
      (hAdmit : c.world.exists tx.sender = true ∨ options.checkSettings.realExecution = false)
      (hActual : actualGasCost.val = min (gasCostOf options.checkSettings tx) got.val)
      (hInc : c.world.incNonce tx.sender x.spec.accountStartNonce = some w₁)
      (hSub : w₁.subBalance tx.sender actualGasCost = some w₂) :
      PreprocessingRun x tx options c (.ok (.fail (.executionErrorBumpNonce
        (.notEnoughCash required got actualGasCost)
        (Executed.notEnoughBalanceFeeCharged tx actualGasCost
          (options.observer.traceInternalTransfer (senderPocket tx) .gasPayment
            actualGasCost).drain x.spec)),
        ⟨w₂, c.effects ++ [.write (.incNonce tx.sender x.spec.accountStartNonce),
          .write (.subBalance tx.sender actualGasCost),
          .trace (senderPocket tx) .gasPayment actualGasCost]⟩))
  | pass {gasCost : U256} {top : CallCreateFrame} {w₁ w₂ : World}
      (hNonce : tx.nonce = c.world.nonce tx.sender)
      (hBase : (x.baseGas tx).val ≤ tx.gas.val)
      (hCovered : tx.value.val + gasCostOf options.checkSettings tx ≤
        (c.world.balance tx.sender).val)
      (hGasCost : gasCost.val = gasCostOf options.checkSettings tx)
      (hInc : c.world.incNonce tx.sender x.spec.accountStartNonce = some w₁)
      (hSub : w₁.subBalance tx.sender gasCost = some w₂)
      (hGas : top.params.gas.val = tx.gas.val - (x.baseGas tx).val)
      (hDepth : top.depth = 0) (hStatic : top.staticFlag = false) :
      PreprocessingRun x tx options c (.ok (.pass top (FrameStack.new Substate.new
          (options.observer.traceInternalTransfer (senderPocket tx) .gasPayment gasCost)
          (x.baseGas tx)),
        ⟨w₂, c.effects ++ [.write (.incNonce tx.sender x.spec.accountStartNonce),
          .trace (senderPocket tx) .gasPayment gasCost,
          .write (.subBalance tx.sender gasCost)]⟩))
  | nonceOverflow (hInc : c.world.incNonce tx.sender x.spec.accountStartNonce = none) :
      PreprocessingRun x tx options c (.error .statePanic)

/-- The value plus the full gas fee always fits `U512`: the overflow check of
`U512::from(value) + gas_cost` never fires. -/
theorem value_add_fee_lt (v g p : U256) (G : Nat) (hG : G ≤ g.val * p.val) : v.val + G < 2 ^ 512 := by
  have hMul : g.val * p.val ≤ (2 ^ 256 - 1) * (2 ^ 256 - 1) :=
    Nat.mul_le_mul (by have := g.isLt; omega) (by have := p.isLt; omega)
  have := v.isLt
  omega

/-- The `U512` gas cost is `gasCostOf`. -/
theorem gasCost_val (settings : TransactCheckSettings) (tx : Transaction) :
    (if settings.chargeGas then Word.fullMul tx.gas tx.gasPrice else Word.zero : U512).val =
      gasCostOf settings tx := by
  unfold gasCostOf; split <;> rfl

theorem gasCostOf_le (settings : TransactCheckSettings) (tx : Transaction) :
    gasCostOf settings tx ≤ tx.gas.val * tx.gasPrice.val := by
  unfold gasCostOf; split <;> omega

set_option exponentiation.threshold 600 in
/-- **Every run of `transact_preprocessing` is a `PreprocessingRun`.** The
proof follows the branches of the source: nonce, base gas, balance,
existence, then the writes; each `unwrap` and checked operation on the way is
shown to succeed from the bound established on an earlier branch. -/
theorem transactPreprocessing_run (x : TXExecutor) (tx : Transaction) (options : TransactOptions)
    (c : Ctx) : PreprocessingRun x tx options c ((transactPreprocessing x tx options).run c) := by
  obtain ⟨observer, settings⟩ := options
  unfold transactPreprocessing
  simp only [run_bind, run_read]
  have hGasCost := gasCost_val settings tx
  generalize (if settings.chargeGas = true then Word.fullMul tx.gas tx.gasPrice else Word.zero) =
    gasCost at hGasCost ⊢
  -- the nonce
  by_cases hLt : tx.nonce < c.world.nonce tx.sender
  · rw [if_pos hLt]; exact .reject trivial
  rw [if_neg hLt]
  by_cases hGt : tx.nonce > c.world.nonce tx.sender
  · rw [if_pos hGt]; exact .reject trivial
  rw [if_neg hGt]
  have hNonce : tx.nonce = c.world.nonce tx.sender :=
    Fin.ext (Nat.le_antisymm (Fin.not_lt.mp hGt) (Fin.not_lt.mp hLt))
  simp only [run_bind, run_pure]
  -- the base gas
  split
  · rename_i hLow
    obtain ⟨gas64, hCast, -⟩ := Word.cast_of_lt (n := 64) (a := tx.gas) (by
      have := (gasRequiredFor (decide (tx.action = .create)) tx.data x.spec).isLt
      rw [Fin.lt_def, Word.val_widen] at hLow; omega)
    simp only [hCast, run_bind, run_orPanic_some, run_pure]
    exact .reject trivial
  rename_i hBase
  have hBase' : (x.baseGas tx).val ≤ tx.gas.val := by
    rw [Fin.lt_def, Word.val_widen] at hBase; exact Nat.le_of_not_lt hBase
  -- the balance against value plus gas cost
  have hFit := value_add_fee_lt tx.value tx.gas tx.gasPrice _ (gasCostOf_le settings tx)
  obtain ⟨totalCost, hTotal, hTotalVal⟩ :=
    Word.checkedAdd_of_lt (a := Word.widen (by decide) tx.value) (b := gasCost)
      (by rw [Word.val_widen, hGasCost]; exact hFit)
  rw [hTotal]
  simp only [run_bind, run_pure, run_read, run_orPanic_some]
  have hBal := (c.world.balance tx.sender).isLt
  split
  · rename_i hShort
    obtain ⟨actual, hActual, hActualVal⟩ :=
      Word.cast_of_lt (n := 256) (a := Word.min gasCost (Word.widen (by decide) (c.world.balance tx.sender)))
        (by rw [Word.val_min, Word.val_widen]; omega)
    rw [hActual]
    simp only [run_bind, run_pure, run_read, run_orPanic_some]
    split
    · exact .reject trivial
    rename_i hAdmit
    simp only [run_bind, run_pure, run_write, StateWrite.apply]
    cases hInc : c.world.incNonce tx.sender x.spec.accountStartNonce with
    | none => exact .nonceOverflow hInc
    | some w₁ =>
      rw [Word.val_min, Word.val_widen, hGasCost] at hActualVal
      obtain ⟨w₂, hSub⟩ := Option.isSome_iff_exists.mp (@World.subBalance_isSome w₁ tx.sender
        actual (by rw [(World.incNonce_spec hInc).1]; omega))
      simp only [hSub, run_traceInternalTransfer, List.append_assoc, List.singleton_append]
      refine .notEnoughCash hNonce hBase' (by rw [hTotalVal, Word.val_widen, hGasCost]) rfl
        (by rw [Fin.lt_def] at hShort; exact hShort) ?_ hActualVal hInc hSub
      revert hAdmit
      cases c.world.exists tx.sender <;> cases settings.realExecution <;> decide
  · rename_i hCovered
    simp only [run_bind, run_pure, run_write, StateWrite.apply]
    cases hInc : c.world.incNonce tx.sender x.spec.accountStartNonce with
    | none => exact .nonceOverflow hInc
    | some w₁ =>
      have hCoveredVal : tx.value.val + gasCostOf settings tx ≤ (c.world.balance tx.sender).val := by
        rw [Fin.lt_def, hTotalVal, Word.val_widen, Word.val_widen, hGasCost] at hCovered; omega
      obtain ⟨gc, hgc, hgcVal⟩ := Word.cast_of_lt (n := 256) (a := gasCost) (by omega)
      rw [hGasCost] at hgcVal
      obtain ⟨w₂, hSub⟩ := Option.isSome_iff_exists.mp (@World.subBalance_isSome w₁ tx.sender
        gc (by rw [(World.incNonce_spec hInc).1]; omega))
      obtain ⟨initGas, hInit, hInitVal⟩ := Word.checkedSub_of_le (a := tx.gas)
        (b := Word.widen (by decide) (gasRequiredFor (decide (tx.action = .create)) tx.data x.spec))
        (by rw [Word.val_widen]; exact hBase')
      simp only [hgc, hSub, hInit, run_orPanic_some, run_traceInternalTransfer]
      split <;> simp only [run_bind, run_pure, run_read, List.append_assoc, List.singleton_append] <;>
        exact .pass hNonce hBase' hCoveredVal hgcVal hInc hSub hInitVal rfl rfl

/-- A pre-check result that rejects the transaction. -/
def PreCheckResult.IsReject : PreCheckResult → Prop
  | .fail out => out.IsReject
  | .pass _ _ => False

/-- **The only failure of preprocessing** is the state's `inc_nonce` on a
sender whose nonce is `2 ^ 256 - 1`. -/
theorem transactPreprocessing_fault (x : TXExecutor) (tx : Transaction)
    (options : TransactOptions) (c : Ctx) (f : Fault)
    (h : (transactPreprocessing x tx options).run c = .error f) :
    f = .statePanic ∧ c.world.incNonce tx.sender x.spec.accountStartNonce = none := by
  have hRun := transactPreprocessing_run x tx options c
  rw [h] at hRun
  cases hRun with
  | nonceOverflow hInc => exact ⟨rfl, hInc⟩

/-- **Preprocessing writes the sender's record only**, and never the
supply. -/
theorem transactPreprocessing_locality (x : TXExecutor) (tx : Transaction)
    (options : TransactOptions) {c c₁ : Ctx} {r : PreCheckResult}
    (hRun : (transactPreprocessing x tx options).run c = .ok (r, c₁)) :
    (∀ a, a ≠ tx.sender → c₁.world.accounts a = c.world.accounts a) ∧
      c₁.world.totalIssued = c.world.totalIssued := by
  have hSpec := transactPreprocessing_run x tx options c
  rw [hRun] at hSpec
  cases hSpec with
  | reject => exact ⟨fun _ _ => rfl, rfl⟩
  | notEnoughCash _ _ _ _ _ _ _ hInc hSub | pass _ _ _ _ hInc hSub =>
    exact ⟨fun a ha => (World.accounts_of_subBalance hSub ha).trans (World.accounts_of_incNonce hInc ha),
      (World.subBalance_spec hSub).2.2.2.trans (World.incNonce_spec hInc).2.2.2⟩

/-- **Preprocessing never panics**: the `U512` sum of value and gas cost never
overflows, both `try_into().unwrap()` succeed, `as_u64` only meets a gas limit
below `2 ^ 64`, and `tx.gas - base_gas` never underflows. The base gas is the
wrapping fold of a release build (see `gasRequiredFor`); its one fault is the
state's, `inc_nonce` on a sender at nonce `2 ^ 256 - 1`. -/
theorem transactPreprocessing_ne_panic (x : TXExecutor) (tx : Transaction)
    (options : TransactOptions) (c : Ctx) :
    (transactPreprocessing x tx options).run c ≠ .error .panic := fun h =>
  nomatch (transactPreprocessing_fault x tx options c .panic h).1

/-- **The fee debit of admission.** Preprocessing fails only where
`inc_nonce` does, so the `sub_balance` it calls always succeeds: it never asks
for more than the sender holds at that call. Unless it rejects the
transaction, it calls `sub_balance` once, on the sender, for `min G balance`
(`G` the gas cost when gas is charged, else zero), and so lowers the sender's
balance by exactly that. An admitted transaction has `G ≤ balance`, leaves
the sender at least `tx.value`, and hands the root frame `tx.gas - base_gas`. -/
theorem transactPreprocessing_debit (x : TXExecutor) (tx : Transaction)
    (options : TransactOptions) (c : Ctx) :
    (∀ w₁, c.world.incNonce tx.sender x.spec.accountStartNonce = some w₁ →
      ∃ r c', (transactPreprocessing x tx options).run c = .ok (r, c')) ∧
    ∀ r c', (transactPreprocessing x tx options).run c = .ok (r, c') → ¬ r.IsReject →
    ∃ amount : U256,
      amount.val = min (gasCostOf options.checkSettings tx) (c.world.balance tx.sender).val ∧
      (∀ w₁, c.world.incNonce tx.sender x.spec.accountStartNonce = some w₁ →
        amount.val ≤ (w₁.balance tx.sender).val) ∧
      (c.appended c').filter Effect.isSubBalance =
        [.write (.subBalance tx.sender amount)] ∧
      (c'.world.balance tx.sender).val + amount.val = (c.world.balance tx.sender).val ∧
      ∀ top fs, r = .pass top fs →
        gasCostOf options.checkSettings tx ≤ (c.world.balance tx.sender).val ∧
        tx.value.val ≤ (c'.world.balance tx.sender).val ∧
        top.params.gas.val = tx.gas.val - (x.baseGas tx).val := by
  refine ⟨fun w₁ hInc => ?_, fun r c' hRun hAdmitted => ?_⟩
  · rcases h : (transactPreprocessing x tx options).run c with f | ⟨r, c'⟩
    · exact nomatch (transactPreprocessing_fault x tx options c f h).2.symm.trans hInc
    · exact ⟨r, c', rfl⟩
  have hSpec := transactPreprocessing_run x tx options c
  rw [hRun] at hSpec
  cases hSpec with
  | reject hOut => exact absurd hOut hAdmitted
  | @notEnoughCash _ _ amount w₁ _ _ _ _ hGot _ _ hActual hInc hSub =>
    have hKeep := (World.incNonce_spec hInc).1 tx.sender
    have hLower := (World.subBalance_spec hSub).1
    rw [hKeep] at hLower
    refine ⟨amount, hGot ▸ hActual, fun w h => ?_, by simp [Effect.isSubBalance], hLower,
      fun _ _ h => nomatch h⟩
    rw [hInc] at h; cases h; rw [hKeep]; omega
  | @pass amount _ w₁ _ _ _ hCovered hGasCost hInc hSub hGas =>
    have hKeep := (World.incNonce_spec hInc).1 tx.sender
    have hLower := (World.subBalance_spec hSub).1
    rw [hKeep] at hLower
    refine ⟨amount, by omega, fun w h => ?_, by simp [Effect.isSubBalance], hLower, ?_⟩
    · rw [hInc] at h; cases h; rw [hKeep]; omega
    · rintro _ _ ⟨⟩
      exact ⟨by omega, by dsimp only; omega, hGas⟩

set_option exponentiation.threshold 600 in
set_option maxRecDepth 8000 in
/-- A transfer at 21000 gas and price 1 from an account holding 100000 is
admitted, and its fee debit is the full 21000. -/
theorem transactPreprocessing_debit_transfer :
    ∃ r c', (transactPreprocessing sampleExecutor (transferTx 21000 1) tracedOptions).run
        ⟨fundedWorld 100000 100000, []⟩ = .ok (r, c') ∧ ¬ r.IsReject ∧
      ∃ amount : U256,
        amount.val = min (gasCostOf tracedOptions.checkSettings (transferTx 21000 1))
          ((fundedWorld 100000 100000).balance (sampleAddress 1)).val ∧
        (∀ w₁, (fundedWorld 100000 100000).incNonce (sampleAddress 1) 0 = some w₁ →
          amount.val ≤ (w₁.balance (sampleAddress 1)).val) ∧
        (Ctx.appended ⟨fundedWorld 100000 100000, []⟩ c').filter Effect.isSubBalance =
          [.write (.subBalance (sampleAddress 1) amount)] ∧
        (c'.world.balance (sampleAddress 1)).val + amount.val =
          ((fundedWorld 100000 100000).balance (sampleAddress 1)).val ∧
        ∀ top fs, r = .pass top fs →
          gasCostOf tracedOptions.checkSettings (transferTx 21000 1) ≤
            ((fundedWorld 100000 100000).balance (sampleAddress 1)).val ∧
          (transferTx 21000 1).value.val ≤ (c'.world.balance (sampleAddress 1)).val ∧
          top.params.gas.val = (transferTx 21000 1).gas.val -
            (sampleExecutor.baseGas (transferTx 21000 1)).val :=
  ⟨_, _, rfl, fun h => h, (transactPreprocessing_debit sampleExecutor (transferTx 21000 1)
    tracedOptions ⟨fundedWorld 100000 100000, []⟩).2 _ _ rfl fun h => h⟩

end Hemvm
