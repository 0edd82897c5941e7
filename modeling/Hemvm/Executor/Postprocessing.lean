import Hemvm.Executor.KillProcess

/-!
# `transact_postprocessing`

What happens after the root frame returns: the gas estimate, the gas
settlement (`settleGas`), the refund to the sender, the suicides
(`kill_process`) and the outcome. Every `U256` operation of the source that
panics on overflow is checked here and panics in the model.

## Main results

* `transactPostprocessing_run` — every run is one of the seven cases of
  `PostprocessingRun`: a panic of the estimate or of the settlement, a fault
  of the refund or of the burn, a database error from the VM, a VM error
  charged in full, or a returned frame.
* `transactPostprocessing_gas_accounting` — after a successful run the
  charged gas is `max gas_used ⌈3·gas/4⌉`, between `⌈3·gas/4⌉` and the gas
  limit and never below the gas used.
-/

namespace Hemvm

open ExecM

/-- `gas_required() * 7 / 6 + base_gas_required` in `U256`, `none` where the
product or the sum overflows. -/
def estimateGasLimit (gasRequired : U256) (baseGasRequired : U64) : Option U256 := do
  Word.checkedAdd (← Word.checkedDiv (← Word.checkedMul gasRequired 7) 6)
    (Word.widen (by decide) baseGasRequired)

/-- **The estimate overflows only on the product**: `gas_required * 7`
overflows exactly when `7 · gas_required ≥ 2 ^ 256`, and the sum with the
base gas, below `2 ^ 64`, never does. -/
theorem estimateGasLimit_eq_none {g : U256} {b : U64} :
    estimateGasLimit g b = none ↔ 2 ^ 256 ≤ 7 * g.val := by
  have hSeven : (7 : U256).val = 7 := rfl
  have hSix : (6 : U256).val = 6 := rfl
  cases hMul : Word.checkedMul g 7 with
  | none =>
    have hOver : ¬ g.val * (7 : U256).val < 2 ^ 256 := fun h => by
      rw [Word.checkedMul, dif_pos h] at hMul; cases hMul
    simp only [estimateGasLimit, hMul, Option.bind_eq_bind, Option.none_bind, true_iff]
    rw [hSeven] at hOver; omega
  | some m =>
    obtain ⟨hFit, hm⟩ := Word.checkedMul_eq_some.mp hMul
    rw [hSeven] at hFit hm
    have hb := b.isLt
    have hDiv : Word.checkedDiv m 6 = some ⟨m.val / 6, by omega⟩ := by
      simp only [Word.checkedDiv, hSix]; rfl
    obtain ⟨s, hs, -⟩ := Word.checkedAdd_of_lt (a := (⟨m.val / 6, by omega⟩ : U256))
      (b := Word.widen (by decide) b) (by rw [Word.val_widen]; show m.val / 6 + b.val < 2 ^ 256; omega)
    simp only [estimateGasLimit, hMul, hDiv, hs, Option.bind_eq_bind, Option.some_bind,
      Option.some_ne_none, false_iff]
    omega

/-- Over the observer's gas estimator, which is absent unless a caller asked
for one: the estimate panics exactly when there is one and its product
overflows. -/
theorem mapM_estimateGasLimit_eq_none {o : Option U256} {b : U64} :
    o.mapM (estimateGasLimit · b) = none ↔ ∃ g, o = some g ∧ 2 ^ 256 ≤ 7 * g.val := by
  cases o with
  | none => simp [Option.mapM]
  | some g =>
    have hIff := @estimateGasLimit_eq_none g b
    cases h : estimateGasLimit g b with
    | none => simpa [Option.mapM, h] using hIff.mp h
    | some e =>
      simp only [Option.mapM, h, Option.map_eq_map, Option.map_some', Option.some_ne_none, false_iff]
      simpa [h] using hIff

/-- `gas_left` of `transact_postprocessing`: the gas the root frame returned,
zero after a VM error. -/
def gasLeftOf : Except VmError FinalizationResult → U256
  | .ok r => r.gasLeft
  | .error _ => Word.zero

/-- `transact_postprocessing`: finalizes the transaction (does refunds and
suicides). -/
def transactPostprocessing (x : TXExecutor) (tx : Transaction)
    (frameStackOutput : FrameStackOutput) : ExecM ExecutionOutcome := do
  let ⟨substate, result, observer, baseGasRequired⟩ := frameStackOutput
  let output : Bytes := match result with
    | .ok res => res.returnData
    | .error _ => []
  let estimatedGasLimit ← orPanic
    (observer.gasMan.mapM fun g => estimateGasLimit g baseGasRequired)
  let gasLeft := gasLeftOf result
  let ⟨gasUsed, gasCharged, feesValue, refundValue⟩ ←
    orPanic (settleGas tx.gas gasLeft tx.gasPrice)
  let observer ← traceInternalTransfer observer .gasPayment (.balance tx.sender) refundValue
  write (.addBalance tx.sender refundValue x.spec.accountStartNonce)
  -- perform suicides
  let (subsubstate, observer) ← killProcess substate.suicides observer
  let substate := substate.accrue subsubstate
  match result with
  | .error (.stateDbError e) => throw (.db e)
  | .error exception =>
    return .executionErrorBumpNonce (.vmError exception)
      (Executed.executionErrorFullyCharged tx observer.drain x.spec)
  | .ok r =>
    let trace := observer.drain
    let executed : Executed :=
      { gasUsed, gasCharged, fee := feesValue, logs := substate.logs,
        contractsCreated := substate.contractsCreated, output, trace, estimatedGasLimit }
    if r.applyState then
      return .finished executed
    else
      -- Transaction reverted by vm instruction.
      return .executionErrorBumpNonce (.vmError .reverted) executed

/-! ## Every run, case by case -/

/-- The observer after the refund and the burn. -/
def postObserver (tx : Transaction) (out : FrameStackOutput) (s : GasSettlement) (w₁ : World) :
    MultiObservers :=
  (out.observer.traceInternalTransfer .gasPayment (.balance tx.sender) s.refundValue).traceAll
    (burnTransfers w₁ out.substate.suicides.elems)

/-- The context after the refund to the sender (which left `w₁`) and the
burn. -/
def postCtx (x : TXExecutor) (tx : Transaction) (out : FrameStackOutput) (c : Ctx)
    (s : GasSettlement) (w₁ : World) : Ctx :=
  ⟨w₁.removeContracts out.substate.suicides.elems,
    c.effects ++ .trace .gasPayment (.balance tx.sender) s.refundValue ::
      .write (.addBalance tx.sender s.refundValue x.spec.accountStartNonce) ::
      burnEffects w₁ out.substate.suicides.elems⟩

/-- The `Executed` of a frame that returned `r`. -/
def returnedExecuted (tx : Transaction) (out : FrameStackOutput) (r : FinalizationResult)
    (est : Option U256) (s : GasSettlement) (w₁ : World) : Executed :=
  { gasUsed := s.gasUsed, gasCharged := s.gasCharged, fee := s.feesValue,
    logs := out.substate.logs, contractsCreated := out.substate.contractsCreated,
    output := r.returnData, trace := (postObserver tx out s w₁).drain,
    estimatedGasLimit := est }

/-- **What one run of `transact_postprocessing` can do** on the frame-stack
output `out`, from the context `c`. Past the estimate and the settlement,
every run credits the refund and burns the suicides before it looks at the
result. -/
inductive PostprocessingRun (x : TXExecutor) (tx : Transaction) (out : FrameStackOutput)
    (c : Ctx) : Except Fault (ExecutionOutcome × Ctx) → Prop
  | estimateOverflow
      (hEst : out.observer.gasMan.mapM (estimateGasLimit · out.baseGasRequired) = none) :
      PostprocessingRun x tx out c (.error .panic)
  | settleFailure {est : Option U256}
      (hEst : out.observer.gasMan.mapM (estimateGasLimit · out.baseGasRequired) = some est)
      (hSettle : settleGas tx.gas (gasLeftOf out.result) tx.gasPrice = none) :
      PostprocessingRun x tx out c (.error .panic)
  | refundOverflow {est : Option U256} {s : GasSettlement}
      (hEst : out.observer.gasMan.mapM (estimateGasLimit · out.baseGasRequired) = some est)
      (hSettle : settleGas tx.gas (gasLeftOf out.result) tx.gasPrice = some s)
      (hRefund : c.world.addBalance tx.sender s.refundValue x.spec.accountStartNonce = none) :
      PostprocessingRun x tx out c (.error .statePanic)
  | burnFailure {est : Option U256} {s : GasSettlement} {w₁ : World}
      (hEst : out.observer.gasMan.mapM (estimateGasLimit · out.baseGasRequired) = some est)
      (hSettle : settleGas tx.gas (gasLeftOf out.result) tx.gasPrice = some s)
      (hRefund : c.world.addBalance tx.sender s.refundValue x.spec.accountStartNonce = some w₁)
      (hBurn : w₁.totalIssued.val < burnedSupply w₁ out.substate.suicides.elems) :
      PostprocessingRun x tx out c (.error .statePanic)
  | dbError {est : Option U256} {s : GasSettlement} {w₁ : World} {e : DbError}
      (hEst : out.observer.gasMan.mapM (estimateGasLimit · out.baseGasRequired) = some est)
      (hSettle : settleGas tx.gas (gasLeftOf out.result) tx.gasPrice = some s)
      (hRefund : c.world.addBalance tx.sender s.refundValue x.spec.accountStartNonce = some w₁)
      (hBurn : burnedSupply w₁ out.substate.suicides.elems ≤ w₁.totalIssued.val)
      (hResult : out.result = .error (.stateDbError e)) :
      PostprocessingRun x tx out c (.error (.db e))
  | vmError {est : Option U256} {s : GasSettlement} {w₁ : World} {ex : VmError}
      (hEst : out.observer.gasMan.mapM (estimateGasLimit · out.baseGasRequired) = some est)
      (hSettle : settleGas tx.gas (gasLeftOf out.result) tx.gasPrice = some s)
      (hRefund : c.world.addBalance tx.sender s.refundValue x.spec.accountStartNonce = some w₁)
      (hBurn : burnedSupply w₁ out.substate.suicides.elems ≤ w₁.totalIssued.val)
      (hResult : out.result = .error ex) (hDb : ∀ e, ex ≠ .stateDbError e) :
      PostprocessingRun x tx out c (.ok (.executionErrorBumpNonce (.vmError ex)
        (Executed.executionErrorFullyCharged tx (postObserver tx out s w₁).drain x.spec),
        postCtx x tx out c s w₁))
  | returned {est : Option U256} {s : GasSettlement} {w₁ : World} {r : FinalizationResult}
      (hEst : out.observer.gasMan.mapM (estimateGasLimit · out.baseGasRequired) = some est)
      (hSettle : settleGas tx.gas (gasLeftOf out.result) tx.gasPrice = some s)
      (hRefund : c.world.addBalance tx.sender s.refundValue x.spec.accountStartNonce = some w₁)
      (hBurn : burnedSupply w₁ out.substate.suicides.elems ≤ w₁.totalIssued.val)
      (hResult : out.result = .ok r) :
      PostprocessingRun x tx out c (.ok (if r.applyState
        then .finished (returnedExecuted tx out r est s w₁)
        else .executionErrorBumpNonce (.vmError .reverted) (returnedExecuted tx out r est s w₁),
        postCtx x tx out c s w₁))

/-- **Every run of `transact_postprocessing` is a `PostprocessingRun`.** -/
theorem transactPostprocessing_run (x : TXExecutor) (tx : Transaction) (out : FrameStackOutput)
    (c : Ctx) : PostprocessingRun x tx out c ((transactPostprocessing x tx out).run c) := by
  obtain ⟨substate, result, observer, base⟩ := out
  unfold transactPostprocessing
  simp only [run_bind, run_pure]
  cases hEst : observer.gasMan.mapM (estimateGasLimit · base) with
  | none => exact .estimateOverflow hEst
  | some est =>
    simp only [run_orPanic_some]
    cases hSettle : settleGas tx.gas (gasLeftOf result) tx.gasPrice with
    | none => exact .settleFailure hEst hSettle
    | some s =>
      obtain ⟨gasUsed, gasCharged, feesValue, refundValue⟩ := s
      simp only [run_orPanic_some, run_traceInternalTransfer, run_write, StateWrite.apply]
      cases hRefund : c.world.addBalance tx.sender refundValue x.spec.accountStartNonce with
      | none => exact .refundOverflow hEst hSettle hRefund
      | some w₁ =>
        dsimp only
        rw [killProcess_run]
        by_cases hBurn : burnedSupply w₁ substate.suicides.elems ≤ w₁.totalIssued.val
        · rw [if_pos hBurn]
          dsimp only
          rw [Substate.accrue_new]
          simp only [List.append_assoc, List.cons_append, List.nil_append]
          rcases result with ex | ⟨gasLeft, applyState, returnData⟩
          · cases ex with
            | stateDbError e => exact .dbError hEst hSettle hRefund hBurn rfl
            | _ =>
              exact @PostprocessingRun.vmError x tx ⟨substate, _, observer, base⟩ c est
                ⟨gasUsed, gasCharged, feesValue, refundValue⟩ w₁ _ hEst hSettle hRefund hBurn rfl nofun
          · cases applyState <;>
              exact @PostprocessingRun.returned x tx ⟨substate, _, observer, base⟩ c est
                ⟨gasUsed, gasCharged, feesValue, refundValue⟩ w₁ _ hEst hSettle hRefund hBurn rfl
        · rw [if_neg hBurn]
          exact .burnFailure hEst hSettle hRefund (Nat.lt_of_not_le hBurn)

/-- **The world a successful postprocessing leaves**: the world it started
from with the refund credited to the sender, then the suicided contracts
removed and their balances taken off the supply. -/
theorem transactPostprocessing_world (x : TXExecutor) (tx : Transaction) (out : FrameStackOutput)
    {c c' : Ctx} {o : ExecutionOutcome} (hRun : (transactPostprocessing x tx out).run c = .ok (o, c')) :
    ∃ s w₁, settleGas tx.gas (gasLeftOf out.result) tx.gasPrice = some s ∧
      c.world.addBalance tx.sender s.refundValue x.spec.accountStartNonce = some w₁ ∧
      burnedSupply w₁ out.substate.suicides.elems ≤ w₁.totalIssued.val ∧
      c'.world = w₁.removeContracts out.substate.suicides.elems := by
  have hSpec := transactPostprocessing_run x tx out c
  rw [hRun] at hSpec
  cases hSpec with
  | vmError _ hSettle hRefund hBurn | returned _ hSettle hRefund hBurn =>
    exact ⟨_, _, hSettle, hRefund, hBurn, rfl⟩

/-- A VM that keeps its promise leaves at most the gas of the root frame, also
after a VM error, which leaves none. -/
theorem gasLeftOf_le {exec : FrameExec} (hBounded : exec.GasBounded) {fs : FrameStack}
    {top : CallCreateFrame} {w w' : World} {out : FrameStackOutput}
    (h : exec fs top w = .ok (w', out)) : (gasLeftOf out.result).val ≤ top.params.gas.val := by
  cases hr : out.result with
  | error => exact Nat.zero_le _
  | ok r => exact hBounded fs top w w' out r h hr

/-! ## The gas charged -/

/-- Both outcomes of a returned frame carry the same `Executed`. -/
theorem executed?_returned (b : Bool) (e : Executed) :
    (if b then ExecutionOutcome.finished e
      else .executionErrorBumpNonce (.vmError .reverted) e).executed? = some e := by
  cases b <;> rfl

/-- Neither outcome of a returned frame is a reject. -/
theorem not_isReject_returned (b : Bool) (e : Executed) :
    ¬ (if b then ExecutionOutcome.finished e
      else .executionErrorBumpNonce (.vmError .reverted) e).IsReject := by
  cases b <;> exact nofun

/-- **The gas charged, in closed form.** In every outcome of a successful
postprocessing (a returned, reverted or failed frame) the gas used is the
limit minus the `gas_left` of the frame that returned, and the whole limit
after a VM error; the gas charged is `max gas_used ⌈3·gas/4⌉`: at least
`⌈3·gas/4⌉` and the gas used, at most the limit. -/
theorem transactPostprocessing_gas_accounting (x : TXExecutor) (tx : Transaction)
    (out : FrameStackOutput) {c c' : Ctx} {o : ExecutionOutcome}
    (hRun : (transactPostprocessing x tx out).run c = .ok (o, c')) {e : Executed}
    (he : o.executed? = some e) :
    (∀ r, out.result = .ok r → e.gasUsed.val = tx.gas.val - r.gasLeft.val) ∧
    (∀ err, out.result = .error err → e.gasUsed.val = tx.gas.val) ∧
    e.gasCharged.val = max e.gasUsed.val ((3 * tx.gas.val + 3) / 4) ∧
    (3 * tx.gas.val + 3) / 4 ≤ e.gasCharged.val ∧ e.gasCharged.val ≤ tx.gas.val ∧
    e.gasUsed.val ≤ e.gasCharged.val := by
  have hSpec := transactPostprocessing_run x tx out c
  rw [hRun] at hSpec
  cases hSpec with
  | vmError _ _ _ _ hResult =>
    cases he
    refine ⟨fun r h => (nomatch hResult.symm.trans h), fun _ _ => rfl, ?_⟩
    simp only [Executed.executionErrorFullyCharged]
    omega
  | returned _ hSettle _ _ hResult =>
    rw [executed?_returned] at he
    cases he
    have hMax := settleGas_gasCharged_eq_max hSettle
    obtain ⟨hle, -, hUsed, -⟩ := settleGas_spec hSettle
    simp only [hResult, gasLeftOf] at hle hUsed
    refine ⟨fun r h => ?_, fun _ h => (nomatch hResult.symm.trans h), ?_⟩
    · cases hResult.symm.trans h
      exact hUsed
    · simp only [returnedExecuted]
      omega

/-- A frame that returns half of a 100000 gas limit is charged three
quarters of it. -/
theorem transactPostprocessing_gas_accounting_half :
    ∃ o c' e, (transactPostprocessing sampleExecutor (transferTx 100000 1)
        ⟨Substate.new, .ok ⟨50000, true, []⟩, tracedOptions.observer, 21000⟩).run
          ⟨fundedWorld 100000 100000, []⟩ = .ok (o, c') ∧ o.executed? = some e ∧
      (∀ r, (.ok ⟨50000, true, []⟩ : Except VmError FinalizationResult) = .ok r →
        e.gasUsed.val = (transferTx 100000 1).gas.val - r.gasLeft.val) ∧
      (∀ err, (.ok ⟨50000, true, []⟩ : Except VmError FinalizationResult) = .error err →
        e.gasUsed.val = (transferTx 100000 1).gas.val) ∧
      e.gasCharged.val = max e.gasUsed.val ((3 * (transferTx 100000 1).gas.val + 3) / 4) ∧
      (3 * (transferTx 100000 1).gas.val + 3) / 4 ≤ e.gasCharged.val ∧
      e.gasCharged.val ≤ (transferTx 100000 1).gas.val ∧ e.gasUsed.val ≤ e.gasCharged.val :=
  ⟨_, _, _, rfl, rfl, @transactPostprocessing_gas_accounting sampleExecutor (transferTx 100000 1)
    ⟨Substate.new, .ok ⟨50000, true, []⟩, tracedOptions.observer, 21000⟩
    ⟨fundedWorld 100000 100000, []⟩ _ _ rfl _ rfl⟩

set_option exponentiation.threshold 600 in
set_option maxRecDepth 8000 in
/-- Two frame-stack outputs that differ only in the order in which their two
suicides are iterated make postprocessing return different outcomes: the
`MintBurn` transfers stand in the drained trace in iteration order. -/
theorem transactPostprocessing_suicide_order :
    ∃ o₁ c₁ o₂ c₂,
      (transactPostprocessing sampleExecutor (transferTx 21000 1)
          ⟨{ Substate.new with suicides := ⟨[sampleAddress 2, sampleAddress 3], by decide⟩ },
            .ok ⟨0, true, []⟩, tracedOptions.observer, 21000⟩).run
        ⟨fundedWorld 100000 100000, []⟩ = .ok (o₁, c₁) ∧
      (transactPostprocessing sampleExecutor (transferTx 21000 1)
          ⟨{ Substate.new with suicides := ⟨[sampleAddress 3, sampleAddress 2], by decide⟩ },
            .ok ⟨0, true, []⟩, tracedOptions.observer, 21000⟩).run
        ⟨fundedWorld 100000 100000, []⟩ = .ok (o₂, c₂) ∧
      o₁.executed?.map (·.trace.drop 1) =
        some [.internalTransfer (.balance (sampleAddress 2)) .mintBurn 0,
          .internalTransfer (.balance (sampleAddress 3)) .mintBurn 0] ∧
      o₂.executed?.map (·.trace.drop 1) =
        some [.internalTransfer (.balance (sampleAddress 3)) .mintBurn 0,
          .internalTransfer (.balance (sampleAddress 2)) .mintBurn 0] :=
  ⟨_, _, _, _, rfl, rfl, rfl, rfl⟩

end Hemvm
