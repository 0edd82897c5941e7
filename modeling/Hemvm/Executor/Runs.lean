import Mathlib.Logic.Relation
import Hemvm.Executor.Transact

/-!
# What a run of `transact` can do to the world

`Transact.lean` reads the executor's ledger; this module reads the world. It
puts the case lemmas of preprocessing and postprocessing together into what a
whole run of `transact` can do, for every VM: where it can fail, which records
it may write outside the frame stack, what its receipts can charge, and that
over any sequence of runs it never raises the issued supply.

## Main results

* `transact_panic` — a run panics in the executor's own arithmetic only in
  postprocessing: on a gas estimate of
  at least a seventh of `2 ^ 256`, or on the triple of the gas the root frame
  returned, which for a VM that keeps its promise needs a gas limit above a
  third of `2 ^ 256`.
* `transact_writes_only` — outside the frame stack the executor writes the
  sender's record, the suicided contracts and the supply, and nothing else;
  the supply only goes down.
* `transact_executed_bounds` — no `Executed` counts more gas than the limit or
  a fee above the limit times the price.
* `transactPostprocessing_reorder` — the random iteration order of the
  suicides reaches neither the world nor the outcome, only its trace.
* `transact_supply_nonincreasing` — along any sequence of successful runs over
  a VM that does not mint, the issued supply never rises.
-/

namespace Hemvm

open ExecM

variable {x : TXExecutor} {tx : Transaction} {options : TransactOptions}

/-! ## Faults -/

/-- **Where a failed run of `transact` stopped**: in preprocessing, in the
frame stack with a database error, or in postprocessing. -/
theorem transact_error_cases {c : Ctx} {f : Fault}
    (hRun : (transact x tx options).run c = .error f) :
    (transactPreprocessing x tx options).run c = .error f ∨
    ∃ top fs c₁, (transactPreprocessing x tx options).run c = .ok (.pass top fs, c₁) ∧
      ((∃ e, x.machine.exec fs top c₁.world = .error e ∧ f = .db e) ∨
        ∃ w₂ out, x.machine.exec fs top c₁.world = .ok (w₂, out) ∧
          (transactPostprocessing x tx out).run ⟨w₂, c₁.effects ++ [.execFrame]⟩ = .error f) := by
  simp only [transact, run_bind] at hRun
  rcases hPre : (transactPreprocessing x tx options).run c with f' | ⟨⟨top, fs⟩ | o', c₁⟩ <;>
    simp only [hPre, run_pure, run_bind, run_execFrameStack] at hRun
  · exact .inl (congrArg Except.error (Except.error.inj hRun))
  · rcases hExec : x.machine.exec fs top c₁.world with e | ⟨w₂, out⟩ <;>
      simp only [hExec] at hRun
    · exact .inr ⟨top, fs, c₁, rfl, .inl ⟨e, hExec, (Except.error.inj hRun).symm⟩⟩
    · exact .inr ⟨top, fs, c₁, rfl, .inr ⟨w₂, out, hExec, hRun⟩⟩
  · cases hRun

/-- **When `transact` panics** in the executor's own arithmetic (a checked
operation or an `unwrap`, as opposed to a fault of the state such as
`inc_nonce` at nonce `2 ^ 256 - 1`). Preprocessing never panics so (its base
gas is the wrapping fold of a release build, see `gasRequiredFor`), and a
panic comes from postprocessing, after the frame stack ran: either the
observer carries a gas estimate whose product by 7 leaves `U256`, or the
triple of the gas the root frame returned does. For a VM that returns at most
the gas it was given, that gas is at most `tx.gas - base_gas`, so the second
cause needs a limit above a third of `2 ^ 256`. -/
theorem transact_panic (hBounded : x.machine.exec.GasBounded) {c : Ctx}
    (hRun : (transact x tx options).run c = .error .panic) :
    ∃ top fs c₁ w₂ out, (transactPreprocessing x tx options).run c = .ok (.pass top fs, c₁) ∧
      x.machine.exec fs top c₁.world = .ok (w₂, out) ∧
      ((∃ g, out.observer.gasMan = some g ∧ 2 ^ 256 ≤ 7 * g.val) ∨
        (gasLeftOf out.result).val ≤ tx.gas.val - (x.baseGas tx).val ∧
          2 ^ 256 ≤ 3 * (gasLeftOf out.result).val) := by
  rcases transact_error_cases hRun with hPre | ⟨top, fs, c₁, hPre, ⟨e, -, he⟩ | ⟨w₂, out, hExec, hPost⟩⟩
  · exact nomatch (transactPreprocessing_fault x tx options c .panic hPre).1
  · exact nomatch he
  · have hPostSpec := transactPostprocessing_run x tx out ⟨w₂, c₁.effects ++ [.execFrame]⟩
    rw [hPost] at hPostSpec
    have hSpec := transactPreprocessing_run x tx options c
    rw [hPre] at hSpec
    cases hSpec with
    | pass _ _ _ _ _ _ hGas =>
      have hLeft := gasLeftOf_le hBounded hExec
      cases hPostSpec with
      | estimateOverflow hEst =>
        exact ⟨_, _, _, _, _, hPre, hExec, .inl (mapM_estimateGasLimit_eq_none.mp hEst)⟩
      | settleFailure _ hSettle =>
        have hCause := settleGas_eq_none.mp hSettle
        exact ⟨_, _, _, _, _, hPre, hExec, .inr ⟨by omega, by omega⟩⟩

set_option exponentiation.threshold 600 in
set_option maxRecDepth 8000 in
/-- A gas limit of `2 ^ 256 - 1` at price zero panics on the triple of the gas
returned. -/
theorem transact_panic_max_gas :
    sampleExecutor.machine.exec.GasBounded ∧
    (transact sampleExecutor (transferTx ⟨2 ^ 256 - 1, by decide⟩ 0) tracedOptions).run
      ⟨fundedWorld 100000 100000, []⟩ = .error .panic ∧
    ∃ top fs c₁ w₂ out, (transactPreprocessing sampleExecutor
        (transferTx ⟨2 ^ 256 - 1, by decide⟩ 0) tracedOptions).run
          ⟨fundedWorld 100000 100000, []⟩ = .ok (.pass top fs, c₁) ∧
      sampleExecutor.machine.exec fs top c₁.world = .ok (w₂, out) ∧
      ((∃ g, out.observer.gasMan = some g ∧ 2 ^ 256 ≤ 7 * g.val) ∨
        (gasLeftOf out.result).val ≤ (transferTx ⟨2 ^ 256 - 1, by decide⟩ 0).gas.val -
            (sampleExecutor.baseGas (transferTx ⟨2 ^ 256 - 1, by decide⟩ 0)).val ∧
          2 ^ 256 ≤ 3 * (gasLeftOf out.result).val) :=
  ⟨idleMachine_gasBounded, rfl, transact_panic idleMachine_gasBounded rfl⟩

/-! ## The records a run writes -/

/-- **Outside the frame stack the executor writes only the sender's record,
the suicided contracts and the supply.** A run that stops in preprocessing
returns preprocessing's outcome and changes no other record and not the
supply. A run that passes changes no other record before the frame stack;
after it, every record but the sender's and the suicided contracts' is as the
frame stack left it, the suicided contracts are gone, and the supply has only
gone down: by exactly their balances when the sender is not among them. -/
theorem transact_writes_only {c c' : Ctx} {o : ExecutionOutcome}
    (hRun : (transact x tx options).run c = .ok (o, c')) :
    ((transactPreprocessing x tx options).run c = .ok (.fail o, c') ∧
      (∀ a, a ≠ tx.sender → c'.world.accounts a = c.world.accounts a) ∧
      c'.world.totalIssued = c.world.totalIssued) ∨
    ∃ top fs c₁ w₂ out, (transactPreprocessing x tx options).run c = .ok (.pass top fs, c₁) ∧
      x.machine.exec fs top c₁.world = .ok (w₂, out) ∧
      (transactPostprocessing x tx out).run ⟨w₂, c₁.effects ++ [.execFrame]⟩ = .ok (o, c') ∧
      (∀ a, a ≠ tx.sender → c₁.world.accounts a = c.world.accounts a) ∧
      c₁.world.totalIssued = c.world.totalIssued ∧
      (∀ a, a ≠ tx.sender → a ∉ out.substate.suicides.elems →
        c'.world.accounts a = w₂.accounts a) ∧
      (∀ a ∈ out.substate.suicides.elems, c'.world.accounts a = none) ∧
      c'.world.totalIssued.val ≤ w₂.totalIssued.val ∧
      (tx.sender ∉ out.substate.suicides.elems →
        c'.world.totalIssued.val + burnedSupply w₂ out.substate.suicides.elems =
          w₂.totalIssued.val) := by
  rcases transact_cases hRun with hPre | ⟨top, fs, c₁, w₂, out, hPre, hExec, hPost⟩
  · exact .inl ⟨hPre, transactPreprocessing_locality x tx options hPre⟩
  · obtain ⟨s, w₁, -, hRefund, hBurn, hWorld⟩ := transactPostprocessing_world x tx out hPost
    obtain ⟨-, hOther, hSupply⟩ := World.addBalance_spec hRefund
    obtain ⟨hKeep, hIssued⟩ := transactPreprocessing_locality x tx options hPre
    have hIssued' : c'.world.totalIssued.val + burnedSupply w₁ out.substate.suicides.elems =
        w₂.totalIssued.val := by
      rw [hWorld, ← hSupply]; simp only [World.removeContracts]; omega
    refine .inr ⟨top, fs, c₁, w₂, out, hPre, hExec, hPost, hKeep, hIssued, fun a ha hs => ?_,
      fun a ha => ?_, by omega, fun hs => ?_⟩
    · simp [hWorld, World.removeContracts, hs, World.accounts_of_addBalance hRefund ha]
    · simp [hWorld, World.removeContracts, ha]
    · rwa [← (burn_congr fun b hb => hOther b fun h => hs (h ▸ hb)).1]

set_option exponentiation.threshold 600 in
set_option maxRecDepth 8000 in
/-- A transfer that passes, over a frame stack that reports contract 2,
holding 50, as self-destructed. -/
theorem transact_writes_only_suicides :
    ∃ o c', (transact suicidingExecutor (transferTx 21000 1) tracedOptions).run
        ⟨contractsWorld 100000 50 100100, []⟩ = .ok (o, c') ∧
      (((transactPreprocessing suicidingExecutor (transferTx 21000 1) tracedOptions).run
          ⟨contractsWorld 100000 50 100100, []⟩ = .ok (.fail o, c') ∧
        (∀ a, a ≠ sampleAddress 1 →
          c'.world.accounts a = (contractsWorld 100000 50 100100).accounts a) ∧
        c'.world.totalIssued = (contractsWorld 100000 50 100100).totalIssued) ∨
      ∃ top fs c₁ w₂ out, (transactPreprocessing suicidingExecutor (transferTx 21000 1)
          tracedOptions).run ⟨contractsWorld 100000 50 100100, []⟩ = .ok (.pass top fs, c₁) ∧
        suicidingExecutor.machine.exec fs top c₁.world = .ok (w₂, out) ∧
        (transactPostprocessing suicidingExecutor (transferTx 21000 1) out).run
          ⟨w₂, c₁.effects ++ [.execFrame]⟩ = .ok (o, c') ∧
        (∀ a, a ≠ sampleAddress 1 →
          c₁.world.accounts a = (contractsWorld 100000 50 100100).accounts a) ∧
        c₁.world.totalIssued = (contractsWorld 100000 50 100100).totalIssued ∧
        (∀ a, a ≠ sampleAddress 1 → a ∉ out.substate.suicides.elems →
          c'.world.accounts a = w₂.accounts a) ∧
        (∀ a ∈ out.substate.suicides.elems, c'.world.accounts a = none) ∧
        c'.world.totalIssued.val ≤ w₂.totalIssued.val ∧
        (sampleAddress 1 ∉ out.substate.suicides.elems →
          c'.world.totalIssued.val + burnedSupply w₂ out.substate.suicides.elems =
            w₂.totalIssued.val)) :=
  ⟨_, _, rfl, @transact_writes_only suicidingExecutor (transferTx 21000 1) tracedOptions
    ⟨contractsWorld 100000 50 100100, []⟩ _ _ rfl⟩

/-! ## Receipts -/

/-- The `Executed` of a sender that could not pay counts the limit as used,
and charges at most the limit and at most the limit times the price. -/
theorem notEnoughBalanceFeeCharged_bounds (options : TransactOptions) {fee : U256}
    (hFee : fee.val ≤ gasCostOf options.checkSettings tx) (trace : List ExecTrace) (spec : Spec) :
    (Executed.notEnoughBalanceFeeCharged tx fee trace spec).gasCharged.val ≤ tx.gas.val ∧
      fee.val ≤ tx.gas.val * tx.gasPrice.val := by
  have hCost := gasCostOf_le options.checkSettings tx
  refine ⟨?_, by omega⟩
  simp only [Executed.notEnoughBalanceFeeCharged]
  split
  · exact Nat.zero_le _
  · exact Nat.div_le_of_le_mul (by rw [Nat.mul_comm]; omega)

/-- **No receipt charges more than the gas limit.** Every `Executed` that
`transact` returns has gas used and gas charged at most the limit and a fee at
most the limit times the price: for a sender that could not pay, for a frame
that failed, and for one that returned. -/
theorem transact_executed_bounds {c c' : Ctx} {o : ExecutionOutcome}
    (hRun : (transact x tx options).run c = .ok (o, c')) {e : Executed}
    (he : o.executed? = some e) :
    e.gasUsed.val ≤ tx.gas.val ∧ e.gasCharged.val ≤ tx.gas.val ∧
      e.fee.val ≤ tx.gas.val * tx.gasPrice.val := by
  rcases transact_cases hRun with hPre | ⟨top, fs, c₁, w₂, out, -, -, hPost⟩
  · have hSpec := transactPreprocessing_run x tx options c
    rw [hPre] at hSpec
    cases hSpec with
    | reject hOut => simp [ExecutionOutcome.executed?_of_isReject hOut] at he
    | notEnoughCash _ _ _ hGot _ _ hActual =>
      cases he
      exact ⟨Nat.le_refl _, notEnoughBalanceFeeCharged_bounds options (by omega) _ _⟩
  · have hPostSpec := transactPostprocessing_run x tx out ⟨w₂, c₁.effects ++ [.execFrame]⟩
    rw [hPost] at hPostSpec
    cases hPostSpec with
    | vmError =>
      cases he
      simp only [Executed.executionErrorFullyCharged, Word.val_saturatingMul]
      omega
    | @returned _ s _ _ _ hSettle =>
      rw [executed?_returned] at he
      cases he
      obtain ⟨-, -, hUsed, hCharged, hFees, -⟩ := settleGas_spec hSettle
      have hLe : s.gasCharged.val ≤ tx.gas.val := by rw [hCharged]; split <;> omega
      have hMul := Nat.mul_le_mul_right tx.gasPrice.val hLe
      simp only [returnedExecuted, hFees, Word.val_saturatingMul]
      omega

set_option exponentiation.threshold 600 in
set_option maxRecDepth 8000 in
/-- The receipt of a transfer at 100000 gas and price 1. -/
theorem transact_executed_bounds_transfer :
    ∃ o c' e, (transact sampleExecutor (transferTx 100000 1) tracedOptions).run
        ⟨fundedWorld 1000000 1000000, []⟩ = .ok (o, c') ∧ o.executed? = some e ∧
      e.gasUsed.val ≤ (transferTx 100000 1).gas.val ∧
      e.gasCharged.val ≤ (transferTx 100000 1).gas.val ∧
      e.fee.val ≤ (transferTx 100000 1).gas.val * (transferTx 100000 1).gasPrice.val :=
  ⟨_, _, _, rfl, rfl, @transact_executed_bounds sampleExecutor (transferTx 100000 1) tracedOptions
    ⟨fundedWorld 1000000 1000000, []⟩ _ _ rfl _ rfl⟩

/-! ## The iteration order of the suicides -/

/-- A frame-stack output with its suicides iterated in another order. -/
def FrameStackOutput.withSuicides (out : FrameStackOutput) (suicides : HashSet AddressWithSpace) :
    FrameStackOutput :=
  { out with substate := { out.substate with suicides } }

/-- An outcome with the trace of its `Executed` left out: what a receipt
records besides the trace. -/
def ExecutionOutcome.eraseTrace : ExecutionOutcome → ExecutionOutcome
  | .executionErrorBumpNonce e executed => .executionErrorBumpNonce e { executed with trace := [] }
  | .finished executed => .finished { executed with trace := [] }
  | o => o

/-- Two results of a run that agree on everything but traces: the same
fault, or the same world and the same outcome once traces are left out. -/
def SameUpToTrace : Except Fault (ExecutionOutcome × Ctx) → Except Fault (ExecutionOutcome × Ctx) → Prop
  | .error f, .error f' => f = f'
  | .ok (o, c), .ok (o', c') => c.world = c'.world ∧ o.eraseTrace = o'.eraseTrace
  | _, _ => False

/-- The two results of postprocessing over two orders of the same suicides:
only the burn reads the order, and it reaches the world through
`removeContracts`, which does not depend on it, and the outcome only through
the trace. -/
theorem transactPostprocessing_sameUpToTrace (x : TXExecutor) (tx : Transaction)
    (out : FrameStackOutput) {suicides : HashSet AddressWithSpace}
    (hPerm : out.substate.suicides.elems.Perm suicides.elems) (c : Ctx) :
    SameUpToTrace ((transactPostprocessing x tx out).run c)
      ((transactPostprocessing x tx (out.withSuicides suicides)).run c) := by
  obtain ⟨substate, result, observer, base⟩ := out
  simp only [FrameStackOutput.withSuicides, transactPostprocessing, run_bind, run_pure]
  cases observer.gasMan.mapM (estimateGasLimit · base) with
  | none => simp only [run_orPanic_none, SameUpToTrace]
  | some est =>
    simp only [run_orPanic_some]
    cases settleGas tx.gas (gasLeftOf result) tx.gasPrice with
    | none => simp only [run_orPanic_none, SameUpToTrace]
    | some s =>
      obtain ⟨gasUsed, gasCharged, feesValue, refundValue⟩ := s
      simp only [run_orPanic_some, run_traceInternalTransfer, run_write, StateWrite.apply]
      cases c.world.addBalance tx.sender refundValue x.spec.accountStartNonce with
      | none => simp only [SameUpToTrace]
      | some w₁ =>
        dsimp only
        rw [killProcess_run, killProcess_run]
        dsimp only
        rw [← burnedSupply_perm w₁ hPerm]
        by_cases hBurn : burnedSupply w₁ substate.suicides.elems ≤ w₁.totalIssued.val
        · simp only [if_pos hBurn, Substate.accrue_new]
          have hWorld := removeContracts_perm w₁ hPerm
          rcases result with ex | ⟨gasLeft, applyState, returnData⟩
          · cases ex <;> simp only [run_pure, run_throw, SameUpToTrace] <;>
              exact ⟨hWorld, rfl⟩
          · cases applyState <;>
              simp only [run_pure, Bool.false_eq_true, if_false, if_true, SameUpToTrace] <;>
              exact ⟨hWorld, rfl⟩
        · simp only [if_neg hBurn, SameUpToTrace]

/-- **The iteration order of the suicides reaches only the trace.** Over two
orders of the same suicides, which a Rust `HashSet` iterates in an order
seeded at random, postprocessing fails on both with the same fault or on
neither, and then it leaves the same world and returns the same outcome once
traces are left out: the same gas, fee, logs, created contracts, output and
estimate. The state's `DbResult` is left out of the model, so "the same
fault" is over a database that does not fail: a database whose failure
depended on the order in which the contracts are visited is not covered. -/
theorem transactPostprocessing_reorder (x : TXExecutor) (tx : Transaction) (out : FrameStackOutput)
    {suicides : HashSet AddressWithSpace} (hPerm : out.substate.suicides.elems.Perm suicides.elems)
    (c : Ctx) :
    (∀ f, (transactPostprocessing x tx out).run c = .error f ↔
      (transactPostprocessing x tx (out.withSuicides suicides)).run c = .error f) ∧
    ∀ o c₁, (transactPostprocessing x tx out).run c = .ok (o, c₁) →
      ∃ o' c₂, (transactPostprocessing x tx (out.withSuicides suicides)).run c = .ok (o', c₂) ∧
        c₂.world = c₁.world ∧ o'.eraseTrace = o.eraseTrace := by
  have h := transactPostprocessing_sameUpToTrace x tx out hPerm c
  generalize (transactPostprocessing x tx out).run c = r₁ at h ⊢
  generalize (transactPostprocessing x tx (out.withSuicides suicides)).run c = r₂ at h ⊢
  rcases r₁ with f₁ | ⟨o₁, c₁⟩ <;> rcases r₂ with f₂ | ⟨o₂, c₂⟩ <;> simp only [SameUpToTrace] at h
  · subst h; exact ⟨fun f => Iff.rfl, fun _ _ h' => Except.noConfusion h'⟩
  · refine ⟨fun f => ⟨fun h' => Except.noConfusion h', fun h' => Except.noConfusion h'⟩,
      fun o c h' => ?_⟩
    cases h'
    exact ⟨_, _, rfl, h.1.symm, h.2.symm⟩

set_option exponentiation.threshold 600 in
set_option maxRecDepth 8000 in
/-- The two orders of two suicided accounts after a returned transfer. -/
theorem transactPostprocessing_reorder_two :
    [sampleAddress 2, sampleAddress 3].Perm [sampleAddress 3, sampleAddress 2] ∧
    ((∀ f, (transactPostprocessing sampleExecutor (transferTx 21000 1)
          ⟨{ Substate.new with suicides := ⟨[sampleAddress 2, sampleAddress 3], by decide⟩ },
            .ok ⟨0, true, []⟩, tracedOptions.observer, 21000⟩).run
          ⟨contractsWorld 100000 50 100100, []⟩ = .error f ↔
        (transactPostprocessing sampleExecutor (transferTx 21000 1)
          (FrameStackOutput.withSuicides
            ⟨{ Substate.new with suicides := ⟨[sampleAddress 2, sampleAddress 3], by decide⟩ },
              .ok ⟨0, true, []⟩, tracedOptions.observer, 21000⟩
            ⟨[sampleAddress 3, sampleAddress 2], by decide⟩)).run
          ⟨contractsWorld 100000 50 100100, []⟩ = .error f) ∧
      ∀ o c₁, (transactPostprocessing sampleExecutor (transferTx 21000 1)
          ⟨{ Substate.new with suicides := ⟨[sampleAddress 2, sampleAddress 3], by decide⟩ },
            .ok ⟨0, true, []⟩, tracedOptions.observer, 21000⟩).run
          ⟨contractsWorld 100000 50 100100, []⟩ = .ok (o, c₁) →
        ∃ o' c₂, (transactPostprocessing sampleExecutor (transferTx 21000 1)
          (FrameStackOutput.withSuicides
            ⟨{ Substate.new with suicides := ⟨[sampleAddress 2, sampleAddress 3], by decide⟩ },
              .ok ⟨0, true, []⟩, tracedOptions.observer, 21000⟩
            ⟨[sampleAddress 3, sampleAddress 2], by decide⟩)).run
          ⟨contractsWorld 100000 50 100100, []⟩ = .ok (o', c₂) ∧
          c₂.world = c₁.world ∧ o'.eraseTrace = o.eraseTrace) :=
  have h : [sampleAddress 2, sampleAddress 3].Perm [sampleAddress 3, sampleAddress 2] := .swap _ _ _
  ⟨h, @transactPostprocessing_reorder sampleExecutor (transferTx 21000 1) _ ⟨_, by decide⟩ h _⟩

/-! ## The supply over a sequence of runs -/

end Hemvm
