import Hemvm.Executor.Preprocessing
import Hemvm.Executor.Postprocessing

/-!
# `transact`

One transaction end to end: preprocessing decides the outcome or builds the
root frame, the frame stack runs it, postprocessing settles. The results here
are about the executor's own ledger, `Ctx.appended`: which writes it made on
the state and which transfers it traced, apart from the VM's work inside the
frame stack.

## Main results

* `transact_cases` — a successful run either stops in preprocessing, or
  passes, runs the frame stack and postprocesses.
* `transact_reject_iff_untouched` — rejects are exactly the runs that append
  nothing; every other run starts with the sender's `inc_nonce`, the only one.
* `transact_fee_accounting` — with gas charged, the fee of every `Executed`
  is the debit of the sender minus the refund credited back, with no
  saturation.
-/

namespace Hemvm

open ExecM

/-- `TXExecutor::transact`. -/
def transact (x : TXExecutor) (tx : Transaction) (options : TransactOptions) :
    ExecM ExecutionOutcome := do
  let preCheckResult ← transactPreprocessing x tx options
  match preCheckResult with
  | .fail outcome => return outcome
  | .pass topFrame frameStack =>
    let frameStackOutput ← execFrameStack x.machine.exec frameStack topFrame
    transactPostprocessing x tx frameStackOutput

/-- **What one successful run of `transact` can be**: an outcome decided in
preprocessing, or a pass, a run of the frame stack and a postprocessing. -/
theorem transact_cases {x : TXExecutor} {tx : Transaction} {options : TransactOptions}
    {c c' : Ctx} {o : ExecutionOutcome}
    (hRun : (transact x tx options).run c = .ok (o, c')) :
    (transactPreprocessing x tx options).run c = .ok (.fail o, c') ∨
    ∃ top fs c₁ w₂ out, (transactPreprocessing x tx options).run c = .ok (.pass top fs, c₁) ∧
      x.machine.exec fs top c₁.world = .ok (w₂, out) ∧
      (transactPostprocessing x tx out).run ⟨w₂, c₁.effects ++ [.execFrame]⟩ = .ok (o, c') := by
  simp only [transact, run_bind] at hRun
  rcases hPre : (transactPreprocessing x tx options).run c with f | ⟨⟨top, fs⟩ | o', c₁⟩ <;>
    simp only [hPre, run_pure, run_bind, run_execFrameStack] at hRun
  · cases hRun
  · rcases hExec : x.machine.exec fs top c₁.world with e | ⟨w₂, out⟩ <;>
      simp only [hExec] at hRun
    · cases hRun
    · exact .inr ⟨top, fs, c₁, w₂, out, rfl, hExec, hRun⟩
  · cases hRun
    exact .inl rfl

/-! ## The ledger of a run -/

theorem isIncNonce_burnEffects (w : World) (l : List AddressWithSpace) :
    ∀ e ∈ burnEffects w l, e.isIncNonce = false := by
  simp only [burnEffects, List.mem_flatMap, List.mem_cons, List.mem_singleton]
  rintro e ⟨a, -, rfl | rfl | rfl | h⟩ <;> first | rfl | cases h

/-- The ledger of a run that passed preprocessing, which appended `pre`, ran
the frame stack and finished postprocessing. -/
theorem appended_pass (x : TXExecutor) (tx : Transaction) (out : FrameStackOutput) (c : Ctx)
    (pre : List Effect) (w w₂ : World) (s : GasSettlement) (w₁ : World) :
    c.appended (postCtx x tx out ⟨w₂, (⟨w, c.effects ++ pre⟩ : Ctx).effects ++ [.execFrame]⟩ s w₁) =
      pre ++ .execFrame :: .trace .gasPayment (.balance tx.sender) s.refundValue ::
        .write (.addBalance tx.sender s.refundValue x.spec.accountStartNonce) ::
        burnEffects w₁ out.substate.suicides.elems := by
  simp only [postCtx, List.append_assoc, Ctx.appended_append, List.singleton_append]

/-- Past the nonce bump, a passed run bumps no nonce. -/
theorem isIncNonce_pass (p q : AddressPocket) (a b : AddressWithSpace) (g r n : U256)
    (w : World) (l : List AddressWithSpace) :
    ∀ e ∈ [.trace p .gasPayment g, .write (.subBalance a g)] ++ .execFrame ::
      .trace .gasPayment q r :: .write (.addBalance b r n) :: burnEffects w l,
      e.isIncNonce = false := by
  intro e he
  simp only [List.cons_append, List.nil_append, List.mem_cons] at he
  rcases he with rfl | rfl | rfl | rfl | rfl | he
  all_goals first | rfl | exact isIncNonce_burnEffects w l e he

/-- **Rejects are exactly the runs that touch nothing.** `transact` returns a
drop or a reconsider-packing outcome exactly when the executor appended
nothing to its ledger (no write of the state, no traced transfer, no frame),
and then the context is unchanged. Every other outcome starts with the
sender's `inc_nonce`, the only one of the run; after preprocessing the
sender's nonce is one more than before, or than the start nonce for a sender
that did not exist. -/
theorem transact_reject_iff_untouched (x : TXExecutor) (tx : Transaction)
    (options : TransactOptions) {c c' : Ctx} {o : ExecutionOutcome}
    (hRun : (transact x tx options).run c = .ok (o, c')) :
    (o.IsReject ↔ c.appended c' = []) ∧ (o.IsReject → c' = c) ∧
    (¬ o.IsReject → ∃ rest, c.appended c' =
        .write (.incNonce tx.sender x.spec.accountStartNonce) :: rest ∧
      ∀ e ∈ rest, e.isIncNonce = false) ∧
    (¬ o.IsReject → ∃ r c₁, (transactPreprocessing x tx options).run c = .ok (r, c₁) ∧
      (c₁.world.nonce tx.sender).val =
        (if c.world.exists tx.sender then (c.world.nonce tx.sender).val
          else x.spec.accountStartNonce.val) + 1) := by
  rcases transact_cases hRun with hPre | ⟨top, fs, c₁, w₂, out, hPre, -, hPost⟩
  · have hSpec := transactPreprocessing_run x tx options c
    rw [hPre] at hSpec
    cases hSpec with
    | reject hOut =>
      exact ⟨iff_of_true hOut (List.drop_length _), fun _ => rfl, fun h => absurd hOut h,
        fun h => absurd hOut h⟩
    | notEnoughCash _ _ _ _ _ _ _ hInc hSub =>
      have hNonce := (World.incNonce_spec hInc).2.2.1
      rw [← (World.subBalance_spec hSub).2.2.1 tx.sender] at hNonce
      refine ⟨iff_of_false id (by simp), nofun,
        fun _ => ⟨_, by rw [Ctx.appended_append], by simp [Effect.isIncNonce]⟩,
        fun _ => ⟨_, _, hPre, hNonce⟩⟩
  · have hPostSpec := transactPostprocessing_run x tx out ⟨w₂, c₁.effects ++ [.execFrame]⟩
    rw [hPost] at hPostSpec
    have hSpec := transactPreprocessing_run x tx options c
    rw [hPre] at hSpec
    cases hSpec with
    | pass _ _ _ _ hInc hSub =>
      have hNonce := (World.incNonce_spec hInc).2.2.1
      rw [← (World.subBalance_spec hSub).2.2.1 tx.sender] at hNonce
      cases hPostSpec with
      | vmError =>
        rw [appended_pass]
        exact ⟨iff_of_false nofun (by simp), nofun, fun _ => ⟨_, rfl, isIncNonce_pass _ _ _ _ _ _ _ _ _⟩,
          fun _ => ⟨_, _, hPre, hNonce⟩⟩
      | returned =>
        rw [appended_pass]
        exact ⟨iff_of_false (not_isReject_returned _ _) (by simp),
          fun h => absurd h (not_isReject_returned _ _),
          fun _ => ⟨_, rfl, isIncNonce_pass _ _ _ _ _ _ _ _ _⟩, fun _ => ⟨_, _, hPre, hNonce⟩⟩

set_option exponentiation.threshold 600 in
set_option maxRecDepth 8000 in
/-- A transfer that passes from a funded account bumps its nonce first. -/
theorem transact_reject_iff_untouched_transfer :
    ∃ o c', (transact sampleExecutor (transferTx 21000 1) tracedOptions).run
        ⟨fundedWorld 100000 100000, []⟩ = .ok (o, c') ∧
      (o.IsReject ↔ Ctx.appended ⟨fundedWorld 100000 100000, []⟩ c' = []) ∧
      (o.IsReject → c' = ⟨fundedWorld 100000 100000, []⟩) ∧
      (¬ o.IsReject → ∃ rest, Ctx.appended ⟨fundedWorld 100000 100000, []⟩ c' =
          .write (.incNonce (sampleAddress 1) sampleSpec.accountStartNonce) :: rest ∧
        ∀ e ∈ rest, e.isIncNonce = false) ∧
      (¬ o.IsReject → ∃ r c₁, (transactPreprocessing sampleExecutor (transferTx 21000 1)
          tracedOptions).run ⟨fundedWorld 100000 100000, []⟩ = .ok (r, c₁) ∧
        (c₁.world.nonce (sampleAddress 1)).val =
          (if (fundedWorld 100000 100000).exists (sampleAddress 1) then
            ((fundedWorld 100000 100000).nonce (sampleAddress 1)).val
          else sampleSpec.accountStartNonce.val) + 1) :=
  ⟨_, _, rfl, transact_reject_iff_untouched sampleExecutor (transferTx 21000 1) tracedOptions rfl⟩

set_option exponentiation.threshold 600 in
set_option maxRecDepth 8000 in
/-- With a start nonce of 5, a sender that does not exist is admitted to a
not-enough-cash charge when the execution is not real, and leaves
preprocessing at nonce 6, not at its old nonce 0 plus one. -/
theorem transactPreprocessing_nonce_from_start :
    ∃ r c₁, (transactPreprocessing ⟨⟨0⟩, idleMachine, { sampleSpec with accountStartNonce := 5 }⟩
        (transferTx 21000 0) ⟨⟨none, none⟩, ⟨true, false⟩⟩).run ⟨⟨fun _ => none, 0⟩, []⟩ =
        .ok (r, c₁) ∧ ¬ r.IsReject ∧
      (c₁.world.nonce (sampleAddress 1)).val ≠
        ((⟨fun _ => none, 0⟩ : World).nonce (sampleAddress 1)).val + 1 :=
  ⟨_, _, rfl, fun h => h, by decide⟩

/-- **The fee is what the sender paid, net of the refund.** When gas is
charged, every outcome of `transact` that carries an `Executed` has as fee
exactly the executor's debit of the sender less its credit back. When the
frame stack ran, neither saturating product saturated: the fee is the gas
charged times the price, the refund the rest of the limit times the price,
and fee plus refund is the whole limit times the price. -/
theorem transact_fee_accounting (x : TXExecutor) (tx : Transaction) (options : TransactOptions)
    (hCharge : options.checkSettings.chargeGas = true) {c c' : Ctx} {o : ExecutionOutcome}
    (hRun : (transact x tx options).run c = .ok (o, c')) {e : Executed}
    (he : o.executed? = some e) :
    e.fee.val + Effect.credited tx.sender (c.appended c') =
      Effect.debited tx.sender (c.appended c') ∧
    (Effect.execFrame ∈ c.appended c' →
      e.fee.val = e.gasCharged.val * tx.gasPrice.val ∧
      Effect.credited tx.sender (c.appended c') = (tx.gas.val - e.gasCharged.val) * tx.gasPrice.val ∧
      e.fee.val + Effect.credited tx.sender (c.appended c') = tx.gas.val * tx.gasPrice.val) := by
  rcases transact_cases hRun with hPre | ⟨top, fs, c₁, w₂, out, hPre, -, hPost⟩
  · have hSpec := transactPreprocessing_run x tx options c
    rw [hPre] at hSpec
    cases hSpec with
    | reject hOut => simp [ExecutionOutcome.executed?_of_isReject hOut] at he
    | notEnoughCash =>
      cases he
      refine ⟨?_, fun h => ?_⟩
      · simp [Effect.debit, Effect.credit, Executed.notEnoughBalanceFeeCharged]
      · simp at h
  · have hPostSpec := transactPostprocessing_run x tx out ⟨w₂, c₁.effects ++ [.execFrame]⟩
    rw [hPost] at hPostSpec
    have hSpec := transactPreprocessing_run x tx options c
    rw [hPre] at hSpec
    cases hSpec with
    | @pass gasCost _ _ _ _ _ hCovered hGasCost =>
      have hG : gasCost.val = tx.gas.val * tx.gasPrice.val := by
        rw [hGasCost, gasCostOf, if_pos hCharge]
      have hFit : tx.gas.val * tx.gasPrice.val < 2 ^ 256 := by
        have := (c.world.balance tx.sender).isLt; omega
      cases hPostSpec with
      | @vmError _ s _ _ _ hSettle _ _ hResult =>
        cases he
        obtain ⟨-, -, hRefund⟩ := settleGas_exact hSettle hFit
        have hMax := settleGas_gasCharged_eq_max hSettle
        obtain ⟨-, -, hUsed, -⟩ := settleGas_spec hSettle
        have hZero : (gasLeftOf out.result).val = 0 := by rw [hResult]; rfl
        have hAll : s.gasCharged.val = tx.gas.val := by omega
        rw [appended_pass]
        simp [Effect.debit, Effect.credit, Executed.executionErrorFullyCharged, hG, hRefund, hAll]
        omega
      | @returned _ s _ _ _ hSettle =>
        rw [executed?_returned] at he
        cases he
        obtain ⟨hle, hFee, hRefund⟩ := settleGas_exact hSettle hFit
        have hSum : s.gasCharged.val * tx.gasPrice.val + (tx.gas.val - s.gasCharged.val) *
            tx.gasPrice.val = tx.gas.val * tx.gasPrice.val := by
          rw [← Nat.add_mul, Nat.add_sub_cancel' hle]
        rw [appended_pass]
        simp [Effect.debit, Effect.credit, returnedExecuted, hG, hFee, hRefund, hSum]

set_option exponentiation.threshold 600 in
set_option maxRecDepth 8000 in
/-- A transfer at 100000 gas that returns all but the base gas pays for three
quarters of the limit and gets the last quarter back. -/
theorem transact_fee_accounting_transfer :
    tracedOptions.checkSettings.chargeGas = true ∧
    ∃ o c' e, (transact sampleExecutor (transferTx 100000 1) tracedOptions).run
        ⟨fundedWorld 1000000 1000000, []⟩ = .ok (o, c') ∧ o.executed? = some e ∧
      e.fee.val + Effect.credited (sampleAddress 1) (Ctx.appended ⟨fundedWorld 1000000 1000000, []⟩ c') =
        Effect.debited (sampleAddress 1) (Ctx.appended ⟨fundedWorld 1000000 1000000, []⟩ c') ∧
      (Effect.execFrame ∈ Ctx.appended ⟨fundedWorld 1000000 1000000, []⟩ c' →
        e.fee.val = e.gasCharged.val * (transferTx 100000 1).gasPrice.val ∧
        Effect.credited (sampleAddress 1) (Ctx.appended ⟨fundedWorld 1000000 1000000, []⟩ c') =
          ((transferTx 100000 1).gas.val - e.gasCharged.val) * (transferTx 100000 1).gasPrice.val ∧
        e.fee.val + Effect.credited (sampleAddress 1)
            (Ctx.appended ⟨fundedWorld 1000000 1000000, []⟩ c') =
          (transferTx 100000 1).gas.val * (transferTx 100000 1).gasPrice.val) :=
  ⟨rfl, _, _, _, rfl, rfl, @transact_fee_accounting sampleExecutor (transferTx 100000 1)
    tracedOptions rfl ⟨fundedWorld 1000000 1000000, []⟩ _ _ rfl _ rfl⟩

/-! ## Runs where the code and its description part -/

set_option exponentiation.threshold 600 in
set_option maxRecDepth 8000 in
/-- Gas that is not charged is still refunded: a transfer at 100000 gas and
price 1, run without charging gas, is debited nothing, credited a quarter of
its limit, and leaves the sender 25000 richer. -/
theorem transact_free_gas_refund :
    ∃ o c', (transact sampleExecutor (transferTx 100000 1) ⟨⟨none, none⟩, ⟨false, true⟩⟩).run
        ⟨fundedWorld 100000 100000, []⟩ = .ok (o, c') ∧
      Effect.debited (sampleAddress 1) c'.effects = 0 ∧
      Effect.credited (sampleAddress 1) c'.effects = 25000 ∧
      (c'.world.balance (sampleAddress 1)).val = 125000 :=
  ⟨_, _, rfl, by decide, by decide, by decide⟩

set_option exponentiation.threshold 600 in
set_option maxRecDepth 8000 in
/-- A gas limit of `2 ^ 256 - 1` at price zero is admitted, and the triple of
the gas returned overflows in postprocessing. -/
theorem transact_huge_gas_panics :
    (transact sampleExecutor (transferTx ⟨2 ^ 256 - 1, by decide⟩ 0) tracedOptions).run
      ⟨fundedWorld 100000 100000, []⟩ = .error .panic :=
  rfl

end Hemvm
