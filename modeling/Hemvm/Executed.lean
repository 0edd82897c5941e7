import Hemvm.Types

/-!
# Execution outcomes

`executed.rs`: the `Executed` record, the three error enums and the four-way
`ExecutionOutcome` that callers pattern-match on, and the two constructors of
an `Executed` for a transaction that did not run to completion.
-/

namespace Hemvm

/-- `Executed`: what a transaction that bumped the nonce charged and
produced. -/
structure Executed where
  gasUsed : U256
  fee : U256
  gasCharged : U256
  logs : List LogEntry
  contractsCreated : List AddressWithSpace
  output : Bytes
  trace : List ExecTrace
  estimatedGasLimit : Option U256
  deriving DecidableEq, Repr

/-- `ToRepackError`. -/
inductive ToRepackError where
  | invalidNonce (expected got : U256)
  | senderDoesNotExist
  deriving DecidableEq, Repr

/-- `TxDropError`. -/
inductive TxDropError where
  | oldNonce (expected got : U256)
  | notEnoughBaseGas (expected actual : U64)
  deriving DecidableEq, Repr

/-- `ExecutionError`. -/
inductive ExecutionError where
  | notEnoughCash (required got : U512) (actualGasCost : U256)
  | vmError (e : VmError)
  deriving DecidableEq, Repr

/-- `ExecutionOutcome`. -/
inductive ExecutionOutcome where
  | notExecutedDrop (e : TxDropError)
  | notExecutedToReconsiderPacking (e : ToRepackError)
  | executionErrorBumpNonce (e : ExecutionError) (executed : Executed)
  | finished (executed : Executed)
  deriving DecidableEq, Repr

namespace ExecutionOutcome

/-- `successfully_executed`. -/
def successfullyExecuted : ExecutionOutcome → Option Executed
  | .finished executed => some executed
  | _ => none

/-- The `Executed` an outcome carries, if it carries one. -/
def executed? : ExecutionOutcome → Option Executed
  | .executionErrorBumpNonce _ executed => some executed
  | .finished executed => some executed
  | _ => none

/-- A pre-execution reject: the transaction is dropped or left for later. -/
def IsReject : ExecutionOutcome → Prop
  | .notExecutedDrop _ => True
  | .notExecutedToReconsiderPacking _ => True
  | _ => False

instance : DecidablePred IsReject := fun o => by
  cases o <;> simp only [IsReject] <;> infer_instance

/-- A reject carries no `Executed`. -/
theorem executed?_of_isReject {o : ExecutionOutcome} (h : o.IsReject) : o.executed? = none := by
  cases o <;> first | rfl | exact h.elim

end ExecutionOutcome

namespace Executed

/-- `not_enough_balance_fee_charged`: the whole gas limit counts as used and
the fee is what could be charged. -/
def notEnoughBalanceFeeCharged (tx : Transaction) (fee : U256) (trace : List ExecTrace)
    (_spec : Spec) : Executed :=
  let gasCharged := if tx.gasPrice.val = 0 then 0 else ⟨fee.val / tx.gasPrice.val,
    Nat.lt_of_le_of_lt (Nat.div_le_self _ _) fee.isLt⟩
  { gasUsed := tx.gas, gasCharged, fee, logs := [], contractsCreated := [], output := [],
    trace, estimatedGasLimit := none }

/-- `execution_error_fully_charged`: the whole gas limit is used and charged. -/
def executionErrorFullyCharged (tx : Transaction) (trace : List ExecTrace) (_spec : Spec) :
    Executed :=
  { gasUsed := tx.gas, gasCharged := tx.gas, fee := Word.saturatingMul tx.gas tx.gasPrice,
    logs := [], contractsCreated := [], output := [], trace, estimatedGasLimit := none }

end Executed

end Hemvm
