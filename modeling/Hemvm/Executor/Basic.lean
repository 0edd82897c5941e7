import Hemvm.State
import Hemvm.Executed
import Hemvm.Gas

/-!
# The executor and what it drives

`TXExecutor` holds the state exclusively for one `transact` call; here the
state is the context of `ExecM`, and the executor keeps the environment, the
spec and the machinery it calls. That machinery — deriving a new contract's
address and running the frame stack with the VM behind it — lives outside
`executor.rs`, so it is a parameter: every result below holds for every VM.

A frame stack may do anything to the world state; what the executor may
assume of it is only what the VM promises, and the only promise used is
`FrameExec.GasBounded`: the root frame never returns more gas than it was
given.
-/

namespace Hemvm

/-- `FrameStack::exec`: run the root frame to completion over the world
state, failing only with a database fault. -/
abbrev FrameExec := FrameStack → CallCreateFrame → World → Except DbError (World × FrameStackOutput)

/-- The VM's promise: a successful root frame hands back at most the gas it
was given. -/
def FrameExec.GasBounded (exec : FrameExec) : Prop :=
  ∀ fs top w w' out r, exec fs top w = .ok (w', out) → out.result = .ok r →
    r.gasLeft.val ≤ top.params.gas.val

/-- What the executor calls outside `executor.rs`: `contract_address` and
the frame stack. -/
structure Machine where
  contractAddress :
    CreateContractAddress → U256 → AddressWithSpace → U256 → Bytes → AddressWithSpace × Option H256
  exec : FrameExec

/-- `TXExecutor`, without the state it borrows. -/
structure TXExecutor where
  env : Env
  machine : Machine
  spec : Spec

/-- `PreCheckResult`. -/
inductive PreCheckResult where
  | pass (topFrame : CallCreateFrame) (frameStack : FrameStack)
  | fail (outcome : ExecutionOutcome)

/-- `CallCreateFrame::new_call_raw`, at the given depth and static flag. -/
def CallCreateFrame.newCallRaw (params : ActionParams) (depth : Nat) (staticFlag : Bool) :
    CallCreateFrame :=
  ⟨params, depth, staticFlag, false⟩

/-- `CallCreateFrame::new_create_raw`, at the given depth and static flag. -/
def CallCreateFrame.newCreateRaw (params : ActionParams) (depth : Nat) (staticFlag : Bool) :
    CallCreateFrame :=
  ⟨params, depth, staticFlag, true⟩

/-- `FrameStack::new`. -/
def FrameStack.new (txSubstate : Substate) (observer : MultiObservers) (baseGasRequired : U64) :
    FrameStack :=
  ⟨txSubstate, observer, baseGasRequired⟩

namespace ExecM

/-- `frame_stack.exec(top_frame)?`, logged. -/
def execFrameStack (exec : FrameExec) (frameStack : FrameStack) (topFrame : CallCreateFrame) :
    ExecM FrameStackOutput := do
  emit .execFrame
  let c ← get
  match exec frameStack topFrame c.world with
  | .ok (world, output) =>
    set { c with world := world }
    return output
  | .error e => throw (.db e)

@[simp] theorem run_execFrameStack (exec : FrameExec) (fs : FrameStack) (top : CallCreateFrame)
    (c : Ctx) : (execFrameStack exec fs top).run c =
      match exec fs top c.world with
      | .ok (world, output) => .ok (output, ⟨world, c.effects ++ [.execFrame]⟩)
      | .error e => .error (.db e) := by
  cases h : exec fs top c.world <;>
    simp only [execFrameStack, run_bind, run_emit, run_get, run_set, run_map, run_throw, run_pure, h]

end ExecM

/-! ## Sample inputs

Concrete values of the executor's inputs: Ethereum's base gas schedule, a
state with one funded externally owned account (and, beside it, two funded
contracts), a value transfer between Ethereum-space accounts, and two frame
stacks: one that returns all its gas untouched, as a call to an account
without code does, and one that also reports contracts as self-destructed. -/

/-- The Ethereum-space account with the given number. -/
def sampleAddress (n : Address) : AddressWithSpace := ⟨n, .ethereum⟩

/-- Ethereum's base gas: 21000 per transaction, 53000 per creation, 4 and 16
per zero and non-zero data byte; fresh accounts start at nonce 0. -/
def sampleSpec : Spec := ⟨21000, 53000, 4, 16, 0⟩

/-- A frame stack that hands back all the gas it was given and writes
nothing. -/
def idleMachine : Machine where
  contractAddress := fun _ _ sender _ _ => (sender, none)
  exec := fun fs top w =>
    .ok (w, ⟨fs.substate, .ok ⟨top.params.gas, true, []⟩, fs.observer, fs.baseGasRequired⟩)

/-- A frame stack like `idleMachine` that also reports `suicides` as
self-destructed, in that iteration order. -/
def suicidingMachine (suicides : HashSet AddressWithSpace) : Machine where
  contractAddress := fun _ _ sender _ _ => (sender, none)
  exec := fun fs top w =>
    .ok (w, ⟨{ fs.substate with suicides }, .ok ⟨top.params.gas, true, []⟩, fs.observer,
      fs.baseGasRequired⟩)

/-- The executor over `sampleSpec` and `idleMachine`. -/
def sampleExecutor : TXExecutor := ⟨⟨0⟩, idleMachine, sampleSpec⟩

/-- The executor over `sampleSpec` whose frame stack reports contract 2 as
self-destructed. -/
def suicidingExecutor : TXExecutor :=
  ⟨⟨0⟩, suicidingMachine ⟨[sampleAddress 2], List.nodup_singleton _⟩, sampleSpec⟩

/-- Account 1 holds `balance` at nonce 0; the supply is `issued`. -/
def fundedWorld (balance issued : U256) : World where
  accounts := fun a => if a = sampleAddress 1 then some ⟨balance, 0, none, none, fun _ => 0⟩ else none
  totalIssued := issued

/-- `fundedWorld balance issued` with two contracts beside account 1:
accounts 2 and 3, holding `held` each. -/
def contractsWorld (balance held issued : U256) : World where
  accounts := fun a =>
    if a = sampleAddress 1 then some ⟨balance, 0, none, none, fun _ => 0⟩
    else if a = sampleAddress 2 ∨ a = sampleAddress 3 then some ⟨held, 0, none, none, fun _ => 0⟩
    else none
  totalIssued := issued

/-- A transfer of 10 from account 1 to account 2, with no data. -/
def transferTx (gas gasPrice : U256) : Transaction :=
  ⟨sampleAddress 1, 0, gas, gasPrice, 10, .call 2, [], .ethereum⟩

/-- A real execution that charges gas, with a tracer. -/
def tracedOptions : TransactOptions := ⟨⟨some [], none⟩, ⟨true, true⟩⟩

theorem idleMachine_gasBounded : idleMachine.exec.GasBounded := by
  rintro fs top w w' out r h hr
  simp only [idleMachine, Except.ok.injEq, Prod.mk.injEq] at h
  obtain ⟨-, rfl⟩ := h
  cases hr
  exact Nat.le_refl _

end Hemvm
