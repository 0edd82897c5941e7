import Mathlib.Data.List.Nodup
import Hemvm.Word

/-!
# The records the executor reads and writes

Addresses, transactions, the gas schedule, the frame parameters and the
per-transaction substate, as `executor.rs` uses them. Most of these types live
in crates that are not part of the source (`cfx_types`, `primitives`, `vm`,
`state`, `observer`); each keeps the fields the executor touches, and
`MODEL_MAP.json` lists what is left out.

Sets are the one place where representation matters. A Rust `HashSet` is
iterated in an order fixed by a hasher that is seeded at random per process,
so `HashSet` here is a duplicate-free list whose order *is* the iteration
order; two sets with the same elements in different orders are two runs of
the same program on two nodes.

Byte strings come with their big-endian reading `beUint` and writing
`beBytes`, which the ABI decoder and the storage codecs share; on a word of
its own length each undoes the other (`beUint_beBytes`, `beBytes_beUint`).
-/

namespace Hemvm

/-- A byte string (`Bytes`, `Vec<u8>`, `&[u8]`). -/
abbrev Bytes := List UInt8

/-! ## Big-endian words -/

/-- A big-endian word read as a number. -/
def beUint (w : Bytes) : Nat := w.foldl (fun n b => n * 256 + b.toNat) 0

/-- The `k` low bytes of `n`, most significant first. -/
def beBytes : Nat → Nat → Bytes
  | 0, _ => []
  | k + 1, n => beBytes k (n / 256) ++ [UInt8.ofNat (n % 256)]

@[simp] theorem length_beBytes (k n : Nat) : (beBytes k n).length = k := by
  induction k generalizing n with
  | zero => rfl
  | succ k ih => simp [beBytes, ih]

theorem beUint_append_singleton (l : Bytes) (b : UInt8) :
    beUint (l ++ [b]) = beUint l * 256 + b.toNat := by
  simp [beUint, List.foldl_append]

/-- **A big-endian word reads back as the number it encodes**, modulo the
word size. -/
theorem beUint_beBytes (k n : Nat) : beUint (beBytes k n) = n % 256 ^ k := by
  induction k generalizing n with
  | zero => simp [beBytes, beUint, Nat.mod_one]
  | succ k ih =>
    have hByte : (UInt8.ofNat (n % 256)).toNat = n % 256 := by
      show n % 256 % 256 = n % 256; exact Nat.mod_mod _ _
    rw [beBytes, beUint_append_singleton, ih, hByte, Nat.pow_succ, Nat.mul_comm (256 ^ k),
      Nat.mod_mul]
    omega

/-- A word of `k` bytes reads as a number below `256 ^ k`. -/
theorem beUint_lt (w : Bytes) : beUint w < 256 ^ w.length := by
  induction w using List.reverseRecOn with
  | nil => decide
  | append_singleton l b ih =>
    rw [beUint_append_singleton, List.length_append, List.length_singleton, Nat.pow_succ]
    have : b.toNat < 256 := b.val.isLt
    omega

/-- **The big-endian bytes of a word's number are the word**: `beBytes` is a
left inverse of `beUint` at the word's own length. -/
theorem beBytes_beUint (w : Bytes) : beBytes w.length (beUint w) = w := by
  induction w using List.reverseRecOn with
  | nil => rfl
  | append_singleton l b ih =>
    have hb : b.toNat < 256 := b.val.isLt
    have hDiv : (beUint l * 256 + b.toNat) / 256 = beUint l := by omega
    have hMod : UInt8.ofNat ((beUint l * 256 + b.toNat) % 256) = b :=
      UInt8.eq_of_val_eq (Fin.ext (show (beUint l * 256 + b.toNat) % 256 % 256 = b.toNat by omega))
    rw [List.length_append, List.length_singleton, beUint_append_singleton, beBytes, hDiv, hMod,
      ih]

/-- A 20-byte account address. -/
abbrev Address := Word 160

/-- A 32-byte hash. -/
abbrev H256 := Word 256

/-- The address spaces; the executor matches on the one variant there is. -/
inductive Space where
  | ethereum
  deriving DecidableEq, Repr

/-- An address tagged with its space; addresses of two spaces never meet. -/
structure AddressWithSpace where
  address : Address
  space : Space
  deriving DecidableEq, Repr

/-- `Address::with_space`. -/
def Address.withSpace (address : Address) (space : Space) : AddressWithSpace :=
  ⟨address, space⟩

/-! ## Sets in iteration order -/

/-- Modelled from the spec: `std::collections::HashSet`, absent from src, as
its elements listed in iteration order. -/
structure HashSet (α : Type) where
  elems : List α
  nodup : elems.Nodup

namespace HashSet

variable {α : Type} [DecidableEq α]

/-- `HashSet::new()`. -/
def empty : HashSet α := ⟨[], List.nodup_nil⟩

/-- `HashSet::extend`: the elements of `t` not already present join `s`. -/
def extend (s t : HashSet α) : HashSet α :=
  ⟨s.elems ++ t.elems.filter (· ∉ s.elems),
    s.nodup.append (List.Nodup.filter _ t.nodup) fun _ ha hb => by
      simp only [List.mem_filter, decide_eq_true_eq] at hb
      exact hb.2 ha⟩

@[simp] theorem extend_empty (s : HashSet α) : s.extend empty = s := by
  simp [extend, empty]

end HashSet

/-! ## Transactions and the gas schedule -/

/-- `primitives::transaction::Action`. -/
inductive Action where
  | create
  | call (address : Address)
  deriving DecidableEq, Repr

/-- The six fields of `TransactionInfo` the executor reads, plus the sender. -/
structure Transaction where
  sender : AddressWithSpace
  nonce : U256
  gas : U256
  gasPrice : U256
  value : U256
  action : Action
  data : Bytes
  space : Space
  deriving DecidableEq, Repr

/-- The part of the VM `Spec` the executor reads: the base gas schedule and
the nonce of a fresh account. The `usize` fields are `u64` words. -/
structure Spec where
  txGas : U64
  txCreateGas : U64
  txDataZeroGas : U64
  txDataNonZeroGas : U64
  accountStartNonce : U256
  deriving DecidableEq, Repr

/-- The part of `Env` the executor reads. -/
structure Env where
  number : U64
  deriving DecidableEq, Repr

/-- `TransactCheckSettings`. -/
structure TransactCheckSettings where
  chargeGas : Bool
  realExecution : Bool
  deriving DecidableEq, Repr

/-! ## Logs, tracing and the substate -/

/-- `primitives::LogEntry`. -/
structure LogEntry where
  address : Address
  topics : List H256
  data : Bytes
  space : Space
  deriving DecidableEq, Repr

/-- A tagged slot value moves between in a trace (`AddressPocket`). -/
inductive AddressPocket where
  | balance (address : AddressWithSpace)
  | gasPayment
  | mintBurn
  deriving DecidableEq, Repr

/-- Modelled from the spec: one entry of the execution trace (`ExecTrace`,
absent from src). The executor itself only records internal transfers; the
frame stack's entries (calls, creates and their results) are kept opaque. -/
inductive ExecTrace where
  | internalTransfer (fromPocket toPocket : AddressPocket) (value : U256)
  | frame (entry : Nat)
  deriving DecidableEq, Repr

/-- Modelled from the spec: `MultiObservers`, absent from src. The tracer is
its recorded trace; the gas manager is the estimate `gas_required()` returns. -/
structure MultiObservers where
  tracer : Option (List ExecTrace)
  gasMan : Option U256
  deriving DecidableEq, Repr

namespace MultiObservers

/-- `as_state_tracer().trace_internal_transfer(..)`: an absent tracer ignores
the call. -/
def traceInternalTransfer (o : MultiObservers) (fromPocket toPocket : AddressPocket)
    (value : U256) : MultiObservers :=
  { o with tracer := o.tracer.map (· ++ [.internalTransfer fromPocket toPocket value]) }

/-- `tracer.map_or(Default::default(), |t| t.drain())`. -/
def drain (o : MultiObservers) : List ExecTrace := o.tracer.getD []

@[simp] theorem traceInternalTransfer_gasMan (o : MultiObservers) (f t : AddressPocket)
    (v : U256) : (o.traceInternalTransfer f t v).gasMan = o.gasMan := rfl

end MultiObservers

/-- Modelled from the spec: `TransactOptions`. -/
structure TransactOptions where
  observer : MultiObservers
  checkSettings : TransactCheckSettings
  deriving DecidableEq, Repr

/-- Modelled from the spec: the per-transaction `Substate` of the `state`
crate, absent from src. -/
structure Substate where
  logs : List LogEntry
  contractsCreated : List AddressWithSpace
  suicides : HashSet AddressWithSpace
  touched : HashSet AddressWithSpace
  sstoreClearsRefund : Int

namespace Substate

/-- `Substate::new()`. -/
def new : Substate := ⟨[], [], .empty, .empty, 0⟩

/-- Modelled from the spec: `accrue` concatenates the ordered sequences,
unions the sets and sums the refund counter. -/
def accrue (s child : Substate) : Substate where
  logs := s.logs ++ child.logs
  contractsCreated := s.contractsCreated ++ child.contractsCreated
  suicides := s.suicides.extend child.suicides
  touched := s.touched.extend child.touched
  sstoreClearsRefund := s.sstoreClearsRefund + child.sstoreClearsRefund

/-- Folding in an empty substate changes nothing. -/
@[simp] theorem accrue_new (s : Substate) : s.accrue new = s := by
  simp [accrue, new]

end Substate

/-! ## Frames -/

/-- `ActionValue`, as the executor builds it. -/
inductive ActionValue where
  | transfer (value : U256)
  deriving DecidableEq, Repr

/-- `CallType`, the two variants the executor uses. -/
inductive CallType where
  | none
  | call
  deriving DecidableEq, Repr

/-- `CreateType`, the two variants the executor uses. -/
inductive CreateType where
  | none
  | create
  deriving DecidableEq, Repr

/-- `ParamsType`. -/
inductive ParamsType where
  | embedded
  | separate
  deriving DecidableEq, Repr

/-- `CreateContractAddress`, the scheme of Ethereum space. -/
inductive CreateContractAddress where
  | fromSenderNonce
  deriving DecidableEq, Repr

/-- `ActionParams`: the input record of one VM frame. -/
structure ActionParams where
  space : Space
  codeAddress : Address
  address : Address
  sender : Address
  originalSender : Address
  gas : U256
  gasPrice : U256
  value : ActionValue
  code : Option Bytes
  codeHash : Option H256
  data : Option Bytes
  callType : CallType
  createType : CreateType
  paramsType : ParamsType
  deriving DecidableEq, Repr

/-- A frame built by `CallCreateFrame::new_call_raw` or `new_create_raw`. -/
structure CallCreateFrame where
  params : ActionParams
  depth : Nat
  staticFlag : Bool
  isCreate : Bool
  deriving DecidableEq, Repr

/-- The database faults the spec names (`cfx_statedb::ErrorKind`). -/
inductive DbError where
  | incompleteDatabase
  | decoderError
  deriving DecidableEq, Repr

/-- `vm::Error`: the kinds of VM failure the spec names, and the database
fault the VM forwards. -/
inductive VmError where
  | outOfGas
  | badJumpDestination
  | stackUnderflow
  | mutableCallInStaticContext
  | reverted
  | outOfDepth
  | stateDbError (e : DbError)
  deriving DecidableEq, Repr

/-- `FinalizationResult`. -/
structure FinalizationResult where
  gasLeft : U256
  applyState : Bool
  returnData : Bytes
  deriving DecidableEq, Repr

/-- A frame stack about to run: the transaction substate it owns, the
observer moved into it, and the base gas (`FrameStack::new`, without the state,
which stays with the executor). -/
structure FrameStack where
  substate : Substate
  observer : MultiObservers
  baseGasRequired : U64

/-- `FrameStackOutput`. -/
structure FrameStackOutput where
  substate : Substate
  result : Except VmError FinalizationResult
  observer : MultiObservers
  baseGasRequired : U64

end Hemvm
