import Hemvm.Types
import Mathlib.Logic.Function.Basic

/-!
# The world state and the executor's monad

The executor reaches the world state only through `&mut dyn StateTrait`, whose
implementation (the `state` crate) is not part of the source. `World` is that
state modelled from the spec (§4.2): accounts with balance, nonce, code and
storage, and the issued-supply counter. A write fails only where the spec
calls it fatal: an underflow of `sub_balance`, and the same `U256` bound on
the nonce, the balance and the supply.

Every call of `StateTrait` returns a `DbResult`, whose error is a fault of the
database under the state. Those paths are left out: reads and writes of
`World` never fail for a database reason, so each result below that a run
succeeds (of `kill_process`, of a settlement, of `set_storage`), and each
statement that two runs fail with the same fault, is about a database that
does not fail. The one database fault kept is the frame stack's, which
`FrameStack::exec` returns as a `DbError`.

The executor runs in `ExecM`, a state monad over `Ctx` that fails with a
`Fault`. `Ctx.effects` is a ledger: every call the executor makes on one of
its collaborators (a write of the state, a call of the state tracer, the run
of the frame stack) is appended to it in the order it happens, as the state's
debug record logs mutations. The ledger is what lets a statement say which
writes the *executor* performed, apart from what the VM did to the same
accounts.

## Main results

* `incNonce_spec`, `subBalance_spec`, `addBalance_spec` — what each write of
  the state does to every balance and nonce, and when it fails.
* `run_write`, `run_bind` — the monad's operations, one `rfl` lemma each.
-/

namespace Hemvm

/-- Modelled from the spec: an account record of the state. -/
structure Account where
  balance : U256
  nonce : U256
  code : Option Bytes
  codeHash : Option H256
  storage : Bytes → U256

/-- The account `require_or_new_basic_account` creates. -/
def Account.basic (startNonce : U256) : Account := ⟨0, startNonce, none, none, fun _ => 0⟩

/-- Modelled from the spec: the world state behind `StateTrait`. An absent
account reads as balance zero, as the spec has it, and as nonce zero, a choice
of the model: neither the source nor the spec says which nonce
`state.nonce(a)` gives for an account that does not exist. The nonce check of
preprocessing compares the transaction's nonce with that read, so which
transactions of a fresh sender pass it rests on this choice: in
`transactPreprocessing_nonce_from_start` a fresh sender passes at nonce 0. -/
@[ext] structure World where
  accounts : AddressWithSpace → Option Account
  totalIssued : U256

namespace World

/-- `state.nonce(a)`. -/
def nonce (w : World) (a : AddressWithSpace) : U256 := ((w.accounts a).map (·.nonce)).getD 0

/-- `state.balance(a)`. -/
def balance (w : World) (a : AddressWithSpace) : U256 :=
  ((w.accounts a).map (·.balance)).getD 0

/-- `state.exists(a)`. -/
def «exists» (w : World) (a : AddressWithSpace) : Bool := (w.accounts a).isSome

/-- `state.code(a)`. -/
def code (w : World) (a : AddressWithSpace) : Option Bytes := (w.accounts a).bind (·.code)

/-- `state.code_hash(a)`. -/
def codeHash (w : World) (a : AddressWithSpace) : Option H256 :=
  (w.accounts a).bind (·.codeHash)

/-- Replace the record of one account. -/
def setAccount (w : World) (a : AddressWithSpace) (acc : Option Account) : World :=
  { w with accounts := Function.update w.accounts a acc }

/-- `inc_nonce`: create the account with `startNonce` if absent, then add one. -/
def incNonce (w : World) (a : AddressWithSpace) (startNonce : U256) : Option World :=
  let acc := (w.accounts a).getD (Account.basic startNonce)
  (Word.checkedAdd acc.nonce 1).map fun n => w.setAccount a (some { acc with nonce := n })

/-- `add_balance`: a non-zero amount creates an absent account with
`startNonce`. -/
def addBalance (w : World) (a : AddressWithSpace) (amount startNonce : U256) : Option World :=
  if amount.val = 0 then some w
  else
    let acc := (w.accounts a).getD (Account.basic startNonce)
    (Word.checkedAdd acc.balance amount).map fun b =>
      w.setAccount a (some { acc with balance := b })

/-- `sub_balance`: a non-zero amount needs an account holding at least that
much; anything else is fatal. -/
def subBalance (w : World) (a : AddressWithSpace) (amount : U256) : Option World :=
  if amount.val = 0 then some w
  else match w.accounts a with
    | none => none
    | some acc => (Word.checkedSub acc.balance amount).map fun b =>
        w.setAccount a (some { acc with balance := b })

/-- `remove_contract`: delete the account record with its code and storage. -/
def removeContract (w : World) (a : AddressWithSpace) : World := w.setAccount a none

/-- `subtract_total_issued`. -/
def subtractTotalIssued (w : World) (amount : U256) : Option World :=
  (Word.checkedSub w.totalIssued amount).map fun t => { w with totalIssued := t }

/-! ### Reads after a write -/

variable {w w' : World} {a b : AddressWithSpace}

@[simp] theorem accounts_setAccount (acc : Option Account) :
    (w.setAccount a acc).accounts = Function.update w.accounts a acc := rfl

@[simp] theorem totalIssued_setAccount (acc : Option Account) :
    (w.setAccount a acc).totalIssued = w.totalIssued := rfl

theorem balance_of_accounts (h : w.accounts a = some acc) : w.balance a = acc.balance := by
  simp [balance, h]

theorem nonce_of_accounts (h : w.accounts a = some acc) : w.nonce a = acc.nonce := by
  simp [nonce, h]

theorem balance_eq_of_accounts (h : w'.accounts a = w.accounts a) :
    w'.balance a = w.balance a := by
  simp [balance, h]

theorem nonce_eq_of_accounts (h : w'.accounts a = w.accounts a) : w'.nonce a = w.nonce a := by
  simp [nonce, h]

/-- The account a write creates or updates reads back as `getD` of the old
record. -/
private theorem getD_balance (startNonce : U256) :
    ((w.accounts a).getD (Account.basic startNonce)).balance = w.balance a := by
  cases h : w.accounts a <;> simp [balance, h, Account.basic]

/-! ### What each write does

One lemma per write says everything it can do: when it fails, and on
success the balance and nonce of every account and the supply. -/

/-- **`inc_nonce`**: only the nonce of `a` moves; it becomes one more than the
old nonce, or than `startNonce` for an absent account. -/
theorem incNonce_spec (h : w.incNonce a startNonce = some w') :
    (∀ b, w'.balance b = w.balance b) ∧
    (∀ b, b ≠ a → w'.nonce b = w.nonce b) ∧
    (w'.nonce a).val = (if w.exists a then (w.nonce a).val else startNonce.val) + 1 ∧
    w'.totalIssued = w.totalIssued := by
  unfold incNonce at h
  obtain ⟨n, hn, rfl⟩ := Option.map_eq_some'.mp h
  obtain ⟨-, hval⟩ := Word.checkedAdd_eq_some.mp hn
  refine ⟨fun b => ?_, fun b hb => ?_, ?_, rfl⟩
  · by_cases hb : b = a
    · subst hb; simp [balance, getD_balance]
    · exact balance_eq_of_accounts (by simp [hb])
  · exact nonce_eq_of_accounts (by simp [hb])
  · cases hacc : w.accounts a <;> simp_all [nonce, «exists», Account.basic]

theorem incNonce_eq_none :
    w.incNonce a startNonce = none ↔
      ((w.accounts a).getD (Account.basic startNonce)).nonce.val + 1 = 2 ^ 256 := by
  unfold incNonce
  have := ((w.accounts a).getD (Account.basic startNonce)).nonce.isLt
  have hOne : (1 : U256).val = 1 := rfl
  simp only [Option.map_eq_none', Word.checkedAdd_eq_none, hOne]
  omega

/-- **`sub_balance`**: only the balance of `a` moves, down by `amount`; it
fails exactly when `amount` exceeds that balance. -/
theorem subBalance_spec (h : w.subBalance a amount = some w') :
    (w'.balance a).val + amount.val = (w.balance a).val ∧
    (∀ b, b ≠ a → w'.balance b = w.balance b) ∧
    (∀ b, w'.nonce b = w.nonce b) ∧
    w'.totalIssued = w.totalIssued := by
  unfold subBalance at h
  split at h
  · cases h; simp_all
  · split at h
    · cases h
    · rename_i acc hacc
      obtain ⟨v, hv, rfl⟩ := Option.map_eq_some'.mp h
      obtain ⟨hle, hval⟩ := Word.checkedSub_eq_some.mp hv
      refine ⟨?_, fun b hb => balance_eq_of_accounts (by simp [hb]), fun b => ?_, rfl⟩
      · simp [balance, hacc, hval]; omega
      · by_cases hb : b = a
        · subst hb; simp [nonce, hacc]
        · exact nonce_eq_of_accounts (by simp [hb])

theorem subBalance_isSome (h : amount.val ≤ (w.balance a).val) :
    (w.subBalance a amount).isSome := by
  unfold subBalance
  split
  · rfl
  · cases hacc : w.accounts a with
    | none => simp [balance, hacc] at h; omega
    | some acc =>
      have hle : amount.val ≤ acc.balance.val := by simpa [balance, hacc] using h
      simp [Option.isSome_map, Word.checkedSub, hle]

/-- **`add_balance`**: only the balance of `a` moves, up by `amount`; it fails
exactly when the sum leaves `U256`. -/
theorem addBalance_spec (h : w.addBalance a amount startNonce = some w') :
    (w'.balance a).val = (w.balance a).val + amount.val ∧
    (∀ b, b ≠ a → w'.balance b = w.balance b) ∧
    w'.totalIssued = w.totalIssued := by
  unfold addBalance at h
  split at h
  · cases h; simp_all
  · obtain ⟨v, hv, rfl⟩ := Option.map_eq_some'.mp h
    obtain ⟨-, hval⟩ := Word.checkedAdd_eq_some.mp hv
    refine ⟨?_, fun b hb => balance_eq_of_accounts (by simp [hb]), rfl⟩
    simp [balance, hval, getD_balance]

theorem addBalance_eq_none :
    w.addBalance a amount startNonce = none ↔
      amount.val ≠ 0 ∧ 2 ^ 256 ≤ (w.balance a).val + amount.val := by
  unfold addBalance
  split
  · simp_all
  · simp [Word.checkedAdd_eq_none, getD_balance, *]

@[simp] theorem accounts_removeContract :
    (w.removeContract a).accounts = Function.update w.accounts a none := rfl

@[simp] theorem totalIssued_removeContract :
    (w.removeContract a).totalIssued = w.totalIssued := rfl

/-- **`subtract_total_issued`**: only the supply moves, down by `amount`. -/
theorem subtractTotalIssued_spec (h : w.subtractTotalIssued amount = some w') :
    w'.accounts = w.accounts ∧ w'.totalIssued.val + amount.val = w.totalIssued.val := by
  obtain ⟨t, ht, rfl⟩ := Option.map_eq_some'.mp h
  obtain ⟨hle, hval⟩ := Word.checkedSub_eq_some.mp ht
  exact ⟨rfl, by simp only [hval]; omega⟩

/-- `subtract_total_issued` fails exactly when `amount` exceeds the supply. -/
theorem subtractTotalIssued_eq_none :
    w.subtractTotalIssued amount = none ↔ w.totalIssued.val < amount.val := by
  simp [subtractTotalIssued, Word.checkedSub_eq_none]

/-! ### Which records a write touches

The three account writes replace the record of their own account and no
other. -/

theorem accounts_of_incNonce (h : w.incNonce a startNonce = some w') (hb : b ≠ a) :
    w'.accounts b = w.accounts b := by
  obtain ⟨n, -, rfl⟩ := Option.map_eq_some'.mp h
  simp [hb]

theorem accounts_of_subBalance (h : w.subBalance a amount = some w') (hb : b ≠ a) :
    w'.accounts b = w.accounts b := by
  unfold subBalance at h
  split at h
  · cases h; rfl
  · split at h
    · cases h
    · obtain ⟨v, -, rfl⟩ := Option.map_eq_some'.mp h
      simp [hb]

theorem accounts_of_addBalance (h : w.addBalance a amount startNonce = some w') (hb : b ≠ a) :
    w'.accounts b = w.accounts b := by
  unfold addBalance at h
  split at h
  · cases h; rfl
  · obtain ⟨v, -, rfl⟩ := Option.map_eq_some'.mp h
    simp [hb]

end World

/-! ## The ledger -/

/-- A write of the executor on the world state, through `StateTrait`. -/
inductive StateWrite where
  | incNonce (address : AddressWithSpace) (startNonce : U256)
  | subBalance (address : AddressWithSpace) (amount : U256)
  | addBalance (address : AddressWithSpace) (amount startNonce : U256)
  | removeContract (address : AddressWithSpace)
  | subtractTotalIssued (amount : U256)
  deriving DecidableEq, Repr

/-- The world after a write, or `none` where the state fails. -/
def StateWrite.apply : StateWrite → World → Option World
  | .incNonce a s, w => w.incNonce a s
  | .subBalance a v, w => w.subBalance a v
  | .addBalance a v s, w => w.addBalance a v s
  | .removeContract a, w => some (w.removeContract a)
  | .subtractTotalIssued v, w => w.subtractTotalIssued v

/-- One call of the executor on a collaborator. -/
inductive Effect where
  | write (w : StateWrite)
  | trace (fromPocket toPocket : AddressPocket) (value : U256)
  | execFrame
  deriving DecidableEq, Repr

namespace Effect

/-- A `sub_balance` write. -/
def isSubBalance : Effect → Bool
  | .write (.subBalance _ _) => true
  | _ => false

/-- An `inc_nonce` write. -/
def isIncNonce : Effect → Bool
  | .write (.incNonce _ _) => true
  | _ => false

/-- What one effect takes from the balance of `a`: a `sub_balance` on it. -/
def debit (a : AddressWithSpace) : Effect → Nat
  | .write (.subBalance b v) => if b = a then v.val else 0
  | _ => 0

/-- What one effect adds to the balance of `a`: an `add_balance` on it. -/
def credit (a : AddressWithSpace) : Effect → Nat
  | .write (.addBalance b v _) => if b = a then v.val else 0
  | _ => 0

/-- What a ledger debited from `a` through `sub_balance`. -/
def debited (a : AddressWithSpace) (l : List Effect) : Nat := (l.map (debit a)).sum

/-- What a ledger credited to `a` through `add_balance`. -/
def credited (a : AddressWithSpace) (l : List Effect) : Nat := (l.map (credit a)).sum

@[simp] theorem debited_nil (a : AddressWithSpace) : debited a [] = 0 := rfl

@[simp] theorem credited_nil (a : AddressWithSpace) : credited a [] = 0 := rfl

@[simp] theorem debited_cons (a : AddressWithSpace) (e : Effect) (l : List Effect) :
    debited a (e :: l) = debit a e + debited a l := List.sum_cons

@[simp] theorem credited_cons (a : AddressWithSpace) (e : Effect) (l : List Effect) :
    credited a (e :: l) = credit a e + credited a l := List.sum_cons

@[simp] theorem debited_append (a : AddressWithSpace) (l₁ l₂ : List Effect) :
    debited a (l₁ ++ l₂) = debited a l₁ + debited a l₂ := by
  induction l₁ with
  | nil => simp
  | cons e l ih => simp [ih, Nat.add_assoc]

@[simp] theorem credited_append (a : AddressWithSpace) (l₁ l₂ : List Effect) :
    credited a (l₁ ++ l₂) = credited a l₁ + credited a l₂ := by
  induction l₁ with
  | nil => simp
  | cons e l ih => simp [ih, Nat.add_assoc]

end Effect

/-- Why a run produced no result. -/
inductive Fault where
  /-- A `DbResult` error, propagated by `?`. -/
  | db (e : DbError)
  /-- A panic of the executor's own arithmetic (`uint` overflow, `unwrap`
  of a failed conversion, `as_u64` out of range). -/
  | panic
  /-- A fatal error inside the state implementation. -/
  | statePanic
  deriving DecidableEq, Repr

/-- The executor's working context: the state it holds exclusively, and the
ledger of what it did. -/
structure Ctx where
  world : World
  effects : List Effect

/-- The ledger entries appended on the way from `c` to `c'`. -/
def Ctx.appended (c c' : Ctx) : List Effect := c'.effects.drop c.effects.length

@[simp] theorem Ctx.appended_append (c : Ctx) (w : World) (l : List Effect) :
    c.appended ⟨w, c.effects ++ l⟩ = l := List.drop_left _ _

/-- The executor's monad. -/
abbrev ExecM := StateT Ctx (Except Fault)

namespace ExecM

/-- A `uint` operation: `none` is a panic. -/
def orPanic {α : Type} : Option α → ExecM α
  | some a => pure a
  | none => throw .panic

/-- A read of the state. -/
def read {α : Type} (f : World → α) : ExecM α := do return f (← get).world

/-- Append an effect to the ledger. -/
def emit (e : Effect) : ExecM Unit := modify fun c => { c with effects := c.effects ++ [e] }

/-- A write of the state, logged. -/
def write (s : StateWrite) : ExecM Unit := do
  let c ← get
  match s.apply c.world with
  | some world => set { c with world := world, effects := c.effects ++ [Effect.write s] }
  | none => throw .statePanic

/-- `observer.as_state_tracer().trace_internal_transfer(..)`, logged. -/
def traceInternalTransfer (o : MultiObservers) (fromPocket toPocket : AddressPocket)
    (value : U256) : ExecM MultiObservers := do
  emit (.trace fromPocket toPocket value)
  return o.traceInternalTransfer fromPocket toPocket value

variable {α β : Type} {c : Ctx}

@[simp] theorem run_bind (x : ExecM α) (f : α → ExecM β) :
    (x >>= f).run c = match x.run c with
      | .ok (a, c') => (f a).run c'
      | .error e => .error e := by
  simp only [StateT.run_bind]
  cases x.run c <;> rfl

@[simp] theorem run_map (f : α → β) (x : ExecM α) :
    (f <$> x).run c = match x.run c with
      | .ok (a, c') => .ok (f a, c')
      | .error e => .error e := by
  simp only [StateT.run_map]
  cases x.run c <;> rfl

@[simp] theorem run_pure (a : α) : (pure a : ExecM α).run c = .ok (a, c) := rfl

@[simp] theorem run_get : (get : ExecM Ctx).run c = .ok (c, c) := rfl

@[simp] theorem run_set (c' : Ctx) : (set c' : ExecM PUnit).run c = .ok ((), c') := rfl

@[simp] theorem run_throw (e : Fault) : (throw e : ExecM α).run c = .error e := rfl

@[simp] theorem run_ite (p : Prop) [Decidable p] (x y : ExecM α) :
    (if p then x else y).run c = if p then x.run c else y.run c := by
  split <;> rfl

@[simp] theorem run_orPanic_some (a : α) : (orPanic (some a)).run c = .ok (a, c) := rfl

@[simp] theorem run_orPanic_none : (orPanic none : ExecM α).run c = .error .panic := rfl

@[simp] theorem run_read (f : World → α) : (read f).run c = .ok (f c.world, c) := rfl

@[simp] theorem run_emit (e : Effect) :
    (emit e).run c = .ok ((), { c with effects := c.effects ++ [e] }) := rfl

@[simp] theorem run_write (s : StateWrite) :
    (write s).run c = match s.apply c.world with
      | some world => .ok ((), { c with world := world, effects := c.effects ++ [.write s] })
      | none => .error .statePanic := by
  cases h : s.apply c.world <;> simp [write, h]
  rfl

@[simp] theorem run_traceInternalTransfer (o : MultiObservers) (f t : AddressPocket)
    (v : U256) : (traceInternalTransfer o f t v).run c =
      .ok (o.traceInternalTransfer f t v, { c with effects := c.effects ++ [.trace f t v] }) :=
  rfl

end ExecM

end Hemvm
