import Hemvm.Types

/-!
# `InternalRefContext`

The context an internal contract runs in (`internal_contract/components/
context.rs`): the state it reaches through `StateOpsTrait`, the substate of
its frame, and the frame's static flag. Its operations take `&mut self` and
return a `Result`, so each is a function from the context to an
`EStateM.Result`, which keeps the context on the error path as Rust keeps
whatever was written before an early `return Err`.

The state is only reached through `set_storage` and `storage_at`, so only its
storage is modelled, from the spec: a `U256` per account and key, where
`set_storage` writes one slot. The `DbResult` of `StateOpsTrait::set_storage`
and `storage_at` is left out: the modelled storage never fails, so every
`Ok` proved below is the `Ok` of a database that does not fail.

`log` checks the static flag before it writes; `set_storage` does not read
it. The static rule of the spec ("static disallows any mutating operation")
is therefore kept by the context for logs only.

## Main results

* `log_of_staticFlag` — in a static context `log` fails with
  `MutableCallInStaticContext` and leaves the context as it was.
* `log_of_not_staticFlag` — otherwise it appends one entry, with the
  frame's address, space, topics and data, to the substate's logs.
* `setStorage_eq` — `set_storage` succeeds in every context, static or not,
  writes the one slot of the frame's account and key, and leaves the substate
  and the flag alone.
* `storageAt_of_setStorage` — through the context, a read of the slot just
  written gives the value written.
* `staticFlag_guards_log_only` — together: a static context refuses `log`
  and is left as it was, but `set_storage` still writes its slot.
* `setStorage_writes_in_static_context` — a static context in which
  `set_storage` returns `Ok` and one slot changes.
-/

namespace Hemvm

/-- Modelled from the spec: the storage of the state (`storage_at`,
`set_storage`), a value per account and key. -/
structure Storage where
  slot : AddressWithSpace → Bytes → U256

namespace Storage

/-- `State::set_storage`: the slot `key` of `address` now holds `value`. -/
def setStorage (s : Storage) (address : AddressWithSpace) (key : Bytes) (value : U256) :
    Storage :=
  ⟨fun a k => if a = address ∧ k = key then value else s.slot a k⟩

/-- `State::storage_at`. -/
def storageAt (s : Storage) (address : AddressWithSpace) (key : Bytes) : U256 :=
  s.slot address key

@[simp] theorem slot_setStorage (s : Storage) (address : AddressWithSpace) (key : Bytes)
    (value : U256) (a : AddressWithSpace) (k : Bytes) :
    (s.setStorage address key value).slot a k = if a = address ∧ k = key then value else s.slot a k :=
  rfl

end Storage

/-- `InternalRefContext`, with the fields its operations read: the state,
the frame's substate and its static flag. -/
structure InternalRefContext where
  state : Storage
  substate : Substate
  staticFlag : Bool

namespace InternalRefContext

/-- `InternalRefContext::log`. -/
def log (params : ActionParams) (topics : List H256) (data : Bytes) :
    EStateM VmError InternalRefContext Unit := fun ctx =>
  if ctx.staticFlag then .error .mutableCallInStaticContext ctx
  else
    let address := params.address
    .ok () { ctx with
      substate := { ctx.substate with
        logs := ctx.substate.logs ++ [⟨address, topics, data, params.space⟩] } }

/-- `InternalRefContext::set_storage`. -/
def setStorage (params : ActionParams) (key : Bytes) (value : U256) :
    EStateM VmError InternalRefContext Unit := fun ctx =>
  let receiver := params.address.withSpace params.space
  .ok () { ctx with state := ctx.state.setStorage receiver key value }

/-- `InternalRefContext::storage_at`. -/
def storageAt (params : ActionParams) (key : Bytes) : EStateM DbError InternalRefContext U256 :=
  fun ctx =>
    let receiver := params.address.withSpace params.space
    .ok (ctx.state.storageAt receiver key) ctx

variable (params : ActionParams) (ctx : InternalRefContext)

/-- **A static context refuses `log`** and is left exactly as it was. -/
theorem log_of_staticFlag (topics : List H256) (data : Bytes) (hStatic : ctx.staticFlag = true) :
    log params topics data ctx = .error .mutableCallInStaticContext ctx := by
  simp only [log, hStatic, if_true]

/-- Elsewhere `log` appends the frame's entry to the logs, and nothing else
changes. -/
theorem log_of_not_staticFlag (topics : List H256) (data : Bytes)
    (hStatic : ctx.staticFlag = false) :
    log params topics data ctx =
      .ok () { ctx with
        substate := { ctx.substate with
          logs := ctx.substate.logs ++ [⟨params.address, topics, data, params.space⟩] } } := by
  simp only [log, hStatic, Bool.false_eq_true, if_false]

/-- **`set_storage` ignores the static flag**: on the modelled storage, which
never fails, it succeeds in every context, writes the slot `key` of the
frame's account, and leaves every other slot, the substate and the flag as
they were. -/
theorem setStorage_eq (key : Bytes) (value : U256) :
    ∃ ctx', setStorage params key value ctx = .ok () ctx' ∧
      ctx'.substate = ctx.substate ∧ ctx'.staticFlag = ctx.staticFlag ∧
      ∀ a k, ctx'.state.slot a k =
        if a = params.address.withSpace params.space ∧ k = key then value else ctx.state.slot a k :=
  ⟨_, rfl, rfl, rfl, fun _ _ => rfl⟩

/-- Through the context, a read of the slot just written gives the value
written. -/
theorem storageAt_of_setStorage (key : Bytes) (value : U256) :
    ∃ ctx', setStorage params key value ctx = .ok () ctx' ∧
      storageAt params key ctx' = .ok value ctx' :=
  ⟨_, rfl, by simp [storageAt, Storage.storageAt]⟩

/-- **What the static flag guards**: in a static context `log` fails with
`MutableCallInStaticContext` and leaves the context as it was, while
`set_storage` still succeeds and writes its slot, leaving every other slot and
the substate as they were. -/
theorem staticFlag_guards_log_only (hStatic : ctx.staticFlag = true) (topics : List H256)
    (data key : Bytes) (value : U256) :
    log params topics data ctx = .error .mutableCallInStaticContext ctx ∧
    ∃ ctx', setStorage params key value ctx = .ok () ctx' ∧
      ctx'.substate = ctx.substate ∧ ctx'.staticFlag = true ∧
      ∀ a k, ctx'.state.slot a k =
        if a = params.address.withSpace params.space ∧ k = key then value else ctx.state.slot a k := by
  obtain ⟨ctx', hSet, hSubstate, hFlag, hSlot⟩ := setStorage_eq params ctx key value
  exact ⟨log_of_staticFlag params ctx topics data hStatic, ctx', hSet, hSubstate,
    hFlag.trans hStatic, hSlot⟩

/-- A call frame of account 2, sent by account 1. -/
def sampleCallParams : ActionParams :=
  ⟨.ethereum, 2, 2, 1, 1, 0, 0, .transfer 0, none, none, none, .call, .none, .separate⟩

/-- A static context over empty storage and a fresh substate. -/
def staticContext : InternalRefContext := ⟨⟨fun _ _ => 0⟩, Substate.new, true⟩

theorem staticFlag_guards_log_only_sample :
    staticContext.staticFlag = true ∧
    (log sampleCallParams [] [] staticContext = .error .mutableCallInStaticContext staticContext ∧
    ∃ ctx', setStorage sampleCallParams [] 1 staticContext = .ok () ctx' ∧
      ctx'.substate = staticContext.substate ∧ ctx'.staticFlag = true ∧
      ∀ a k, ctx'.state.slot a k =
        if a = sampleCallParams.address.withSpace sampleCallParams.space ∧ k = [] then 1
        else staticContext.state.slot a k) :=
  ⟨rfl, staticFlag_guards_log_only sampleCallParams staticContext rfl [] [] [] 1⟩

/-- **`set_storage` writes in a static context**: it returns `Ok`, and the
slot of the empty key of account 2 goes from 0 to 1 although the flag is
set. -/
theorem setStorage_writes_in_static_context :
    staticContext.staticFlag = true ∧
    ∃ ctx', setStorage sampleCallParams [] 1 staticContext = .ok () ctx' ∧
      ctx'.state.slot ⟨2, .ethereum⟩ [] ≠ staticContext.state.slot ⟨2, .ethereum⟩ [] :=
  ⟨rfl, _, rfl, by decide⟩

end InternalRefContext

end Hemvm
