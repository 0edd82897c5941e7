import Mathlib.Algebra.BigOperators.Group.List
import Hemvm.Executor.Basic

/-!
# `kill_process`

The last step of a transaction: every contract that self-destructed has its
balance traced to the `MintBurn` pocket, its record removed, and its balance
taken off the issued supply. The loop visits the suicides in the iteration
order of their `HashSet`, which Rust seeds at random in every process, so a
statement about the loop holds for every order of a duplicate-free list.

## Main results

* `killContracts_run` — the loop, from any context: it succeeds exactly when
  the balances of the suicided contracts sum to at most the issued supply, and
  then removes each of them, lowers the supply by that sum, and traces one
  transfer to `MintBurn` per contract.
* `removeContracts_perm` — the world the loop leaves does not depend on the
  iteration order; only the trace and the ledger do.
-/

namespace Hemvm

open ExecM

/-- The `for` loop of `kill_process`, over the suicides in iteration order. -/
def killContracts (observer : MultiObservers) : List AddressWithSpace → ExecM MultiObservers
  | [] => pure observer
  | contractAddress :: rest => do
    let contractBalance ← read (·.balance contractAddress)
    let observer ← traceInternalTransfer observer
      (.balance contractAddress) .mintBurn contractBalance
    write (.removeContract contractAddress)
    write (.subtractTotalIssued contractBalance)
    killContracts observer rest

/-- `kill_process`. -/
def killProcess (suicides : HashSet AddressWithSpace) (observer : MultiObservers) :
    ExecM (Substate × MultiObservers) := do
  let substate := Substate.new
  let observer ← killContracts observer suicides.elems
  return (substate, observer)

/-! ## What the loop does -/

/-- The balances of the contracts of `l` in `w`, summed: what the loop burns. -/
def burnedSupply (w : World) (l : List AddressWithSpace) : Nat :=
  (l.map fun a => (w.balance a).val).sum

/-- The world after the loop: the records of `l` gone, the supply lowered by
their balances. -/
def World.removeContracts (w : World) (l : List AddressWithSpace) : World where
  accounts b := if b ∈ l then none else w.accounts b
  totalIssued := ⟨w.totalIssued.val - burnedSupply w l,
    Nat.lt_of_le_of_lt (Nat.sub_le _ _) w.totalIssued.isLt⟩

/-- The transfers the loop traces: one to `MintBurn` per contract, of its
balance. -/
def burnTransfers (w : World) (l : List AddressWithSpace) : List ExecTrace :=
  l.map fun a => .internalTransfer (.balance a) .mintBurn (w.balance a)

/-- The ledger of the loop: per contract, the trace, the removal and the
supply decrease, in that order. -/
def burnEffects (w : World) (l : List AddressWithSpace) : List Effect :=
  l.flatMap fun a =>
    [.trace (.balance a) .mintBurn (w.balance a), .write (.removeContract a),
      .write (.subtractTotalIssued (w.balance a))]

/-- An observer after its tracer recorded `ts`. -/
def MultiObservers.traceAll (o : MultiObservers) (ts : List ExecTrace) : MultiObservers :=
  { o with tracer := o.tracer.map (· ++ ts) }

@[simp] theorem MultiObservers.traceAll_traceAll (o : MultiObservers) (ts us : List ExecTrace) :
    (o.traceAll ts).traceAll us = o.traceAll (ts ++ us) := by
  cases o with
  | mk tracer gasMan => cases tracer <;> simp [traceAll]

theorem MultiObservers.traceInternalTransfer_eq (o : MultiObservers) (f t : AddressPocket)
    (v : U256) : o.traceInternalTransfer f t v = o.traceAll [.internalTransfer f t v] := rfl

@[simp] theorem MultiObservers.traceAll_gasMan (o : MultiObservers) (ts : List ExecTrace) :
    (o.traceAll ts).gasMan = o.gasMan := rfl

/-- The loop only reads the balances of the contracts it visits. -/
theorem burn_congr {w w' : World} {l : List AddressWithSpace}
    (h : ∀ b ∈ l, w'.balance b = w.balance b) :
    burnedSupply w' l = burnedSupply w l ∧ burnTransfers w' l = burnTransfers w l ∧
      burnEffects w' l = burnEffects w l := by
  refine ⟨?_, List.map_congr_left fun b hb => by rw [h b hb],
    List.flatMap_congr fun b hb => by rw [h b hb]⟩
  unfold burnedSupply
  rw [List.map_congr_left fun b hb => by rw [h b hb]]

@[simp] theorem debited_burnEffects (a : AddressWithSpace) (w : World) (l : List AddressWithSpace) :
    Effect.debited a (burnEffects w l) = 0 := by
  induction l with
  | nil => rfl
  | cons b l ih => simpa [burnEffects, Effect.debit] using ih

@[simp] theorem credited_burnEffects (a : AddressWithSpace) (w : World) (l : List AddressWithSpace) :
    Effect.credited a (burnEffects w l) = 0 := by
  induction l with
  | nil => rfl
  | cons b l ih => simpa [burnEffects, Effect.credit] using ih

/-! ## The loop, one iteration and a whole run -/

/-- One iteration: read, trace, remove, then lower the supply, which fails
when the contract holds more than the supply. -/
theorem killContracts_cons_run (observer : MultiObservers) (a : AddressWithSpace)
    (rest : List AddressWithSpace) (c : Ctx) :
    (killContracts observer (a :: rest)).run c =
      match (c.world.removeContract a).subtractTotalIssued (c.world.balance a) with
      | some w => (killContracts (observer.traceAll
            [.internalTransfer (.balance a) .mintBurn (c.world.balance a)]) rest).run
          ⟨w, c.effects ++ [.trace (.balance a) .mintBurn (c.world.balance a),
            .write (.removeContract a), .write (.subtractTotalIssued (c.world.balance a))]⟩
      | none => .error .statePanic := by
  cases h : (c.world.removeContract a).subtractTotalIssued (c.world.balance a) <;>
    simp only [killContracts, run_bind, run_read, run_traceInternalTransfer, run_write,
      StateWrite.apply, h, List.append_assoc, List.cons_append, List.nil_append,
      MultiObservers.traceInternalTransfer_eq]

/-- **The loop of `kill_process`**, over any duplicate-free list of contracts:
it succeeds exactly when their balances sum to at most the issued supply, and
then leaves `removeContracts`, traces `burnTransfers` and logs
`burnEffects`, all over the balances before the loop. -/
theorem killContracts_run (observer : MultiObservers) {l : List AddressWithSpace}
    (hl : l.Nodup) (c : Ctx) :
    (killContracts observer l).run c =
      if burnedSupply c.world l ≤ c.world.totalIssued.val then
        .ok (observer.traceAll (burnTransfers c.world l),
          ⟨c.world.removeContracts l, c.effects ++ burnEffects c.world l⟩)
      else .error .statePanic := by
  induction l generalizing observer c with
  | nil =>
    have hWorld : c.world.removeContracts [] = c.world := by
      ext <;> simp [World.removeContracts, burnedSupply]
    simp [killContracts, burnedSupply, burnTransfers, burnEffects, hWorld,
      MultiObservers.traceAll]
    rfl
  | cons a rest ih =>
    obtain ⟨ha, hrest⟩ := List.nodup_cons.mp hl
    rw [killContracts_cons_run]
    have hBurn : burnedSupply c.world (a :: rest) =
        (c.world.balance a).val + burnedSupply c.world rest := List.sum_cons
    cases hSub : (c.world.removeContract a).subtractTotalIssued (c.world.balance a) with
    | none =>
      have := World.subtractTotalIssued_eq_none.mp hSub
      simp only [World.totalIssued_removeContract] at this
      rw [if_neg (by omega)]
    | some w =>
      obtain ⟨hAcc, hTotal⟩ := World.subtractTotalIssued_spec hSub
      simp only [World.totalIssued_removeContract] at hTotal
      -- the contracts still to visit keep their balances
      have hKeep : ∀ b ∈ rest, w.balance b = c.world.balance b := fun b hb =>
        World.balance_eq_of_accounts (by
          rw [hAcc, World.accounts_removeContract, Function.update_noteq (ne_of_mem_of_not_mem hb ha)])
      obtain ⟨hSupply, hTransfers, hEffects⟩ := burn_congr hKeep
      dsimp only
      rw [ih _ hrest]
      dsimp only
      rw [hSupply, hTransfers, hEffects]
      by_cases hFit : burnedSupply c.world rest ≤ w.totalIssued.val
      · rw [if_pos hFit, if_pos (by omega)]
        have hWorld : w.removeContracts rest = c.world.removeContracts (a :: rest) := by
          ext b
          · simp only [World.removeContracts, List.mem_cons, hAcc, World.accounts_removeContract]
            by_cases hb : b = a
            · subst hb; simp [ha]
            · simp [hb, Function.update_noteq hb]
          · simp only [World.removeContracts, hSupply, hBurn]; omega
        simp [hWorld, burnTransfers, burnEffects]
      · rw [if_neg hFit, if_neg (by omega)]

/-- **Iteration order does not reach the world**: two orders of the same
suicides leave the same world. -/
theorem removeContracts_perm (w : World) {l₁ l₂ : List AddressWithSpace} (h : l₁.Perm l₂) :
    w.removeContracts l₁ = w.removeContracts l₂ := by
  have hSupply : burnedSupply w l₁ = burnedSupply w l₂ := (h.map _).sum_eq
  ext b
  · simp only [World.removeContracts, h.mem_iff]
  · simp only [World.removeContracts, hSupply]

theorem burnedSupply_perm (w : World) {l₁ l₂ : List AddressWithSpace} (h : l₁.Perm l₂) :
    burnedSupply w l₁ = burnedSupply w l₂ :=
  (h.map _).sum_eq

/-! ## `kill_process` -/

/-- `kill_process` is its loop, with an empty substate beside it. -/
theorem killProcess_run (suicides : HashSet AddressWithSpace) (observer : MultiObservers)
    (c : Ctx) :
    (killProcess suicides observer).run c =
      if burnedSupply c.world suicides.elems ≤ c.world.totalIssued.val then
        .ok ((Substate.new, observer.traceAll (burnTransfers c.world suicides.elems)),
          ⟨c.world.removeContracts suicides.elems, c.effects ++ burnEffects c.world suicides.elems⟩)
      else .error .statePanic := by
  simp only [killProcess, run_bind, killContracts_run observer suicides.nodup]
  by_cases h : burnedSupply c.world suicides.elems ≤ c.world.totalIssued.val
  · simp only [if_pos h, run_pure]
  · simp only [if_neg h]

/-- **Iteration order reaches only the trace**: over two orders of the same
suicides, `kill_process` fails on both or on neither, and then leaves the
same world and substate and the same gas estimate; each returned tracer has
the `MintBurn` transfers appended in its own iteration order, so the two
traces hold the same transfers, in the two orders. -/
theorem killProcess_reorder {S₁ S₂ : HashSet AddressWithSpace} (h : S₁.elems.Perm S₂.elems)
    (observer : MultiObservers) (c : Ctx) :
    (∀ f, (killProcess S₁ observer).run c = .error f ↔ (killProcess S₂ observer).run c = .error f) ∧
    ∀ r₁ c₁, (killProcess S₁ observer).run c = .ok (r₁, c₁) →
      ∃ r₂ c₂, (killProcess S₂ observer).run c = .ok (r₂, c₂) ∧ r₂.1 = r₁.1 ∧
        c₂.world = c₁.world ∧ r₂.2.gasMan = r₁.2.gasMan ∧
        r₁.2.tracer = observer.tracer.map (· ++ burnTransfers c.world S₁.elems) ∧
        r₂.2.tracer = observer.tracer.map (· ++ burnTransfers c.world S₂.elems) ∧
        (burnTransfers c.world S₂.elems).Perm (burnTransfers c.world S₁.elems) := by
  simp only [killProcess_run, burnedSupply_perm c.world h]
  by_cases hFit : burnedSupply c.world S₂.elems ≤ c.world.totalIssued.val
  · simp only [if_pos hFit]
    refine ⟨fun f => ⟨nofun, nofun⟩, ?_⟩
    rintro r₁ c₁ ⟨⟩
    exact ⟨_, _, rfl, rfl, removeContracts_perm c.world h.symm, rfl, rfl, rfl, (h.map _).symm⟩
  · simp only [if_neg hFit]
    exact ⟨fun f => trivial, nofun⟩

/-- Two orders of two suicided accounts. -/
theorem killProcess_reorder_two :
    [sampleAddress 2, sampleAddress 3].Perm [sampleAddress 3, sampleAddress 2] ∧
    (∀ f, (killProcess ⟨[sampleAddress 2, sampleAddress 3], by decide⟩ tracedOptions.observer).run
          ⟨fundedWorld 100 1000, []⟩ = .error f ↔
        (killProcess ⟨[sampleAddress 3, sampleAddress 2], by decide⟩ tracedOptions.observer).run
          ⟨fundedWorld 100 1000, []⟩ = .error f) ∧
    ∀ r₁ c₁, (killProcess ⟨[sampleAddress 2, sampleAddress 3], by decide⟩ tracedOptions.observer).run
        ⟨fundedWorld 100 1000, []⟩ = .ok (r₁, c₁) →
      ∃ r₂ c₂, (killProcess ⟨[sampleAddress 3, sampleAddress 2], by decide⟩
          tracedOptions.observer).run ⟨fundedWorld 100 1000, []⟩ = .ok (r₂, c₂) ∧
        r₂.1 = r₁.1 ∧ c₂.world = c₁.world ∧ r₂.2.gasMan = r₁.2.gasMan ∧
        r₁.2.tracer = tracedOptions.observer.tracer.map
          (· ++ burnTransfers (fundedWorld 100 1000) [sampleAddress 2, sampleAddress 3]) ∧
        r₂.2.tracer = tracedOptions.observer.tracer.map
          (· ++ burnTransfers (fundedWorld 100 1000) [sampleAddress 3, sampleAddress 2]) ∧
        (burnTransfers (fundedWorld 100 1000) [sampleAddress 3, sampleAddress 2]).Perm
          (burnTransfers (fundedWorld 100 1000) [sampleAddress 2, sampleAddress 3]) :=
  have h : [sampleAddress 2, sampleAddress 3].Perm [sampleAddress 3, sampleAddress 2] :=
    .swap _ _ _
  ⟨h, @killProcess_reorder ⟨_, by decide⟩ ⟨_, by decide⟩ h _ _⟩

end Hemvm
