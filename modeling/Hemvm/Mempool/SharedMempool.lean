import Mathlib.Logic.Function.Basic
import Mathlib.Data.List.Basic

/-!
# `start_shared_mempool`

The bootstrap of the shared mempool (`shared_mempool/runtime.rs`). Its one
loop splits the network handles, each a network id with a sender and an event
stream, into the list of all event streams the coordinator listens to and the
map of senders the network client sends through; then it spawns the
coordinator, the garbage collector and, with trace logging on, the snapshot
job.

The network, the mempool and the runtime are types and services of other
crates; here the ids, senders and event streams are type parameters, and the
runtime is the list of routines spawned on it.

## Main results

* `splitHandles_eq` — the loop, from any accumulator: every event stream is
  appended in order, and each id is sent through by the last handle that
  carries it.
* `startSharedMempool_spec` — what the bootstrap wires up: all event streams
  in the order of the handles, for each id the sender of its last handle,
  a sender for every id whose events are listened to, and the snapshot job
  exactly when trace logging is on.
-/

namespace Hemvm.Mempool

/-- The routines `start_shared_mempool` spawns on its runtime. -/
inductive Routine where
  | coordinator
  | gcCoordinator
  | snapshotJob
  deriving DecidableEq, Repr

variable {NetworkId Sender Events : Type} [DecidableEq NetworkId]

/-- What the loop over the network handles builds: `all_network_events`, and
`network_senders` as a map from ids. -/
structure NetworkSplit (NetworkId Sender Events : Type) where
  allNetworkEvents : List (NetworkId × Events)
  networkSenders : NetworkId → Option Sender

/-- The `for` loop of `start_shared_mempool`: push the id and the events,
insert the sender under the id, replacing an earlier one. -/
def splitHandles (acc : NetworkSplit NetworkId Sender Events) :
    List (NetworkId × Sender × Events) → NetworkSplit NetworkId Sender Events
  | [] => acc
  | (networkId, networkSender, networkEvents) :: rest =>
    splitHandles ⟨acc.allNetworkEvents ++ [(networkId, networkEvents)],
      Function.update acc.networkSenders networkId (some networkSender)⟩ rest

/-- `start_shared_mempool`: the split of the handles, which the coordinator
and the network client receive, and the routines spawned. -/
def startSharedMempool (traceEnabled : Bool) (mempoolNetworkHandles : List (NetworkId × Sender × Events)) :
    NetworkSplit NetworkId Sender Events × List Routine :=
  let split := splitHandles ⟨[], fun _ => none⟩ mempoolNetworkHandles
  (split, [.coordinator, .gcCoordinator] ++ if traceEnabled then [.snapshotJob] else [])

/-- The sender of the last handle with the id `id`. -/
def lastSender (handles : List (NetworkId × Sender × Events)) (id : NetworkId) : Option Sender :=
  (handles.reverse.find? fun h => h.1 = id).map (·.2.1)

/-- **The loop, from any accumulator**: the event streams are appended in the
order of the handles, and an id is sent through by the last handle that
carries it, or as before when none does. -/
theorem splitHandles_eq (acc : NetworkSplit NetworkId Sender Events)
    (handles : List (NetworkId × Sender × Events)) :
    splitHandles acc handles =
      ⟨acc.allNetworkEvents ++ handles.map (fun h => (h.1, h.2.2)),
        fun id => (lastSender handles id).or (acc.networkSenders id)⟩ := by
  induction handles generalizing acc with
  | nil => simp [splitHandles, lastSender]
  | cons h rest ih =>
    obtain ⟨networkId, networkSender, networkEvents⟩ := h
    rw [splitHandles, ih]
    congr 1
    · simp
    · funext id
      have hRev : lastSender ((networkId, networkSender, networkEvents) :: rest) id =
          (lastSender rest id).or (if networkId = id then some networkSender else none) := by
        simp only [lastSender, List.reverse_cons, List.find?_append]
        cases List.find? (fun h => decide (h.1 = id)) rest.reverse <;>
          by_cases hId : networkId = id <;> simp [hId]
      rw [hRev, Option.or_assoc]
      by_cases hId : id = networkId
      · subst hId; simp
      · simp [Function.update_noteq hId, Ne.symm hId]

/-- **What the bootstrap wires up.** The coordinator listens to every event
stream, in the order of the handles; the network client sends to each id
through the sender of the last handle with that id, so every id whose events
are listened to has a sender, and with a repeated id the earlier handle's
sender is dropped. The snapshot job runs exactly when trace logging is on,
beside the coordinator and the garbage collector. -/
theorem startSharedMempool_spec (traceEnabled : Bool)
    (handles : List (NetworkId × Sender × Events)) :
    (startSharedMempool traceEnabled handles).1.allNetworkEvents =
        handles.map (fun h => (h.1, h.2.2)) ∧
      (∀ id, (startSharedMempool traceEnabled handles).1.networkSenders id = lastSender handles id) ∧
      (∀ e ∈ (startSharedMempool traceEnabled handles).1.allNetworkEvents,
        ((startSharedMempool traceEnabled handles).1.networkSenders e.1).isSome) ∧
      Routine.coordinator ∈ (startSharedMempool traceEnabled handles).2 ∧
      Routine.gcCoordinator ∈ (startSharedMempool traceEnabled handles).2 ∧
      (Routine.snapshotJob ∈ (startSharedMempool traceEnabled handles).2 ↔ traceEnabled = true) := by
  have hSenders : ∀ id, (startSharedMempool traceEnabled handles).1.networkSenders id =
      lastSender handles id := fun id => by
    simp [startSharedMempool, splitHandles_eq]
  refine ⟨by simp [startSharedMempool, splitHandles_eq], hSenders, ?_, by simp [startSharedMempool],
    by simp [startSharedMempool], by cases traceEnabled <;> simp [startSharedMempool]⟩
  intro e he
  simp only [startSharedMempool, splitHandles_eq, List.nil_append, List.mem_map] at he
  obtain ⟨h, hMem, rfl⟩ := he
  simp only [hSenders, lastSender, Option.isSome_map', List.find?_isSome, List.mem_reverse,
    decide_eq_true_eq]
  exact ⟨h, hMem, rfl⟩

end Hemvm.Mempool
