import Hemvm.Word
import Hemvm.Types
import Hemvm.State
import Hemvm.Executed
import Hemvm.Gas
import Hemvm.RevertReason
import Hemvm.Executor.Basic
import Hemvm.Executor.Preprocessing
import Hemvm.Executor.KillProcess
import Hemvm.Executor.Postprocessing
import Hemvm.Executor.Transact
import Hemvm.Executor.Runs
import Hemvm.Executor.CrossVmCall
import Hemvm.Storage.BlockVersionByHash
import Hemvm.InternalContract.Context
import Hemvm.Mempool.SharedMempool
