import RequestLayer.Await
import RequestLayer.Channel

set_option autoImplicit false

namespace RequestLayer

structure Retry where
  attempts : Nat
  backoff : Delay
  methods : List String
deriving DecidableEq, Repr

namespace Retry

def standardMethods : List String :=
  ["admin", "miner", "net", "txpool", "testing", "evm", "eth_protocolVersion", "eth_syncing",
    "eth_coinbase", "eth_mining", "eth_hashrate", "eth_chainId", "eth_gasPrice", "eth_accounts",
    "eth_blockNumber", "eth_getBalance", "eth_getStorageAt", "eth_getProof", "eth_getCode",
    "eth_getBlockByNumber", "eth_getBlockByHash", "eth_getBlockReceipts",
    "eth_getBlockTransactionCountByNumber", "eth_getBlockTransactionCountByHash",
    "eth_getUncleCountByBlockNumber", "eth_getUncleCountByBlockHash", "eth_getTransactionByHash",
    "eth_getTransactionByBlockHashAndIndex", "eth_getTransactionByBlockNumberAndIndex",
    "eth_getTransactionReceipt", "eth_getTransactionCount", "eth_getRawTransactionByHash",
    "eth_call", "eth_estimateGas", "eth_createAccessList", "eth_maxPriorityFeePerGas",
    "eth_feeHistory", "eth_newBlockFilter", "eth_newPendingTransactionFilter", "eth_newFilter",
    "eth_getFilterChanges", "eth_getFilterLogs", "eth_getLogs", "eth_uninstallFilter", "eth_sign",
    "eth_signTypedData"]

def standard : Retry := ⟨5, .ofMilliseconds 125, standardMethods⟩

def create (attempts : Nat) (backoff : Delay) (methods : List String) : Except Fault Retry :=
  if attempts = 0 then
    .error (.invalidConfiguration "retries must be a positive number of attempts")
  else if backoff.isZero then
    .error (.invalidConfiguration "retry backoff must be a positive duration")
  else .ok ⟨attempts, backoff, methods⟩

def namespaceOf (method : String) : String :=
  String.ofList (method.toList.takeWhile (· ≠ '_'))

def covers (retry : Retry) (method : String) : Bool :=
  retry.methods.any fun listed => listed == namespaceOf method || listed == method

def coversAll (retry : Retry) (calls : List Call) : Bool :=
  !calls.isEmpty && calls.all fun call => retry.covers call.method

def attemptsFor (retry : Retry) (allowed : Bool) : Nat :=
  if allowed then retry.attempts else 1

section Attempts

variable {m : Type → Type} [Monad m] {α : Type}

-- An action, and the same again after a delay while it fails in transport; at most `more` times after the
-- first.
def repeatedBlocking (sleep : m Unit) (action : ExceptT Fault m α) : Nat → ExceptT Fault m α
  | 0 => action
  | more + 1 => ExceptT.mk do
      match ← action.run with
      | .error fault =>
          if fault.isTransport then
            sleep
            (repeatedBlocking sleep action more).run
          else return .error fault
      | .ok value => return .ok value

variable [Await m]

def repeatedAsync (sleep : m Unit) (action : ExceptT Fault m α) : Nat → ExceptT Fault m α
  | 0 => action
  | more + 1 => ExceptT.mk do
      match ← action.run with
      | .error fault =>
          if fault.isTransport then
            await .delay
            sleep
            (repeatedAsync sleep action more).run
          else return .error fault
      | .ok value => return .ok value

def repeated (sleep : m Unit) (action : ExceptT Fault m α) (more : Nat) : ExceptT Fault m α :=
  inMode m (repeatedBlocking sleep action more) (repeatedAsync sleep action more)

-- A channel that attempts calls again.
def channel (retry : Retry) (sleep : Delay → m Unit) (inner : Channel m) : Channel m where
  send call :=
    repeated (sleep retry.backoff) (inner.send call)
      (retry.attemptsFor (retry.covers call.method) - 1)
  sendBatch calls :=
    repeated (sleep retry.backoff) (inner.sendBatch calls)
      (retry.attemptsFor (retry.coversAll calls) - 1)

end Attempts

end Retry

end RequestLayer
