import RequestLayer.Delay
import RequestLayer.Json.Mismatch

set_option autoImplicit false

namespace RequestLayer

inductive Fault where
  | transport (method message : String)
  | rpc (code : Option Int) (message : String) (data : Option Json)
  | staleChain (blockNumber timestamp : Nat) (allowed : Delay)
  | gasLimitExceeded (estimate limit : Nat)
  | mixedFees
  | invalidTransaction (problem : String)
  | invalidConfiguration (problem : String)
  | invalidResponse (problem : String)
  | batchInProgress
  | duplicateLayer (name : String)
  | unknownLayer (name : String)

namespace Fault

def ofMismatch (cause : Json.Mismatch) : Fault :=
  .invalidResponse cause.message

def isTransport : Fault → Bool
  | .transport _ _ => true
  | _ => false

def message : Fault → String
  | .transport method message => s!"transport error during {method}: {message}"
  | .rpc none message _ => s!"RPC error: {message}"
  | .rpc (some code) message _ => s!"RPC error {code}: {message}"
  | .staleChain blockNumber timestamp allowed =>
      s!"latest block {blockNumber} (timestamp {timestamp}) is older than the allowed delay of " ++
        allowed.text
  | .gasLimitExceeded estimate limit =>
      s!"estimated gas {estimate} exceeds the current block gas limit {limit}"
  | .mixedFees => "found both gasPrice and maxFeePerGas/maxPriorityFeePerGas in transaction"
  | .invalidTransaction problem => s!"invalid transaction: {problem}"
  | .invalidConfiguration problem => s!"invalid configuration: {problem}"
  | .invalidResponse problem => s!"invalid response: {problem}"
  | .batchInProgress => "a batch is already in progress on this client"
  | .duplicateLayer name => "middleware '" ++ name ++ "' is already registered"
  | .unknownLayer name => "middleware '" ++ name ++ "' is not registered"

end Fault

end RequestLayer
