import RequestLayer.Fault
import RequestLayer.Json.Access

set_option autoImplicit false

namespace RequestLayer.Fault

def kind : Fault → String
  | .transport _ _ => "Transport"
  | .rpc _ _ _ => "Rpc"
  | .staleChain _ _ _ => "StaleBlockchain"
  | .gasLimitExceeded _ _ => "GasLimitExceeded"
  | .mixedFees => "TransactionTypeMismatch"
  | .invalidTransaction _ => "InvalidTransaction"
  | .invalidConfiguration _ => "InvalidConfig"
  | .invalidResponse _ => "InvalidResponse"
  | .batchInProgress => "BatchInProgress"
  | .duplicateLayer _ => "DuplicateMiddleware"
  | .unknownLayer _ => "UnknownMiddleware"

def ofJson (spec : Json) : Fault :=
  let message := spec.textAt "message"
  match spec.textAt "kind" with
  | "Transport" => .transport (spec.textAt "method") message
  | "Rpc" => .rpc (spec.fieldAt "code").integer? message (spec.presentAt? "data")
  | "StaleBlockchain" =>
      .staleChain (spec.wordAt "block_number") (spec.wordAt "timestamp")
        (.ofMilliseconds (spec.wordAt "delay_ms"))
  | "GasLimitExceeded" => .gasLimitExceeded (spec.wordAt "estimate") (spec.wordAt "limit")
  | "TransactionTypeMismatch" => .mixedFees
  | "InvalidTransaction" => .invalidTransaction message
  | "InvalidConfig" => .invalidConfiguration message
  | "InvalidResponse" => .invalidResponse message
  | "BatchInProgress" => .batchInProgress
  | "DuplicateMiddleware" => .duplicateLayer message
  | _ => .unknownLayer message

end RequestLayer.Fault
