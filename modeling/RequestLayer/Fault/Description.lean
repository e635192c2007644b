import RequestLayer.Fault
import RequestLayer.Text.Description

set_option autoImplicit false

namespace RequestLayer.Fault

open RequestLayer.Text

def description : Fault → String
  | .transport method message =>
      record "Transport" [("method", quoted method), ("message", quoted message)]
  | .rpc code message data =>
      record "Rpc"
        [("code", optional (code.map toString)), ("message", quoted message),
          ("data", optional (data.map Json.description))]
  | .staleChain blockNumber timestamp allowed =>
      record "StaleBlockchain"
        [("block_number", toString blockNumber), ("timestamp", toString timestamp),
          ("allowable_delay", allowed.text)]
  | .gasLimitExceeded estimate limit =>
      record "GasLimitExceeded" [("estimate", toString estimate), ("limit", toString limit)]
  | .mixedFees => "TransactionTypeMismatch"
  | .invalidTransaction problem => wrapped "InvalidTransaction" (quoted problem)
  | .invalidConfiguration problem => wrapped "InvalidConfig" (quoted problem)
  | .invalidResponse problem => wrapped "InvalidResponse" (quoted problem)
  | .batchInProgress => "BatchInProgress"
  | .duplicateLayer name => wrapped "DuplicateMiddleware" (quoted name)
  | .unknownLayer name => wrapped "UnknownMiddleware" (quoted name)

end RequestLayer.Fault
