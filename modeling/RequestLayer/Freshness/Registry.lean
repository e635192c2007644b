set_option autoImplicit false

namespace RequestLayer.Freshness

inductive Category where
  | numberInParams
  | hashInParams
  | numberInResult
  | unvalidated
deriving DecidableEq, Repr

def methodsByNumber : List String :=
  ["eth_getBlockByNumber", "eth_getBlockTransactionCountByNumber",
    "eth_getRawTransactionByBlockNumberAndIndex", "eth_getTransactionByBlockNumberAndIndex",
    "eth_getUncleByBlockNumberAndIndex", "eth_getUncleCountByBlockNumber"]

def methodsByHash : List String :=
  ["eth_getBlockTransactionCountByHash", "eth_getRawTransactionByBlockHashAndIndex",
    "eth_getTransactionByBlockHashAndIndex", "eth_getUncleByBlockHashAndIndex",
    "eth_getUncleCountByBlockHash"]

def methodsByResult : List String :=
  ["eth_getBlockByHash", "eth_getTransactionByHash", "eth_getTransactionReceipt"]

def constantMethods : List String :=
  ["eth_chainId", "net_version", "web3_clientVersion"]

def category? (method : String) : Option Category :=
  if method ∈ methodsByNumber then some .numberInParams
  else if method ∈ methodsByHash then some .hashInParams
  else if method ∈ methodsByResult then some .numberInResult
  else if method ∈ constantMethods then some .unvalidated
  else none

def registry : List String :=
  methodsByNumber ++ methodsByHash ++ methodsByResult ++ constantMethods

end RequestLayer.Freshness
