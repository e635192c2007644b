import RequestLayer.Stack.Execution

set_option autoImplicit false

namespace RequestLayer.Authority

def blockMethods : List String :=
  ["eth_getBlockByHash", "eth_getBlockByNumber", "eth_subscribe"]

def renamed (block : Fields) : Fields :=
  match block.lookup "extraData" with
  | some extra => Fields.insert "proofOfAuthorityData" extra (Fields.erase block "extraData")
  | none => block

def reply (method : String) (reply : Reply) : Reply :=
  match reply.result with
  | some (.object block) =>
      if method ∈ blockMethods then { reply with result := some (.object (renamed block)) }
      else reply
  | _ => reply

def hooks {m : Type → Type} [Monad m] : Hooks m :=
  { Hooks.passing with onReply := fun _ method given => pure (reply method given) }

end RequestLayer.Authority
