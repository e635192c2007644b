import RequestLayer.Chain.BlockRef
import RequestLayer.Reply

set_option autoImplicit false

namespace RequestLayer

abbrev Params := List Json

structure Call where
  method : String
  params : Params

def Call.header (tag : BlockTag) : Call :=
  ⟨"eth_getBlockByNumber", [.string tag.name, .bool false]⟩

def Call.headerByHash (hash : Bytes32) : Call :=
  ⟨"eth_getBlockByHash", [(BlockRef.hash hash).toJson, .bool false]⟩

-- A batch is one round trip whose replies come in the order of its calls.
structure Channel (m : Type → Type) where
  send : Call → ExceptT Fault m Reply
  sendBatch : List Call → ExceptT Fault m (List Reply)

end RequestLayer
