import RequestLayer.Bench.Reader
import RequestLayer.Client.Batch
import RequestLayer.Main
import RequestLayer.Proofs.Chain.Grammar
import RequestLayer.Proofs.Command.Batches
import RequestLayer.Proofs.Fingerprint.Preimage
import RequestLayer.Proofs.Freshness.Exactness
import RequestLayer.Proofs.Interleaving.Builders
import RequestLayer.Proofs.Interleaving.Isolation
import RequestLayer.Proofs.Interleaving.Storing
import RequestLayer.Proofs.Layers.FeeFields
import RequestLayer.Proofs.Layers.FreshBlocks
import RequestLayer.Proofs.Layers.GasAmounts
import RequestLayer.Proofs.Layers.Transactions
import RequestLayer.Proofs.Retry.Attempts
import RequestLayer.Proofs.Session.RenamedBlocks
import RequestLayer.Proofs.Settings.MethodLists
import RequestLayer.Proofs.Settings.Reading
import RequestLayer.Proofs.Stack.Agreement
import RequestLayer.Proofs.Stack.Edits
import RequestLayer.Proofs.Stack.Nesting
import RequestLayer.Proofs.Store.History
import RequestLayer.Proofs.Watch.History
import RequestLayer.Proofs.Wire.Numbering
import RequestLayer.Proofs.Wire.Ordering
import RequestLayer.Proofs.Wire.Replies
