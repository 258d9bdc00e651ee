import ChainProxy.Model.Data
import ChainProxy.Model.Codec
import ChainProxy.Model.Processor
import ChainProxy.Model.TransactionProcessor
import ChainProxy.Model.AuctionList
import ChainProxy.Model.Api
import ChainProxy.Analysis.Hex
import ChainProxy.Analysis.Grouping
import ChainProxy.Analysis.TxStatus
import ChainProxy.Analysis.ObserverLoops
import ChainProxy.Analysis.Batches
import ChainProxy.Analysis.SendTransaction
import ChainProxy.Analysis.Delivery
import ChainProxy.Analysis.CostString
import ChainProxy.Analysis.ReadLoops
import ChainProxy.Analysis.Api
