import HermezRollup.ReachableStates
import HermezRollup.Custody
import HermezRollup.BatchPadding
import HermezRollup.L1Liveness
import HermezRollup.Conservation
import HermezRollup.IntermediateStates
import HermezRollup.PoolAdmission
import HermezRollup.InstantWithdraw
import HermezRollup.AuctionSolvency
import HermezRollup.PipelineQueues
import HermezRollup.PipelineReset
import HermezRollup.AccountIndexes
import HermezRollup.SlotUpdates
import HermezRollup.KVDB
import HermezRollup.SyncLoop
import HermezRollup.WithdrawalDelayer
import HermezRollup.TxManager
import HermezRollup.SignedTx
import HermezRollup.HezBJJ
import HermezRollup.SdkMaxAmount
import HermezRollup.PoolLifeCycle
import HermezRollup.SelectorRuns
import HermezRollup.SyncedNonces
import HermezRollup.EventLog
