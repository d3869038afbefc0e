import QuantX.Theorems.ExitPlan.Stop
import QuantX.Theorems.ExitPlan.Confluence
import QuantX.Theorems.ExitPlan.Restart
import QuantX.Theorems.ExitPlan.Reconcile
import QuantX.Theorems.ExitPlan.LotLegality
import QuantX.Theorems.BucketLedger.CorporateAction
import QuantX.Theorems.BucketLedger.SyncPosition
import QuantX.Theorems.RiskChecker.ApprovedBuy
import QuantX.Theorems.RiskChecker.SellPlan
import QuantX.Theorems.EntryPlan.Budget
import QuantX.Theorems.EntryPlan.Confluence
import QuantX.Theorems.PortfolioAllocation.Budgets
import QuantX.Theorems.WholeMarketCapture
import QuantX.Theorems.SymbolMarketDeltaRing
import QuantX.Theorems.LiveBuckets.Recut
import QuantX.Theorems.Brokers.Default
import QuantX.Theorems.Brokers.Simulator
import QuantX.Theorems.Collection.Exclusive
import QuantX.Theorems.LocalJournal.History
import QuantX.Theorems.PaperMatching.History
import QuantX.Theorems.Ingestion
import QuantX.Theorems.RealtimeArchive.History
import QuantX.Theorems.CollectionPermits.History
import QuantX.Theorems.CandidateOutcome.OrderFree
import QuantX.Theorems.TickIdentity.Permuted
import QuantX.Theorems.NativeUnitArtifact.Exact
import QuantX.Theorems.NativeUnitPipe.Transfer
import QuantX.Theorems.UploadManifest
import QuantX.Theorems.Monitor
import QuantX.Theorems.ModelMinuteBatch
import QuantX.Theorems.AssistantModelData
import QuantX.Theorems.TickMinutes.Sealed
import QuantX.Theorems.CancelCommand.Kept
import QuantX.Theorems.RuntimeReservations.Conserved
import QuantX.Theorems.RiskIncreaseAdmission.Fenced
import QuantX.Theorems.OrderSizer.Ceilings
import QuantX.Theorems.PositionAdjustment
import QuantX.Theorems.TOrderPolicy.Chain
import QuantX.Theorems.ExitRules.LimitUpBreak
import QuantX.Theorems.ExitRules.AdaptiveConfirm
import QuantX.Theorems.ExitRules.TrailingFloor
import QuantX.Theorems.WorkUnits
import QuantX.Theorems.EntryPlan.Pullback
import QuantX.Theorems.CandidateOutcome.Observations
import QuantX.Theorems.LimitUpRadar
import QuantX.Theorems.DynamicBalance
