import WalletBridge.Boundary.Crossing
import WalletBridge.Executor.Polling
import WalletBridge.Executor.Reading
import WalletBridge.Executor.Request
import WalletBridge.Host.History
import WalletBridge.Host.LifecycleReading
import WalletBridge.Host.Scope
import WalletBridge.Host.SharedHandle
import WalletBridge.Host.ValueJson
import WalletBridge.Native.Entries
import WalletBridge.Proofs.AcceptedJobs
import WalletBridge.Proofs.AnswerRoundTrip
import WalletBridge.Proofs.BindingOrder
import WalletBridge.Proofs.FileCalls
import WalletBridge.Proofs.JobReplies
import WalletBridge.Proofs.ListTransfer
import WalletBridge.Proofs.LiveAllocations
import WalletBridge.Proofs.LockOrder
import WalletBridge.Proofs.PaymentOverflow
import WalletBridge.Proofs.PointerOrigins
import WalletBridge.Proofs.SharedRelease
import WalletBridge.Proofs.StaleWallets
import WalletBridge.Scripted
import WalletBridge.Proofs.ObjectAddresses
import WalletBridge.Proofs.WalletChanges
import WalletBridge.Proofs.BuilderPanics
import WalletBridge.Proofs.BlockedPolls
import WalletBridge.Proofs.FailedChanges
import WalletBridge.Proofs.LoadCheck
import WalletBridge.Proofs.StopMessages
import WalletBridge.Proofs.TimedCalls
import WalletBridge.Proofs.ArgumentChecks
import WalletBridge.Proofs.BuilderLog
import WalletBridge.Proofs.FileOpening
import WalletBridge.Proofs.TransitReading
import WalletBridge.Proofs.AmountSums
import WalletBridge.Proofs.SequenceCopy
import WalletBridge.Proofs.Rebinding
import WalletBridge.Proofs.ScopedUse
import WalletBridge.Proofs.ConnectionSettings
import WalletBridge.Proofs.StringReading
import WalletBridge.Proofs.ValueForms
import WalletBridge.Proofs.InterruptedLists
import WalletBridge.Proofs.CounterReads
import WalletBridge.Proofs.BenchUse
