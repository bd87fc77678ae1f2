import PageMerge.Api.Handler
import PageMerge.Config.Listing
import PageMerge.Main
import PageMerge.Proofs.Batch.Issues
import PageMerge.Proofs.Config.Delay
import PageMerge.Proofs.Data.LineNumbers
import PageMerge.Proofs.Data.RoundTrip
import PageMerge.Proofs.Data.Table
import PageMerge.Proofs.Job.Outcome
import PageMerge.Proofs.Job.Server
import PageMerge.Proofs.Run.Account
import PageMerge.Proofs.Run.DumpFiles
import PageMerge.Proofs.Run.ExitStatus
import PageMerge.Proofs.Run.Frame
import PageMerge.Proofs.Run.History
import PageMerge.Proofs.Run.Ledger
import PageMerge.Proofs.Run.Overwrite
import PageMerge.Proofs.Run.Report
import PageMerge.Proofs.Run.Retry
import PageMerge.Proofs.Template.Canonical
import PageMerge.Proofs.Template.History
import PageMerge.Proofs.Template.Places
import PageMerge.Proofs.Template.Values
import PageMerge.Proofs.Upload.InTurn
import PageMerge.Proofs.Upload.Spared
import PageMerge.Proofs.Wiki.History
import PageMerge.Proofs.Wiki.Replies
import PageMerge.Proofs.Wiki.Versions
