import NotebookSim.CommandLine.Arguments
import NotebookSim.CommandLine.Execution
import NotebookSim.Main
import NotebookSim.Proofs.Store
import NotebookSim.Proofs.Operation
import NotebookSim.Proofs.Step
import NotebookSim.Proofs.Entries
import NotebookSim.Proofs.Registry
import NotebookSim.Proofs.Refusal
import NotebookSim.Proofs.Isolation
import NotebookSim.Proofs.Run
import NotebookSim.Proofs.Describe
import NotebookSim.Proofs.Arn
import NotebookSim.Proofs.TagHistory
import NotebookSim.Proofs.Cursor
import NotebookSim.Proofs.Paging
import NotebookSim.Proofs.Listing
import NotebookSim.Proofs.Growth
import NotebookSim.Proofs.Record
import NotebookSim.Proofs.Overflow
import NotebookSim.Proofs.Replay
import NotebookSim.Proofs.Routing
import NotebookSim.Proofs.Status
import NotebookSim.Proofs.Metrics
import NotebookSim.Proofs.Accounting
import NotebookSim.Proofs.WellFormed
import NotebookSim.Proofs.TagAlgebra
import NotebookSim.Proofs.Chronology
import NotebookSim.Proofs.Configuration
import NotebookSim.Proofs.ReportedBounds
import NotebookSim.Proofs.ReadTimes
import NotebookSim.Proofs.TagCount
import NotebookSim.Proofs.FailFast
import NotebookSim.Proofs.Enforcement
import NotebookSim.Proofs.SharedArns
import NotebookSim.Proofs.StoreHistory
import NotebookSim.Proofs.HarmlessMembers
import NotebookSim.Proofs.Parameters
import NotebookSim.Proofs.RestatedBounds
import NotebookSim.Proofs.NarrowedBounds
import NotebookSim.Proofs.ShownConfiguration
