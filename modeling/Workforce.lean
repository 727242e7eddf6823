import Workforce.Scene.Report
import Workforce.Trace.Family
import Workforce.Program
import Workforce.Main
import Workforce.Proofs.History
import Workforce.Proofs.Schedule
import Workforce.Proofs.Diary
import Workforce.Proofs.Pool.Step
import Workforce.Proofs.Pool.Workers
import Workforce.Proofs.Pool.Ledger
import Workforce.Proofs.Pool.Outputs
import Workforce.Proofs.Pool.Line
import Workforce.Proofs.Pool.Rest
import Workforce.Proofs.Batch.Step
import Workforce.Proofs.Batch.Sound
import Workforce.Proofs.Batch.Advance
import Workforce.Proofs.Batch.Account
import Workforce.Proofs.Batch.Turn
import Workforce.Proofs.Batch.Punctual
import Workforce.Proofs.Batch.Prompt
import Workforce.Proofs.Batch.Planned
import Workforce.Proofs.Batch.Detach
import Workforce.Proofs.Scene.Change
import Workforce.Proofs.Scene.Stage
import Workforce.Proofs.Scene.Calls
import Workforce.Proofs.Scene.Reach
import Workforce.Proofs.Scene.Action
import Workforce.Proofs.Scene.Tick
import Workforce.Proofs.Scene.Detach
import Workforce.Proofs.Accounting
import Workforce.Proofs.Closing
import Workforce.Proofs.Delivery
import Workforce.Proofs.Progress
import Workforce.Proofs.Capacity
import Workforce.Proofs.Plain
import Workforce.Proofs.Timeout
import Workforce.Proofs.Cancellation
import Workforce.Proofs.FirstCome
import Workforce.Proofs.Exits
import Workforce.Proofs.Scene.Turn
import Workforce.Proofs.Cancelling
import Workforce.Proofs.Commuting
import Workforce.Proofs.Pool.Orderly
import Workforce.Proofs.Batch.Orderly
import Workforce.Proofs.Scene.Orderly
import Workforce.Proofs.Scene.Gentle
import Workforce.Proofs.Scene.Frail
import Workforce.Proofs.Confluence
import Workforce.Proofs.Settings.Resolution
import Workforce.Proofs.Batch.Serial
import Workforce.Proofs.Batch.Clocked
import Workforce.Proofs.Batch.Replies
import Workforce.Proofs.Scene.Until
import Workforce.Proofs.Scene.Solo
import Workforce.Proofs.Job.Tasks
import Workforce.Proofs.Job.Course
import Workforce.Proofs.Job.Result
import Workforce.Proofs.Job.Failure
import Workforce.Proofs.Job.Report
import Workforce.Proofs.Scene.Deed
import Workforce.Proofs.Scene.Aside
import Workforce.Proofs.Scene.Mirror
import Workforce.Proofs.Scene.Made
import Workforce.Proofs.Isolation
import Workforce.Proofs.Headcount
import Workforce.Proofs.Abandoning
import Workforce.Proofs.Scene.Accord
import Workforce.Proofs.Scene.Hush
import Workforce.Proofs.Scene.Verdict
import Workforce.Proofs.Scene.Breakdown
import Workforce.Proofs.SubmitterError
import Workforce.Proofs.Pool.Dismissal
import Workforce.Proofs.Scene.Spare
import Workforce.Proofs.Unserved
import Workforce.Proofs.Shutdown
import Workforce.Proofs.MoreWorkers
import Workforce.Proofs.Pool.Deserted
import Workforce.Proofs.Scene.LetGo
import Workforce.Proofs.Dropped
import Workforce.Proofs.Scene.Excuse
import Workforce.Proofs.PanicAsAbsent
import Workforce.Proofs.Trace.Names
import Workforce.Proofs.Trace.Threads
import Workforce.Proofs.CloseCancel
import Workforce.Proofs.Notes
import Workforce.Proofs.Pool.Notes
import Workforce.Proofs.Batch.Notes
import Workforce.Proofs.Batch.Books
import Workforce.Proofs.Scene.Notes
import Workforce.Proofs.Scene.Books
import Workforce.Proofs.Scene.Closings
import Workforce.Proofs.Noted
import Workforce.Proofs.ErrorTexts
