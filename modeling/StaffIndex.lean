import StaffIndex.CommandLine.Config
import StaffIndex.CommandLine.Startup
import StaffIndex.Decimal.Binary
import StaffIndex.Decimal.Reading
import StaffIndex.Decimal.Shortest
import StaffIndex.Employee
import StaffIndex.Employee.Json
import StaffIndex.Employee.Patch
import StaffIndex.Employee.Staff
import StaffIndex.Error
import StaffIndex.Http.MediaType
import StaffIndex.Http.Message
import StaffIndex.Index
import StaffIndex.Indexing.Hooks
import StaffIndex.Indexing.Tasks
import StaffIndex.Json.Error
import StaffIndex.Json.Number
import StaffIndex.Json.Reader
import StaffIndex.Json.Record
import StaffIndex.Json.Scalar
import StaffIndex.Json.Skip
import StaffIndex.Json.Symbol
import StaffIndex.Json.Written
import StaffIndex.Key
import StaffIndex.Main
import StaffIndex.Net.Address
import StaffIndex.Plan
import StaffIndex.Proofs.Binary64.Monotone
import StaffIndex.Proofs.Binary64.Nearest
import StaffIndex.Proofs.Binary64.NonNegative
import StaffIndex.Proofs.Binary64.RoundedSums
import StaffIndex.Proofs.Binary64.Rounding
import StaffIndex.Proofs.Binary64.Units
import StaffIndex.Proofs.Change.Complete
import StaffIndex.Proofs.Change.Current
import StaffIndex.Proofs.Change.Effect
import StaffIndex.Proofs.Change.History
import StaffIndex.Proofs.Change.Overtaken
import StaffIndex.Proofs.Change.Race
import StaffIndex.Proofs.Change.RoundTrip
import StaffIndex.Proofs.CommandLine.Scanning
import StaffIndex.Proofs.Employee.Keys
import StaffIndex.Proofs.Employee.Patched
import StaffIndex.Proofs.Index.Log
import StaffIndex.Proofs.Indexing.Batches
import StaffIndex.Proofs.Indexing.Effect
import StaffIndex.Proofs.Indexing.Failure
import StaffIndex.Proofs.Indexing.Filing
import StaffIndex.Proofs.Indexing.Interleaving
import StaffIndex.Proofs.Indexing.Locality
import StaffIndex.Proofs.Indexing.Provenance
import StaffIndex.Proofs.Indexing.Rows
import StaffIndex.Proofs.Json.Lists
import StaffIndex.Proofs.Json.ReadBack
import StaffIndex.Proofs.Json.Records
import StaffIndex.Proofs.Json.RoundTrip
import StaffIndex.Proofs.Json.Texts
import StaffIndex.Proofs.Queue.Accounts
import StaffIndex.Proofs.Queue.Housekeeping
import StaffIndex.Proofs.Queue.Workload
import StaffIndex.Proofs.Search.Answers
import StaffIndex.Proofs.Search.Covering
import StaffIndex.Proofs.Search.ExactHits
import StaffIndex.Proofs.Search.Failing
import StaffIndex.Proofs.Search.Prefix
import StaffIndex.Proofs.Search.Ranked
import StaffIndex.Proofs.Search.Repeats
import StaffIndex.Proofs.Search.RowOrder
import StaffIndex.Proofs.Search.Suggested
import StaffIndex.Proofs.Search.Weights
import StaffIndex.Proofs.Service.Access
import StaffIndex.Proofs.Service.Drains
import StaffIndex.Proofs.Service.Hooks
import StaffIndex.Proofs.Service.Idle
import StaffIndex.Proofs.Service.Moves
import StaffIndex.Proofs.Service.Provenance
import StaffIndex.Proofs.Service.RepeatedAdds
import StaffIndex.Proofs.Service.Schedule
import StaffIndex.Proofs.Service.SearchRoutes
import StaffIndex.Proofs.Service.SeedFile
import StaffIndex.Proofs.Service.Seeding
import StaffIndex.Proofs.Service.Turns
import StaffIndex.Proofs.Service.Workload
import StaffIndex.Proofs.Sorted.Set
import StaffIndex.Proofs.Sql.Failures
import StaffIndex.Proofs.Sql.FieldValues
import StaffIndex.Proofs.Sql.Like
import StaffIndex.Proofs.Sql.Rows
import StaffIndex.Proofs.Sql.Server
import StaffIndex.Proofs.Sql.Sessions
import StaffIndex.Proofs.Text.FinalSigma
import StaffIndex.Proofs.Text.Jaccard
import StaffIndex.Proofs.Text.LetterCase
import StaffIndex.Proofs.Text.LetterKinds
import StaffIndex.Proofs.Text.Lowered
import StaffIndex.Proofs.Text.Separators
import StaffIndex.Proofs.Text.Similarity
import StaffIndex.Proofs.Text.Words
import StaffIndex.Queue
import StaffIndex.Search.Engine
import StaffIndex.Search.Ranking
import StaffIndex.Search.Suggestion
import StaffIndex.Service.Access
import StaffIndex.Service.Basic
import StaffIndex.Service.Command
import StaffIndex.Service.Http
import StaffIndex.Service.Seed
import StaffIndex.Sorted.Map
import StaffIndex.Sorted.Set
import StaffIndex.Sql.Connection
import StaffIndex.Sql.Like
import StaffIndex.Sql.Row
import StaffIndex.Sql.Stores
import StaffIndex.Stores
import StaffIndex.Task
import StaffIndex.Task.Id
import StaffIndex.Task.Json
import StaffIndex.Text.CaseTable
import StaffIndex.Text.HiddenTable
import StaffIndex.Text.LowerCase
import StaffIndex.Text.Quoted
import StaffIndex.Text.Ranges
import StaffIndex.Text.WordTable
import StaffIndex.Trigram
