import SlotQuery.Driver.Bench
import SlotQuery.Session.Script
import SlotQuery.Proofs.Batch.Agreement
import SlotQuery.Proofs.Batch.Skeleton
import SlotQuery.Proofs.Session.Atomicity
import SlotQuery.Proofs.Session.Exposed
import SlotQuery.Proofs.Session.FailedBatch
import SlotQuery.Proofs.Session.AppendOnly
import SlotQuery.Proofs.Session.Process
import SlotQuery.Proofs.Session.TransactionControl
import SlotQuery.Proofs.Template.Lifting
import SlotQuery.Proofs.Session.Expressible
import SlotQuery.Proofs.Session.Verdict
import SlotQuery.Proofs.Session.Reported
import SlotQuery.Proofs.Settings.Layers
import SlotQuery.Proofs.Batch.Loaded
import SlotQuery.Proofs.Template.Pass
import SlotQuery.Proofs.Template.Accounted
import SlotQuery.Proofs.Session.Entry
import SlotQuery.Proofs.Session.Logged
import SlotQuery.Proofs.Session.Courses
import SlotQuery.Proofs.Session.Charset
import SlotQuery.Proofs.Session.Quiet
import SlotQuery.Proofs.Session.Offered
import SlotQuery.Proofs.Batch.Inserted
import SlotQuery.Proofs.Driver.Executed
import SlotQuery.Proofs.Driver.Growing
import SlotQuery.Proofs.Session.GeneratedIds
import SlotQuery.Proofs.Driver.Conversed
import SlotQuery.Proofs.Session.Protocol
import SlotQuery.Proofs.Session.Newest
import SlotQuery.Proofs.Session.Unstarted
import SlotQuery.Proofs.Session.Covered
import SlotQuery.Proofs.Template.Stretches
import SlotQuery.Proofs.Template.Comments
import SlotQuery.Proofs.Template.Quoting
import SlotQuery.Proofs.Template.Offsets
import SlotQuery.Proofs.Session.IdRange
import SlotQuery.Proofs.Session.Affected
import SlotQuery.Proofs.Result.Shape
import SlotQuery.Proofs.Batch.LoadPath
import SlotQuery.Proofs.Template.Truncated
import SlotQuery.Proofs.Json.Codec
import SlotQuery.Proofs.Template.Rounds
import SlotQuery.Proofs.Template.QuotedNames
import SlotQuery.Proofs.Template.Boundaries
