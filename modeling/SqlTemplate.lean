import SqlTemplate.Main
import SqlTemplate.Monitor.Stats
import SqlTemplate.Server.Backend
import SqlTemplate.Server.Pool
import SqlTemplate.Proofs.Template.Mark
import SqlTemplate.Proofs.Template.Direct
import SqlTemplate.Proofs.Template.Slots
import SqlTemplate.Proofs.Template.Resolved
import SqlTemplate.Proofs.Binding.AllOrNothing
import SqlTemplate.Proofs.Execution.Protocol
import SqlTemplate.Proofs.Ident
import SqlTemplate.Proofs.Keyed
import SqlTemplate.Proofs.Model.Written
import SqlTemplate.Proofs.Model.Operations
import SqlTemplate.Proofs.Ident.Grammar
import SqlTemplate.Proofs.Model.Spelling
import SqlTemplate.Proofs.Template.OpenSlot
import SqlTemplate.Proofs.Template.Markers
import SqlTemplate.Proofs.Execution.Disclosure
import SqlTemplate.Proofs.Model.Disclosure
import SqlTemplate.Proofs.Model.ReadyQueries
import SqlTemplate.Proofs.Loading
import SqlTemplate.Proofs.Schema.Constraints
import SqlTemplate.Proofs.Calendar.Days
import SqlTemplate.Proofs.Wire.Integer
import SqlTemplate.Proofs.Wire.Checked
import SqlTemplate.Proofs.Wire.Display
import SqlTemplate.Proofs.Wire.Whole
import SqlTemplate.Proofs.Model.Rejection
import SqlTemplate.Proofs.Model.Ids
import SqlTemplate.Proofs.Monitor.Statistics
import SqlTemplate.Proofs.Monitor.Leading
import SqlTemplate.Proofs.Monitor.MainStatement
import SqlTemplate.Proofs.Execution.Observers
import SqlTemplate.Proofs.Execution.Counted
import SqlTemplate.Proofs.Schema.Options
import SqlTemplate.Proofs.Schema.Naming
import SqlTemplate.Proofs.Schema.Computed
import SqlTemplate.Proofs.Schema.Terminated
import SqlTemplate.Proofs.CommandLine.Written
import SqlTemplate.Proofs.Wire.ReadBack
import SqlTemplate.Proofs.Template.FixedPoint
import SqlTemplate.Proofs.Template.Building
import SqlTemplate.Proofs.CommandLine.References
import SqlTemplate.Proofs.Wire.WholeFloats
import SqlTemplate.Proofs.Schema.ColumnType
import SqlTemplate.Proofs.Monitor.Shortened
import SqlTemplate.Proofs.Schema.Offset
