import SchemaFerry.Address.Basic
import SchemaFerry.Address.Endpoint
import SchemaFerry.Address.Internet
import SchemaFerry.Address.Locator
import SchemaFerry.Address.Options
import SchemaFerry.CommandLine.Arguments
import SchemaFerry.CommandLine.Perform
import SchemaFerry.Constraints.Basic
import SchemaFerry.Copy.Kind
import SchemaFerry.Copy.Mapping
import SchemaFerry.Copy.Memory
import SchemaFerry.Copy.Pump
import SchemaFerry.Copy.Query
import SchemaFerry.Copy.Value
import SchemaFerry.Copy.Wire
import SchemaFerry.Fault
import SchemaFerry.File.Failure
import SchemaFerry.Identifier.Allocator
import SchemaFerry.Identifier.Basic
import SchemaFerry.Json.Basic
import SchemaFerry.Json.Number
import SchemaFerry.Json.Printer
import SchemaFerry.Json.Reader
import SchemaFerry.Keyed
import SchemaFerry.Main
import SchemaFerry.Number.Binary64
import SchemaFerry.Number.Literal
import SchemaFerry.Number.Shortest
import SchemaFerry.Number.Whole
import SchemaFerry.PlannedFailure
import SchemaFerry.Proofs.CommandLine.Started
import SchemaFerry.Proofs.CommandLine.Told
import SchemaFerry.Proofs.Copy.Accounting
import SchemaFerry.Proofs.Copy.Agreement
import SchemaFerry.Proofs.Copy.Portal
import SchemaFerry.Proofs.Copy.Positions
import SchemaFerry.Proofs.Copy.Selects
import SchemaFerry.Proofs.Identifier.Allocation
import SchemaFerry.Proofs.Identifier.Leaving
import SchemaFerry.Proofs.Identifier.Search
import SchemaFerry.Proofs.Identifier.Spelling
import SchemaFerry.Proofs.Identifier.Stored
import SchemaFerry.Proofs.Number.Numerals
import SchemaFerry.Proofs.Run.Accounts
import SchemaFerry.Proofs.Run.Alone
import SchemaFerry.Proofs.Run.Answers
import SchemaFerry.Proofs.Run.Bounded
import SchemaFerry.Proofs.Run.Commits
import SchemaFerry.Proofs.Run.Course
import SchemaFerry.Proofs.Run.Exclusion
import SchemaFerry.Proofs.Run.Moves
import SchemaFerry.Proofs.Run.Order
import SchemaFerry.Proofs.Run.Reached
import SchemaFerry.Proofs.Run.Restored
import SchemaFerry.Proofs.Run.Steps
import SchemaFerry.Proofs.Run.Tokens
import SchemaFerry.Proofs.Run.Whole
import SchemaFerry.Proofs.Schema.Capacity
import SchemaFerry.Proofs.Schema.CastPlaces
import SchemaFerry.Proofs.Schema.Casts
import SchemaFerry.Proofs.Schema.Misread
import SchemaFerry.Proofs.Schema.OneValue
import SchemaFerry.Proofs.Schema.Sizes
import SchemaFerry.Proofs.Schema.Translation
import SchemaFerry.Proofs.Script.Alignment
import SchemaFerry.Proofs.Script.Closed
import SchemaFerry.Proofs.Script.Columns
import SchemaFerry.Proofs.Script.Comments
import SchemaFerry.Proofs.Script.Created
import SchemaFerry.Proofs.Script.Dangling
import SchemaFerry.Proofs.Script.Distinct
import SchemaFerry.Proofs.Script.Granted
import SchemaFerry.Proofs.Script.Repetitions
import SchemaFerry.Proofs.Script.Reported
import SchemaFerry.Proofs.Script.RoleNames
import SchemaFerry.Proofs.Script.TextDefaults
import SchemaFerry.Proofs.Script.Tokens
import SchemaFerry.Proofs.Script.Undescribed
import SchemaFerry.Proofs.Script.Uniqueness
import SchemaFerry.Proofs.Sequences.Backing
import SchemaFerry.Proofs.Sequences.Distances
import SchemaFerry.Proofs.Sequences.Patterns
import SchemaFerry.Proofs.Sequences.Replaced
import SchemaFerry.Proofs.Sequences.Synchronizing
import SchemaFerry.Proofs.Session
import SchemaFerry.Proofs.Settings.Checked
import SchemaFerry.Proofs.Settings.Families
import SchemaFerry.Proofs.Source.Lock
import SchemaFerry.Proofs.Target.Batches
import SchemaFerry.Proofs.Target.Sessions
import SchemaFerry.Proofs.Target.Settling
import SchemaFerry.Proofs.Target.Toggling
import SchemaFerry.Proofs.Text.Capitals
import SchemaFerry.Proofs.Text.Octets
import SchemaFerry.Proofs.Text.SmallLetters
import SchemaFerry.Report.Basic
import SchemaFerry.Report.Outcome
import SchemaFerry.Run.Crew
import SchemaFerry.Run.Fleet
import SchemaFerry.Run.Lifecycle
import SchemaFerry.Run.Migration
import SchemaFerry.Run.Progress
import SchemaFerry.Run.Shift
import SchemaFerry.Run.TableCopy
import SchemaFerry.Run.Turns
import SchemaFerry.Run.Work
import SchemaFerry.Run.World
import SchemaFerry.Schema.Catalog
import SchemaFerry.Schema.ColumnType
import SchemaFerry.Schema.DefaultValue
import SchemaFerry.Schema.Table
import SchemaFerry.Schema.Warning
import SchemaFerry.Script.Build
import SchemaFerry.Script.Generate
import SchemaFerry.Script.Layout
import SchemaFerry.Script.Names
import SchemaFerry.Script.Roles
import SchemaFerry.Script.Statement
import SchemaFerry.Sequences.Basic
import SchemaFerry.Sequences.Memory
import SchemaFerry.Sequences.Pattern
import SchemaFerry.Session
import SchemaFerry.Settings.Basic
import SchemaFerry.Settings.Check
import SchemaFerry.Settings.Family
import SchemaFerry.Settings.Printer
import SchemaFerry.Settings.Reader
import SchemaFerry.Settings.Tls
import SchemaFerry.Source.Memory
import SchemaFerry.Source.Server
import SchemaFerry.Target.Memory
import SchemaFerry.Target.Server
import SchemaFerry.Target.Statement
import SchemaFerry.Text.Blank
import SchemaFerry.Text.CaseTable
import SchemaFerry.Text.Escaped
import SchemaFerry.Text.LetterCase
import SchemaFerry.Text.Quoted
import SchemaFerry.Text.Split
import SchemaFerry.Text.Utf8
import SchemaFerry.Time.Calendar
import SchemaFerry.Yaml.Cursor
import SchemaFerry.Yaml.Node
import SchemaFerry.Yaml.Property
import SchemaFerry.Yaml.Scalar
import SchemaFerry.Yaml.Tokens
import SchemaFerry.Yaml.Value
