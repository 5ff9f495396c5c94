import Confluence.Core.Engine
import Confluence.Core.Overflow
import Confluence.Core.Rules
import Confluence.Core.Types
import Confluence.Exchange.Adapter
import Confluence.Exchange.Binance
import Confluence.Exchange.Credentials
import Confluence.Exchange.Filters
import Confluence.Exchange.HalfEven
import Confluence.Exchange.MarketFeed
import Confluence.Exchange.OrderState
import Confluence.Exchange.Paper
import Confluence.Exchange.PaperAccount
import Confluence.Exchange.Quantize
import Confluence.Exchange.Responses
import Confluence.Exchange.Results
import Confluence.Exchange.RoundedQuantize
import Confluence.Exchange.SymbolInfo
import Confluence.Exchange.Types
import Confluence.Exchange.VenueOrder
import Confluence.Json
import Confluence.Library.Bounded
import Confluence.Library.Hoare
import Confluence.Library.Interruption
import Confluence.Library.Machine
import Confluence.Library.Numeric
import Confluence.Library.Paging
import Confluence.Library.Program
import Confluence.Library.ReadCommitted
import Confluence.Library.Rounding
import Confluence.Library.Tables
import Confluence.Library.TwoRuns
import Confluence.Library.Utf8
import Confluence.Properties.AttendedOrders
import Confluence.Properties.AuditedChanges
import Confluence.Properties.CancelledOrders
import Confluence.Properties.CircuitBreaker
import Confluence.Properties.ClaimableCommands
import Confluence.Properties.ClosedOrders
import Confluence.Properties.ConcurrentFills
import Confluence.Properties.ConcurrentPositions
import Confluence.Properties.ConfigChanges
import Confluence.Properties.Credentials
import Confluence.Properties.EventPages
import Confluence.Properties.ExchangeModes
import Confluence.Properties.FailClosed
import Confluence.Properties.FillLedger
import Confluence.Properties.FillNotional
import Confluence.Properties.FilterVerdicts
import Confluence.Properties.FrozenModes
import Confluence.Properties.HexTexts
import Confluence.Properties.History
import Confluence.Properties.KillSwitch
import Confluence.Properties.LeaseExclusion
import Confluence.Properties.ListedOrders
import Confluence.Properties.LiveOrders
import Confluence.Properties.MarkedCommands
import Confluence.Properties.MarketPrice
import Confluence.Properties.OrderLifecycle
import Confluence.Properties.OrderVenues
import Confluence.Properties.Outbox
import Confluence.Properties.PaperBalances
import Confluence.Properties.PaperFills
import Confluence.Properties.PendingOrders
import Confluence.Properties.PersistedResults
import Confluence.Properties.PositionDeltas
import Confluence.Properties.PredictedExposure
import Confluence.Properties.QuotedFills
import Confluence.Properties.RecordedFills
import Confluence.Properties.ReducingOrders
import Confluence.Properties.ResponseChecks
import Confluence.Properties.RiskOverflow
import Confluence.Properties.RiskRules
import Confluence.Properties.RowSecurity
import Confluence.Properties.SchemaConstraints
import Confluence.Properties.SentOrders
import Confluence.Properties.SerialRequests
import Confluence.Properties.Settings
import Confluence.Properties.SettingsLog
import Confluence.Properties.SettledCommands
import Confluence.Properties.StaleEstimates
import Confluence.Properties.StepBoundaries
import Confluence.Properties.StoredOrders
import Confluence.Properties.TenantIsolation
import Confluence.Properties.TripDates
import Confluence.Properties.UnrecordedLosses
import Confluence.Properties.UntradedModes
import Confluence.Properties.ValidationOverflow
import Confluence.Server.Attendance
import Confluence.Server.AuditLog
import Confluence.Server.CheckedValidators
import Confluence.Server.CommandModes
import Confluence.Server.Confinement
import Confluence.Server.Constraints
import Confluence.Server.CorrelationGroups
import Confluence.Server.Credentials
import Confluence.Server.Db
import Confluence.Server.Effects
import Confluence.Server.Faults
import Confluence.Server.Hex
import Confluence.Server.Integrity
import Confluence.Server.Interruptions
import Confluence.Server.Ledger
import Confluence.Server.Locks
import Confluence.Server.OpenQuantity
import Confluence.Server.OrderRows
import Confluence.Server.Orders
import Confluence.Server.OutboxWorker
import Confluence.Server.Persistence
import Confluence.Server.PositionWrites
import Confluence.Server.Positions
import Confluence.Server.Process
import Confluence.Server.Routes
import Confluence.Server.RowSecurity
import Confluence.Server.Schema
import Confluence.Server.Service
import Confluence.Server.Snapshots
import Confluence.Server.Statement
import Confluence.Server.Steps
import Confluence.Server.Submissions
import Confluence.Server.System
import Confluence.Server.TableSteps
import Confluence.Server.Tenancy
import Confluence.Server.TenantTransactions
import Confluence.Server.Validators
import Confluence.Server.Views
import Confluence.Server.WorkerEffects
import Confluence.Uuid
