import DatabaseSync.Library.Base64
import DatabaseSync.Library.Bits
import DatabaseSync.Library.Checked
import DatabaseSync.Library.Text
import DatabaseSync.Library.Transition
import DatabaseSync.Library.Watermark
import DatabaseSync.ChangeEvent.Failure
import DatabaseSync.ChangeEvent.Model
import DatabaseSync.MysqlSink.Checkpoint
import DatabaseSync.MysqlSink.Position
import DatabaseSync.Worker.History
import DatabaseSync.MysqlSink.Resolution
import DatabaseSync.Worker.ExactlyOnce
import DatabaseSync.Worker.GtidCompleteness
import DatabaseSync.ChangeEvent.Plan
import DatabaseSync.Control.Activity
import DatabaseSync.Control.Binding
import DatabaseSync.PostgresqlSource.Decoder
import DatabaseSync.PostgresqlSource.Stream
import DatabaseSync.PostgresqlSource.Types
import DatabaseSync.Worker.SourceStart
import DatabaseSync.ChangeEvent.Convert
import DatabaseSync.ChangeEvent.RowEffect
import DatabaseSync.ChangeEvent.RowStatement
import DatabaseSync.ChangeEvent.Validate
import DatabaseSync.Library.Placeholder
import DatabaseSync.MysqlSink.Effect
import DatabaseSync.PostgresqlSink.Effect
import DatabaseSync.Worker.RowMeaning
import DatabaseSync.ChangeEvent.Snapshot
import DatabaseSync.Control.LiveWorker
import DatabaseSync.Control.Ownership
import DatabaseSync.Library.Decimal
import DatabaseSync.Library.Keyset
import DatabaseSync.MysqlSink.Snapshot
import DatabaseSync.MysqlSource.Batches
import DatabaseSync.MysqlSource.BitValue
import DatabaseSync.MysqlSource.KeyValues
import DatabaseSync.MysqlSource.KeyOrder
import DatabaseSync.MysqlSource.Stream
import DatabaseSync.Planner.DecimalRange
import DatabaseSync.Planner.Order
import DatabaseSync.Planner.TextBinding
import DatabaseSync.Worker.GtidReports
import DatabaseSync.PostgresqlSource.Frames
import DatabaseSync.PostgresqlSource.Replication
import DatabaseSync.Worker.BitStrings
import DatabaseSync.Worker.CleanStop
import DatabaseSync.Worker.OwnEvidence
import DatabaseSync.ChangeEvent.BitConversion
import DatabaseSync.ChangeEvent.TimeZone
import DatabaseSync.ChangeEvent.DecimalPlan
import DatabaseSync.ChangeEvent.Nesting
import DatabaseSync.Worker.SnapshotCopy
import DatabaseSync.Library.Calendar
import DatabaseSync.ChangeEvent.Temporal
import DatabaseSync.MysqlSource.Timestamp
import DatabaseSync.MysqlSink.Instants
import DatabaseSync.PostgresqlSource.Interval
import DatabaseSync.PostgresqlSink.GtidAlgebra
import DatabaseSync.PostgresqlSource.DateTime
import DatabaseSync.PostgresqlSink.DatetimeText
import DatabaseSync.Worker.TemporalExchange
import DatabaseSync.MysqlSource.SetMask
import DatabaseSync.MysqlSource.TimestampText
import DatabaseSync.MysqlSource.BitPlaces
import DatabaseSync.PostgresqlSource.Spatial
import DatabaseSync.MysqlSource.TypeDeclaration
import DatabaseSync.PostgresqlSource.EnumDeclaration
import DatabaseSync.Library.Search
import DatabaseSync.Library.Sorting
import DatabaseSync.PostgresqlSource.TypeClosure
import DatabaseSync.Library.JsonGrammar
import DatabaseSync.Library.Binary64
import DatabaseSync.ChangeEvent.Reordering
import DatabaseSync.ChangeEvent.NormalizedJson
import DatabaseSync.ChangeEvent.Canonical
import DatabaseSync.ChangeEvent.ContentDigest
import DatabaseSync.Library.Utf8
import DatabaseSync.Planner.TextConversion
import DatabaseSync.Planner.TextPlan
import DatabaseSync.Planner.Charsets
import DatabaseSync.Planner.TextStorage
import DatabaseSync.MysqlSource.DecimalText
import DatabaseSync.MysqlSource.CursorPosition
import DatabaseSync.MysqlSink.Lsn
import DatabaseSync.Worker.CursorCodecs
import DatabaseSync.ChangeEvent.IntegerPlan
import DatabaseSync.Planner.IntegerRange
import DatabaseSync.Planner.SourceRepresentation
import DatabaseSync.Worker.DecimalExchange
import DatabaseSync.Library.QuotedTokens
import DatabaseSync.PostgresqlSource.TextParser
import DatabaseSync.PostgresqlSource.StructuredText
import DatabaseSync.PostgresqlSource.TextOutput
import DatabaseSync.PostgresqlSource.RangeText
import DatabaseSync.PostgresqlSource.CatalogValue
import DatabaseSync.PostgresqlSink.Checkpoint
import DatabaseSync.PostgresqlSink.GtidServer
import DatabaseSync.PostgresqlSink.CheckpointRefinement
import DatabaseSync.PostgresqlSink.Resolution
import DatabaseSync.Worker.PostgresqlRecovery
import DatabaseSync.Library.FixedWindow
import DatabaseSync.Control.Accounts
import DatabaseSync.Control.Console
import DatabaseSync.Library.Mirror
import DatabaseSync.Control.Preflight
import DatabaseSync.Worker.FieldPlan
import DatabaseSync.Worker.Projection
import DatabaseSync.ChangeEvent.SourceRows
import DatabaseSync.Worker.Replica
import DatabaseSync.Worker.Bootstrap
import DatabaseSync.Planner.Manifest
import DatabaseSync.MysqlSink.Manifest
import DatabaseSync.PostgresqlSink.Manifest
