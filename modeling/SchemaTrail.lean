import SchemaTrail.Text.Blank
import SchemaTrail.Text.LetterCase
import SchemaTrail.Text.Quoted
import SchemaTrail.Text.WordTable
import SchemaTrail.Text.Hex
import SchemaTrail.Text.Base64
import SchemaTrail.Decimal.Layout
import SchemaTrail.Json.Printer
import SchemaTrail.Json.Reader
import SchemaTrail.Token.Lexer
import SchemaTrail.Column.Document
import SchemaTrail.Column.Wire
import SchemaTrail.Column.Rendering
import SchemaTrail.Config
import SchemaTrail.Exclusions
import SchemaTrail.Ledger.Position
import SchemaTrail.Ledger.Timestamp
import SchemaTrail.Text.Lines
import SchemaTrail.Statement.Untracked
import SchemaTrail.Statement.Reading
import SchemaTrail.Statement.Basic
import SchemaTrail.Schema.Document
import SchemaTrail.Change.Document
import SchemaTrail.Change.Resolution
import SchemaTrail.Schema.Difference
import SchemaTrail.Capture.Assembly
import SchemaTrail.Schema.RowLayout
import SchemaTrail.Tracker.Basic
import SchemaTrail.Ledger.Recorder
import SchemaTrail.Main
import SchemaTrail.Proofs.FirstMatch
import SchemaTrail.Proofs.LetterCase
import SchemaTrail.Proofs.NameEquality
import SchemaTrail.Proofs.Outcome
import SchemaTrail.Proofs.ReaderSteps
import SchemaTrail.Proofs.Stepwise
import SchemaTrail.Proofs.StepwiseEffects
import SchemaTrail.Proofs.StepwiseReaders
import SchemaTrail.Proofs.StepwiseRounds
import SchemaTrail.Proofs.ReadStatements
import SchemaTrail.Proofs.SchemaUpdates
import SchemaTrail.Proofs.WellFormed
import SchemaTrail.Proofs.SoundChanges
import SchemaTrail.Proofs.Resolution
import SchemaTrail.Proofs.TrackerRuns
import SchemaTrail.Proofs.JsonPrefixes
import SchemaTrail.Proofs.JsonText
import SchemaTrail.Proofs.Documents
import SchemaTrail.Proofs.ColumnKinds
import SchemaTrail.Proofs.StatementCharsets
import SchemaTrail.Proofs.LowerCharsets
import SchemaTrail.Proofs.RecordedChanges
import SchemaTrail.Proofs.LoweredSchemas
import SchemaTrail.Proofs.TimestampText
import SchemaTrail.Proofs.LedgerText
import SchemaTrail.Proofs.SettledDocuments
import SchemaTrail.Proofs.Reopening
import SchemaTrail.Proofs.RecorderRuns
import SchemaTrail.Proofs.PositionOrder
import SchemaTrail.Proofs.Restarts
import SchemaTrail.Proofs.PointInTime
import SchemaTrail.Proofs.TracelessCalls
import SchemaTrail.Proofs.ChangedTables
import SchemaTrail.Proofs.AppliedChanges
import SchemaTrail.Proofs.ExcludedTables
import SchemaTrail.Proofs.StatementErrors
import SchemaTrail.Proofs.FilteredTracking
import SchemaTrail.Proofs.Differences
import SchemaTrail.Proofs.ColumnCharsets
import SchemaTrail.Proofs.Lexemes
import SchemaTrail.Proofs.CapturedTypes
import SchemaTrail.Proofs.Literals
import SchemaTrail.Proofs.CapturedSchemas
import SchemaTrail.Proofs.RelevantStatements
import SchemaTrail.Proofs.ScannedWords
import SchemaTrail.Proofs.BeginningForms
import SchemaTrail.Proofs.Views
import SchemaTrail.Proofs.Comments
import SchemaTrail.Proofs.CommentGaps
import SchemaTrail.Proofs.UntrackedStatements
import SchemaTrail.Proofs.NameFolding
import SchemaTrail.Proofs.FoldedNames
import SchemaTrail.Proofs.EditedLists
import SchemaTrail.Proofs.FollowedKeys
import SchemaTrail.Proofs.GuardedClauses
import SchemaTrail.Proofs.PassedOver
import SchemaTrail.Proofs.EditSteps
import SchemaTrail.Proofs.Coverage
import SchemaTrail.Proofs.StringLiterals
import SchemaTrail.Proofs.QuotedNames
import SchemaTrail.Proofs.JoinedClauses
import SchemaTrail.Proofs.ClauseResults
import SchemaTrail.Proofs.JoinedStatements
import SchemaTrail.Proofs.LeftTokens
import SchemaTrail.Proofs.ReaderLoops
import SchemaTrail.Proofs.TokenEnds
import SchemaTrail.Proofs.ExecutableComments
import SchemaTrail.Proofs.NameKeys
import SchemaTrail.Proofs.MirroredDifferences
import SchemaTrail.Proofs.DifferenceModes
import SchemaTrail.Proofs.UntouchedParts
import SchemaTrail.Proofs.Catalogues
import SchemaTrail.Proofs.RenamedTables
import SchemaTrail.Proofs.AssembledTables
import SchemaTrail.Proofs.RowOrder
import SchemaTrail.Proofs.CoherentCharsets
import SchemaTrail.Proofs.DeclaredBytes
import SchemaTrail.Proofs.LedgerFiles
import SchemaTrail.Proofs.GuardedStatements
import SchemaTrail.Proofs.RealChanges
import SchemaTrail.Proofs.RawIntegers
import SchemaTrail.Proofs.EncodedText
import SchemaTrail.Proofs.CharsetCascade
import SchemaTrail.Proofs.UndoneStatements
import SchemaTrail.Proofs.TokensAlone
import SchemaTrail.Proofs.ColumnRuns
import SchemaTrail.Proofs.BalancedGroups
