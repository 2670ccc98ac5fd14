import TableSync.Engine.Context
import TableSync.Engine.Metrics
import TableSync.Engine.Session
import TableSync.Exchange
import TableSync.Http
import TableSync.Json.Error
import TableSync.Json.Lexer
import TableSync.Json.Number
import TableSync.Json.Parse
import TableSync.Json.Shape
import TableSync.Json.Value
import TableSync.Loopback
import TableSync.Model.Date
import TableSync.Model.Records
import TableSync.Model.Window
import TableSync.Retry
import TableSync.Scripted
import TableSync.Serialized
import TableSync.Service.Auth
import TableSync.Service.Batch
import TableSync.Service.Classify
import TableSync.Service.Codec
import TableSync.Service.Endpoint
import TableSync.Service.Errors
import TableSync.Service.Fetch
import TableSync.Service.Query
import TableSync.Service.Schema
import TableSync.Settings.Config
import TableSync.Settings.Files
import TableSync.Settings.Validate
import TableSync.Text.Base64
import TableSync.Text.Debug
import TableSync.Text.Host
import TableSync.Text.Idna
import TableSync.Text.Punycode
import TableSync.Text.Unicode
import TableSync.Text.Url
import TableSync.Text.Utf8
import TableSync.Unicode.BidiClass
import TableSync.Unicode.CombiningClass
import TableSync.Unicode.Decomposition
import TableSync.Unicode.GeneralCategory
import TableSync.Unicode.GraphemeExtend
import TableSync.Unicode.IdnaMapping
import TableSync.Unicode.JoiningType
import TableSync.Unicode.Normalization
import TableSync.Unicode.RangeTable
import TableSync.Proofs.Traffic
import TableSync.Proofs.Batch.Round
import TableSync.Proofs.Batch.Loop
import TableSync.Proofs.Batch.Accounting
import TableSync.Proofs.Batch.Recovery
import TableSync.Proofs.Batch.Bounds
import TableSync.Proofs.Batch.NextRound
import TableSync.Proofs.Policies
import TableSync.Proofs.Batch.Outcome
import TableSync.Proofs.PageRead
import TableSync.Proofs.Batch.Submission
import TableSync.Proofs.Writer
import TableSync.Proofs.Attempts
import TableSync.Proofs.TokenGrant
import TableSync.Proofs.WriterFailures
import TableSync.Proofs.ReadClassification
import TableSync.Proofs.SplitPlan
import TableSync.Proofs.TableRead
import TableSync.Proofs.RoundTrip.Utf8
import TableSync.Proofs.RoundTrip.Base64
import TableSync.Proofs.RoundTrip.JsonTokens
import TableSync.Proofs.RoundTrip.JsonText
import TableSync.Proofs.RoundTrip.JsonRead
import TableSync.Proofs.RequestEncoding
import TableSync.Proofs.Backoff
import TableSync.Proofs.PathEncoding
import TableSync.Proofs.SchemaMerge
import TableSync.Proofs.SettingsValidation
