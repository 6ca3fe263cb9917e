import LumenHorizon.Shared.SlippyTiles
import LumenHorizon.Processing.Config
import LumenHorizon.Processing.GeoRegistration
import LumenHorizon.Foundation.Pool
import LumenHorizon.Foundation.Table
import LumenHorizon.Ingest.Failures
import LumenHorizon.Ingest.IngestLog
import LumenHorizon.Ingest.Calls
import LumenHorizon.Ingest.Pipeline
import LumenHorizon.Ingest.Recovery
import LumenHorizon.Ingest.Commands
import LumenHorizon.Ingest.Stranding
import LumenHorizon.Ingest.Delivery
import LumenHorizon.Ingest.Retry
import LumenHorizon.Ingest.Discovery
import LumenHorizon.Ingest.Window
import LumenHorizon.Processing.Errors
import LumenHorizon.Processing.ProcessingLog
import LumenHorizon.Processing.TileSets
import LumenHorizon.Processing.Calls
import LumenHorizon.Processing.Message
import LumenHorizon.Processing.QueueWorker
import LumenHorizon.Foundation.History
import LumenHorizon.Processing.Retention
import LumenHorizon.Processing.Commands
import LumenHorizon.Processing.Delivery
import LumenHorizon.Processing.Acknowledge
import LumenHorizon.Processing.Attempts
import LumenHorizon.Processing.Publishers
import LumenHorizon.Processing.Redelivery
import LumenHorizon.Processing.LatestPointer
import LumenHorizon.Processing.PublicationOrder
import LumenHorizon.Processing.ServedTiles
import LumenHorizon.Processing.Artifacts
import LumenHorizon.Processing.TileSetRetention
import LumenHorizon.Foundation.Alone
import LumenHorizon.Processing.TileSetCleanup
import LumenHorizon.Ingest.RawPaths
import LumenHorizon.Processing.RawRetention
import LumenHorizon.Ingest.Overlap
import LumenHorizon.Foundation.Timeout
import LumenHorizon.Processing.Placement
import LumenHorizon.Gateway.PublishedIds
import LumenHorizon.Gateway.Http
import LumenHorizon.Gateway.RateLimit
import LumenHorizon.Gateway.Routes
import LumenHorizon.Gateway.Budgets
import LumenHorizon.Gateway.Calls
import LumenHorizon.Gateway.Auth
import LumenHorizon.Gateway.TokenChecks
import LumenHorizon.Gateway.Queries
import LumenHorizon.Gateway.TileRequests
import LumenHorizon.Gateway.Handlers
import LumenHorizon.Gateway.Server
import LumenHorizon.Processing.TileGeneration
import LumenHorizon.Gateway.Redirects
import LumenHorizon.Gateway.Admission
import LumenHorizon.Gateway.Gates
import LumenHorizon.Gateway.Limits
import LumenHorizon.Gateway.AdminAudit
import LumenHorizon.Gateway.Caching
import LumenHorizon.Foundation.FixedWindow
import LumenHorizon.Gateway.MemoryStore
import LumenHorizon.Gateway.Numerals
import LumenHorizon.Gateway.TileUrls
import LumenHorizon.Foundation.CursorWalk
import LumenHorizon.Gateway.Paging
import LumenHorizon.Ingest.CataloguePages
import LumenHorizon.Processing.LogRows
import LumenHorizon.Ingest.OutboxRecords
import LumenHorizon.Ingest.RejectedReplay
import LumenHorizon.Ingest.ReplayBatch
import LumenHorizon.Gateway.Stores
import LumenHorizon.Foundation.FloatValue
import LumenHorizon.Processing.Science
import LumenHorizon.Processing.RenderedPixels
import LumenHorizon.Processing.FillValues
import LumenHorizon.Shared.HttpRetry
import LumenHorizon.Processing.Worker
import LumenHorizon.Foundation.JoinSet
import LumenHorizon.Processing.ParallelRendering
import LumenHorizon.Processing.PolarRows
import LumenHorizon.Gateway.KeyFetches
import LumenHorizon.Foundation.Batches
import LumenHorizon.Ingest.Fairness
import LumenHorizon.Client.Requests
import LumenHorizon.Foundation.Markup
import LumenHorizon.Foundation.Scan
import LumenHorizon.Foundation.Spans
import LumenHorizon.Foundation.Words
import LumenHorizon.Ingest.Validators
import LumenHorizon.Processing.DarkSky
import LumenHorizon.Shared.Backoff
import LumenHorizon.Shared.BlobUrls
import LumenHorizon.Shared.QueueTransport
import LumenHorizon.Processing.RetentionProgress
import LumenHorizon.Foundation.Embedding
import LumenHorizon.Gateway.Requeues
import LumenHorizon.Ingest.MessageRows
import LumenHorizon.Processing.CleanupRecords
import LumenHorizon.Gateway.SettingsSecrets
import LumenHorizon.Gateway.ServiceAuth
import LumenHorizon.Processing.TilePyramid
import LumenHorizon.Shared.StorageRequests
import LumenHorizon.Shared.MessageJson
import LumenHorizon.Client.Responses
