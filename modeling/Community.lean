import Community.Cache.Bounded
import Community.Cache.Expiring
import Community.Cache.Key
import Community.Catalog.Repository
import Community.Config.Environment
import Community.Context.Timeline
import Community.Time.Timestamp
import Community.Blob.Path
import Community.Upload.Announcement
import Community.Upload.Naming
import Community.Upload.Status
import Community.Text.Hex
import Community.Scenario.Run
import Community.Proofs.Upload.Part
import Community.Proofs.Upload.Orderly
import Community.Proofs.Upload.Acknowledgement
import Community.Proofs.Blob.Path
import Community.Proofs.Upload.Places
import Community.Proofs.Upload.Blobs
import Community.Proofs.Upload.SweepSafety
import Community.Proofs.Upload.Reading
import Community.Proofs.Upload.Origin
import Community.Proofs.Upload.Permanence
import Community.Proofs.Float.Quotient
import Community.Proofs.Upload.Lifecycle
import Community.Proofs.Upload.Bookkeeping
import Community.Proofs.Cache.Recency
import Community.Proofs.Cache.Queue
import Community.Proofs.Cache.Entries
import Community.Proofs.Cache.System
import Community.Proofs.Cache.Index
import Community.Proofs.Cache.Freshness
import Community.Proofs.Cache.Invalidation
import Community.Proofs.Upload.Custody
import Community.Proofs.Upload.Ownership
import Community.Proofs.Upload.Leaks
import Community.Proofs.Upload.Aside
import Community.Proofs.Upload.Arrival
import Community.Proofs.Upload.Assembly
import Community.Proofs.Cache.Bounds
import Community.Proofs.Cache.Inclusion
import Community.Proofs.Metrics.History
import Community.Proofs.Text.Bytewise
import Community.Proofs.Time.Calendar
import Community.Proofs.Metrics.Daily
import Community.Proofs.Json.Literal
import Community.Proofs.Time.DateTime
import Community.Proofs.Json.Reading
import Community.Proofs.Catalog.Codec
import Community.Proofs.Cache.Provenance
import Community.Proofs.Upload.Exclusion
import Community.Proofs.Blob.Listing
import Community.Proofs.Upload.Confinement
import Community.Proofs.Upload.Isolation
import Community.Proofs.Cache.Lossless
import Community.Proofs.Blob.FileTree
import Community.Proofs.Blob.Directory
import Community.Proofs.Upload.ChunkFiles
import Community.Proofs.Upload.Hosted
import Community.Proofs.Cache.Reaping
import Community.Proofs.Metrics.Traffic
import Community.Proofs.Upload.Completion
import Community.Proofs.Upload.Atomicity
import Community.Proofs.Upload.Clearance
import Community.Proofs.Cache.Changes
import Community.Proofs.Cache.Pruning
import Community.Proofs.Cache.SharedSlots
import Community.Proofs.Scenario.FailedReads
import Community.Proofs.Blob.Canonical
import Community.Proofs.Metrics.Realtime
import Community.Proofs.Context.Family
import Community.Proofs.Cache.Lifetime
import Community.Proofs.Upload.Lifetime
import Community.Proofs.Scenario.Startup
import Community.Proofs.Blob.Lookup
import Community.Proofs.Blob.Disturbance
import Community.Proofs.Cache.Turnover
import Community.Proofs.Cache.Checked
import Community.Proofs.Cache.Touches
