import Hangar.Lib.Result
import Hangar.Lib.Table
import Hangar.Lib.Transition
import Hangar.Ingestion.Queue
import Hangar.Projection.Index
import Hangar.Ingestion.ChunkText
import Hangar.Projection.Graph
import Hangar.Projection.Rebuild
import Hangar.Ingestion.Process
import Hangar.Knowledge.Context
import Hangar.Blob.Put
import Hangar.Catalog.Catalog
import Hangar.Server
import Hangar.Ingestion.Moves
import Hangar.Ingestion.Integrity
import Hangar.Projection.Frames
import Hangar.Ingestion.Effects
import Hangar.Knowledge.Effects
import Hangar.Reachability
import Hangar.Ingestion.MissingRecords
import Hangar.Concrete
import Hangar.Ingestion.Deduplication
import Hangar.Ingestion.Idempotency
import Hangar.Knowledge.Integrity
import Hangar.Knowledge.Package
import Hangar.Knowledge.Expiry
import Hangar.Knowledge.Disclosure
import Hangar.Blob.Integrity
import Hangar.Knowledge.Sessions
import Hangar.Edge.Request
import Hangar.Edge.Http
import Hangar.Edge.Agreement
import Hangar.Lib.Directory
import Hangar.Operations.Backup
import Hangar.Operations.RoundTrip
import Hangar.Lib.Subdirectories
import Hangar.Operations.LocalModel
import Hangar.Projection.Effects
import Hangar.Projection.Scopes
import Hangar.Projection.Isolation
import Hangar.Projection.Manifests
import Hangar.Projection.AllOrNothing
import Hangar.Operations.Tampering
import Hangar.Edge.Confinement
import Hangar.Blob.Isolation
import Hangar.Ingestion.Attempts
import Hangar.Projection.AnnKeys
import Hangar.Projection.Searchable
import Hangar.Projection.Upkeep
import Hangar.Projection.Coverage
import Hangar.Projection.Attribution
import Hangar.Projection.Profiles
import Hangar.Knowledge.Supersession
import Hangar.Knowledge.Outbox
import Hangar.Knowledge.History
import Hangar.Lib.Ledger
import Hangar.Operations.Quotas
import Hangar.Knowledge.Noninterference
import Hangar.Edge.Keys
import Hangar.Knowledge.Grants
import Hangar.Knowledge.Feed
import Hangar.Knowledge.SessionCalls
import Hangar.Knowledge.Bounded
import Hangar.Knowledge.SessionReplies
import Hangar.Knowledge.Privacy
import Hangar.Lib.Breadth
import Hangar.Projection.Traversal
import Hangar.Lib.Lockstep
import Hangar.Edge.Addressed
import Hangar.Edge.Existence
import Hangar.Lib.Versions
import Hangar.Catalog.History
import Hangar.Catalog.Guardrails
import Hangar.Edge.JsonRpc
import Hangar.Lib.Packing
import Hangar.Knowledge.Packing
import Hangar.Lib.Firsts
import Hangar.Projection.Extract
import Hangar.Projection.Materialize
import Hangar.Lib.Ranking
import Hangar.Projection.Depth
import Hangar.Lib.Utf8
import Hangar.Lib.Cut
import Hangar.Ingestion.Chunks
import Hangar.Ingestion.Indexable
import Hangar.Ingestion.ChunkLoss
import Hangar.Lib.Disk
import Hangar.Operations.Walk
import Hangar.Operations.WalkFiles
import Hangar.Operations.WalkLoops
import Hangar.Operations.Snapshot
import Hangar.Projection.Timestamps
import Hangar.Projection.Linked
import Hangar.Projection.Replay
import Hangar.Projection.Reproduction
import Hangar.Lib.WorkQueue
import Hangar.Ingestion.WorkQueue
import Hangar.Ingestion.Leases
import Hangar.Ingestion.Serving
import Hangar.Ingestion.Worker
import Hangar.Ingestion.Draining
import Hangar.Ingestion.Acceptance
import Hangar.Projection.Evidence
