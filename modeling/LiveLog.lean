import LiveLog.Expansion
import LiveLog.Main
import LiveLog.Pipeline
import LiveLog.Proofs.Generations
import LiveLog.Proofs.Replay
import LiveLog.Proofs.Connections
import LiveLog.Proofs.Journal
import LiveLog.Proofs.Delivery
import LiveLog.Proofs.DroppedOperations
import LiveLog.Proofs.EntryList
import LiveLog.Proofs.Printing
import LiveLog.Proofs.Gathering
import LiveLog.Proofs.Growth
import LiveLog.Proofs.LatestRows
import LiveLog.Proofs.Arrivals
import LiveLog.Proofs.TimeOrder
import LiveLog.Proofs.MergedEntries
import LiveLog.Proofs.Presentations
import LiveLog.Proofs.GrowingParts
import LiveLog.Proofs.Reprints
import LiveLog.Proofs.ScriptLines
import LiveLog.Proofs.Publication
import LiveLog.Proofs.Flags
import LiveLog.Proofs.Registry
import LiveLog.Proofs.Interleaving
import LiveLog.Proofs.Lifecycle
import LiveLog.Proofs.Framing
import LiveLog.Proofs.ValueDrafts
import LiveLog.Proofs.WrittenValues
import LiveLog.Proofs.MessageCodec
import LiveLog.Proofs.EventBodies
import LiveLog.Proofs.MaximalRuns
import LiveLog.Proofs.Retention
import LiveLog.Proofs.Transcripts
import LiveLog.Proofs.Failures
import LiveLog.Proofs.Reencoding
import LiveLog.Proofs.RowKeys
import LiveLog.Proofs.StreamKinds
import LiveLog.Proofs.Draining
import LiveLog.Proofs.Effects
import LiveLog.Proofs.Recollection
import LiveLog.Proofs.Upserts
import LiveLog.Proofs.FieldPatches
import LiveLog.Proofs.Decisions
import LiveLog.Proofs.UnknownKinds
import LiveLog.Proofs.WrittenEntries
import LiveLog.Proofs.Extraction
import LiveLog.Proofs.Arguments
import LiveLog.Proofs.JsonLines
import LiveLog.Proofs.Endpoints
