import PlaybackEngine.Cache.Key
import PlaybackEngine.Cache.Mime
import PlaybackEngine.Cache.Provisional
import PlaybackEngine.Cache.Store
import PlaybackEngine.Config.Engine
import PlaybackEngine.Config.Settings
import PlaybackEngine.Disk.Calls
import PlaybackEngine.Disk.Quota
import PlaybackEngine.Disk.Tree
import PlaybackEngine.Download.Manager
import PlaybackEngine.Download.Record
import PlaybackEngine.Download.State
import PlaybackEngine.Download.Transfer
import PlaybackEngine.Error
import PlaybackEngine.Host.Catalog
import PlaybackEngine.Host.Decoder
import PlaybackEngine.Host.Http
import PlaybackEngine.Host.KeepAlive
import PlaybackEngine.Host.Network
import PlaybackEngine.Host.Probe
import PlaybackEngine.Host.Telephony
import PlaybackEngine.Host.Transport
import PlaybackEngine.Host.Volume
import PlaybackEngine.Json.Decode
import PlaybackEngine.Json.Machine
import PlaybackEngine.Json.Parse
import PlaybackEngine.Json.Print
import PlaybackEngine.Json.Value
import PlaybackEngine.Listeners.Event
import PlaybackEngine.Listeners.Hub
import PlaybackEngine.Logging.Capture
import PlaybackEngine.Logging.Console
import PlaybackEngine.Logging.Entry
import PlaybackEngine.Logging.Filter
import PlaybackEngine.Logging.Setup
import PlaybackEngine.Logging.Stored
import PlaybackEngine.Path
import PlaybackEngine.Player.Actor
import PlaybackEngine.Player.Controls
import PlaybackEngine.Player.Persistence
import PlaybackEngine.Player.PlayState
import PlaybackEngine.Player.Playback
import PlaybackEngine.Player.Session
import PlaybackEngine.Queue
import PlaybackEngine.Script.Bridge
import PlaybackEngine.Script.Cache
import PlaybackEngine.Script.Content
import PlaybackEngine.Script.Disk
import PlaybackEngine.Script.Downloads
import PlaybackEngine.Script.Engine
import PlaybackEngine.Script.Events
import PlaybackEngine.Script.Hex
import PlaybackEngine.Script.Host
import PlaybackEngine.Script.Http
import PlaybackEngine.Script.Hub
import PlaybackEngine.Script.Logging
import PlaybackEngine.Script.Player
import PlaybackEngine.Script.Probe
import PlaybackEngine.Script.Queue
import PlaybackEngine.Script.Request
import PlaybackEngine.Script.Respond
import PlaybackEngine.Script.Service
import PlaybackEngine.Script.Simple
import PlaybackEngine.Script.Snapshot
import PlaybackEngine.Script.Step
import PlaybackEngine.Service.Feed
import PlaybackEngine.Service.IdleMonitor
import PlaybackEngine.Service.Lifecycle
import PlaybackEngine.Snapshot
import PlaybackEngine.Table
import PlaybackEngine.Text.Alphanumeric
import PlaybackEngine.Text.Blank
import PlaybackEngine.Text.Debug
import PlaybackEngine.Text.Float
import PlaybackEngine.Text.GraphemeExtend
import PlaybackEngine.Text.PatternSyntax
import PlaybackEngine.Text.RangeTable
import PlaybackEngine.Text.Stamp
import PlaybackEngine.Text.Time
import PlaybackEngine.Text.Unprintable
import PlaybackEngine.Text.Utf8
import PlaybackEngine.Text.Uuid
import PlaybackEngine.World
import PlaybackEngine.Proofs.Hoare
import PlaybackEngine.Proofs.Frames
import PlaybackEngine.Proofs.PlayerConsistency
import PlaybackEngine.Proofs.Table
import PlaybackEngine.Proofs.Worker
import PlaybackEngine.Proofs.ManagerInvariant
import PlaybackEngine.Proofs.SingleFlight
import PlaybackEngine.Proofs.NoticeOrder
import PlaybackEngine.Proofs.TransferTable
import PlaybackEngine.Proofs.TransferReplay
import PlaybackEngine.Proofs.SnapshotCodec
import PlaybackEngine.Proofs.Eviction
import PlaybackEngine.Proofs.NoticeRelease
import PlaybackEngine.Proofs.QueueEdits
import PlaybackEngine.Proofs.ChangeMarks
import PlaybackEngine.Proofs.Restart
import PlaybackEngine.Proofs.HubDelivery
import PlaybackEngine.Proofs.TransferContent
import PlaybackEngine.Proofs.Loading
import PlaybackEngine.Proofs.Jumps
import PlaybackEngine.Proofs.QueueCommands
import PlaybackEngine.Proofs.Course
import PlaybackEngine.Proofs.CallResume
import PlaybackEngine.Proofs.MoveMirror
import PlaybackEngine.Proofs.LateListener
import PlaybackEngine.Proofs.PausedTransfers
import PlaybackEngine.Proofs.BufferShare
import PlaybackEngine.Proofs.Supersession
import PlaybackEngine.Proofs.QueueLaws
import PlaybackEngine.Proofs.SnapshotDecode
import PlaybackEngine.Proofs.ServiceLifecycle
import PlaybackEngine.Proofs.IdleShutdown
import PlaybackEngine.Proofs.StateFileHistory
import PlaybackEngine.Proofs.StorageCalls
import PlaybackEngine.Proofs.TransferPercent
import PlaybackEngine.Proofs.RecordPruning
import PlaybackEngine.Proofs.ConfigBuilder
import PlaybackEngine.Proofs.ContentRange
import PlaybackEngine.Proofs.DirectorySize
import PlaybackEngine.Proofs.MediaTypeEssence
