import LiveConfig.Bootstrap
import LiveConfig.Change
import LiveConfig.CommandLine.Arguments
import LiveConfig.CommandLine.Commands
import LiveConfig.CommandLine.Output
import LiveConfig.CommandLine.Run
import LiveConfig.Convert
import LiveConfig.Diff
import LiveConfig.Document
import LiveConfig.Environment
import LiveConfig.Error
import LiveConfig.Files
import LiveConfig.Json.Fault
import LiveConfig.Json.Number
import LiveConfig.Json.Printer
import LiveConfig.Json.Reader
import LiveConfig.Json.Record
import LiveConfig.Json.Skip
import LiveConfig.Json.Token
import LiveConfig.Json.Value
import LiveConfig.KeyOrder
import LiveConfig.Lookup
import LiveConfig.Main
import LiveConfig.Number.Binary64
import LiveConfig.Number.Reading
import LiveConfig.Number.Shortest
import LiveConfig.Proofs.Base64Texts
import LiveConfig.Proofs.ChangeNames
import LiveConfig.Proofs.Classification
import LiveConfig.Proofs.ContainerTexts
import LiveConfig.Proofs.Convergence
import LiveConfig.Proofs.Coverage
import LiveConfig.Proofs.Deliveries
import LiveConfig.Proofs.Endings
import LiveConfig.Proofs.Equality
import LiveConfig.Proofs.ErrorClasses
import LiveConfig.Proofs.Escapes
import LiveConfig.Proofs.Generations
import LiveConfig.Proofs.Integers
import LiveConfig.Proofs.JsonTexts
import LiveConfig.Proofs.KeyTargets
import LiveConfig.Proofs.Layers
import LiveConfig.Proofs.Logins
import LiveConfig.Proofs.LoopActions
import LiveConfig.Proofs.Maps
import LiveConfig.Proofs.MemoryCalls
import LiveConfig.Proofs.MemoryHistory
import LiveConfig.Proofs.MemoryIndexes
import LiveConfig.Proofs.MemoryReads
import LiveConfig.Proofs.MemoryWatch
import LiveConfig.Proofs.Merging
import LiveConfig.Proofs.Mirror
import LiveConfig.Proofs.Notifications
import LiveConfig.Proofs.Nulls
import LiveConfig.Proofs.NumberLiterals
import LiveConfig.Proofs.NumberTexts
import LiveConfig.Proofs.Numbers
import LiveConfig.Proofs.Pacing
import LiveConfig.Proofs.PassedValues
import LiveConfig.Proofs.PathWalks
import LiveConfig.Proofs.Paths
import LiveConfig.Proofs.PercentEncoding
import LiveConfig.Proofs.PollRounds
import LiveConfig.Proofs.Pushes
import LiveConfig.Proofs.RecordTexts
import LiveConfig.Proofs.Records
import LiveConfig.Proofs.RemoteStores
import LiveConfig.Proofs.Results
import LiveConfig.Proofs.Reversal
import LiveConfig.Proofs.Rounding
import LiveConfig.Proofs.RoundingIntervals
import LiveConfig.Proofs.SeedOutcomes
import LiveConfig.Proofs.Seeding
import LiveConfig.Proofs.SettingLeaves
import LiveConfig.Proofs.ShortestNumerals
import LiveConfig.Proofs.ShownDocuments
import LiveConfig.Proofs.Shutdown
import LiveConfig.Proofs.StoppedTasks
import LiveConfig.Proofs.Stopping
import LiveConfig.Proofs.StoreSteps
import LiveConfig.Proofs.TextLists
import LiveConfig.Proofs.TextLiterals
import LiveConfig.Proofs.TextMaps
import LiveConfig.Proofs.Traffic
import LiveConfig.Proofs.Utf8Characters
import LiveConfig.Proofs.ValidSettings
import LiveConfig.Proofs.WakeUps
import LiveConfig.Proofs.Watched
import LiveConfig.Proofs.WebAddresses
import LiveConfig.Proofs.WireForms
import LiveConfig.Proofs.WrittenValues
import LiveConfig.Remote.Exchange
import LiveConfig.Remote.Http
import LiveConfig.Remote.Memory
import LiveConfig.Remote.Pair
import LiveConfig.Remote.Query
import LiveConfig.Remote.Wire
import LiveConfig.Session.Basic
import LiveConfig.Session.Clock
import LiveConfig.Session.Stores
import LiveConfig.Session.Tasks
import LiveConfig.Session.Watching
import LiveConfig.Settings.Basic
import LiveConfig.Settings.Layer
import LiveConfig.Settings.Loader
import LiveConfig.Settings.Record
import LiveConfig.Settings.Variable
import LiveConfig.Span
import LiveConfig.Store.Access
import LiveConfig.Store.Basic
import LiveConfig.Store.Broadcast
import LiveConfig.Store.Connect
import LiveConfig.Store.Opening
import LiveConfig.Text.Base64
import LiveConfig.Text.CharRanges
import LiveConfig.Text.CharTable
import LiveConfig.Text.Composition
import LiveConfig.Text.Composition.Table
import LiveConfig.Text.Pieces
import LiveConfig.Text.Printable
import LiveConfig.Text.Punycode
import LiveConfig.Text.Quoted
import LiveConfig.Text.Utf8
import LiveConfig.Toml.Reader
import LiveConfig.Toml.Scalar
import LiveConfig.Toml.Table
import LiveConfig.Toml.Value
import LiveConfig.Toml.Word
import LiveConfig.Url.Basic
import LiveConfig.Url.Domain.Basic
import LiveConfig.Url.Domain.Direction
import LiveConfig.Url.Domain.Joining
import LiveConfig.Url.Domain.Table
import LiveConfig.Url.Fault
import LiveConfig.Url.Host
import LiveConfig.Url.IpAddress
import LiveConfig.Url.Percent
import LiveConfig.Url.Reader
import LiveConfig.Watch.Loop
import LiveConfig.Watch.Poll
