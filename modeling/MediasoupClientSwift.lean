import MediasoupClientSwift.Library.Machine
import MediasoupClientSwift.Library.Ghost
import MediasoupClientSwift.Library.Arena
import MediasoupClientSwift.Library.Program
import MediasoupClientSwift.Library.Fallible
import MediasoupClientSwift.Library.Frame
import MediasoupClientSwift.Library.Accounting
import MediasoupClientSwift.Library.Simulation
import MediasoupClientSwift.Library.Inventory
import MediasoupClientSwift.Library.Agreement
import MediasoupClientSwift.Library.Promise
import MediasoupClientSwift.Library.WriteBack
import MediasoupClientSwift.Library.WriteBackLaws
import MediasoupClientSwift.Foundation.Text
import MediasoupClientSwift.Foundation.Number
import MediasoupClientSwift.Foundation.Json
import MediasoupClientSwift.Error.Exception
import MediasoupClientSwift.Error.Handler
import MediasoupClientSwift.Error.Translation
import MediasoupClientSwift.Error.Converter
import MediasoupClientSwift.Rtp.Parameters
import MediasoupClientSwift.Rtp.Sender
import MediasoupClientSwift.Rtp.Conversion
import MediasoupClientSwift.Rtp.Written
import MediasoupClientSwift.Rtp.RoundTrip
import MediasoupClientSwift.Rtp.ReadBack
import MediasoupClientSwift.Media.Kinds
import MediasoupClientSwift.Device.IceServers
import MediasoupClientSwift.Device.IceOptions
import MediasoupClientSwift.Device.AudioSession
import MediasoupClientSwift.Device.AudioTasks
import MediasoupClientSwift.Native.Library
import MediasoupClientSwift.Native.Process
import MediasoupClientSwift.Transport.Transport
import MediasoupClientSwift.Device.Device
import MediasoupClientSwift.Media.Producer
import MediasoupClientSwift.Media.SenderParameters
import MediasoupClientSwift.Media.SenderUpdates
import MediasoupClientSwift.Media.UpdateHistory
import MediasoupClientSwift.Media.Consumer
import MediasoupClientSwift.Transport.Factories
import MediasoupClientSwift.Transport.ProducerEncodings
import MediasoupClientSwift.Transport.CleanUp
import MediasoupClientSwift.Transport.Children
import MediasoupClientSwift.Api.Operation
import MediasoupClientSwift.Api.Settlement
import MediasoupClientSwift.Api.ErrorVocabulary
import MediasoupClientSwift.Api.NumericSettings
import MediasoupClientSwift.Events.Event
import MediasoupClientSwift.Events.Delivery
import MediasoupClientSwift.Events.DataChannel
import MediasoupClientSwift.Events.ProduceHandshake
import MediasoupClientSwift.Events.Links
import MediasoupClientSwift.Transport.Lifecycle
import MediasoupClientSwift.Logger.Logger
import MediasoupClientSwift.Logger.Reception
import MediasoupClientSwift.Api.Frames
import MediasoupClientSwift.Api.Ledger
import MediasoupClientSwift.Api.Failures
import MediasoupClientSwift.Api.Session
import MediasoupClientSwift.Api.SessionEffects
import MediasoupClientSwift.Api.Accounting
import MediasoupClientSwift.Api.Lifetimes
import MediasoupClientSwift.Api.Tracks
import MediasoupClientSwift.Api.NativeObjects
import MediasoupClientSwift.Api.LiveObjects
import MediasoupClientSwift.Api.Progress
import MediasoupClientSwift.Api.SessionLinks
import MediasoupClientSwift.Api.SessionEvents
import MediasoupClientSwift.Api.SessionTasks
