import DeviceSetup.App.Event
import DeviceSetup.App.Model
import DeviceSetup.App.Poller
import DeviceSetup.App.Session
import DeviceSetup.App.Update
import DeviceSetup.Bridge.Basic
import DeviceSetup.Bridge.Binary
import DeviceSetup.Bridge.Events
import DeviceSetup.Bridge.View
import DeviceSetup.Device.Exchange
import DeviceSetup.Device.Launch
import DeviceSetup.Device.Page
import DeviceSetup.Device.ScanCache
import DeviceSetup.Device.ScanFile
import DeviceSetup.Device.ScanRequest
import DeviceSetup.Device.Server
import DeviceSetup.Device.Store
import DeviceSetup.Dict
import DeviceSetup.Form.Basic
import DeviceSetup.Form.Behavior
import DeviceSetup.Form.Edit
import DeviceSetup.Form.Transfer
import DeviceSetup.Form.Widget
import DeviceSetup.Http.Date
import DeviceSetup.Http.FileType
import DeviceSetup.Http.Message
import DeviceSetup.Http.Range
import DeviceSetup.Http.Reply
import DeviceSetup.Json.Fault
import DeviceSetup.Json.Lexeme
import DeviceSetup.Json.Reader
import DeviceSetup.Json.Record
import DeviceSetup.Json.Skip
import DeviceSetup.Json.Writer
import DeviceSetup.MessagePack.Item
import DeviceSetup.Network.Json
import DeviceSetup.Network.Combo
import DeviceSetup.Number.Dyadic
import DeviceSetup.Number.Shortest
import DeviceSetup.Number.Words
import DeviceSetup.Payload.Basic
import DeviceSetup.Payload.Json
import DeviceSetup.Payload.MessagePack
import DeviceSetup.Schema.Basic
import DeviceSetup.Schema.Json
import DeviceSetup.Schema.Validation
import DeviceSetup.Text.Basic
import DeviceSetup.Text.Cluster
import DeviceSetup.Text.Decimal
import DeviceSetup.Text.Hex
import DeviceSetup.Text.Property
import DeviceSetup.Text.Utf8
import DeviceSetup.WireFormat
import DeviceSetup.Proofs.Runs
import DeviceSetup.Proofs.SaveProtocol
import DeviceSetup.Proofs.PollTimers
import DeviceSetup.Proofs.Polling
import DeviceSetup.Proofs.ComboHistory
import DeviceSetup.Proofs.FormFields
import DeviceSetup.Proofs.FormInStep
import DeviceSetup.Proofs.OfferedScan
import DeviceSetup.Proofs.Lookup
import DeviceSetup.Proofs.MessagePackRoundTrip
import DeviceSetup.Proofs.JsonLexemes
import DeviceSetup.Proofs.JsonRoundTrip
import DeviceSetup.Proofs.SchemaWalk
import DeviceSetup.Proofs.StoreContents
import DeviceSetup.Proofs.SavedPayload
import DeviceSetup.Proofs.PasswordFlow
import DeviceSetup.Proofs.ShortestForms
import DeviceSetup.Proofs.StoreRuns
import DeviceSetup.Proofs.WireRoundTrips
import DeviceSetup.Proofs.PostBack
import DeviceSetup.Proofs.Fetches
import DeviceSetup.Proofs.Controls
import DeviceSetup.Proofs.ScansAside
import DeviceSetup.Proofs.StaleAnswers
import DeviceSetup.Proofs.BinaryForm
import DeviceSetup.Proofs.ShellEvents
import DeviceSetup.Proofs.ShownState
import DeviceSetup.Proofs.ElementIds
import DeviceSetup.Proofs.ScanTurns
import DeviceSetup.Proofs.ScanRaces
import DeviceSetup.Proofs.FormHistories
import DeviceSetup.Proofs.ServedNetworks
import DeviceSetup.Proofs.FormFaults
import DeviceSetup.Proofs.WrittenIntegers
import DeviceSetup.Proofs.LoadThenSave
import DeviceSetup.Proofs.SaveThenReload
import DeviceSetup.Proofs.LocalEdits
import DeviceSetup.Proofs.FirstViolation
import DeviceSetup.Proofs.JsonStructure
import DeviceSetup.Proofs.SchemaRoundTrip
import DeviceSetup.Proofs.Rounding
import DeviceSetup.Proofs.DecodedIntegers
import DeviceSetup.Proofs.LossyText
import DeviceSetup.Proofs.OddNames
import DeviceSetup.Proofs.TextCuts
import DeviceSetup.Proofs.LeadingIntegers
import DeviceSetup.Proofs.DeviceIds
import DeviceSetup.Proofs.FailedScans
