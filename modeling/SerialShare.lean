import SerialShare.Device.Playback
import SerialShare.Main
import SerialShare.Server
import SerialShare.Proofs.Text.Utf8
import SerialShare.Proofs.Text.Ascii
import SerialShare.Proofs.Text.Numeral
import SerialShare.Proofs.Frame.Grammar
import SerialShare.Proofs.Frame.Writing
import SerialShare.Proofs.Frame.NormalForm
import SerialShare.Proofs.Lines.Plain
import SerialShare.Proofs.Lines.Framing
import SerialShare.Proofs.Lines.Text
import SerialShare.Proofs.Lines.RoundTrip
import SerialShare.Proofs.Query.Reply
import SerialShare.Proofs.Query.Listing
import SerialShare.Proofs.Query.Form
import SerialShare.Proofs.Query.Vocabulary
import SerialShare.Proofs.Snapshot.Store
import SerialShare.Proofs.Snapshot.History
import SerialShare.Proofs.Poller.Play
import SerialShare.Proofs.Poller.Publication
import SerialShare.Proofs.Poller.Advance
import SerialShare.Proofs.Poller.Schedule
import SerialShare.Proofs.Poller.Success
import SerialShare.Proofs.Poller.Mock
import SerialShare.Proofs.Connection.Handler
import SerialShare.Proofs.Connection.Channel
import SerialShare.Proofs.Connection.Conversation
import SerialShare.Proofs.Connection.Progress
import SerialShare.Proofs.Connection.Rounds
import SerialShare.Proofs.Connection.Calls
import SerialShare.Proofs.Connection.Queries
import SerialShare.Proofs.Bridge.Basic
import SerialShare.Proofs.Bridge.Readers
import SerialShare.Proofs.Bridge.Order
import SerialShare.Proofs.Bridge.Isolation
import SerialShare.Proofs.Bridge.Mock
import SerialShare.Proofs.Lines.Intake
import SerialShare.Proofs.Connection.Refusal
import SerialShare.Proofs.Connection.Departure
import SerialShare.Proofs.Device.Mock
import SerialShare.Proofs.Config.Precedence
import SerialShare.Proofs.Net.Address
import SerialShare.Proofs.Poller.Period
import SerialShare.Proofs.Record.Blanks
import SerialShare.Proofs.Record.Spelling
import SerialShare.Proofs.Record.Texts
import SerialShare.Proofs.Record.Form
import SerialShare.Proofs.Record.Document
import SerialShare.Proofs.Config.Setting
import SerialShare.Proofs.Config.Layering
import SerialShare.Proofs.Config.RoundTrip
