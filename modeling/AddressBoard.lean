import AddressBoard.Calendar.Date
import AddressBoard.Calendar.Instant
import AddressBoard.Calendar.Reading
import AddressBoard.Decimal.Layout
import AddressBoard.Decimal.Shortest
import AddressBoard.History.Change
import AddressBoard.History.Entry
import AddressBoard.History.Log
import AddressBoard.History.LogFault
import AddressBoard.History.Pager
import AddressBoard.History.Span
import AddressBoard.Json.Fault
import AddressBoard.Json.Number
import AddressBoard.Json.Reader
import AddressBoard.Json.Text
import AddressBoard.Json.Value
import AddressBoard.Notice
import AddressBoard.Page.Board
import AddressBoard.Page.Browser
import AddressBoard.Page.Control
import AddressBoard.Page.Markup
import AddressBoard.Page.Modal
import AddressBoard.Proofs.Calendar.DayCount
import AddressBoard.Proofs.Calendar.RoundTrip
import AddressBoard.Proofs.Calendar.Scanning
import AddressBoard.Proofs.Calendar.Spellings
import AddressBoard.Proofs.Calendar.Unambiguous
import AddressBoard.Proofs.History.Millis
import AddressBoard.Proofs.History.Moves
import AddressBoard.Proofs.History.Navigation
import AddressBoard.Proofs.History.Paging
import AddressBoard.Proofs.History.Reading
import AddressBoard.Proofs.History.Spans
import AddressBoard.Proofs.History.Tiling
import AddressBoard.Proofs.History.Words
import AddressBoard.Proofs.Json.Grammar
import AddressBoard.Proofs.Json.Numbers
import AddressBoard.Proofs.Json.Texts
import AddressBoard.Proofs.Json.Values
import AddressBoard.Proofs.Page.Clock
import AddressBoard.Proofs.Page.Handles
import AddressBoard.Proofs.Page.Independence
import AddressBoard.Proofs.Page.Intervals
import AddressBoard.Proofs.Page.Menu
import AddressBoard.Proofs.Page.Opening
import AddressBoard.Proofs.Page.ReadBack
import AddressBoard.Proofs.Page.Refusals
import AddressBoard.Proofs.Page.Tags
import AddressBoard.Proofs.Page.Timers
import AddressBoard.Proofs.Refresh.Alike
import AddressBoard.Proofs.Refresh.Choices
import AddressBoard.Proofs.Refresh.Faithful
import AddressBoard.Proofs.Refresh.LateTicks
import AddressBoard.Proofs.Refresh.Operations
import AddressBoard.Proofs.Refresh.Past
import AddressBoard.Proofs.Refresh.Preference
import AddressBoard.Proofs.Refresh.Trace
import AddressBoard.Proofs.Refresh.Turns
import AddressBoard.Refresh.Backend
import AddressBoard.Refresh.Controller
import AddressBoard.Refresh.Display
import AddressBoard.Refresh.Menu
import AddressBoard.Refresh.Session
import AddressBoard.Settings
import AddressBoard.Text.Blank
import AddressBoard.Text.Numeral
import AddressBoard.Text.Quoted
import AddressBoard.Text.Unprintable
