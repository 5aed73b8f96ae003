import AddressBoard.Notice
import AddressBoard.Refresh.Controller
import AddressBoard.Text.Blank

/-!
# Sessions

A session drives a backend. It restores the saved interval, obeys the user's choices, pauses while
the page is hidden, and handles the ticks of the two timers. Timers run only while the session is
active, and every start cancels what was scheduled before it schedules anew. A tick that comes
although its timer is not scheduled is dropped.

The two timers are independent: the countdown may reach its end a little before or after the page
is reloaded.
-/

namespace AddressBoard.Refresh

/-- Calls and notices are kept newest first. -/
structure Session (World : Type) where
  controller : Controller
  world : World
  calls : List Call
  notices : List Notice

inductive Event where
  | restore
  | choose (seconds : Nat)
  | visibility (isVisible : Bool)
  | tick (timer : Timer)
deriving DecidableEq, Repr

/-- The interval that a saved text stands for. -/
def preference? (text : String) : Option Nat := Numeral.readUnsigned? (Text.trim text.toList)

namespace Session

variable {World : Type} (backend : Backend World)

def call (call : Call) (session : Session World) : Session World :=
  { session with
    world := backend.perform session.world call
    calls := call :: session.calls }

def note (notice : Notice) (session : Session World) : Session World :=
  { session with notices := notice :: session.notices }

def cancel (timer : Timer) (session : Session World) : Session World :=
  if backend.isScheduled session.world timer then session.call backend (.cancel timer) else session

def stop (session : Session World) : Session World :=
  (session.cancel backend .reload).cancel backend .countdown

def render (session : Session World) : Session World :=
  session.call backend (.display session.controller.display)

def withPhase (phase : Phase) (session : Session World) : Session World :=
  { session with controller := { session.controller with phase } }

/-- Schedules both timers for a whole interval. -/
def schedule (session : Session World) : Session World :=
  let interval := session.controller.interval
  let session := { session with controller := session.controller.withInterval interval }
  (session.call backend (.schedule .reload interval)).call backend (.schedule .countdown 1)

/-- Stops, and starts anew if there is an interval and the page is visible. -/
def start (session : Session World) : Session World :=
  let session := session.stop backend
  let session :=
    if session.controller.interval = 0 then session.withPhase .disabled
    else if ¬ session.controller.isVisible then session.withPhase .suspended
    else (session.schedule backend).withPhase .active
  session.render backend

/-- Starts with the saved interval, or with none if none can be read. -/
def restore (session : Session World) : Session World :=
  let stored? := backend.stored? session.world session.controller.key
  let interval := (stored?.bind preference?).getD 0
  let session := session.call backend (.load session.controller.key)
  let session := { session with controller := session.controller.withInterval interval }
  let session := if 0 < interval then session.note (.intervalRestored interval) else session
  (session.start backend).call backend (.select interval)

/-- Saves the interval. A failure is reported, and nothing else comes of it. -/
def save (session : Session World) : Session World :=
  let call := Call.save session.controller.key (toString session.controller.interval)
  match backend.saveFault? session.world with
  | none => session.call backend call
  | some fault =>
    { session with
      calls := call :: session.calls
      notices := .intervalUnsaved fault :: session.notices }

/-- Takes the user's choice, which is saved even if it is to switch refreshing off. -/
def choose (seconds : Nat) (session : Session World) : Session World :=
  let session := session.stop backend
  let session := { session with controller := session.controller.withInterval seconds }
  ((session.save backend).start backend).call backend (.select seconds)

/-- A page that becomes visible starts a whole interval; one that becomes hidden keeps what remains
of it. -/
def visibility (isVisible : Bool) (session : Session World) : Session World :=
  let session := { session with controller := { session.controller with isVisible } }
  if isVisible then
    if 0 < session.controller.interval then
      let interval := session.controller.interval
      let session := { session with controller := session.controller.withInterval interval }
      session.start backend
    else session
  else
    let session := session.stop backend
    let session :=
      if 0 < session.controller.interval then session.withPhase .suspended else session
    session.render backend

/-- Takes one second off the countdown. The end is shown before the next interval begins. -/
def countDown (session : Session World) : Session World :=
  if session.controller.isVisible ∧ 0 < session.controller.remaining then
    let remaining := session.controller.remaining - 1
    let session := { session with controller := { session.controller with remaining } }
    let session := session.render backend
    if remaining = 0 then
      let interval := session.controller.interval
      { session with controller := session.controller.withInterval interval }
    else session
  else session

def tick (timer : Timer) (session : Session World) : Session World :=
  if backend.isScheduled session.world timer then
    match timer with
    | .reload => if session.controller.isVisible then session.call backend .reload else session
    | .countdown => session.countDown backend
  else session

def handle (session : Session World) : Event → Session World
  | .restore => session.restore backend
  | .choose seconds => session.choose backend seconds
  | .visibility isVisible => session.visibility backend isVisible
  | .tick timer => session.tick backend timer

def run (events : List Event) (session : Session World) : Session World :=
  events.foldl (handle backend) session

end Session

end AddressBoard.Refresh
