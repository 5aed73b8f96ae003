import AddressBoard.History.Pager
import AddressBoard.Page.Browser
import AddressBoard.Page.Control
import AddressBoard.Page.Modal
import AddressBoard.Refresh.Session
import AddressBoard.Settings

/-!
# The board

The whole page: the rows of the domains, the control that refreshes it, and the modal with the
history of one domain. It is loaded from a source, and from then on a person acts on it and time
passes.
-/

namespace AddressBoard.Page

open History (Pager)
open Refresh (Session)

/-- A domain as the page is served. The domain's name and the history are missing if the row has no
cell or no attribute for them. -/
structure Row where
  history? : Option String
  domain? : Option String
  hasButton : Bool
deriving DecidableEq, Repr

structure Source where
  intervals? : Option String
  rows : List Row
deriving DecidableEq, Repr

/-- A row of a loaded page. A bound one opens its history when its button is clicked. -/
structure BoardRow extends Row where
  isBound : Bool
deriving DecidableEq, Repr

structure Board where
  source : Source
  rows : List BoardRow
  choices : List Nat
  session : Session Browser
  isListening : Bool
  isMenuOpen : Bool
  pager : Pager

inductive Target where
  | toggle
  | indicator
  | menu
  | option (seconds : Nat)
  | previous
  | next
  | close
  | content
  | title
  | backdrop
  | body
  | row (index : Nat)
  | history (index : Nat)
deriving DecidableEq, Repr

/-- A change to a row: of its history, which can also be taken away, and of its domain's name. -/
structure RowEdit where
  history? : Option (Option String)
  domain? : Option String
deriving DecidableEq, Repr

inductive Action where
  | click (target : Target)
  | key (name : String)
  | visibility (isHidden : Bool)
  | advance (millis : Nat)
  | editRow (index : Nat) (edit : RowEdit)
  | refuse (refusals : List Refusal)
  | load
deriving DecidableEq, Repr

/-- A domain's name without the blanks around it, and a stand-in where there is none. -/
def Row.label (row : Row) : String :=
  let name := (row.domain?.map fun name => Text.trim name.toList).getD []
  if name = [] then "Unknown" else String.ofList name

/-- Only a domain cell that is there takes a new name. -/
def Row.edit (row : Row) (edit : RowEdit) : Row :=
  { row with
    history? := edit.history?.getD row.history?
    domain? := row.domain?.map edit.domain?.getD }

def BoardRow.edit (row : BoardRow) (edit : RowEdit) : BoardRow :=
  { row with toRow := row.toRow.edit edit }

def Target.isInControl : Target → Bool
  | .toggle | .indicator | .menu | .option _ => true
  | _ => false

namespace Board

def browser (board : Board) : Browser := board.session.world

def withBrowser (board : Board) (browser : Browser) : Board :=
  { board with session := { board.session with world := browser } }

def note (board : Board) (notice : Notice) : Board :=
  { board with session := board.session.note notice }

def handle (board : Board) (event : Refresh.Event) : Board :=
  { board with session := board.session.handle Browser.backend event }

/-! ## Loading -/

/-- A row is bound if it has a history and a button that takes a listener. -/
def bind (browser : Browser) (row : Row) : BoardRow :=
  { row with isBound := row.history?.isSome && row.hasButton && !browser.refuses .buttonListener }

/-- Asks to be told when the page is hidden or shown. -/
def listen (board : Board) : Board :=
  if board.browser.refuses .documentListener then
    { board.withBrowser (board.browser.log .notListening) with isListening := false }
  else { board with isListening := true }

/-- Loads the page anew from its source. Of the page before, only what its browser keeps stays. -/
def load (board : Board) : Board :=
  let (settings, notice?) := Settings.ofIntervals board.source.intervals?
  let browser := board.browser.cleared
  let rows := board.source.rows.map (bind browser)
  let session : Session Browser :=
    { controller := .fresh settings.storageKey (!browser.isHidden)
      world := browser
      calls := board.session.calls
      notices := notice?.toList ++ board.session.notices }
  let board : Board :=
    { source := board.source, rows, choices := settings.choices, session, isListening := false,
      isMenuOpen := false, pager := .closed settings.pageSize }
  ((board.note (.rowsBound (rows.countP (·.isBound)))).handle .restore).listen

def start (source : Source) (browser : Browser) : Board :=
  let session : Session Browser :=
    { controller := .fresh "" false, world := browser, calls := [], notices := [] }
  load
    { source, rows := [], choices := [], session, isListening := false, isMenuOpen := false,
      pager := .closed 0 }

/-! ## Clicks and keys -/

/-- Whether a click can hit the target: it is on the page and enabled. -/
def offers (board : Board) : Target → Bool
  | .toggle | .close | .content | .title | .backdrop | .body => true
  | .indicator => board.browser.shown.isVisible
  | .menu => board.isMenuOpen
  | .option seconds => board.isMenuOpen && board.choices.contains seconds
  | .previous => board.pager.hasPrevious
  | .next => board.pager.hasNext
  | .row index => index < board.rows.length
  | .history index => board.rows[index]?.any (·.hasButton)

def withPager (board : Board) (pager : Pager) : Board := { board with pager }

/-- Opens the history that a row has now, under the name that it has now. -/
def openHistory (board : Board) (row : Row) : Board :=
  let (pager, fault?) := board.pager.openLog (row.history?.getD "") row.label
  let board := board.withPager pager
  match fault? with
  | none => board
  | some fault => board.note (.historyDiscarded fault)

/-- What a click does where it lands. -/
def press (board : Board) : Target → Board
  | .toggle => { board with isMenuOpen := !board.isMenuOpen }
  | .option seconds => { board with isMenuOpen := false }.handle (.choose seconds)
  | .previous => board.withPager (board.pager.previous?.getD board.pager)
  | .next => board.withPager (board.pager.next?.getD board.pager)
  | .close | .backdrop => board.withPager board.pager.close
  | .history index =>
    match board.rows[index]? with
    | some row => if row.isBound then board.openHistory row.toRow else board
    | none => board
  | .indicator | .menu | .content | .title | .body | .row _ => board

/-- A click that hits. Outside the control it closes the menu. -/
def click (board : Board) (target : Target) : Board :=
  if board.offers target then
    let board := board.press target
    if target.isInControl then board else { board with isMenuOpen := false }
  else board

/-- Escape closes the modal. -/
def key (board : Board) (name : String) : Board :=
  if name = "Escape" ∧ board.pager.isOpen then board.withPager board.pager.close else board

/-! ## What happens to the page -/

def visibility (board : Board) (isHidden : Bool) : Board :=
  let board := board.withBrowser { board.browser with isHidden }
  if board.isListening then board.handle (.visibility (!isHidden)) else board

/-- Lets intervals fire, each when it is due, up to and including the time `target`, in at most
`steps` steps. -/
def fireTo (target : Nat) : (steps : Nat) → Board → Board
  | 0, board => board
  | steps + 1, board =>
    match board.browser.nextDue? with
    | none => board
    | some interval =>
      if interval.due ≤ target then
        fireTo target steps
          ((board.withBrowser (board.browser.reach interval)).handle (.tick interval.timer))
      else board

/-- At least as many steps as intervals can fire within a time. -/
def stepsFor (browser : Browser) (millis : Nat) : Nat :=
  browser.intervals.foldr (fun interval steps => millis / interval.period + 1 + steps) 0

def advance (board : Board) (millis : Nat) : Board :=
  let target := board.browser.now + millis
  let board := fireTo target (stepsFor board.browser millis) board
  board.withBrowser { board.browser with now := target }

def act (board : Board) : Action → Board
  | .click target => board.click target
  | .key name => board.key name
  | .visibility isHidden => board.visibility isHidden
  | .advance millis => board.advance millis
  | .editRow index edit => { board with rows := board.rows.modify index (·.edit edit) }
  | .refuse refusals => board.withBrowser { board.browser with refusals }
  | .load => board.load

def run (actions : List Action) (board : Board) : Board := actions.foldl act board

/-! ## What is seen -/

def control (board : Board) : Markup :=
  Control.markup board.browser.shown board.browser.selected board.choices board.isMenuOpen

def modal (board : Board) : Markup := Modal.markup board.pager.sheet board.pager.isOpen

end Board

end AddressBoard.Page
