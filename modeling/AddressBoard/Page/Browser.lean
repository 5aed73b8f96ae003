import AddressBoard.Refresh.Backend

/-!
# Browsers

What a browser keeps for a page: its local storage, whether the page is hidden, the running
intervals and the clock they follow, and what was written to the console. A browser can refuse what
a page asks of it. The page keeps the handles of its intervals, which is all that it knows of them.
-/

namespace AddressBoard.Page

open Refresh (Backend Call Display StorageFault Timer)

inductive Refusal where
  | noStorage
  | storageDenied
  | getItem
  | setItem
  | setInterval
  | reload
  | documentListener
  | buttonListener
deriving DecidableEq, Repr

/-- The exceptions with which a browser refuses. -/
inductive Exception where
  | quotaExceeded
  | noMoreTimers
  | reloadRefused
  | noMoreListeners
deriving DecidableEq, Repr

def Exception.description : Exception → String
  | .quotaExceeded => "JsValue(QuotaExceededError: The quota has been exceeded.)"
  | .noMoreTimers => "JsValue(NotSupportedError: No more timers.)"
  | .reloadRefused => "JsValue(SecurityError: Reload refused.)"
  | .noMoreListeners => "JsValue(NotSupportedError: No more listeners.)"

/-- What a page writes to the console. -/
inductive ConsoleError where
  | timerNotSet (timer : Timer)
  | notReloaded
  | notListening
deriving DecidableEq, Repr

def timerName : Timer → String
  | .reload => "Reload"
  | .countdown => "Countdown"

def ConsoleError.text : ConsoleError → String
  | .timerNotSet timer =>
    "Failed to schedule " ++ timerName timer ++ " timer: " ++ Exception.noMoreTimers.description
  | .notReloaded => "Failed to reload page: " ++ Exception.reloadRefused.description
  | .notListening =>
    "Failed to listen for visibility changes: " ++ Exception.noMoreListeners.description

/-- A repeating interval. Periods and times are in milliseconds. -/
structure Interval where
  handle : Nat
  timer : Timer
  period : Nat
  due : Nat
deriving DecidableEq, Repr

/-- The handles of the intervals that a page has set, by the timers for which it has set them. -/
structure Handles where
  reload? : Option Nat
  countdown? : Option Nat
deriving DecidableEq, Repr

namespace Handles

def empty : Handles := ⟨none, none⟩

def get? (handles : Handles) : Timer → Option Nat
  | .reload => handles.reload?
  | .countdown => handles.countdown?

def set (handles : Handles) (handle? : Option Nat) : Timer → Handles
  | .reload => { handles with reload? := handle? }
  | .countdown => { handles with countdown? := handle? }

@[simp]
theorem get?_empty (timer : Timer) : empty.get? timer = none := by
  cases timer <;> rfl

@[simp]
theorem get?_set_self (handles : Handles) (handle? : Option Nat) (timer : Timer) :
    (handles.set handle? timer).get? timer = handle? := by
  cases timer <;> rfl

theorem get?_set_of_ne (handles : Handles) (handle? : Option Nat) {timer other : Timer}
    (hother : other ≠ timer) : (handles.set handle? timer).get? other = handles.get? other := by
  cases timer <;> cases other <;> first | rfl | exact absurd rfl hother

theorem set_get? (handles : Handles) (timer : Timer) :
    handles.set (handles.get? timer) timer = handles := by
  cases timer <;> rfl

end Handles

/-- The intervals are in the order in which they were set, the console is newest first, and the
storage holds a key once. -/
structure Browser where
  storage : List (String × String)
  refusals : List Refusal
  isHidden : Bool
  reloads : Nat
  now : Nat
  nextHandle : Nat
  intervals : List Interval
  handles : Handles
  shown : Display
  selected : Nat
  console : List ConsoleError
deriving DecidableEq, Repr

/-- Sets a key, which keeps its place if it was there. -/
def putItem (key value : String) : List (String × String) → List (String × String)
  | [] => [(key, value)]
  | item :: items => if item.1 = key then (key, value) :: items else item :: putItem key value items

@[simp]
theorem lookup_putItem_self (key value : String) (items : List (String × String)) :
    (putItem key value items).lookup key = some value := by
  induction items with
  | nil => simp [putItem]
  | cons item items ih =>
    obtain ⟨name, content⟩ := item
    unfold putItem
    split
    · simp
    · next different =>
      simp only at different
      simp [List.lookup_cons, beq_eq_false_iff_ne.2 (Ne.symm different), ih]

theorem lookup_putItem_of_ne {key other : String} (different : other ≠ key) (value : String)
    (items : List (String × String)) :
    (putItem key value items).lookup other = items.lookup other := by
  induction items with
  | nil => simp [putItem, List.lookup_cons, beq_eq_false_iff_ne.2 different]
  | cons item items ih =>
    obtain ⟨name, content⟩ := item
    unfold putItem
    split
    · next same =>
      simp only at same
      simp [List.lookup_cons, same, beq_eq_false_iff_ne.2 different]
    · simp [List.lookup_cons, ih]

namespace Browser

/-- A browser that shows no page yet. -/
def blank (storage : List (String × String)) (refusals : List Refusal) (isHidden : Bool) :
    Browser :=
  { storage, refusals, isHidden, reloads := 0, now := 0, nextHandle := 0, intervals := [],
    handles := .empty, shown := .hidden, selected := 0, console := [] }

def refuses (browser : Browser) (refusal : Refusal) : Bool := browser.refusals.contains refusal

def log (browser : Browser) (error : ConsoleError) : Browser :=
  { browser with console := error :: browser.console }

/-! ## Storage -/

def hasStorage (browser : Browser) : Bool :=
  ¬ browser.refuses .noStorage && ¬ browser.refuses .storageDenied

def stored? (browser : Browser) (key : String) : Option String :=
  if browser.hasStorage ∧ ¬ browser.refuses .getItem then browser.storage.lookup key else none

def saveFault? (browser : Browser) : Option StorageFault :=
  if ¬ browser.hasStorage then some ⟨"localStorage is unavailable"⟩
  else if browser.refuses .setItem then some ⟨Exception.quotaExceeded.description⟩
  else none

/-! ## Intervals -/

/-- The longest period that a browser takes. -/
def longestPeriod : Nat := 2147483647

/-- A timer counts as scheduled if the page has a handle for it. -/
def isScheduled (browser : Browser) (timer : Timer) : Bool := (browser.handles.get? timer).isSome

/-- Clears the interval with the handle of the timer. -/
def cancel (browser : Browser) (timer : Timer) : Browser :=
  { browser with
    intervals := browser.intervals.filter fun interval =>
      browser.handles.get? timer ≠ some interval.handle
    handles := browser.handles.set none timer }

/-- Sets an interval in place of any older one of the same timer. -/
def schedule (browser : Browser) (timer : Timer) (seconds : Nat) : Browser :=
  let browser := browser.cancel timer
  if browser.refuses .setInterval then browser.log (.timerNotSet timer)
  else
    let period := min (1000 * seconds) longestPeriod
    let interval : Interval :=
      { handle := browser.nextHandle, timer, period, due := browser.now + period }
    { browser with
      nextHandle := browser.nextHandle + 1
      intervals := browser.intervals ++ [interval]
      handles := browser.handles.set (some browser.nextHandle) timer }

def reload (browser : Browser) : Browser :=
  if browser.refuses .reload then browser.log .notReloaded
  else { browser with reloads := browser.reloads + 1 }

def perform (browser : Browser) : Call → Browser
  | .load _ => browser
  | .save key value => { browser with storage := putItem key value browser.storage }
  | .schedule timer seconds => browser.schedule timer seconds
  | .cancel timer => browser.cancel timer
  | .reload => browser.reload
  | .display display => { browser with shown := display }
  | .select seconds => { browser with selected := seconds }

/-- The browser as what a session drives. -/
def backend : Backend Browser := { isScheduled, stored?, saveFault?, perform }

/-! ## Time -/

/-- Of two intervals the one that is due first, and the first one if both are due together. -/
def earlier (first second : Interval) : Interval := if second.due < first.due then second else first

def nextDue? (browser : Browser) : Option Interval :=
  match browser.intervals with
  | [] => none
  | first :: others => some (others.foldl earlier first)

/-- Lets the clock reach the time when an interval is due, and counts on to its next time. -/
def reach (browser : Browser) (interval : Interval) : Browser :=
  { browser with
    now := interval.due
    intervals := browser.intervals.map fun other =>
      if other.handle = interval.handle then { other with due := other.due + other.period }
      else other }

/-- The browser after the page is gone: its intervals, their handles and what it showed are gone
too. -/
def cleared (browser : Browser) : Browser :=
  { browser with intervals := [], handles := .empty, shown := .hidden, selected := 0 }

end Browser

end AddressBoard.Page
