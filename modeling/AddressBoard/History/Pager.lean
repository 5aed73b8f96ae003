import AddressBoard.History.Entry
import AddressBoard.History.Log

/-!
# Pagers

A pager shows the history of one domain page by page. It keeps what it shows when it is closed, and
opening it again starts anew. A log that cannot be read is shown as an empty one.
-/

namespace AddressBoard.History

/-- Changes are kept newest first, and pages are counted from 1. -/
structure Pager where
  changes : List Change
  label : String
  page : Nat
  pageSize : Nat
  isOpen : Bool
deriving DecidableEq, Repr

structure Sheet where
  title : String
  page : Nat
  totalPages : Nat
  rows : List Entry
  hasPrevious : Bool
  hasNext : Bool
deriving DecidableEq, Repr

def Sheet.label (sheet : Sheet) : String := s!"Page {sheet.page} of {sheet.totalPages}"

namespace Pager

/-- A pager that was never opened. A page has room for at least one row. -/
def closed (pageSize : Nat) : Pager :=
  { changes := [], label := "", page := 1, pageSize := max pageSize 1, isOpen := false }

/-- An empty history still has one page. -/
def totalPages (pager : Pager) : Nat :=
  max 1 ((pager.changes.length + pager.pageSize - 1) / pager.pageSize)

theorem totalPages_pos (pager : Pager) : 0 < pager.totalPages := by
  unfold totalPages
  omega

/-- The first page of a history that was read, oldest change first. -/
def showing (pager : Pager) (log : List Change) (label : String) : Pager :=
  { pager with changes := log.reverse, label, page := 1, isOpen := true }

/-- Opens a log, and gives the fault for which it is shown as empty. -/
def openLog (pager : Pager) (raw label : String) : Pager × Option LogFault :=
  match readLog raw with
  | .ok log => (pager.showing log label, none)
  | .error fault => (pager.showing [] label, some fault)

def close (pager : Pager) : Pager := { pager with isOpen := false }

def hasPrevious (pager : Pager) : Bool := 1 < pager.page

def hasNext (pager : Pager) : Bool := pager.page < pager.totalPages

def previous? (pager : Pager) : Option Pager :=
  if pager.hasPrevious then some { pager with page := pager.page - 1 } else none

def next? (pager : Pager) : Option Pager :=
  if pager.hasNext then some { pager with page := pager.page + 1 } else none

/-- How many rows stand on the pages before this one. -/
def start (pager : Pager) : Nat := (pager.page - 1) * pager.pageSize

def rows (pager : Pager) : List Entry :=
  ((entries pager.changes).drop pager.start).take pager.pageSize

def sheet (pager : Pager) : Sheet where
  title := "IP History: " ++ pager.label
  page := pager.page
  totalPages := pager.totalPages
  rows := pager.rows
  hasPrevious := pager.hasPrevious
  hasNext := pager.hasNext

end Pager

end AddressBoard.History
