import AddressBoard.Text.Blank
import AddressBoard.Text.Numeral

/-!
# The interval menu

The menu offers a set of intervals in seconds, of which 0 means that the page is not refreshed. A
page can name its own intervals, divided by commas; the menu lists them in ascending order, each
once, and always offers 0.
-/

namespace AddressBoard.Refresh

inductive MenuFault where
  | badInterval (part : String)
  | noIntervals
deriving DecidableEq, Repr

def MenuFault.message : MenuFault → String
  | .badInterval part => "Config error: invalid interval '" ++ part ++ "'"
  | .noIntervals => "Config error: no intervals given"

namespace Menu

/-- The parts of a text between its commas, at least one. -/
def parts : List Char → List (List Char)
  | [] => [[]]
  | character :: rest =>
    match parts rest with
    | [] => [[character]]
    | first :: others =>
      if character = ',' then [] :: first :: others else (character :: first) :: others

/-- Adds a number to an ascending list, unless it is there. -/
def insert (number : Nat) : List Nat → List Nat
  | [] => [number]
  | first :: others =>
    if number < first then number :: first :: others
    else if number = first then first :: others
    else first :: insert number others

/-- The numbers of a list, ascending and each once. -/
def ascending (numbers : List Nat) : List Nat := numbers.foldr insert []

def interval (part : List Char) : Except MenuFault Nat :=
  match Numeral.readUnsigned? part with
  | some seconds => .ok seconds
  | none => .error (.badInterval (String.ofList part))

/-- The parts of a list of intervals that are not blank, trimmed. -/
def entries (text : List Char) : List (List Char) :=
  ((parts text).map Text.trim).filter (· ≠ [])

/-- The choices that a list of intervals stands for. The first bad interval is reported. -/
def read (text : String) : Except MenuFault (List Nat) := do
  let intervals ← (entries text.toList).mapM interval
  if intervals = [] then throw .noIntervals
  return ascending (0 :: intervals)

def standard : List Nat := [0, 30, 60, 300, 600]

/-- A choice is labelled in the largest of hours, minutes and seconds that divides it. -/
def label (seconds : Nat) : String :=
  if seconds = 0 then "Off"
  else if seconds % 3600 = 0 then s!"{seconds / 3600}h"
  else if seconds % 60 = 0 then s!"{seconds / 60}m"
  else s!"{seconds}s"

example : parts ",a,".toList = [[], ['a'], []] := by decide
example : ascending [0, 120, 15, 120] = [0, 15, 120] := by decide

/-! ## Choices as a set -/

@[simp]
theorem mem_insert {number element : Nat} {numbers : List Nat} :
    element ∈ insert number numbers ↔ element = number ∨ element ∈ numbers := by
  induction numbers with
  | nil => simp [insert]
  | cons first others ih =>
    unfold insert
    split
    · simp
    · split
      · next same => simp [same]
      · simp only [List.mem_cons, ih]
        exact or_left_comm

theorem pairwise_insert {number : Nat} {numbers : List Nat} (sorted : numbers.Pairwise (· < ·)) :
    (insert number numbers).Pairwise (· < ·) := by
  induction numbers with
  | nil => simp [insert]
  | cons first others ih =>
    rw [List.pairwise_cons] at sorted
    unfold insert
    split
    · next less =>
      refine List.pairwise_cons.2 ⟨fun element member => ?_, List.pairwise_cons.2 sorted⟩
      rcases List.mem_cons.1 member with rfl | member
      · exact less
      · exact Nat.lt_trans less (sorted.1 element member)
    · split
      · exact List.pairwise_cons.2 sorted
      · next notLess different =>
        refine List.pairwise_cons.2 ⟨fun element member => ?_, ih sorted.2⟩
        rcases mem_insert.1 member with rfl | member
        · omega
        · exact sorted.1 element member

@[simp]
theorem mem_ascending {element : Nat} {numbers : List Nat} :
    element ∈ ascending numbers ↔ element ∈ numbers := by
  induction numbers with
  | nil => simp [ascending]
  | cons first others ih =>
    rw [ascending, List.foldr_cons, mem_insert, List.mem_cons, ← ih, ascending]

theorem pairwise_ascending (numbers : List Nat) : (ascending numbers).Pairwise (· < ·) := by
  induction numbers with
  | nil => simp [ascending]
  | cons first others ih => exact pairwise_insert ih

end Menu

end AddressBoard.Refresh
