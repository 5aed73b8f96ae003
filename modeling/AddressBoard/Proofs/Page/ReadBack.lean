import AddressBoard.Page.Modal
import AddressBoard.Proofs.History.Moves
import AddressBoard.Proofs.Page.Tags

/-!
# Reading the modal back

The texts of the history modal come from a log that can hold anything. None of them alters which
tags are written, and all of them are found again, each at its place, in what is written.
-/

namespace AddressBoard

namespace History

/-! ## The text of a tenure -/

theorem exists_spanText (millis : Int) :
    ∃ (count : Nat) (rest : String), spanText millis = toString count ++ rest := by
  unfold spanText amounts
  extract_lets unit left
  refine ⟨spanSeconds millis / unit.seconds, ?_⟩
  cases left.filter (0 < ·.count) with
  | nil =>
    rw [List.map_cons, List.map_nil, String.intercalate_singleton, Amount.text,
      String.append_assoc, String.append_assoc]
    exact ⟨_, rfl⟩
  | cons second others =>
    rw [List.map_cons, List.map_cons, String.intercalate_cons_cons, Amount.text,
      String.append_assoc, String.append_assoc, String.append_assoc, String.append_assoc]
    exact ⟨_, rfl⟩

theorem exists_toList_spanText (millis : Int) :
    ∃ digit rest, digit.isDigit = true ∧ (spanText millis).toList = digit :: rest := by
  obtain ⟨count, rest, htext⟩ := exists_spanText millis
  obtain ⟨digit, digits, hdigits⟩ : ∃ digit digits, Nat.toDigits 10 count = digit :: digits :=
    List.exists_cons_of_ne_nil Nat.toDigits_ne_nil
  have hmem : digit ∈ Nat.toDigits 10 count := hdigits ▸ List.mem_cons_self
  have hdigit := Nat.isDigit_of_mem_toDigits (by decide) (by decide) hmem
  refine ⟨digit, digits ++ rest.toList, hdigit, ?_⟩
  rw [htext, String.toList_append, Nat.toString_eq_repr, Nat.toList_repr, hdigits, List.cons_append]

theorem text_ne_empty (tenure : Tenure) : tenure.text ≠ "" := by
  cases tenure with
  | ongoing => decide
  | lasted millis =>
    obtain ⟨digit, rest, -, htext⟩ := exists_toList_spanText millis
    intro hempty
    change spanText millis = "" at hempty
    rw [hempty] at htext
    exact absurd htext (List.cons_ne_nil digit rest).symm

/-- The text of a tenure that is over starts with a digit. -/
theorem text_eq_current_iff {tenure : Tenure} : tenure.text = "Current" ↔ tenure = .ongoing := by
  constructor
  · intro hcurrent
    cases tenure with
    | ongoing => rfl
    | lasted millis =>
      obtain ⟨digit, rest, hdigit, htext⟩ := exists_toList_spanText millis
      change spanText millis = "Current" at hcurrent
      rw [hcurrent] at htext
      obtain rfl : 'C' = digit := (List.cons.inj htext).1
      exact absurd hdigit (by decide)
  · rintro rfl
    rfl

end History

namespace Page.Modal

open History (Entry Move Pager Sheet readLog)
open Markup (beforeAll isPlainAll)

/-- The texts of a row. -/
structure RowText where
  place : String
  address : String
  time : String
  tenure : String
  isBadged : Bool
deriving DecidableEq, Repr

/-- The texts of a sheet. -/
structure SheetText where
  title : String
  label : String
  rows : List RowText
deriving DecidableEq, Repr

/-! ## The pieces of the modal -/

def titleTag : String := "h3 id=\"modal-title\""

def labelTag : String := "span id=\"page-info\""

def placeTag : String := "td class=\"col-num\""

def addressTag : String := "td class=\"col-ip\""

def timeTag : String := "td class=\"col-time\""

def spanTag : String := "td class=\"col-duration\""

def badgeTag : String := "span class=\"history-current-badge\""

def piece (tag content : String) : Piece := ⟨tag.toList, content.toList⟩

def tenurePieces (row : RowText) : List Piece :=
  if row.isBadged then
    [piece spanTag "", piece badgeTag row.tenure, piece "/span" ""]
  else [piece spanTag row.tenure]

def rowPieces (row : RowText) : List Piece :=
  [piece "tr" "",
    piece placeTag row.place, piece "/td" "",
    piece addressTag row.address, piece "/td" "",
    piece timeTag row.time, piece "/td" ""]
    ++ tenurePieces row ++ [piece "/td" "", piece "/tr" ""]

def tableTopPieces : List Piece :=
  [piece "table class=\"history-table\"" "", piece "thead" "", piece "tr" "",
    piece "th class=\"col-num\"" "#", piece "/th" "",
    piece "th class=\"col-ip\"" "IP Address", piece "/th" "",
    piece "th class=\"col-time\"" "Changed At", piece "/th" "",
    piece "th class=\"col-duration\"" "Duration", piece "/th" "",
    piece "/tr" "", piece "/thead" "", piece "tbody" ""]

def tableEndPieces : List Piece := [piece "/tbody" "", piece "/table" ""]

def tablePieces (rows : List RowText) : List Piece :=
  tableTopPieces ++ rows.flatMap rowPieces ++ tableEndPieces

def emptyPieces : List Piece :=
  [piece "div class=\"history-empty\"" "", piece "p" "No history available", piece "/p" "",
    piece "/div" ""]

def bodyPieces (rows : List RowText) : List Piece :=
  [piece "div id=\"history-table-container\"" ""]
    ++ (if rows = [] then emptyPieces else tablePieces rows) ++ [piece "/div" ""]

def headerPieces (title : String) : List Piece :=
  [piece "div class=\"modal-header\"" "",
    piece titleTag title, piece "/h3" "",
    piece "button title=\"Close\" class=\"modal-close\"" "×", piece "/button" "",
    piece "/div" ""]

def buttonTag (name : String) (isEnabled : Bool) : String :=
  "button id=\"" ++ name ++ "\"" ++ (if isEnabled then "" else " disabled")
    ++ " class=\"btn btn-small\""

def footerPieces (label : String) (hasPrevious hasNext : Bool) : List Piece :=
  [piece "div class=\"pagination\"" "",
    piece (buttonTag "prev-page" hasPrevious) "Previous", piece "/button" "",
    piece labelTag label, piece "/span" "",
    piece (buttonTag "next-page" hasNext) "Next", piece "/button" "",
    piece "/div" ""]

def topPieces (isOpen : Bool) : List Piece :=
  [piece ("div id=\"history-modal\" class=\"" ++ className isOpen ++ "\"") "",
    piece "style" "", piece "/style" "", piece "div class=\"modal-content\"" ""]

def endPieces : List Piece := [piece "/div" "", piece "/div" ""]

/-- The pieces of a modal with the given texts in it. -/
def layout (isOpen hasPrevious hasNext : Bool) (shown : SheetText) : List Piece :=
  topPieces isOpen ++ headerPieces shown.title ++ bodyPieces shown.rows
    ++ footerPieces shown.label hasPrevious hasNext ++ endPieces

/-- A row of which nothing is known but whether it is that of the newest change. -/
def RowText.blank (isBadged : Bool) : RowText := ⟨"", "", "", "", isBadged⟩

/-- The tags of a modal by what they depend on. Of its rows only the first can be that of the newest
change. -/
def tags (isOpen : Bool) (count : Nat) (showsNewest hasPrevious hasNext : Bool) :
    List (List Char) :=
  let rows := (List.range count).map fun index => RowText.blank (showsNewest && index == 0)
  (layout isOpen hasPrevious hasNext ⟨"", "", rows⟩).map Piece.tag

/-! ## The reader -/

/-- The text behind the first of the pieces that has a tag. -/
def textBehind? (tag : String) (pieces : List Piece) : Option String :=
  (pieces.find? (·.tag = tag.toList)).map fun piece => String.ofList piece.content

def isCell (tag : List Char) : Bool :=
  [placeTag, addressTag, timeTag, spanTag, badgeTag].any fun cell => tag = cell.toList

/-- The pieces that rows are read from: those with a text that is in a cell. -/
def cells (pieces : List Piece) : List Piece :=
  pieces.filter fun piece => isCell piece.tag && piece.content ≠ []

/-- Reads a row from its cells. -/
def readRow? (place address time tenure : Piece) : Option RowText :=
  if place.tag = placeTag.toList ∧ address.tag = addressTag.toList
      ∧ time.tag = timeTag.toList
      ∧ (tenure.tag = spanTag.toList ∨ tenure.tag = badgeTag.toList) then
    some
      { place := String.ofList place.content
        address := String.ofList address.content
        time := String.ofList time.content
        tenure := String.ofList tenure.content
        isBadged := tenure.tag = badgeTag.toList }
  else none

def readRows? : List Piece → Option (List RowText)
  | [] => some []
  | place :: address :: time :: tenure :: others => do
    let row ← readRow? place address time tenure
    let rows ← readRows? others
    return row :: rows
  | _ => none

/-- Reads a sheet from a modal as it is written. -/
def read? (written : String) : Option SheetText := do
  let pieces := piecesOf written
  let title ← textBehind? titleTag pieces
  let label ← textBehind? labelTag pieces
  let rows ← readRows? (cells pieces)
  return ⟨title, label, rows⟩

/-! ## What is written -/

def rowText (entry : Entry) : RowText where
  place := toString entry.place
  address := entry.address
  time := entry.time.text 0
  tenure := entry.tenure.text
  isBadged := entry.tenure = .ongoing

def sheetText (sheet : Sheet) : SheetText := ⟨sheet.title, sheet.label, sheet.rows.map rowText⟩

theorem isPlain_row (entry : Entry) : (row entry).isPlain = true := by
  rcases entry with ⟨place, address, time, _ | millis⟩ <;> rfl

theorem isPlainAll_rows (rows : List Entry) : isPlainAll (rows.map row) = true := by
  induction rows with
  | nil => rfl
  | cons entry rows ih => rw [List.map_cons, isPlainAll, isPlain_row, ih, Bool.and_self]

theorem isPlain_body (rows : List Entry) : (body rows).isPlain = true := by
  have hrows := isPlainAll_rows rows
  unfold body
  split
  · rfl
  · simp only [table, Markup.isPlain, isPlainAll, hrows]
    rfl

theorem isPlain_markup (sheet : Sheet) (isOpen : Bool) :
    (markup sheet isOpen).isPlain = true := by
  have hbody := isPlain_body sheet.rows
  rcases sheet with ⟨title, page, totalPages, rows, hasPrevious, hasNext⟩
  simp only [markup, Markup.isPlain, isPlainAll, hbody]
  cases isOpen <;> cases hasPrevious <;> cases hasNext <;> rfl

theorem before_row (entry : Entry) (pieces : List Piece) :
    (row entry).before ⟨[], pieces⟩ = ⟨[], rowPieces (rowText entry) ++ pieces⟩ := by
  rcases entry with ⟨place, address, time, _ | millis⟩
  all_goals
    simp only [row, cell, tenure, Markup.before, beforeAll, Strip.addTag, Strip.addText,
      List.append_nil]
    rfl

theorem beforeAll_rows (rows : List Entry) (pieces : List Piece) :
    beforeAll (rows.map row) ⟨[], pieces⟩
      = ⟨[], (rows.map rowText).flatMap rowPieces ++ pieces⟩ := by
  induction rows with
  | nil => rfl
  | cons entry rows ih =>
    rw [List.map_cons, beforeAll, ih, before_row, List.map_cons, List.flatMap_cons,
      List.append_assoc]

theorem before_table (rows : List Entry) (pieces : List Piece) :
    (table rows).before ⟨[], pieces⟩ = ⟨[], tablePieces (rows.map rowText) ++ pieces⟩ := by
  simp only [table, Markup.before, beforeAll, Strip.addTag, beforeAll_rows, tablePieces,
    List.append_assoc]
  rfl

theorem before_body (rows : List Entry) (pieces : List Piece) :
    (body rows).before ⟨[], pieces⟩ = ⟨[], bodyPieces (rows.map rowText) ++ pieces⟩ := by
  unfold body bodyPieces
  cases rows with
  | nil => rfl
  | cons entry rows =>
    simp only [reduceCtorEq, if_false, Markup.before, beforeAll, Strip.addTag, before_table,
      List.map_cons, List.append_assoc]
    rfl

theorem before_header (title : String) (pieces : List Piece) :
    (header title).before ⟨[], pieces⟩ = ⟨[], headerPieces title ++ pieces⟩ := by
  simp only [header, Markup.before, beforeAll, Strip.addTag, Strip.addText, List.append_nil]
  rfl

theorem before_footer (sheet : Sheet) (pieces : List Piece) :
    (footer sheet).before ⟨[], pieces⟩
      = ⟨[], footerPieces sheet.label sheet.hasPrevious sheet.hasNext ++ pieces⟩ := by
  simp only [footer, pageButton, Markup.before, beforeAll, Strip.addTag, Strip.addText,
    List.append_nil]
  cases sheet.hasPrevious <;> cases sheet.hasNext <;> rfl

/-- What is read of the modal is its layout with the texts of the sheet. -/
theorem piecesOf_markup (sheet : Sheet) (isOpen : Bool) :
    piecesOf (markup sheet isOpen).write
      = layout isOpen sheet.hasPrevious sheet.hasNext (sheetText sheet) := by
  rw [piecesOf_write (isPlain_markup sheet isOpen)]
  simp only [markup, Markup.before, beforeAll, Strip.addTag, Strip.empty, before_header,
    before_body, before_footer, layout, sheetText, List.append_assoc]
  cases isOpen <;> rfl

/-! ## Tags -/

theorem map_tag_rowPieces (row : RowText) :
    (rowPieces row).map Piece.tag = (rowPieces (.blank row.isBadged)).map Piece.tag := by
  rcases row with ⟨place, address, time, tenure, _ | _⟩ <;> rfl

theorem map_tag_flatMap (rows : List RowText) :
    (rows.flatMap rowPieces).map Piece.tag
      = (((rows.map RowText.isBadged).map .blank).flatMap rowPieces).map Piece.tag := by
  induction rows with
  | nil => rfl
  | cons row rows ih =>
    rw [List.map_cons, List.map_cons, List.flatMap_cons, List.flatMap_cons, List.map_append,
      List.map_append, ih, map_tag_rowPieces]

theorem map_tag_bodyPieces (rows : List RowText) :
    (bodyPieces rows).map Piece.tag
      = (bodyPieces ((rows.map RowText.isBadged).map .blank)).map Piece.tag := by
  have hempty : (rows.map RowText.isBadged).map RowText.blank = [] ↔ rows = [] := by simp
  simp only [bodyPieces, List.map_append, hempty]
  split
  · rfl
  · simp only [tablePieces, List.map_append, map_tag_flatMap rows]

theorem map_tag_layout (isOpen hasPrevious hasNext : Bool) (shown : SheetText) :
    (layout isOpen hasPrevious hasNext shown).map Piece.tag
      = (layout isOpen hasPrevious hasNext
          ⟨"", "", (shown.rows.map RowText.isBadged).map .blank⟩).map Piece.tag := by
  simp only [layout, List.map_append, map_tag_bodyPieces shown.rows]
  rfl

/-! ## Reading -/

/-- No text of the row is empty. -/
def RowText.Filled (row : RowText) : Prop :=
  row.place ≠ "" ∧ row.address ≠ "" ∧ row.time ≠ "" ∧ row.tenure ≠ ""

def tenureTag (isBadged : Bool) : String := if isBadged then badgeTag else spanTag

/-- The cells of a row. -/
def cellPieces (row : RowText) : List Piece :=
  [piece placeTag row.place, piece addressTag row.address, piece timeTag row.time,
    piece (tenureTag row.isBadged) row.tenure]

theorem exists_toList_of_ne_empty {content : String} (hcontent : content ≠ "") :
    ∃ character rest, content.toList = character :: rest :=
  List.exists_cons_of_ne_nil fun hempty => hcontent (String.toList_eq_nil_iff.mp hempty)

theorem cells_rowPieces {row : RowText} (hfilled : row.Filled) :
    cells (rowPieces row) = cellPieces row := by
  obtain ⟨hplace, haddress, htime, htenure⟩ := hfilled
  obtain ⟨_, _, hplace⟩ := exists_toList_of_ne_empty hplace
  obtain ⟨_, _, haddress⟩ := exists_toList_of_ne_empty haddress
  obtain ⟨_, _, htime⟩ := exists_toList_of_ne_empty htime
  obtain ⟨_, _, htenure⟩ := exists_toList_of_ne_empty htenure
  unfold rowPieces tenurePieces cellPieces piece
  rw [hplace, haddress, htime, htenure]
  cases row.isBadged <;> rfl

theorem cells_append (first second : List Piece) :
    cells (first ++ second) = cells first ++ cells second := List.filter_append first second

theorem cells_flatMap {rows : List RowText} (hfilled : ∀ row ∈ rows, row.Filled) :
    cells (rows.flatMap rowPieces) = rows.flatMap cellPieces := by
  rw [cells, List.filter_flatMap]
  exact List.flatMap_congr fun row hrow => cells_rowPieces (hfilled row hrow)

theorem cells_bodyPieces {rows : List RowText} (hfilled : ∀ row ∈ rows, row.Filled) :
    cells (bodyPieces rows) = rows.flatMap cellPieces := by
  have htop : cells tableTopPieces = [] := rfl
  have hend : cells tableEndPieces = [] := rfl
  cases rows with
  | nil => rfl
  | cons row rows =>
    rw [bodyPieces, if_neg (List.cons_ne_nil row rows), tablePieces, cells_append, cells_append,
      cells_append, cells_append, cells_flatMap hfilled, htop, hend, List.append_nil,
      List.nil_append]
    exact List.append_nil _

theorem cells_layout {isOpen hasPrevious hasNext : Bool} {shown : SheetText}
    (hfilled : ∀ row ∈ shown.rows, row.Filled) :
    cells (layout isOpen hasPrevious hasNext shown) = shown.rows.flatMap cellPieces := by
  have htop : cells (topPieces isOpen) = [] := by cases isOpen <;> rfl
  have hheader : cells (headerPieces shown.title) = [] := rfl
  have hfooter : cells (footerPieces shown.label hasPrevious hasNext) = [] := by
    cases hasPrevious <;> cases hasNext <;> rfl
  have hend : cells endPieces = [] := rfl
  rw [layout, cells_append, cells_append, cells_append, cells_append, cells_bodyPieces hfilled,
    htop, hheader, hfooter, hend, List.append_nil, List.append_nil, List.append_nil,
    List.nil_append]

theorem readRow?_cells (row : RowText) :
    readRow? (piece placeTag row.place) (piece addressTag row.address) (piece timeTag row.time)
        (piece (tenureTag row.isBadged) row.tenure)
      = some row := by
  rcases row with ⟨place, address, time, tenure, _ | _⟩ <;>
    simp [readRow?, piece, tenureTag, spanTag, badgeTag]

theorem readRows?_cellPieces (row : RowText) (others : List Piece) :
    readRows? (cellPieces row ++ others) = (readRows? others).map (row :: ·) := by
  rw [cellPieces, List.cons_append, List.cons_append, List.cons_append, List.cons_append,
    List.nil_append, readRows?, readRow?_cells]
  cases readRows? others <;> rfl

theorem readRows?_flatMap (rows : List RowText) :
    readRows? (rows.flatMap cellPieces) = some rows := by
  induction rows with
  | nil => rfl
  | cons row rows ih => rw [List.flatMap_cons, readRows?_cellPieces, ih, Option.map_some]

theorem textBehind?_append {tag : String} {first : List Piece}
    (hother : tag.toList ∉ first.map Piece.tag) (second : List Piece) :
    textBehind? tag (first ++ second) = textBehind? tag second := by
  have hnone : first.find? (·.tag = tag.toList) = none := by
    rw [List.find?_eq_none]
    intro piece hpiece htag
    exact hother (of_decide_eq_true htag ▸ List.mem_map_of_mem hpiece)
  rw [textBehind?, List.find?_append, hnone, Option.none_or, textBehind?]

theorem notMem_rowPieces (row : RowText) :
    labelTag.toList ∉ (rowPieces row).map Piece.tag := by
  rw [map_tag_rowPieces]
  cases row.isBadged <;> decide

theorem notMem_bodyPieces (rows : List RowText) :
    labelTag.toList ∉ (bodyPieces rows).map Piece.tag := by
  have hrows : labelTag.toList ∉ (rows.flatMap rowPieces).map Piece.tag := by
    rw [List.map_flatMap, List.mem_flatMap]
    rintro ⟨row, -, hmem⟩
    exact notMem_rowPieces row hmem
  unfold bodyPieces
  split
  · decide
  · simp only [tablePieces, List.map_append, List.mem_append, hrows]
    decide

variable (isOpen hasPrevious hasNext : Bool) (shown : SheetText)

theorem title_of_layout :
    textBehind? titleTag (layout isOpen hasPrevious hasNext shown) = some shown.title := by
  have htop : titleTag.toList ∉ (topPieces isOpen).map Piece.tag := by
    cases isOpen <;> decide
  rw [layout, List.append_assoc, List.append_assoc, List.append_assoc, textBehind?_append htop]
  exact congrArg some String.ofList_toList

theorem label_of_layout :
    textBehind? labelTag (layout isOpen hasPrevious hasNext shown) = some shown.label := by
  have htop : labelTag.toList ∉ (topPieces isOpen).map Piece.tag := by
    cases isOpen <;> decide
  have hheader : labelTag.toList ∉ (headerPieces shown.title).map Piece.tag := by
    change _ ∉ (headerPieces "").map Piece.tag
    decide
  rw [layout, List.append_assoc, List.append_assoc, List.append_assoc, textBehind?_append htop,
    textBehind?_append hheader, textBehind?_append (notMem_bodyPieces shown.rows)]
  cases hasPrevious <;> exact congrArg some String.ofList_toList

theorem read?_markup {sheet : Sheet} (hfilled : ∀ row ∈ sheet.rows.map rowText, row.Filled) :
    read? (markup sheet isOpen).write = some (sheetText sheet) := by
  have hcells : ∀ row ∈ (sheetText sheet).rows, row.Filled := hfilled
  rw [read?, piecesOf_markup, title_of_layout, label_of_layout, cells_layout hcells,
    readRows?_flatMap]
  rfl

theorem filled_rowText {entry : Entry} (haddress : entry.address ≠ "") :
    (rowText entry).Filled := by
  refine ⟨?_, haddress, ?_, History.text_ne_empty entry.tenure⟩
  · simp [rowText]
  · simp [rowText, Calendar.Instant.text, Calendar.Instant.characters]

/-! ## The rows of a page -/

/-- A page that is not empty shows the newest change if it is the first one. -/
theorem showsNewest_iff {pager : Pager} {index : Nat} {entry : Entry}
    (hrow : pager.rows[index]? = some entry) :
    (pager.rows.any fun entry => entry.place = 1) = true ↔ pager.start = 0 := by
  constructor
  · intro hany
    obtain ⟨newest, hmem, hplace⟩ := List.any_eq_true.mp hany
    obtain ⟨position, hnewest⟩ := List.mem_iff_getElem?.mp hmem
    have hstart := Pager.place_of_row hnewest
    have hone := of_decide_eq_true hplace
    omega
  · intro hstart
    obtain ⟨hindex, -⟩ := List.getElem?_eq_some_iff.mp hrow
    have hfirst : pager.rows[0]? = some pager.rows[0] := List.getElem?_eq_getElem (by omega)
    have hplace := Pager.place_of_row hfirst
    rw [List.any_eq_true]
    exact ⟨_, List.mem_of_getElem? hfirst, decide_eq_true (by omega)⟩

theorem badges_of_rows (pager : Pager) :
    (pager.rows.map rowText).map RowText.isBadged
      = (List.range pager.rows.length).map fun index =>
          (pager.rows.any fun entry => entry.place = 1) && index == 0 := by
  apply List.ext_getElem (by simp)
  intro index hindex _
  have hlength : index < pager.rows.length := by simpa using hindex
  have hrow : pager.rows[index]? = some pager.rows[index] := List.getElem?_eq_getElem hlength
  have hplace := Pager.place_of_row hrow
  have hnewest := showsNewest_iff hrow
  have htenure := Pager.tenure_of_row hrow
  rw [List.getElem_map, List.getElem_map, List.getElem_map, List.getElem_range, Bool.eq_iff_iff,
    Bool.and_eq_true, hnewest, beq_iff_eq, rowText, decide_eq_true_iff, htenure]
  omega

theorem tags_of_rows (pager : Pager) :
    (piecesOf (markup pager.sheet pager.isOpen).write).map Piece.tag
      = tags pager.isOpen pager.rows.length (pager.rows.any fun entry => entry.place = 1)
          pager.hasPrevious pager.hasNext := by
  have hbadges : (sheetText pager.sheet).rows.map RowText.isBadged
      = (List.range pager.rows.length).map fun index =>
          (pager.rows.any fun entry => entry.place = 1) && index == 0 := badges_of_rows pager
  rw [piecesOf_markup, map_tag_layout, hbadges, List.map_map]
  rfl

theorem address_ne_empty {pageSize : Nat} {moves : List Move}
    (haddress : ∀ change, Pager.Opened moves change → change.address ≠ "") {entry : Entry}
    (hrow : entry ∈ ((Pager.closed pageSize).run moves).rows) : entry.address ≠ "" := by
  obtain ⟨change, hchange, hsame⟩ := Pager.mem_changes_of_row hrow
  rw [hsame]
  rcases Pager.mem_changes_run hchange with hopened | hnone
  · exact haddress change hopened
  · cases hnone

/-- **Whatever is opened**, what is written of the modal has tags that depend on no text that is
shown, and the texts are found again, each at its place. -/
theorem read?_of_run (pageSize : Nat) {moves : List Move}
    (haddress : ∀ change, Pager.Opened moves change → change.address ≠ "") :
    let pager := (Pager.closed pageSize).run moves
    let sheet := pager.sheet
    let written := (markup sheet pager.isOpen).write
    let showsNewest := sheet.rows.any fun entry => entry.place = 1
    (piecesOf written).map Piece.tag
        = tags pager.isOpen sheet.rows.length showsNewest sheet.hasPrevious sheet.hasNext
      ∧ read? written = some (sheetText sheet)
      ∧ ∀ entry ∈ sheet.rows, ((rowText entry).isBadged = true ↔ entry.place = 1)
          ∧ (entry.tenure.text = "Current" ↔ entry.place = 1) := by
  intro pager sheet written showsNewest
  refine ⟨tags_of_rows pager, ?_, ?_⟩
  · apply read?_markup
    intro row hrow
    obtain ⟨entry, hentry, rfl⟩ := List.mem_map.mp hrow
    exact filled_rowText (address_ne_empty haddress hentry)
  · intro entry hentry
    obtain ⟨index, hindex⟩ := List.mem_iff_getElem?.mp hentry
    have htenure := Pager.tenure_of_row hindex
    exact ⟨decide_eq_true_iff.trans htenure, History.text_eq_current_iff.trans htenure⟩

theorem read?_of_run_of_tags :
    let moves : List Move := [.openLog "[[\"<b>&lt;\",0]]" "<i>"]
    let pager := (Pager.closed 20).run moves
    (∀ change, Pager.Opened moves change → change.address ≠ "")
      ∧ read? (markup pager.sheet pager.isOpen).write
        = some ⟨"IP History: <i>", "Page 1 of 1",
            [⟨"1", "<b>&lt;", "1970-01-01 00:00:00", "Current", true⟩]⟩ := by
  have hwritten : Json.Written "[[\"<b>&lt;\",0]]"
      (.array [.array [.text (Json.units ['<', 'b', '>', '&', 'l', 't', ';']),
        .number ⟨false, ['0'], [], none⟩]]) :=
    ⟨[], .array (.refl _) (.element rfl
      (.pair (.plain (by simp) _) (.integer (by simp) (by simp) (by simp) _))
      (.noElement (.refl _))), .refl _⟩
  have hread : readLog "[[\"<b>&lt;\",0]]" = .ok [⟨"<b>&lt;", ⟨0, 0⟩⟩] := by
    rw [← Json.toOption_eq_some, History.toOption_readLog hwritten]
    rfl
  have haddress : ∀ change, Pager.Opened [.openLog "[[\"<b>&lt;\",0]]" "<i>"] change →
      change.address ≠ "" := by
    rintro change ⟨raw, label, log, hmove, hlog, hchange⟩
    obtain ⟨rfl, rfl⟩ := Move.openLog.inj (List.mem_singleton.mp hmove)
    obtain rfl := Except.ok.inj (hread.symm.trans hlog)
    obtain rfl := List.mem_singleton.mp hchange
    decide
  refine ⟨haddress, ?_⟩
  have hopened : (Pager.closed 20).run [.openLog "[[\"<b>&lt;\",0]]" "<i>"]
      = (Pager.closed 20).showing [⟨"<b>&lt;", ⟨0, 0⟩⟩] "<i>" := by
    rw [Pager.run, List.foldl_cons, List.foldl_nil, Pager.move, Pager.openLog, hread]
  rw [(read?_of_run 20 haddress).2.1, hopened]
  decide +kernel

end Page.Modal

end AddressBoard
