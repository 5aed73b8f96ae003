import AddressBoard.History.Pager
import AddressBoard.Page.Markup

/-!
# The history modal

One page of a domain's history as markup. The modal is always part of the page; whether it is seen
depends on its class. Times are in UTC.
-/

namespace AddressBoard.Page

open History (Entry Sheet Tenure)
open Markup (element set text)

namespace Modal

def headCell (name heading : String) : Markup := element "th" [set "class" name] [text heading]

def cell (name : String) (content : Markup) : Markup := element "td" [set "class" name] [content]

/-- The tenure that is not over stands in a badge. -/
def tenure (tenure : Tenure) : Markup :=
  match tenure with
  | .ongoing => element "span" [set "class" "history-current-badge"] [text tenure.text]
  | .lasted _ => text tenure.text

def row (entry : Entry) : Markup :=
  element "tr" []
    [cell "col-num" (text (toString entry.place)),
      cell "col-ip" (text entry.address),
      cell "col-time" (text (entry.time.text 0)),
      cell "col-duration" (tenure entry.tenure)]

def table (rows : List Entry) : Markup :=
  element "table" [set "class" "history-table"]
    [element "thead" []
        [element "tr" []
          [headCell "col-num" "#", headCell "col-ip" "IP Address",
            headCell "col-time" "Changed At", headCell "col-duration" "Duration"]],
      element "tbody" [] (rows.map row)]

def emptyHistory : Markup :=
  element "div" [set "class" "history-empty"] [element "p" [] [text "No history available"]]

/-- A button that turns a page, and that is disabled where there is none to turn to. -/
def pageButton (name label : String) (isEnabled : Bool) : Markup :=
  let disabled : List Attribute := if isEnabled then [] else [⟨"disabled", none⟩]
  element "button" (set "id" name :: disabled ++ [set "class" "btn btn-small"]) [text label]

def header (title : String) : Markup :=
  element "div" [set "class" "modal-header"]
    [element "h3" [set "id" "modal-title"] [text title],
      element "button" [set "title" "Close", set "class" "modal-close"] [text "×"]]

def body (rows : List Entry) : Markup :=
  element "div" [set "id" "history-table-container"]
    [if rows = [] then emptyHistory else table rows]

def footer (sheet : Sheet) : Markup :=
  element "div" [set "class" "pagination"]
    [pageButton "prev-page" "Previous" sheet.hasPrevious,
      element "span" [set "id" "page-info"] [text sheet.label],
      pageButton "next-page" "Next" sheet.hasNext]

def className (isOpen : Bool) : String := if isOpen then "modal active" else "modal"

def markup (sheet : Sheet) (isOpen : Bool) : Markup :=
  element "div" [set "id" "history-modal", set "class" (className isOpen)]
    [element "style" [] [],
      element "div" [set "class" "modal-content"]
        [header sheet.title, body sheet.rows, footer sheet]]

end Modal

end AddressBoard.Page
