import AddressBoard.Page.Markup
import AddressBoard.Refresh.Display
import AddressBoard.Refresh.Menu

/-!
# The refresh control

The button for the interval menu, the display next to it, and the menu itself while it is open.
-/

namespace AddressBoard.Page

open Markup (element set text)
open Refresh (Display Menu.label)

namespace Control

def button : Markup :=
  element "button" [set "id" "auto-refresh-btn", set "title" "Auto-refresh",
    set "class" "btn btn-icon"] [text "Auto"]

def indicator (display : Display) : Markup :=
  let state := if display.isRunning then "running" else "paused"
  element "span" [set "id" "auto-refresh-indicator",
    set "class" ("auto-refresh-indicator " ++ state)] [text display.text]

/-- A choice in the menu, marked as active if it is the selected one. -/
def choice (selected seconds : Nat) : Markup :=
  let name := if selected = seconds then "auto-refresh-option active" else "auto-refresh-option"
  element "button" [set "data-interval" (toString seconds), set "class" name]
    [text (Menu.label seconds)]

def menu (selected : Nat) (choices : List Nat) : Markup :=
  element "div" [set "id" "auto-refresh-menu", set "class" "auto-refresh-menu"]
    (choices.map (choice selected))

def markup (display : Display) (selected : Nat) (choices : List Nat) (isMenuOpen : Bool) : Markup :=
  element "div" [set "class" "auto-refresh"]
    (element "style" [] [] :: button
      :: (if display.isVisible then [indicator display] else [])
      ++ if isMenuOpen then [menu selected choices] else [])

end Control

end AddressBoard.Page
