import AddressBoard.Proofs.Page.Independence
import AddressBoard.Proofs.Refresh.Choices
import Mathlib.Data.List.Nodup

/-!
# The interval menu of a page

What the menu lists is settled when the page is loaded, and the choice that it marks is the interval
that the session runs with. The labels are read back, so no two choices have the same.
-/

namespace AddressBoard

namespace Refresh.Menu

/-! ## Labels -/

def unitSeconds? : Char → Option Nat
  | 'h' => some 3600
  | 'm' => some 60
  | 's' => some 1
  | _ => none

/-- The seconds that a label stands for. -/
def decode? (label : String) : Option Nat :=
  if label = "Off" then some 0
  else do
    let unit ← label.toList.getLast?
    let seconds ← unitSeconds? unit
    let count ← Numeral.read? label.toList.dropLast
    return count * seconds

theorem decode?_counted {text : String} {count seconds : Nat} {unit : Char}
    (htext : text.toList = Nat.toDigits 10 count ++ [unit])
    (hunit : unitSeconds? unit = some seconds) : decode? text = some (count * seconds) := by
  have hother : text ≠ "Off" := by
    rintro rfl
    have hlast := congrArg List.getLast? htext
    rw [List.getLast?_concat] at hlast
    obtain rfl : 'f' = unit := Option.some.inj hlast
    cases hunit
  rw [decode?, if_neg hother, htext, List.dropLast_concat, List.getLast?_concat,
    Numeral.read?_toDigits, Option.bind_eq_bind, Option.bind_some, hunit]
  rfl

theorem decode?_label (seconds : Nat) : decode? (label seconds) = some seconds := by
  have htext : ∀ (count : Nat) (unit : Char),
      (toString count ++ String.singleton unit).toList = Nat.toDigits 10 count ++ [unit] := by
    simp
  unfold label
  split
  · next hzero =>
    rw [hzero]
    rfl
  · split
    · next hhours =>
      have hwhole := Nat.div_mul_cancel (Nat.dvd_of_mod_eq_zero hhours)
      exact (decode?_counted (htext (seconds / 3600) 'h') rfl).trans (congrArg some hwhole)
    · split
      · next hminutes =>
        have hwhole := Nat.div_mul_cancel (Nat.dvd_of_mod_eq_zero hminutes)
        exact (decode?_counted (htext (seconds / 60) 'm') rfl).trans (congrArg some hwhole)
      · exact (decode?_counted (htext seconds 's') rfl).trans (congrArg some (Nat.mul_one seconds))

theorem label_injective : Function.Injective label := by
  intro first second hsame
  have hdecoded := congrArg decode? hsame
  rw [decode?_label, decode?_label] at hdecoded
  exact Option.some.inj hdecoded

/-! ## The choices of a page -/

theorem head?_of_pairwise {choices : List Nat} (hsorted : choices.Pairwise (· < ·))
    (hmem : 0 ∈ choices) : choices.head? = some 0 := by
  cases choices with
  | nil => cases hmem
  | cons first others =>
    rcases List.mem_cons.mp hmem with hfirst | hother
    · rw [List.head?_cons, ← hfirst]
    · exact absurd ((List.pairwise_cons.mp hsorted).1 0 hother) (Nat.not_lt_zero first)

end Refresh.Menu

theorem Settings.choices_of_intervals (intervals? : Option String) :
    (ofIntervals intervals?).1.choices.Pairwise (· < ·)
      ∧ (ofIntervals intervals?).1.choices.head? = some 0 := by
  have hstandard : standard.choices.Pairwise (· < ·) ∧ standard.choices.head? = some 0 := by
    decide
  unfold ofIntervals
  split
  · exact hstandard
  · next text =>
    split
    · next choices hread =>
      obtain ⟨parts, hlist⟩ := Refresh.Menu.exists_isList text
      obtain ⟨-, hsorted, hoffers⟩ := (Refresh.Menu.read_eq_ok_iff hlist).mp hread
      have hzero : 0 ∈ choices := (hoffers 0).mpr (Or.inl rfl)
      exact ⟨hsorted, Refresh.Menu.head?_of_pairwise hsorted hzero⟩
    · exact hstandard

namespace Page

open Refresh (Call Controller Event Menu.label Session)

/-! ## What the control lists -/

namespace Markup

def children : Markup → List Markup
  | .text _ => []
  | .element _ _ children => children

def attribute? (name : String) : Markup → Option String
  | .text _ => none
  | .element _ attributes _ => (attributes.find? (·.name = name)).bind (·.value?)

/-- The text of an element that holds nothing else. -/
def content? : Markup → Option String
  | .element _ _ [.text content] => some content
  | _ => none

end Markup

/-- A choice as it is listed. -/
structure Choice where
  seconds : Nat
  label : String
  isActive : Bool
deriving DecidableEq, Repr

namespace Choice

def read? (option : Markup) : Option Choice := do
  let interval ← option.attribute? "data-interval"
  let seconds ← Numeral.read? interval.toList
  let label ← option.content?
  let name ← option.attribute? "class"
  return ⟨seconds, label, name = "auto-refresh-option active"⟩

/-- The choices that a control lists, if its menu is open. -/
def listed? (control : Markup) : Option (List Choice) := do
  let menu ← control.children.find? (·.attribute? "id" = some "auto-refresh-menu")
  menu.children.mapM read?

/-- How a choice is listed while an interval is selected. -/
def shown (selected seconds : Nat) : Choice := ⟨seconds, Menu.label seconds, selected = seconds⟩

theorem read?_choice (selected seconds : Nat) :
    read? (Control.choice selected seconds) = some (shown selected seconds) := by
  have hname : (Control.choice selected seconds).attribute? "class"
      = some (if selected = seconds then "auto-refresh-option active" else "auto-refresh-option") :=
    rfl
  have hinterval : (Control.choice selected seconds).attribute? "data-interval"
      = some (toString seconds) := rfl
  have hcontent : (Control.choice selected seconds).content? = some (Menu.label seconds) := rfl
  have hseconds : Numeral.read? (toString seconds).toList = some seconds := by
    rw [Nat.toString_eq_repr, Nat.toList_repr, Numeral.read?_toDigits]
  rw [read?, hinterval, hname, hcontent]
  simp only [Option.bind_eq_bind, Option.bind_some, hseconds, shown]
  split <;> simp_all

theorem mapM_read?_choices (selected : Nat) (choices : List Nat) :
    (choices.map (Control.choice selected)).mapM read? = some (choices.map (shown selected)) := by
  induction choices with
  | nil => rfl
  | cons seconds choices ih =>
    rw [List.map_cons, List.mapM_cons, read?_choice, ih]
    rfl

theorem listed?_control (board : Board) :
    listed? board.control
      = if board.isMenuOpen then some (board.choices.map (shown board.browser.selected))
        else none := by
  have hlisted := mapM_read?_choices board.browser.selected board.choices
  unfold Board.control Control.markup
  cases board.browser.shown.isVisible <;> cases board.isMenuOpen
  · rfl
  · exact hlisted
  · rfl
  · exact hlisted

end Choice

/-! ## The marked choice -/

namespace Browser

theorem selected_perform (browser : Browser) {call : Call}
    (hcall : ∀ seconds, call ≠ .select seconds) :
    (browser.perform call).selected = browser.selected := by
  cases call with
  | select seconds => exact absurd rfl (hcall seconds)
  | schedule timer seconds =>
    rw [perform, schedule]
    simp only
    split <;> rfl
  | reload =>
    rw [perform, reload]
    split <;> rfl
  | _ => rfl

theorem selected_kept (session : Session Browser) {event : Event}
    (hevent : ∀ seconds, event.mayCall (.select seconds) = false) :
    (session.handle backend event).world.selected = session.world.selected := by
  have hperform : ∀ (world : Browser) (call : Call), event.mayCall call = true →
      world.selected = session.world.selected →
      (backend.perform world call).selected = session.world.selected := by
    intro world call hcall hkept
    refine (selected_perform world ?_).trans hkept
    rintro seconds rfl
    exact Bool.false_ne_true ((hevent seconds).symm.trans hcall)
  exact Session.kept_handle hperform rfl

/-- An event that selects an interval runs with it, and any other one keeps both. -/
theorem selected_handle {session : Session Browser}
    (hselected : session.world.selected = session.controller.interval) (event : Event) :
    (session.handle backend event).world.selected
      = (session.handle backend event).controller.interval := by
  cases event with
  | restore =>
    rw [Session.handle, Session.controller_restore]
    rfl
  | choose seconds =>
    rw [Session.handle, Session.controller_choose]
    rfl
  | visibility isVisible =>
    rw [selected_kept session fun _ => rfl, hselected, Session.handle,
      Session.controller_visibility]
    cases isVisible with
    | true =>
      rw [if_pos rfl, Controller.shown]
      split <;> rfl
    | false => rfl
  | tick timer =>
    have hcalls : ∀ seconds, (Event.tick timer).mayCall (.select seconds) = false := by
      cases timer <;> exact fun _ => rfl
    rw [selected_kept session hcalls, hselected, Session.handle, Session.controller_tick]
    split
    · rw [Controller.interval_countedDown]
    · rfl

end Browser

namespace Board

/-- The choices are those that the source names, and the selected one is the interval of the
session. -/
structure Marked (source : Source) (board : Board) : Prop where
  served : board.source = source
  choices : board.choices = (Settings.ofIntervals source.intervals?).1.choices
  selected : board.browser.selected = board.session.controller.interval

section Marked

variable {source : Source} {board : Board}

theorem Marked.handle (hmarked : Marked source board) (event : Event) :
    Marked source (board.handle event) :=
  ⟨hmarked.served, hmarked.choices, Browser.selected_handle hmarked.selected event⟩

theorem Marked.changed (hmarked : Marked source board) {browser : Browser}
    (hselected : browser.selected = board.browser.selected) :
    Marked source (board.withBrowser browser) :=
  ⟨hmarked.served, hmarked.choices, hselected.trans hmarked.selected⟩

theorem InUnison.marked {other : Board} (hunison : InUnison board other)
    (hmarked : Marked source board) : Marked source other := by
  obtain ⟨rows, isMenuOpen, pager, notices, rfl⟩ := hunison.exists_eq
  exact ⟨hmarked.served, hmarked.choices, hmarked.selected⟩

theorem Marked.listen (hmarked : Marked source board) : Marked source board.listen := by
  unfold Board.listen
  split
  · exact ⟨hmarked.served, hmarked.choices, hmarked.selected⟩
  · exact ⟨hmarked.served, hmarked.choices, hmarked.selected⟩

theorem marked_load (hsource : board.source = source) : Marked source board.load := by
  have hloading : Marked source board.loading := by
    refine ⟨hsource, ?_, rfl⟩
    rw [← hsource]
    rfl
  rw [load_eq]
  exact (hloading.handle .restore).listen

theorem Marked.act (hmarked : Marked source board) (action : Action) :
    Marked source (board.act action) := by
  by_cases hload : action = .load
  · rw [hload]
    exact marked_load hmarked.served
  by_cases hrefuse : ∃ refusals, action = .refuse refusals
  · obtain ⟨refusals, rfl⟩ := hrefuse
    exact hmarked.changed rfl
  refine act_keeps_of (fun _ _ hunison => hunison.marked) (fun board browser hpasses hmarked => ?_)
    (fun _ => Marked.handle) hmarked hload fun refusals heq => hrefuse ⟨refusals, heq⟩
  apply hmarked.changed
  cases hpasses <;> rfl

theorem Marked.run (hmarked : Marked source board) (actions : List Action) :
    Marked source (board.run actions) := by
  induction actions generalizing board with
  | nil => exact hmarked
  | cons action actions ih => exact ih (hmarked.act action)

end Marked

theorem marked_run (source : Source) (browser : Browser) (actions : List Action) :
    Marked source ((start source browser).run actions) := by
  have hloaded : Marked source (start source browser) := by
    rw [start_eq]
    exact marked_load rfl
  exact hloaded.run actions

/-- A click on a listed choice closes the menu and selects the choice. -/
theorem listed?_click {board : Board} {seconds : Nat}
    (hoffers : board.offers (.option seconds) = true) :
    Choice.listed? (board.click (.option seconds)).control = none
      ∧ (board.click (.option seconds)).session.controller.interval = seconds
      ∧ Choice.listed? ((board.click (.option seconds)).click .toggle).control
        = some (board.choices.map (Choice.shown seconds)) := by
  have hclosed : (board.click (.option seconds)).isMenuOpen = false := by
    rw [click_option hoffers]
    rfl
  have hselected : (board.click (.option seconds)).browser.selected = seconds := by
    rw [click_option hoffers]
    rfl
  have hchoices : (board.click (.option seconds)).choices = board.choices := by
    rw [click_option hoffers]
    rfl
  refine ⟨?_, ?_, ?_⟩
  · rw [Choice.listed?_control, hclosed, if_neg Bool.false_ne_true]
  · rw [click_option hoffers, session_handle, Session.handle, Session.controller_choose]
    rfl
  · have htoggled : (board.click (.option seconds)).click .toggle
        = { board.click (.option seconds) with isMenuOpen := true } := by
      have htoggle : (board.click (.option seconds)).offers .toggle = true := rfl
      rw [click, if_pos htoggle]
      simp only [press, hclosed]
      rfl
    rw [Choice.listed?_control, htoggled, if_pos rfl]
    change some ((board.click (.option seconds)).choices.map
      (Choice.shown (board.click (.option seconds)).browser.selected)) = _
    rw [hchoices, hselected]

/-- **The open menu is well formed and marks the running interval.** Its choices ascend from 0 under
labels that tell their seconds, and just the interval of the session is marked, if it is among them.
A click on any of them closes the menu, which then marks that one. -/
theorem menu_of_run (source : Source) (storage : List (String × String))
    (refusals : List Refusal) (isHidden : Bool) (actions : List Action)
    (hopen : ((start source (.blank storage refusals isHidden)).run actions).isMenuOpen = true) :
    let board := (start source (.blank storage refusals isHidden)).run actions
    let interval := board.session.controller.interval
    ∃ listed : List Choice, Choice.listed? board.control = some listed
      ∧ listed.map Choice.seconds = (Settings.ofIntervals source.intervals?).1.choices
      ∧ (listed.map Choice.seconds).Pairwise (· < ·)
      ∧ (listed.map Choice.seconds).head? = some 0
      ∧ (listed.map Choice.label).Nodup
      ∧ (∀ choice ∈ listed, Refresh.Menu.decode? choice.label = some choice.seconds)
      ∧ (∀ choice ∈ listed, choice.isActive = true ↔ choice.seconds = interval)
      ∧ listed.countP Choice.isActive = (if interval ∈ listed.map Choice.seconds then 1 else 0)
      ∧ ∀ choice ∈ listed,
          let clicked := board.act (.click (.option choice.seconds))
          Choice.listed? clicked.control = none
            ∧ clicked.session.controller.interval = choice.seconds
            ∧ Choice.listed? (clicked.act (.click .toggle)).control
              = some (listed.map fun other =>
                  { other with isActive := other.seconds = choice.seconds }) := by
  intro board interval
  have hmarked : Marked source board := marked_run source _ actions
  obtain ⟨hsorted, hhead⟩ := Settings.choices_of_intervals source.intervals?
  have hseconds : (board.choices.map (Choice.shown interval)).map Choice.seconds
      = (Settings.ofIntervals source.intervals?).1.choices := by
    rw [List.map_map, ← hmarked.choices]
    exact List.map_id _
  have hdistinct : board.choices.Nodup := by
    rw [hmarked.choices]
    exact hsorted.imp Nat.ne_of_lt
  refine ⟨board.choices.map (Choice.shown interval), ?_, hseconds, hseconds ▸ hsorted,
    hseconds ▸ hhead, ?_, ?_, ?_, ?_, ?_⟩
  · rw [Choice.listed?_control, hopen, if_pos rfl, hmarked.selected]
  · rw [List.map_map]
    exact hdistinct.map Refresh.Menu.label_injective
  · intro choice hchoice
    obtain ⟨seconds, -, rfl⟩ := List.mem_map.mp hchoice
    exact Refresh.Menu.decode?_label seconds
  · intro choice hchoice
    obtain ⟨seconds, -, rfl⟩ := List.mem_map.mp hchoice
    exact decide_eq_true_iff.trans eq_comm
  · rw [hseconds, ← hmarked.choices, ← hdistinct.count, List.countP_map, List.count]
    refine List.countP_congr fun seconds _ => ?_
    rw [Function.comp_apply, Choice.shown, decide_eq_true_iff, beq_iff_eq, eq_comm]
  · intro choice hchoice clicked
    obtain ⟨seconds, hmem, rfl⟩ := List.mem_map.mp hchoice
    have hoffers : board.offers (.option seconds) = true := by
      rw [offers, hopen, List.contains_iff_mem.mpr hmem, Bool.and_self]
    obtain ⟨hclosed, hinterval, hlisted⟩ := listed?_click hoffers
    refine ⟨hclosed, hinterval, hlisted.trans ?_⟩
    rw [List.map_map]
    refine congrArg some (List.map_congr_left fun other _ => ?_)
    rw [Function.comp_apply, Choice.shown, Choice.shown]
    exact congrArg _ (decide_eq_decide.mpr eq_comm)

/-- A page that names its own choices, opened in the background with a saved one. -/
theorem menu_of_run_of_saved :
    let source : Source := ⟨some " 7200, 90,,60,90 ", []⟩
    let blank := Browser.blank [("ddns-auto-refresh", "90")] [] true
    let board := (start source blank).run [.click .toggle]
    board.isMenuOpen = true
      ∧ ∃ listed, Choice.listed? board.control = some listed
          ∧ listed.map Choice.seconds = [0, 60, 90, 7200]
          ∧ listed.countP Choice.isActive = 1 := by
  intro source blank board
  have hopen : board.isMenuOpen = true := by decide +kernel
  have hchoices : (Settings.ofIntervals source.intervals?).1.choices = [0, 60, 90, 7200] := by
    decide +kernel
  have hinterval : board.session.controller.interval = 90 := by decide +kernel
  obtain ⟨listed, hlisted, hseconds, -, -, -, -, -, hcount, -⟩ :=
    menu_of_run source [("ddns-auto-refresh", "90")] [] true [.click .toggle] hopen
  rw [hchoices] at hseconds
  refine ⟨hopen, listed, hlisted, hseconds, hcount.trans ?_⟩
  rw [hseconds]
  exact if_pos (hinterval ▸ by decide)

end Board

end Page

end AddressBoard
