import AddressBoard.Page.Board

/-!
# Actions beside the control

Rows, keys and most clicks have nothing to do with the control. Such an action leaves a board that
refreshes as before: at most a row is edited, the menu opened or closed, the modal changed, and a
history reported that cannot be read.
-/

namespace AddressBoard.Page

open Refresh (Session)

namespace Board

/-! ## Boards in unison -/

/-- Two boards that refresh alike. Their rows, their modals and their notices may differ, and one
may have its menu open where the other has not. -/
structure InUnison (first second : Board) : Prop where
  source : first.source = second.source
  choices : first.choices = second.choices
  controller : first.session.controller = second.session.controller
  browser : first.browser = second.browser
  calls : first.session.calls = second.session.calls
  isListening : first.isListening = second.isListening

theorem InUnison.refl (board : Board) : InUnison board board := ⟨rfl, rfl, rfl, rfl, rfl, rfl⟩

section InUnison

variable {first second third : Board}

theorem InUnison.symm (hunison : InUnison first second) : InUnison second first :=
  ⟨hunison.source.symm, hunison.choices.symm, hunison.controller.symm, hunison.browser.symm,
    hunison.calls.symm, hunison.isListening.symm⟩

theorem InUnison.trans (hfirst : InUnison first second) (hsecond : InUnison second third) :
    InUnison first third :=
  ⟨hfirst.source.trans hsecond.source, hfirst.choices.trans hsecond.choices,
    hfirst.controller.trans hsecond.controller, hfirst.browser.trans hsecond.browser,
    hfirst.calls.trans hsecond.calls, hfirst.isListening.trans hsecond.isListening⟩

theorem InUnison.exists_eq (hunison : InUnison first second) :
    ∃ rows isMenuOpen pager notices,
      second = { first with
        rows, isMenuOpen, pager, session := { first.session with notices } } := by
  refine ⟨second.rows, second.isMenuOpen, second.pager, second.session.notices, ?_⟩
  rcases second with ⟨source, rows, choices, ⟨controller, world, calls, notices⟩, isListening,
    isMenuOpen, pager⟩
  obtain ⟨rfl, rfl, rfl, rfl, rfl, rfl⟩ := hunison
  rfl

end InUnison

/-! ## The actions that the control follows -/

/-- A click on an option that is offered, and whatever comes from outside of the page. -/
def follows (board : Board) : Action → Bool
  | .click (.option seconds) => board.offers (.option seconds)
  | .visibility _ | .advance _ | .refuse _ | .load => true
  | .click _ | .key _ | .editRow _ _ => false

/-! ## All other actions -/

/-- What an action can do that the control does not follow: edit a row, open or close the menu,
change the modal, and warn of a history that cannot be read. -/
structure Aside (board : Board) (action : Action) (after : Board) : Prop where
  unison : InUnison board after
  rows : (∀ index edit, action ≠ .editRow index edit) → after.rows = board.rows
  notices : after.session.notices = board.session.notices
    ∨ ∃ index fault, action = .click (.history index)
        ∧ after.session.notices = .historyDiscarded fault :: board.session.notices

theorem Aside.refl (board : Board) (action : Action) : Aside board action board :=
  ⟨InUnison.refl board, fun _ => rfl, Or.inl rfl⟩

theorem aside_openHistory (board : Board) (index : Nat) (row : Row) :
    Aside board (.click (.history index)) (board.openHistory row) := by
  unfold openHistory
  simp only
  split
  · exact ⟨⟨rfl, rfl, rfl, rfl, rfl, rfl⟩, fun _ => rfl, Or.inl rfl⟩
  · exact ⟨⟨rfl, rfl, rfl, rfl, rfl, rfl⟩, fun _ => rfl, Or.inr ⟨index, _, rfl, rfl⟩⟩

theorem aside_press (board : Board) {target : Target} (htarget : ∀ n, target ≠ .option n) :
    Aside board (.click target) (board.press target) := by
  cases target with
  | option seconds => exact absurd rfl (htarget seconds)
  | history index =>
    rw [press]
    split
    · split
      · exact board.aside_openHistory index _
      · exact Aside.refl board _
    · exact Aside.refl board _
  | _ => exact ⟨⟨rfl, rfl, rfl, rfl, rfl, rfl⟩, fun _ => rfl, Or.inl rfl⟩

theorem Aside.closed {board after : Board} {action : Action} (haside : Aside board action after) :
    Aside board action { after with isMenuOpen := false } :=
  ⟨⟨haside.unison.source, haside.unison.choices, haside.unison.controller, haside.unison.browser,
    haside.unison.calls, haside.unison.isListening⟩, haside.rows, haside.notices⟩

theorem aside_click (board : Board) {target : Target}
    (hfollows : board.follows (.click target) = false) :
    Aside board (.click target) (board.click target) := by
  unfold click
  split
  · next hoffers =>
    have hpress : Aside board (.click target) (board.press target) := by
      refine board.aside_press ?_
      rintro seconds rfl
      exact Bool.false_ne_true (hfollows.symm.trans hoffers)
    simp only
    split
    · exact hpress
    · exact hpress.closed
  · exact Aside.refl board _

theorem aside_act {board : Board} {action : Action} (hfollows : board.follows action = false) :
    Aside board action (board.act action) := by
  cases action with
  | click target => exact board.aside_click hfollows
  | key name =>
    rw [act, key]
    split
    · exact ⟨⟨rfl, rfl, rfl, rfl, rfl, rfl⟩, fun _ => rfl, Or.inl rfl⟩
    · exact Aside.refl board _
  | editRow index edit =>
    exact ⟨⟨rfl, rfl, rfl, rfl, rfl, rfl⟩, fun hother => absurd rfl (hother index edit),
      Or.inl rfl⟩
  | visibility isHidden => cases hfollows
  | advance millis => cases hfollows
  | refuse refusals => cases hfollows
  | load => cases hfollows

end Board

end AddressBoard.Page
