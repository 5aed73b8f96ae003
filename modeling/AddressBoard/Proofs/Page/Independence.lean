import AddressBoard.Proofs.Page.Timers
import AddressBoard.Proofs.Refresh.Notices

/-!
# What refreshing depends on

The rows, the modal and the keys have nothing to do with refreshing, and neither has the menu but
for what it offers. Two runs of a page in which the same happens to the control refresh the page
alike, whatever else happens in them.
-/

namespace AddressBoard.Page

open Refresh (Event Session)

namespace Board

/-! ## What boards in unison do -/

section InUnison

variable {first second : Board}

theorem InUnison.handle (hunison : InUnison first second) (event : Event) :
    InUnison (first.handle event) (second.handle event) := by
  obtain ⟨rows, isMenuOpen, pager, notices, rfl⟩ := hunison.exists_eq
  obtain ⟨others, hothers⟩ :=
    first.session.handle_withNotices Browser.backend notices event
  refine ⟨rfl, rfl, ?_, ?_, ?_, rfl⟩
  · exact (congrArg Session.controller hothers).symm
  · exact (congrArg Session.world hothers).symm
  · exact (congrArg Session.calls hothers).symm

theorem InUnison.changed (hunison : InUnison first second) (change : Browser → Browser) :
    InUnison (first.withBrowser (change first.browser))
      (second.withBrowser (change second.browser)) :=
  ⟨hunison.source, hunison.choices, hunison.controller, congrArg change hunison.browser,
    hunison.calls, hunison.isListening⟩

theorem InUnison.visibility (hunison : InUnison first second) (isHidden : Bool) :
    InUnison (first.visibility isHidden) (second.visibility isHidden) := by
  have hchanged := hunison.changed fun browser => { browser with isHidden }
  rw [visibility_eq, visibility_eq, hunison.isListening]
  split
  · exact hchanged.handle _
  · exact hchanged

theorem InUnison.fire (hunison : InUnison first second) (interval : Interval) :
    InUnison (first.fire interval) (second.fire interval) :=
  (hunison.changed fun browser => browser.reach interval).handle _

theorem InUnison.fireTo (hunison : InUnison first second) (target steps : Nat) :
    InUnison (fireTo target steps first) (fireTo target steps second) := by
  induction steps generalizing first second with
  | zero => exact hunison
  | succ steps ih =>
    unfold Board.fireTo
    rw [hunison.browser]
    split
    · exact hunison
    · next interval hdue =>
      split
      · have hfire := hunison.fire interval
        rw [Board.fire, hunison.browser] at hfire
        exact ih hfire
      · exact hunison

theorem InUnison.advance (hunison : InUnison first second) (millis : Nat) :
    InUnison (first.advance millis) (second.advance millis) := by
  have hfires := hunison.fireTo (second.browser.now + millis) (stepsFor second.browser millis)
  unfold Board.advance
  simp only
  rw [hunison.browser]
  exact hfires.changed fun browser => { browser with now := second.browser.now + millis }

theorem InUnison.listen (hunison : InUnison first second) :
    InUnison first.listen second.listen := by
  have hchanged := hunison.changed fun browser => browser.log .notListening
  unfold Board.listen
  rw [hunison.browser] at hchanged ⊢
  split
  · exact ⟨hchanged.source, hchanged.choices, hchanged.controller, hchanged.browser,
      hchanged.calls, rfl⟩
  · exact ⟨hunison.source, hunison.choices, hunison.controller, hunison.browser, hunison.calls,
      rfl⟩

theorem InUnison.load (hunison : InUnison first second) : InUnison first.load second.load := by
  have hloading : InUnison first.loading second.loading := by
    obtain ⟨rows, isMenuOpen, pager, notices, rfl⟩ := hunison.exists_eq
    exact ⟨rfl, rfl, rfl, rfl, rfl, rfl⟩
  rw [load_eq, load_eq]
  exact (hloading.handle .restore).listen

end InUnison

/-! ## Runs -/

/-- The actions of a run that the control follows. -/
def followed : Board → List Action → List Action
  | _, [] => []
  | board, action :: actions =>
    let others := followed (board.act action) actions
    if board.follows action then action :: others else others

/-- An action as the control takes it, whether or not the menu is open. -/
def follow (board : Board) : Action → Board
  | .click (.option seconds) => board.handle (.choose seconds)
  | action => board.act action

theorem followed_append (board : Board) (actions others : List Action) :
    followed board (actions ++ others)
      = followed board actions ++ followed (board.run actions) others := by
  induction actions generalizing board with
  | nil => rfl
  | cons action actions ih =>
    rw [List.cons_append, followed, followed, ih]
    split <;> rfl

theorem InUnison.follow {first second : Board} (hunison : InUnison first second)
    {action : Action} (hfollows : first.follows action = true) :
    InUnison (first.act action) (second.follow action) := by
  cases action with
  | click target =>
    cases target with
    | option seconds =>
      have hclosed : InUnison { first with isMenuOpen := false } second :=
        ⟨hunison.source, hunison.choices, hunison.controller, hunison.browser, hunison.calls,
          hunison.isListening⟩
      rw [act, click_option hfollows]
      exact hclosed.handle (.choose seconds)
    | _ => cases hfollows
  | key name => cases hfollows
  | visibility isHidden => exact hunison.visibility isHidden
  | advance millis => exact hunison.advance millis
  | editRow index edit => cases hfollows
  | refuse refusals => exact hunison.changed fun browser => { browser with refusals }
  | load => exact hunison.load

theorem InUnison.run {first second : Board} (hunison : InUnison first second)
    (actions : List Action) :
    InUnison (first.run actions) ((followed first actions).foldl Board.follow second) := by
  induction actions generalizing first second with
  | nil => exact hunison
  | cons action actions ih =>
    have hrun : first.run (action :: actions) = (first.act action).run actions := rfl
    rw [hrun, followed]
    cases hfollows : first.follows action with
    | true => exact ih (hunison.follow hfollows)
    | false => exact ih ((aside_act hfollows).unison.symm.trans hunison)

theorem followed_take {board : Board} {actions others : List Action}
    (hsame : followed board actions = followed board others) {earlier later : Nat}
    (hpoint : (followed board (actions.take earlier)).length
      = (followed board (others.take later)).length) :
    followed board (actions.take earlier) = followed board (others.take later) := by
  rw [← List.take_append_drop earlier actions, ← List.take_append_drop later others,
    followed_append, followed_append] at hsame
  exact (List.append_inj hsame hpoint).1

/-- **Refreshing depends on nothing but what the control follows.** Two runs of a page in which the
control follows the same actions refresh the page alike, wherever it has followed equally many of
them, and any other action stands aside from refreshing. -/
theorem unison_of_run (source : Source) (storage : List (String × String))
    (refusals : List Refusal) (isHidden : Bool) {actions others : List Action}
    (hsame : followed (start source (.blank storage refusals isHidden)) actions
      = followed (start source (.blank storage refusals isHidden)) others) {earlier later : Nat}
    (hpoint : (followed (start source (.blank storage refusals isHidden))
        (actions.take earlier)).length
      = (followed (start source (.blank storage refusals isHidden)) (others.take later)).length) :
    let started := start source (.blank storage refusals isHidden)
    InUnison (started.run (actions.take earlier)) (started.run (others.take later))
      ∧ ∀ (board : Board) (action : Action), board.follows action = false →
          Aside board action (board.act action) := by
  intro started
  have hfirst := (InUnison.refl started).run (actions.take earlier)
  have hsecond := (InUnison.refl started).run (others.take later)
  rw [followed_take hsame hpoint] at hfirst
  exact ⟨hfirst.trans hsecond.symm, fun _ _ => aside_act⟩

/-- A run that starts an interval, and one in which much else is done on the way. -/
theorem unison_of_run_of_detour :
    let started := start ⟨none, [⟨some "[]", some "a", true⟩]⟩ (.blank [] [] false)
    let actions : List Action := [.click .toggle, .click (.option 30), .advance 1000]
    let others : List Action :=
      [.click (.history 0), .click (.option 30), .click .toggle, .key "Escape", .click .body,
        .editRow 0 ⟨some none, none⟩, .click .toggle, .click (.option 30), .click .backdrop,
        .advance 1000]
    followed started actions = followed started others
      ∧ InUnison (started.run (actions.take 2)) (started.run (others.take 9)) := by
  have hsame : followed (start ⟨none, [⟨some "[]", some "a", true⟩]⟩ (.blank [] [] false))
        [.click .toggle, .click (.option 30), .advance 1000]
      = followed (start ⟨none, [⟨some "[]", some "a", true⟩]⟩ (.blank [] [] false))
        [.click (.history 0), .click (.option 30), .click .toggle, .key "Escape", .click .body,
          .editRow 0 ⟨some none, none⟩, .click .toggle, .click (.option 30), .click .backdrop,
          .advance 1000] := by
    decide +kernel
  exact ⟨hsame, (unison_of_run _ _ _ _ hsame (by decide +kernel)).1⟩

end Board

end AddressBoard.Page
