import AddressBoard.Proofs.Page.Timers
import AddressBoard.Proofs.Refresh.Turns

/-!
# The clock of a page

A choice sets two intervals at one time. From then on how often each has fired depends on nothing
but the time that has passed, however it was passed: the page is reloaded once for every whole
period, and the countdown shows the seconds that are left of the interval. The two intervals are
independent, and the longest period that a browser takes can be shorter than the countdown.
-/

namespace AddressBoard.Page

open Refresh (Controller Display Event Session Timer countdownText)

/-- The actions that leave a page as it is and in which it meets no fault. -/
def Action.isQuiet : Action → Bool
  | .click (.option _) | .visibility _ | .load => false
  | .refuse refusals => refusals.isEmpty
  | .click _ | .key _ | .advance _ | .editRow _ _ => true

def Action.millis : Action → Nat
  | .advance millis => millis
  | .click _ | .key _ | .visibility _ | .editRow _ _ | .refuse _ | .load => 0

/-- The time that passes in a run. -/
def passed : List Action → Nat
  | [] => 0
  | action :: actions => action.millis + passed actions

/-- A choice and the intervals that it sets: the seconds that were chosen, the time of the choice,
the handle that was given out first, and how often the page had been asked to reload by then. -/
structure Round where
  seconds : Nat
  start : Nat
  handle : Nat
  reloadCalls : Nat
  seconds_pos : 0 < seconds

namespace Round

variable (round : Round)

def period : Nat := min (1000 * round.seconds) Browser.longestPeriod

theorem period_pos : 0 < round.period := by
  have hseconds := round.seconds_pos
  unfold period Browser.longestPeriod
  omega

/-- The interval of the reload timer after so many reloads. -/
def reloading (reloads : Nat) : Interval :=
  { handle := round.handle, timer := .reload, period := round.period
    due := round.start + (reloads + 1) * round.period }

/-- The interval of the countdown after so many ticks. -/
def counting (ticks : Nat) : Interval :=
  { handle := round.handle + 1, timer := .countdown, period := 1000
    due := round.start + (ticks + 1) * 1000 }

/-- What is shown after so many ticks of the countdown. Its end is shown as 0, but its first start
as the whole interval. -/
def left (ticks : Nat) : Nat :=
  if ticks = 0 then round.seconds else (round.seconds - ticks % round.seconds) % round.seconds

end Round

namespace Board

/-- A round runs: what its controller and its browser have come to after so many reloads and ticks
of the countdown. -/
structure Running (round : Round) (reloads ticks : Nat) (controller : Controller)
    (browser : Browser) : Prop where
  interval : controller.interval = round.seconds
  isVisible : controller.isVisible = true
  phase : controller.phase = .active
  remaining : controller.remaining = round.seconds - ticks % round.seconds
  refusals : browser.refusals = []
  intervals : browser.intervals = [round.reloading reloads, round.counting ticks]
  handles : browser.handles = ⟨some round.handle, some (round.handle + 1)⟩
  shown : browser.shown = .remaining (round.left ticks)
  reloadCalls : browser.reloadCalls = round.reloadCalls + reloads

section Running

variable {round : Round} {reloads ticks : Nat} {board : Board}

/-! ## One interval fires -/

section Intervals

variable {controller : Controller} {browser : Browser}

theorem Running.nextDue? (hrunning : Running round reloads ticks controller browser) :
    browser.nextDue? = some (Browser.earlier (round.reloading reloads) (round.counting ticks)) := by
  unfold Browser.nextDue?
  rw [hrunning.intervals]
  rfl

theorem Running.reach_reloading (hrunning : Running round reloads ticks controller browser) :
    (browser.reach (round.reloading reloads)).intervals
      = [round.reloading (reloads + 1), round.counting ticks] := by
  have hdue : round.start + (reloads + 1) * round.period + round.period
      = round.start + (reloads + 1 + 1) * round.period := by
    rw [Nat.succ_mul (reloads + 1), Nat.add_assoc]
  simp [Browser.reach, hrunning.intervals, Round.reloading, Round.counting, hdue]

theorem Running.reach_counting (hrunning : Running round reloads ticks controller browser) :
    (browser.reach (round.counting ticks)).intervals
      = [round.reloading reloads, round.counting (ticks + 1)] := by
  have hdue : round.start + (ticks + 1) * 1000 + 1000 = round.start + (ticks + 1 + 1) * 1000 := by
    omega
  simp [Browser.reach, hrunning.intervals, Round.reloading, Round.counting, hdue]

theorem Running.isScheduled_reach (hrunning : Running round reloads ticks controller browser)
    (interval : Interval) (timer : Timer) :
    (browser.reach interval).isScheduled timer = true := by
  rw [Browser.isScheduled, Browser.reach, hrunning.handles]
  cases timer <;> rfl

end Intervals

theorem Running.fire_reloading
    (hrunning : Running round reloads ticks board.session.controller board.browser) :
    let fired := board.fire (round.reloading reloads)
    Running round (reloads + 1) ticks fired.session.controller fired.browser := by
  intro fired
  have hintervals := hrunning.reach_reloading
  set reached := board.browser.reach (round.reloading reloads)
  set session := (board.withBrowser reached).session
  have hsession : fired.session = session.call Browser.backend .reload := by
    have hscheduled : Browser.backend.isScheduled reached .reload = true :=
      hrunning.isScheduled_reach _ .reload
    calc fired.session
        = session.tick Browser.backend .reload := rfl
      _ = session.call Browser.backend .reload := by
          unfold Session.tick
          exact (if_pos hscheduled).trans (if_pos hrunning.isVisible)
  have hcontroller : fired.session.controller = board.session.controller := by
    rw [hsession]
    rfl
  have hbrowser : fired.browser = { reached with reloads := reached.reloads + 1 } := by
    have hgranted : reached.refuses .reload = false :=
      Browser.refuses_of_none (by exact hrunning.refusals) .reload
    rw [browser, hsession]
    exact if_neg (ne_true_of_eq_false hgranted)
  have hcalls : fired.browser.reloadCalls = round.reloadCalls + (reloads + 1) := by
    calc fired.browser.reloadCalls
        = board.browser.reloads + 1 + board.browser.console.count .notReloaded := by
          rw [hbrowser]
          rfl
      _ = board.browser.reloadCalls + 1 := Nat.add_right_comm _ _ _
      _ = round.reloadCalls + (reloads + 1) := by rw [hrunning.reloadCalls, Nat.add_assoc]
  rw [hbrowser] at hcalls
  rw [hcontroller, hbrowser]
  exact { hrunning with intervals := hintervals, reloadCalls := hcalls }

/-- A second of the countdown: what is shown is one less than what remained. -/
theorem Running.fire_counting
    (hrunning : Running round reloads ticks board.session.controller board.browser) :
    let fired := board.fire (round.counting ticks)
    Running round reloads (ticks + 1) fired.session.controller fired.browser := by
  intro fired
  have hintervals := hrunning.reach_counting
  set reached := board.browser.reach (round.counting ticks)
  set session := (board.withBrowser reached).session
  have hpos := round.seconds_pos
  have hremaining : session.controller.remaining = round.seconds - ticks % round.seconds :=
    hrunning.remaining
  have hactive : session.controller.phase = .active := hrunning.phase
  have hcounts : session.controller.isVisible ∧ 0 < session.controller.remaining := by
    rw [hremaining]
    exact ⟨hrunning.isVisible, Nat.sub_pos_of_lt (Nat.mod_lt ticks hpos)⟩
  have hsession : fired.session = session.countDown Browser.backend := by
    have hscheduled : Browser.backend.isScheduled reached .countdown = true :=
      hrunning.isScheduled_reach _ .countdown
    calc fired.session
        = session.tick Browser.backend .countdown := rfl
      _ = session.countDown Browser.backend := by
          unfold Session.tick
          exact if_pos hscheduled
  have hcontroller : fired.session.controller
      = { board.session.controller with
          remaining := round.seconds - (ticks + 1) % round.seconds } := by
    have hinterval : session.controller.interval = round.seconds := hrunning.interval
    rw [hsession, Session.controller_countDown, Controller.countedDown, if_pos hcounts]
    refine congrArg (fun remaining => { session.controller with remaining }) ?_
    rw [hremaining, hinterval]
    split
    · next hlast => exact (Refresh.sub_mod_succ_of_eq_one hpos hlast).symm
    · next hmore => exact (Refresh.sub_mod_succ_of_ne_one hpos hmore).symm
  have hbrowser : fired.browser
      = { reached with shown := .remaining (round.left (ticks + 1)) } := by
    have hleft : round.left (ticks + 1) = session.controller.remaining - 1 := by
      rw [hremaining]
      exact Refresh.sub_mod_succ_mod hpos
    rw [browser, hsession, (Session.countDown_of_running hactive hcounts).2, hleft]
    rfl
  rw [hcontroller, hbrowser]
  exact { hrunning with remaining := rfl, intervals := hintervals, shown := rfl }

/-! ## Time passes -/

theorem Running.eq_of_late {controller : Controller} {browser : Browser}
    (hrunning : Running round reloads ticks controller browser) {elapsed : Nat}
    (hreloads : reloads * round.period ≤ elapsed) (hticks : ticks * 1000 ≤ elapsed)
    (hlateReload : elapsed < (reloads + 1) * round.period)
    (hlateTick : elapsed < (ticks + 1) * 1000) :
    Running round (elapsed / round.period) (elapsed / 1000) controller browser := by
  rw [Nat.div_eq_of_lt_le hreloads hlateReload, Nat.div_eq_of_lt_le hticks hlateTick]
  exact hrunning

/-- Whatever is due within a time fires, given a step for each time that an interval fires. -/
theorem Running.fireTo
    (hrunning : Running round reloads ticks board.session.controller board.browser)
    {elapsed steps : Nat}
    (hreloads : reloads * round.period ≤ elapsed) (hticks : ticks * 1000 ≤ elapsed)
    (hsteps : elapsed / round.period + elapsed / 1000 ≤ reloads + ticks + steps) :
    let fired := Board.fireTo (round.start + elapsed) steps board
    Running round (elapsed / round.period) (elapsed / 1000) fired.session.controller
      fired.browser := by
  -- With no step left nothing can be due, since so far no more has fired than was due.
  have hpos := round.period_pos
  induction steps generalizing reloads ticks board with
  | zero =>
    have hreloads' : reloads ≤ elapsed / round.period := (Nat.le_div_iff_mul_le hpos).mpr hreloads
    have hticks' : ticks ≤ elapsed / 1000 := by omega
    have hreloadsEq : elapsed / round.period = reloads := by omega
    have hticksEq : elapsed / 1000 = ticks := by omega
    rw [hreloadsEq, hticksEq]
    exact hrunning
  | succ steps ih =>
    unfold Board.fireTo
    rw [hrunning.nextDue?, Browser.earlier]
    simp only
    by_cases hfirst : (round.counting ticks).due < (round.reloading reloads).due
    · have hfirst' : (ticks + 1) * 1000 < (reloads + 1) * round.period :=
        Nat.lt_of_add_lt_add_left hfirst
      rw [if_pos hfirst]
      split
      · next hdue =>
        have hticks' : (ticks + 1) * 1000 ≤ elapsed := Nat.le_of_add_le_add_left hdue
        exact ih hrunning.fire_counting hreloads hticks' (by omega)
      · next hlate =>
        have hlate' : elapsed < (ticks + 1) * 1000 :=
          Nat.lt_of_add_lt_add_left (Nat.lt_of_not_le hlate)
        exact hrunning.eq_of_late hreloads hticks (Nat.lt_trans hlate' hfirst') hlate'
    · have hfirst' : (reloads + 1) * round.period ≤ (ticks + 1) * 1000 :=
        Nat.le_of_add_le_add_left (Nat.le_of_not_lt hfirst)
      rw [if_neg hfirst]
      split
      · next hdue =>
        have hreloads' : (reloads + 1) * round.period ≤ elapsed := Nat.le_of_add_le_add_left hdue
        exact ih hrunning.fire_reloading hreloads' hticks (by omega)
      · next hlate =>
        have hlate' : elapsed < (reloads + 1) * round.period :=
          Nat.lt_of_add_lt_add_left (Nat.lt_of_not_le hlate)
        exact hrunning.eq_of_late hreloads hticks hlate' (Nat.lt_of_lt_of_le hlate' hfirst')

end Running

/-- A board on which a round has run for a time. -/
structure RunFor (round : Round) (elapsed : Nat) (board : Board) : Prop where
  running : Running round (elapsed / round.period) (elapsed / 1000) board.session.controller
    board.browser
  now : board.browser.now = round.start + elapsed

variable {round : Round} {elapsed : Nat} {board : Board}

theorem RunFor.advance (hrun : RunFor round elapsed board) (millis : Nat) :
    RunFor round (elapsed + millis) (board.advance millis) := by
  have hsteps : stepsFor board.browser millis
      = millis / round.period + 1 + (millis / 1000 + 1 + 0) := by
    rw [stepsFor, hrun.running.intervals]
    rfl
  have hreloads : elapsed / round.period * round.period ≤ elapsed + millis :=
    Nat.le_add_right_of_le (Nat.div_mul_le_self elapsed round.period)
  have hticks : elapsed / 1000 * 1000 ≤ elapsed + millis :=
    Nat.le_add_right_of_le (Nat.div_mul_le_self elapsed 1000)
  have hfires : (elapsed + millis) / round.period
      ≤ elapsed / round.period + millis / round.period + 1 := by
    rw [Nat.add_div round.period_pos]
    split <;> omega
  have htarget : board.browser.now + millis = round.start + (elapsed + millis) := by
    rw [hrun.now, Nat.add_assoc]
  have hrunning := hrun.running.fireTo hreloads hticks
    (show _ ≤ _ + stepsFor board.browser millis by omega)
  rw [← htarget] at hrunning
  exact ⟨{ hrunning with }, htarget⟩

/-! ## The choice -/

theorem Undisturbed.runFor {other : Board} (hsame : Undisturbed board other)
    (hrun : RunFor round elapsed board) : RunFor round elapsed other := by
  refine ⟨?_, ?_⟩
  · rw [hsame.controller, hsame.browser]
    exact hrun.running
  · rw [hsame.browser]
    exact hrun.now

theorem RunFor.act (hrun : RunFor round elapsed board) {action : Action}
    (hquiet : action.isQuiet = true) :
    RunFor round (elapsed + action.millis) (board.act action) := by
  cases action with
  | click target =>
    refine (board.undisturbed_click ?_).runFor hrun
    rintro seconds rfl
    cases hquiet
  | key name => exact (board.undisturbed_key name).runFor hrun
  | visibility isHidden => cases hquiet
  | advance millis => exact hrun.advance millis
  | editRow index edit =>
    have hsame : Undisturbed board (board.act (.editRow index edit)) := ⟨rfl, rfl, rfl⟩
    exact hsame.runFor hrun
  | refuse refusals =>
    have hnone : refusals = board.browser.refusals :=
      (List.isEmpty_iff.mp hquiet).trans hrun.running.refusals.symm
    have hsame : Undisturbed board (board.act (.refuse refusals)) := by
      rw [hnone]
      exact ⟨rfl, rfl, rfl⟩
    exact hsame.runFor hrun
  | load => cases hquiet

theorem RunFor.run (hrun : RunFor round elapsed board) {actions : List Action}
    (hquiet : ∀ action ∈ actions, action.isQuiet = true) :
    RunFor round (elapsed + passed actions) (board.run actions) := by
  induction actions generalizing elapsed board with
  | nil => exact hrun
  | cons action actions ih =>
    have hpassed : elapsed + passed (action :: actions)
        = elapsed + action.millis + passed actions := (Nat.add_assoc _ _ _).symm
    rw [hpassed]
    refine ih (hrun.act (hquiet action List.mem_cons_self)) ?_
    exact fun later hmem => hquiet later (List.mem_cons_of_mem action hmem)

/-! ## Pages without faults -/

/-- A page that is refused nothing, and is told when it is hidden or shown. -/
structure Faultless (board : Board) : Prop where
  refusals : board.browser.refusals = []
  isListening : board.isListening = true

theorem Faultless.handle (hfaultless : board.Faultless) (event : Event) :
    (board.handle event).Faultless :=
  ⟨(Browser.refusals_handle board.session event).trans hfaultless.refusals,
    hfaultless.isListening⟩

theorem faultless_load (hrefusals : board.browser.refusals = []) : board.load.Faultless := by
  have hrestored : (board.loading.handle .restore).browser.refusals = [] :=
    (Browser.refusals_handle board.loading.session .restore).trans hrefusals
  have hgranted : (board.loading.handle .restore).browser.refuses .documentListener = false :=
    Browser.refuses_of_none hrestored .documentListener
  rw [load_eq, listen, if_neg (ne_true_of_eq_false hgranted)]
  exact ⟨hrestored, rfl⟩

theorem Faultless.act (hfaultless : board.Faultless) {action : Action}
    (hgranted : ∀ refusals, action = .refuse refusals → refusals = []) :
    (board.act action).Faultless := by
  cases action with
  | refuse refusals => exact ⟨hgranted refusals rfl, hfaultless.isListening⟩
  | load => exact faultless_load hfaultless.refusals
  | _ =>
    refine act_keeps (fun _ _ hsame hkept => ?_) (fun _ => Faultless.handle) hfaultless nofun nofun
    exact ⟨(congrArg (·.2.1) hsame).trans hkept.refusals,
      (congrArg (·.2.2) hsame).trans hkept.isListening⟩

theorem Faultless.run (hfaultless : board.Faultless) {actions : List Action}
    (hgranted : ∀ refusals, .refuse refusals ∈ actions → refusals = []) :
    (board.run actions).Faultless := by
  induction actions generalizing board with
  | nil => exact hfaultless
  | cons action actions ih =>
    refine ih (hfaultless.act fun refusals heq => ?_) fun refusals hmem => ?_
    · exact hgranted refusals (heq ▸ List.mem_cons_self)
    · exact hgranted refusals (List.mem_cons_of_mem action hmem)

/-- The boards that a person can come to see. -/
def Reachable (board : Board) : Prop :=
  ∃ source storage refusals isHidden actions,
    board = (start source (Browser.blank storage refusals isHidden)).run actions

theorem Reachable.safe (hreachable : board.Reachable) : board.Safe := by
  obtain ⟨source, storage, refusals, isHidden, actions, rfl⟩ := hreachable
  have hloaded : Guarded (unloaded source (Browser.blank storage refusals isHidden), .load)
      (start source (Browser.blank storage refusals isHidden)) := by
    rw [start_eq]
    exact guarded_of_restarted rfl (restarted_load _) (safe_load _).aware
  exact (hloaded.run actions).safe

end Board

end AddressBoard.Page
