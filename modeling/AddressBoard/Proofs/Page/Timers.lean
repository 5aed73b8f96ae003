import AddressBoard.Proofs.Page.Aside
import AddressBoard.Proofs.Page.Intervals

/-!
# Timers of a page

The interval of the session, the intervals of the browser, the handles that the page has of them,
the visibility that the session was told and the visibility of the page are copies of one fact.
Every action keeps them in step: the intervals that run are those that the last restart has set, or
there are none.
-/

namespace AddressBoard.Page

open Refresh (Controller Event Session Timer)

namespace Board

/-! ## Actions that leave the timers alone -/

/-- Neither the browser nor what the session remembers differs between two boards. -/
structure Undisturbed (board other : Board) : Prop where
  controller : other.session.controller = board.session.controller
  browser : other.browser = board.browser
  isListening : other.isListening = board.isListening

theorem InUnison.undisturbed {board other : Board} (hunison : InUnison board other) :
    Undisturbed board other :=
  ⟨hunison.controller.symm, hunison.browser.symm, hunison.isListening.symm⟩

theorem undisturbed_click (board : Board) {target : Target}
    (htarget : ∀ n, target = .option n → board.offers target = false) :
    Undisturbed board (board.click target) := by
  have hfollows : board.follows (.click target) = false := by
    cases target with
    | option seconds => exact htarget seconds rfl
    | _ => rfl
  exact (board.aside_click hfollows).unison.undisturbed

theorem undisturbed_key (board : Board) (name : String) :
    Undisturbed board (board.key name) :=
  (@aside_act board (.key name) rfl).unison.undisturbed

/-- Nothing that has to do with timers differs between two boards. -/
structure Unstirred (board other : Board) : Prop where
  controller : other.session.controller = board.session.controller
  timing : other.browser.timing = board.browser.timing
  isHidden : other.browser.isHidden = board.browser.isHidden
  reloadCalls : other.browser.reloadCalls = board.browser.reloadCalls
  isListening : other.isListening = board.isListening

theorem Undisturbed.unstirred {board other : Board} (hsame : Undisturbed board other) :
    Unstirred board other :=
  ⟨hsame.controller, by rw [hsame.browser], by rw [hsame.browser], by rw [hsame.browser],
    hsame.isListening⟩

theorem click_option {board : Board} {seconds : Nat}
    (hoffers : board.offers (.option seconds) = true) :
    board.click (.option seconds)
      = { board with isMenuOpen := false }.handle (.choose seconds) := by
  unfold click
  rw [if_pos hoffers]
  rfl

theorem click_cases (board : Board) (target : Target) :
    (∃ seconds, target = .option seconds
        ∧ board.click target = { board with isMenuOpen := false }.handle (.choose seconds))
      ∨ Undisturbed board (board.click target) := by
  by_cases hoption : ∃ seconds, target = .option seconds ∧ board.offers target = true
  · obtain ⟨seconds, rfl, hoffers⟩ := hoption
    exact Or.inl ⟨seconds, rfl, click_option hoffers⟩
  · refine Or.inr (board.undisturbed_click fun seconds heq => ?_)
    exact eq_false_of_ne_true fun hoffers => hoption ⟨seconds, heq, hoffers⟩

/-! ## Loading -/

/-- The page before it is loaded for the first time. -/
def unloaded (source : Source) (browser : Browser) : Board :=
  let session : Session Browser :=
    { controller := .fresh "" false, world := browser, calls := [], notices := [] }
  { source, rows := [], choices := [], session, isListening := false, isMenuOpen := false,
    pager := .closed 0 }

theorem start_eq (source : Source) (browser : Browser) :
    start source browser = (unloaded source browser).load := rfl

def loading (board : Board) : Board :=
  let outcome := Settings.ofIntervals board.source.intervals?
  let browser := board.browser.cleared
  let session : Session Browser :=
    { controller := .fresh outcome.1.storageKey (!browser.isHidden)
      world := browser
      calls := board.session.calls
      notices := outcome.2.toList ++ board.session.notices }
  let board : Board :=
    { source := board.source
      rows := board.source.rows.map (bind browser)
      choices := outcome.1.choices
      session, isListening := false, isMenuOpen := false
      pager := .closed outcome.1.pageSize }
  board.note (.rowsBound (board.rows.countP (·.isBound)))

theorem load_eq (board : Board) : board.load = (board.loading.handle .restore).listen := rfl

theorem session_handle (board : Board) (event : Event) :
    (board.handle event).session = board.session.handle Browser.backend event := rfl

theorem listen_eq (board : Board) :
    board.listen.session.controller = board.session.controller
      ∧ board.listen.session.world.timing = board.session.world.timing
      ∧ board.listen.session.world.isHidden = board.session.world.isHidden
      ∧ board.listen.session.world.reloadCalls = board.session.world.reloadCalls := by
  unfold listen
  split
  · refine ⟨rfl, rfl, rfl, ?_⟩
    simp [Browser.reloadCalls, withBrowser, browser, Browser.log]
  · exact ⟨rfl, rfl, rfl, rfl⟩

/-! ## The invariant -/

/-- The intervals are in step with the session, and a session that is told about the visibility
knows the right one. -/
structure Safe (board : Board) : Prop where
  inStep : Browser.InStep board.session
  aware : board.isListening = true →
    board.session.controller.isVisible = !board.browser.isHidden

theorem Unstirred.safe {board other : Board} (hsame : Unstirred board other)
    (hsafe : board.Safe) : other.Safe := by
  have hintervals : other.browser.intervals = board.browser.intervals :=
    congrArg (·.1.1) hsame.timing
  have hhandles : other.browser.handles = board.browser.handles := congrArg (·.1.2) hsame.timing
  have hnext : other.browser.nextHandle = board.browser.nextHandle :=
    congrArg (·.2.1) hsame.timing
  refine ⟨hsafe.inStep.of_eq hintervals hhandles (Nat.le_of_eq hnext.symm)
    (by rw [hsame.controller]) (by rw [hsame.controller]), fun hlistening => ?_⟩
  rw [hsame.controller, hsame.isHidden]
  exact hsafe.aware (hsame.isListening ▸ hlistening)

theorem restarted_load (board : Board) :
    Browser.Restarted board.session board.load.session := by
  obtain ⟨hcontroller, htiming, -, -⟩ := (board.loading.handle .restore).listen_eq
  have htracked : board.loading.session.world.Tracked := Browser.tracked_of_empty rfl rfl
  have hrestarted := htracked.restarted_restore
  rw [session_handle, Session.handle] at hcontroller htiming
  rw [load_eq]
  refine hrestarted.of_eq ?_ htiming hcontroller
  rfl

theorem isHidden_load (board : Board) : board.load.browser.isHidden = board.browser.isHidden := by
  obtain ⟨-, -, hhidden, -⟩ := (board.loading.handle .restore).listen_eq
  rw [session_handle, Browser.isHidden_handle] at hhidden
  rw [load_eq, browser, hhidden]
  rfl

theorem reloadCalls_load (board : Board) :
    board.load.browser.reloadCalls = board.browser.reloadCalls := by
  obtain ⟨-, -, -, hreloads⟩ := (board.loading.handle .restore).listen_eq
  rw [session_handle, Browser.reloadCalls_handle _ Event.noConfusion] at hreloads
  rw [load_eq]
  exact hreloads

theorem safe_load (board : Board) : board.load.Safe := by
  refine ⟨board.restarted_load.inStep, ?_⟩
  intro _
  obtain ⟨hcontroller, -, -, -⟩ := (board.loading.handle .restore).listen_eq
  rw [session_handle, Session.handle, Session.controller_restore] at hcontroller
  rw [board.isHidden_load, load_eq, hcontroller]
  rfl

/-! ## Time passes -/

theorem foldl_earlier_mem (first : Interval) (others : List Interval) :
    others.foldl Browser.earlier first ∈ first :: others := by
  induction others generalizing first with
  | nil => exact List.mem_singleton_self first
  | cons other others ih =>
    have hchoice : Browser.earlier first other = first
        ∨ Browser.earlier first other = other := by
      unfold Browser.earlier
      split
      · exact Or.inr rfl
      · exact Or.inl rfl
    rw [List.foldl_cons]
    rcases List.mem_cons.mp (ih (Browser.earlier first other)) with heq | hmem
    · rw [heq]
      rcases hchoice with hfirst | hother
      · rw [hfirst]
        exact List.mem_cons_self
      · rw [hother]
        exact List.mem_cons_of_mem _ List.mem_cons_self
    · exact List.mem_cons_of_mem _ (List.mem_cons_of_mem _ hmem)

theorem nextDue?_mem {browser : Browser} {interval : Interval}
    (hdue : browser.nextDue? = some interval) : interval ∈ browser.intervals := by
  unfold Browser.nextDue? at hdue
  split at hdue
  · cases hdue
  · next first others hintervals =>
    rw [hintervals, ← Option.some.inj hdue]
    exact foldl_earlier_mem first others

def fire (board : Board) (interval : Interval) : Board :=
  (board.withBrowser (board.browser.reach interval)).handle (.tick interval.timer)

theorem fireTo_keeps {kept : Board → Prop} (target : Nat)
    (hfire : ∀ board interval, interval ∈ board.browser.intervals → kept board →
      kept (board.fire interval))
    (steps : Nat) {board : Board} (hkept : kept board) : kept (fireTo target steps board) := by
  induction steps generalizing board with
  | zero => exact hkept
  | succ steps ih =>
    unfold fireTo
    split
    · exact hkept
    · next interval hdue =>
      split
      · exact ih (hfire board interval (nextDue?_mem hdue) hkept)
      · exact hkept

/-- What is told apart of the running intervals: all but when they are due. -/
def tickets (board : Board) : List (Nat × Timer × Nat) :=
  board.browser.intervals.map fun interval => (interval.handle, interval.timer, interval.period)

/-- While time passes the same intervals run, and only the countdown of the session changes. -/
structure Later (board other : Board) : Prop where
  interval : other.session.controller.interval = board.session.controller.interval
  isVisible : other.session.controller.isVisible = board.session.controller.isVisible
  isHidden : other.browser.isHidden = board.browser.isHidden
  isListening : other.isListening = board.isListening
  tickets : other.tickets = board.tickets
  tracked : board.browser.Tracked → other.browser.Tracked

theorem Later.refl (board : Board) : Later board board :=
  ⟨rfl, rfl, rfl, rfl, rfl, id⟩

theorem Later.trans {first second third : Board} (hfirst : Later first second)
    (hsecond : Later second third) : Later first third :=
  ⟨hsecond.interval.trans hfirst.interval, hsecond.isVisible.trans hfirst.isVisible,
    hsecond.isHidden.trans hfirst.isHidden, hsecond.isListening.trans hfirst.isListening,
    hsecond.tickets.trans hfirst.tickets, hsecond.tracked ∘ hfirst.tracked⟩

theorem later_fire (board : Board) (interval : Interval) : Later board (board.fire interval) := by
  have hcontroller := Session.controller_tick Browser.backend
    (board.withBrowser (board.browser.reach interval)).session interval.timer
  have hintervals := Browser.intervals_tick
    (board.withBrowser (board.browser.reach interval)).session interval.timer
  refine ⟨?_, ?_, ?_, rfl, ?_, ?_⟩
  · change (Session.tick _ _ _).controller.interval = _
    rw [hcontroller, apply_ite Controller.interval, Controller.interval_countedDown]
    exact ite_self _
  · change (Session.tick _ _ _).controller.isVisible = _
    rw [hcontroller, apply_ite Controller.isVisible, Controller.isVisible_countedDown]
    exact ite_self _
  · exact Browser.isHidden_handle _ (.tick interval.timer)
  · have hfired : (board.fire interval).browser.intervals
        = (board.browser.reach interval).intervals := hintervals
    unfold Board.tickets
    rw [hfired]
    simp only [Browser.reach, List.map_map]
    refine List.map_congr_left ?_
    intro other _
    simp only [Function.comp_apply]
    split <;> rfl
  · exact fun htracked => (htracked.reach interval).handle (.tick interval.timer)

theorem later_advance (board : Board) (millis : Nat) : Later board (board.advance millis) := by
  have hfires : Later board (fireTo (board.browser.now + millis)
      (stepsFor board.browser millis) board) :=
    fireTo_keeps _ (fun earlier interval _ hlater => hlater.trans (later_fire earlier interval)) _
      (Later.refl board)
  exact ⟨hfires.interval, hfires.isVisible, hfires.isHidden, hfires.isListening, hfires.tickets,
    fun htracked => (hfires.tracked htracked).of_eq rfl rfl (Nat.le_refl _)⟩

theorem advance_of_none {board : Board} (hnone : board.browser.intervals = []) (millis : Nat) :
    board.advance millis
      = board.withBrowser { board.browser with now := board.browser.now + millis } := by
  have hdue : board.browser.nextDue? = none := by
    unfold Browser.nextDue?
    rw [hnone]
  have hfires : ∀ target steps, fireTo target steps board = board := by
    intro target steps
    cases steps with
    | zero => rfl
    | succ steps =>
      unfold fireTo
      rw [hdue]
  unfold advance
  simp only [hfires]

theorem settings_eq (board : Board) : board.browser.settings = board.tickets.map Prod.snd := by
  simp [Browser.settings, tickets]

theorem Later.settings {board other : Board} (hlater : Later board other) :
    other.browser.settings = board.browser.settings := by
  rw [settings_eq, settings_eq, hlater.tickets]

theorem Later.handle_mem {board other : Board} (hlater : Later board other) {interval : Interval}
    (hmem : interval ∈ other.browser.intervals) :
    ∃ older ∈ board.browser.intervals, older.handle = interval.handle := by
  have hticket : (interval.handle, interval.timer, interval.period) ∈ board.tickets := by
    rw [← hlater.tickets]
    exact List.mem_map_of_mem hmem
  obtain ⟨older, holder, heq⟩ := List.mem_map.mp hticket
  exact ⟨older, holder, congrArg Prod.fst heq⟩

theorem Later.safe {board other : Board} (hlater : Later board other) (hsafe : board.Safe) :
    other.Safe := by
  refine ⟨⟨?_, hlater.tracked hsafe.inStep.tracked⟩, ?_⟩
  · rcases hsafe.inStep.planned with hnone | ⟨hvisible, hpos, hplan⟩
    · have htickets : other.tickets = [] := by
        rw [hlater.tickets]
        exact List.map_eq_nil_iff.mpr hnone
      exact Or.inl (List.map_eq_nil_iff.mp htickets)
    · refine Or.inr ⟨hlater.isVisible.trans hvisible, hlater.interval ▸ hpos, ?_⟩
      rw [hlater.interval]
      exact hlater.settings.trans hplan
  · intro hlistening
    rw [hlater.isVisible, hlater.isHidden]
    exact hsafe.aware (hlater.isListening ▸ hlistening)

/-! ## What actions keep -/

theorem visibility_eq (board : Board) (isHidden : Bool) :
    board.visibility isHidden
      = if board.isListening then
          (board.withBrowser { board.browser with isHidden }).handle (.visibility (!isHidden))
        else board.withBrowser { board.browser with isHidden } := rfl

/-- What can happen to a browser beside what its page asks of it and what it refuses: its page is
hidden or shown, and time passes. -/
inductive Passes (browser : Browser) : Browser → Prop
  | hide (isHidden : Bool) : Passes browser { browser with isHidden }
  | reach (interval : Interval) : Passes browser (browser.reach interval)
  | wait (now : Nat) : Passes browser { browser with now }

/-- What an action leads to is what the session does with events and what passes in the browser,
but for what has nothing to do with the control. -/
theorem act_keeps_of {kept : Board → Prop}
    (hunison : ∀ board other : Board, InUnison board other → kept board → kept other)
    (hpasses : ∀ (board : Board) (browser : Browser), Passes board.browser browser →
      kept board → kept (board.withBrowser browser))
    (hhandle : ∀ board : Board, kept board → ∀ event, kept (board.handle event))
    {board : Board} (hkept : kept board) {action : Action} (hstays : action ≠ .load)
    (hgrants : ∀ refusals, action ≠ .refuse refusals) : kept (board.act action) := by
  cases hfollows : board.follows action with
  | false => exact hunison board _ (aside_act hfollows).unison hkept
  | true =>
    cases action with
    | click target =>
      cases target with
      | option seconds =>
        have hclosed : kept { board with isMenuOpen := false } :=
          hunison board _ ⟨rfl, rfl, rfl, rfl, rfl, rfl⟩ hkept
        rw [act, click_option hfollows]
        exact hhandle _ hclosed (.choose seconds)
      | _ => cases hfollows
    | key name => cases hfollows
    | visibility isHidden =>
      have hchanged := hpasses board _ (.hide isHidden) hkept
      rw [act, visibility_eq]
      split
      · exact hhandle _ hchanged _
      · exact hchanged
    | advance millis =>
      refine hpasses
        (fireTo (board.browser.now + millis) (stepsFor board.browser millis) board) _ (.wait _) ?_
      refine fireTo_keeps _ (fun earlier interval _ hearlier => ?_) _ hkept
      exact hhandle _ (hpasses earlier _ (.reach interval) hearlier) (.tick interval.timer)
    | editRow index edit => cases hfollows
    | refuse refusals => exact absurd rfl (hgrants refusals)
    | load => exact absurd rfl hstays

/-- What of a board changes only when its session handles an event, its browser is refused
something else, or it is loaded. -/
def standing (board : Board) : Controller × List Refusal × Bool :=
  (board.session.controller, board.browser.refusals, board.isListening)

theorem Undisturbed.standing {board other : Board} (hsame : Undisturbed board other) :
    other.standing = board.standing := by
  rw [Board.standing, Board.standing, hsame.controller, hsame.browser, hsame.isListening]

/-- What depends on the standing alone and outlives every event outlives the actions. -/
theorem act_keeps {kept : Board → Prop}
    (hstanding : ∀ board other : Board, other.standing = board.standing →
      kept board → kept other)
    (hhandle : ∀ board : Board, kept board → ∀ event, kept (board.handle event))
    {board : Board} (hkept : kept board) {action : Action} (hstays : action ≠ .load)
    (hgrants : ∀ refusals, action ≠ .refuse refusals) : kept (board.act action) := by
  refine act_keeps_of (fun board other hunison => ?_) (fun board browser hpasses => ?_) hhandle
    hkept hstays hgrants
  · exact hstanding board other hunison.undisturbed.standing
  · refine hstanding board _ ?_
    cases hpasses <;> rfl

/-! ## Restarts -/

/-- The actions that start a whole countdown, or would if there were an interval. -/
def restarts (board : Board) : Action → Bool
  | .load => true
  | .click (.option seconds) => board.offers (.option seconds)
  | .visibility isHidden => board.isListening && !isHidden
  | _ => false

/-- The last restart of a run: the board before it, and the action. -/
def lastRestart? : Board → List Action → Option (Board × Action)
  | _, [] => none
  | board, action :: actions =>
    (lastRestart? (board.act action) actions).or
      (if board.restarts action then some (board, action) else none)

theorem lastRestart?_load (board : Board) (actions : List Action) :
    lastRestart? board (.load :: actions)
      = some ((lastRestart? board.load actions).getD (board, .load)) := by
  rw [lastRestart?]
  simp only [restarts, if_true, act]
  cases lastRestart? board.load actions <;> rfl

/-- What runs on a board was set by a restart, and runs if the restart could set it. -/
structure Guarded (restart : Board × Action) (board : Board) : Prop where
  safe : board.Safe
  fresh : ∀ interval ∈ board.browser.intervals,
    restart.1.browser.nextHandle ≤ interval.handle
  running : board.isListening = true → board.browser.isHidden = false →
    0 < board.session.controller.interval →
    (restart.1.act restart.2).browser.unsetTimers = restart.1.browser.unsetTimers →
    board.browser.settings = Browser.plan board.session.controller.interval

theorem guarded_of_restarted {board after : Board} {action : Action}
    (hact : board.act action = after)
    (hrestarted : Browser.Restarted board.session after.session)
    (haware : after.isListening = true →
      after.session.controller.isVisible = !after.browser.isHidden) :
    Guarded (board, action) after := by
  refine ⟨⟨hrestarted.inStep, haware⟩, hrestarted.fresh,
    fun hlistening hshown hpos hset => ?_⟩
  rw [hact] at hset
  refine hrestarted.running hset ?_ hpos
  rw [haware hlistening, hshown]
  rfl

theorem Safe.guarded_choose {board : Board} (hsafe : board.Safe) {seconds : Nat}
    (hoffers : board.offers (.option seconds) = true) :
    Guarded (board, .click (.option seconds)) (board.act (.click (.option seconds))) := by
  have hact : (board.act (.click (.option seconds))).session
      = board.session.choose Browser.backend seconds := by
    rw [act, click_option hoffers, session_handle, Session.handle]
  have hlistens : (board.act (.click (.option seconds))).isListening = board.isListening := by
    rw [act, click_option hoffers, handle]
  have hhidden := Browser.isHidden_handle board.session (.choose seconds)
  refine guarded_of_restarted rfl ?_ ?_
  · rw [hact]
    exact hsafe.inStep.tracked.restarted_choose seconds
  · intro hlistening
    have haware := hsafe.aware (hlistens ▸ hlistening)
    rw [Session.handle] at hhidden
    rw [browser] at haware ⊢
    rw [hact, hhidden, ← haware, Session.controller_choose]
    rfl

theorem Safe.guarded_visible {board : Board} (hsafe : board.Safe)
    (hlistening : board.isListening = true) :
    Guarded (board, .visibility false) (board.act (.visibility false)) := by
  obtain ⟨session, hsession⟩ :
      ∃ session : Session Browser,
        session = { board.session with world := { board.session.world with isHidden := false } } :=
    ⟨_, rfl⟩
  have hact : (board.act (.visibility false)).session
      = session.visibility Browser.backend true := by
    rw [hsession, act, visibility]
    simp only [withBrowser, hlistening, if_true, session_handle, Session.handle, Bool.not_false,
      browser]
  have hinStep : Browser.InStep session := by
    rw [hsession]
    exact hsafe.inStep.of_eq rfl rfl (Nat.le_refl _) rfl rfl
  have hhidden := Browser.isHidden_handle session (.visibility true)
  rw [Session.handle, hsession] at hhidden
  refine guarded_of_restarted rfl ?_ ?_
  · rw [hact]
    refine hinStep.restarted_visible.of_eq ?_ rfl rfl
    rw [hsession]
    rfl
  · intro _
    rw [browser, hact, Session.controller_visibility, if_pos rfl, Controller.isVisible_shown]
    rw [hsession, hhidden]
    rfl

theorem Safe.guarded {board : Board} (hsafe : board.Safe) {action : Action}
    (hrestarts : board.restarts action = true) : Guarded (board, action) (board.act action) := by
  unfold restarts at hrestarts
  split at hrestarts
  · have hact : board.act .load = board.load := rfl
    rw [hact]
    exact guarded_of_restarted hact board.restarted_load board.safe_load.aware
  · exact hsafe.guarded_choose hrestarts
  · next isHidden =>
    obtain ⟨hlistening, hshown⟩ : board.isListening = true ∧ isHidden = false := by
      simpa using hrestarts
    rw [hshown]
    exact hsafe.guarded_visible hlistening
  · cases hrestarts

/-! ## Steps and runs -/

theorem Unstirred.guarded {restart : Board × Action} {board other : Board}
    (hsame : Unstirred board other) (hguarded : Guarded restart board) :
    Guarded restart other := by
  have hintervals : other.browser.intervals = board.browser.intervals :=
    congrArg (·.1.1) hsame.timing
  refine ⟨hsame.safe hguarded.safe, ?_, ?_⟩
  · rw [hintervals]
    exact hguarded.fresh
  · rw [hsame.isListening, hsame.isHidden, hsame.controller, Browser.settings, hintervals]
    exact hguarded.running

theorem Later.guarded {restart : Board × Action} {board other : Board}
    (hlater : Later board other) (hguarded : Guarded restart board) : Guarded restart other := by
  refine ⟨hlater.safe hguarded.safe, ?_, ?_⟩
  · intro interval hmem
    obtain ⟨older, holder, hhandle⟩ := hlater.handle_mem hmem
    rw [← hhandle]
    exact hguarded.fresh older holder
  · rw [hlater.isListening, hlater.isHidden, hlater.interval, hlater.settings]
    exact hguarded.running

theorem Guarded.hidden {restart : Board × Action} {board : Board}
    (hguarded : Guarded restart board) : Guarded restart (board.act (.visibility true)) := by
  obtain ⟨other, hother⟩ :
      ∃ other : Board, other = board.withBrowser { board.browser with isHidden := true } :=
    ⟨_, rfl⟩
  have hact : board.act (.visibility true)
      = if other.isListening then other.handle (.visibility false) else other := by
    rw [hother]
    rfl
  have hhidden : other.session.world.isHidden = true := by
    rw [hother]
    rfl
  have htracked : other.session.world.Tracked := by
    rw [hother]
    exact hguarded.safe.inStep.tracked.of_eq rfl rfl (Nat.le_refl _)
  rw [hact]
  split
  · have hnone : (other.handle (.visibility false)).browser.intervals = [] :=
      htracked.intervals_hidden
    have hstill := Browser.isHidden_handle other.session (.visibility false)
    rw [hhidden] at hstill
    refine ⟨⟨⟨Or.inl hnone, htracked.handle (.visibility false)⟩, ?_⟩, ?_, ?_⟩
    · intro _
      rw [browser, session_handle, hstill, Session.handle, Session.controller_visibility]
      rfl
    · rw [hnone]
      exact fun _ hmem => absurd hmem List.not_mem_nil
    · intro _ hshown
      rw [browser, session_handle, hstill] at hshown
      cases hshown
  · next hdeaf =>
    refine ⟨⟨?_, fun hlistening => absurd hlistening hdeaf⟩, ?_,
      fun hlistening => absurd hlistening hdeaf⟩
    · rw [hother]
      exact hguarded.safe.inStep.of_eq rfl rfl (Nat.le_refl _) rfl rfl
    · rw [hother]
      exact hguarded.fresh

theorem Guarded.step {restart : Board × Action} {board : Board}
    (hguarded : Guarded restart board) {action : Action}
    (hquiet : board.restarts action = false) : Guarded restart (board.act action) := by
  cases action with
  | click target =>
    refine (board.undisturbed_click ?_).unstirred.guarded hguarded
    intro seconds heq
    rw [heq] at hquiet ⊢
    exact hquiet
  | key name => exact (board.undisturbed_key name).unstirred.guarded hguarded
  | visibility isHidden =>
    cases isHidden with
    | true => exact hguarded.hidden
    | false =>
      have hdeaf : board.isListening = false := by
        simpa [restarts] using hquiet
      have hact : board.act (.visibility false)
          = board.withBrowser { board.browser with isHidden := false } := by
        simp [act, visibility, withBrowser, hdeaf]
      rw [hact]
      refine ⟨⟨hguarded.safe.inStep.of_eq rfl rfl (Nat.le_refl _) rfl rfl, ?_⟩, hguarded.fresh,
        ?_⟩
      · exact fun hlistening => absurd hlistening (ne_true_of_eq_false hdeaf)
      · exact fun hlistening => absurd hlistening (ne_true_of_eq_false hdeaf)
  | advance millis => exact (board.later_advance millis).guarded hguarded
  | editRow index edit =>
    have hsame : Unstirred board (board.act (.editRow index edit)) := ⟨rfl, rfl, rfl, rfl, rfl⟩
    exact hsame.guarded hguarded
  | refuse refusals =>
    have hsame : Unstirred board (board.act (.refuse refusals)) := ⟨rfl, rfl, rfl, rfl, rfl⟩
    exact hsame.guarded hguarded
  | load => cases hquiet

theorem Guarded.run {restart : Board × Action} {board : Board} (hguarded : Guarded restart board)
    (actions : List Action) :
    Guarded ((lastRestart? board actions).getD restart) (board.run actions) := by
  -- A restart replaces the one before it; any other action must leave what that one promised.
  induction actions generalizing restart board with
  | nil => exact hguarded
  | cons action actions ih =>
    have hrun : board.run (action :: actions) = (board.act action).run actions := rfl
    rw [hrun, lastRestart?]
    cases hrestarts : board.restarts action with
    | true =>
      have hrest := ih (hguarded.safe.guarded hrestarts)
      cases hlast : lastRestart? (board.act action) actions with
      | none =>
        rw [hlast] at hrest
        exact hrest
      | some last =>
        rw [hlast] at hrest
        exact hrest
    | false =>
      have hrest := ih (hguarded.step hrestarts)
      rw [if_neg Bool.false_ne_true, Option.or_none]
      exact hrest

/-! ## Reloads -/

theorem reloadCalls_act {board : Board} {action : Action}
    (hinstant : ∀ millis, action ≠ .advance millis) :
    (board.act action).browser.reloadCalls = board.browser.reloadCalls := by
  cases action with
  | click target =>
    rcases board.click_cases target with ⟨seconds, -, hclick⟩ | hsame
    · rw [act, hclick, browser, session_handle, Browser.reloadCalls_handle _ Event.noConfusion]
      rfl
    · exact hsame.unstirred.reloadCalls
  | key name => exact (board.undisturbed_key name).unstirred.reloadCalls
  | visibility isHidden =>
    rw [act, visibility]
    simp only
    split
    · rw [browser, session_handle, Browser.reloadCalls_handle _ Event.noConfusion]
      rfl
    · rfl
  | advance millis => exact absurd rfl (hinstant millis)
  | editRow index edit => rfl
  | refuse refusals => rfl
  | load => exact board.reloadCalls_load

/-- The page is asked to reload only while time passes and intervals run. -/
theorem later_of_reload {board : Board} {action : Action}
    (hreload : (board.act action).browser.reloadCalls ≠ board.browser.reloadCalls) :
    board.browser.intervals ≠ [] ∧ Later board (board.act action) := by
  by_cases hpassing : ∃ millis, action = .advance millis
  · obtain ⟨millis, rfl⟩ := hpassing
    refine ⟨fun hnone => hreload ?_, board.later_advance millis⟩
    rw [act, advance_of_none hnone]
    rfl
  · exact absurd (reloadCalls_act fun millis heq => hpassing ⟨millis, heq⟩) hreload

/-! ## Every run of every page -/

theorem Safe.periods {board : Board} (hsafe : board.Safe) :
    board.browser.intervals = [] ∨ board.session.controller.isVisible = true
      ∧ 0 < board.session.controller.interval
      ∧ board.browser.periods
          = [min (1000 * board.session.controller.interval) 2147483647, 1000] := by
  rcases hsafe.inStep.planned with hnone | ⟨hvisible, hpos, hsettings⟩
  · exact Or.inl hnone
  · exact Or.inr ⟨hvisible, hpos, Browser.periods_of_settings hsettings⟩

/-- A page that is told about its visibility has no intervals while it is hidden or idle. -/
theorem Safe.intervals_of_idle {board : Board} (hsafe : board.Safe)
    (hlistening : board.isListening = true)
    (hidle : board.browser.isHidden = true ∨ board.session.controller.interval = 0) :
    board.browser.intervals = [] := by
  refine hsafe.inStep.planned.resolve_right fun ⟨hvisible, hpos, _⟩ => ?_
  rcases hidle with hhidden | hzero
  · have haware := hsafe.aware hlistening
    rw [hvisible, hhidden] at haware
    cases haware
  · exact absurd hzero (Nat.ne_of_gt hpos)

/-- The intervals follow the session on every page and after every run. Handles are given out in
order, so an interval with a later handle than those given out before a restart was set by that
restart or after it. -/
theorem intervals_of_run (source : Source) (storage : List (String × String))
    (refusals : List Refusal) (isHidden : Bool) (actions : List Action) :
    let blank := Browser.blank storage refusals isHidden
    let board := (start source blank).run actions
    let interval := board.session.controller.interval
    let periods := board.browser.periods
    let whole := [min (1000 * interval) 2147483647, 1000]
    (periods = [] ∨ 0 < interval ∧ periods = whole)
      ∧ (∃ earlier restart,
          lastRestart? (unloaded source blank) (.load :: actions) = some (earlier, restart)
          ∧ (∀ running ∈ board.browser.intervals,
              earlier.browser.nextHandle ≤ running.handle
                ∧ running.handle < board.browser.nextHandle)
          ∧ (board.isListening = true → board.browser.isHidden = false → 0 < interval →
              (earlier.act restart).browser.unsetTimers = earlier.browser.unsetTimers →
              periods = whole))
      ∧ (board.isListening = true → board.browser.isHidden = true ∨ interval = 0 → periods = [])
      ∧ (board.isListening = true → ∀ action,
          (board.act action).browser.reloadCalls ≠ board.browser.reloadCalls →
          board.browser.isHidden = false ∧ 0 < interval
            ∧ (board.act action).browser.isHidden = false
            ∧ (board.act action).session.controller.interval = interval) := by
  intro blank board interval periods whole
  have hloaded : Guarded (unloaded source blank, .load) (start source blank) := by
    rw [start_eq]
    exact guarded_of_restarted rfl (restarted_load _) (safe_load _).aware
  have hguarded : Guarded ((lastRestart? (start source blank) actions).getD
      (unloaded source blank, .load)) board := hloaded.run actions
  have hidle : board.isListening = true → board.browser.isHidden = true ∨ interval = 0 →
      board.browser.intervals = [] := hguarded.safe.intervals_of_idle
  refine ⟨?_, ?_, ?_, ?_⟩
  · rcases hguarded.safe.periods with hnone | ⟨-, hpos, hperiods⟩
    · exact Or.inl (List.map_eq_nil_iff.mpr hnone)
    · exact Or.inr ⟨hpos, hperiods⟩
  · refine ⟨_, _, lastRestart?_load _ _, fun running hmem => ?_, ?_⟩
    · exact ⟨hguarded.fresh running hmem, hguarded.safe.inStep.tracked.issued running hmem⟩
    · intro hlistening hshown hpos hset
      exact Browser.periods_of_settings (hguarded.running hlistening hshown hpos hset)
  · intro hlistening hcase
    exact List.map_eq_nil_iff.mpr (hidle hlistening hcase)
  · intro hlistening action hreload
    obtain ⟨hsome, hlater⟩ := later_of_reload hreload
    have hshown : board.browser.isHidden = false :=
      eq_false_of_ne_true fun hhidden => hsome (hidle hlistening (Or.inl hhidden))
    have hpos : 0 < interval :=
      Nat.pos_of_ne_zero fun hzero => hsome (hidle hlistening (Or.inr hzero))
    exact ⟨hshown, hpos, hlater.isHidden.trans hshown, hlater.interval⟩

end Board

end AddressBoard.Page
