import AddressBoard.Proofs.Page.Handles

/-!
# Intervals of a browser

A browser can refuse to set an interval, so it is no faithful backend: after a start either both
intervals run or none does. A start clears all intervals before it sets new ones, so what runs after
it never depends on what ran before.
-/

namespace AddressBoard.Page

open Refresh (Call Controller Event Session Timer)

namespace Browser

def periods (browser : Browser) : List Nat := browser.intervals.map (·.period)

/-- How often the page was asked to reload, granted or not. -/
def reloadCalls (browser : Browser) : Nat := browser.reloads + browser.console.count .notReloaded

/-- How often an interval could not be set. -/
def unsetTimers (browser : Browser) : Nat :=
  browser.console.countP fun
    | .timerNotSet _ => true
    | _ => false

def stilled (browser : Browser) : Browser :=
  { browser with intervals := [], handles := .empty }

/-- The browser with the intervals of a whole countdown of `seconds`. -/
def armed (browser : Browser) (seconds : Nat) : Browser :=
  (browser.stilled.schedule .reload seconds).schedule .countdown 1

theorem refuses_of_none {browser : Browser} (hnone : browser.refusals = []) (refusal : Refusal) :
    browser.refuses refusal = false := by
  rw [refuses, hnone]
  rfl

/-! ## Single calls -/

def nextInterval (browser : Browser) (timer : Timer) (seconds : Nat) : Interval :=
  let period := min (1000 * seconds) longestPeriod
  { handle := browser.nextHandle, timer, period, due := browser.now + period }

theorem schedule_of_refused {browser : Browser} (hrefused : browser.refuses .setInterval = true)
    (timer : Timer) (seconds : Nat) :
    browser.schedule timer seconds = (browser.cancel timer).log (.timerNotSet timer) :=
  if_pos hrefused

theorem schedule_of_granted {browser : Browser} (hgranted : browser.refuses .setInterval = false)
    (timer : Timer) (seconds : Nat) :
    browser.schedule timer seconds
      = { browser.cancel timer with
          nextHandle := browser.nextHandle + 1
          intervals := (browser.cancel timer).intervals ++ [browser.nextInterval timer seconds]
          handles := (browser.cancel timer).handles.set (some browser.nextHandle) timer } :=
  if_neg (ne_true_of_eq_false hgranted)

/-- The part of a browser that a page has no hold on. -/
def surroundings (browser : Browser) : Bool × List Refusal := (browser.isHidden, browser.refusals)

theorem surroundings_perform (browser : Browser) (call : Call) :
    (browser.perform call).surroundings = browser.surroundings := by
  cases call with
  | schedule timer seconds =>
    cases hrefused : browser.refuses .setInterval with
    | true =>
      rw [perform, schedule_of_refused hrefused]
      rfl
    | false =>
      rw [perform, schedule_of_granted hrefused]
      rfl
  | reload =>
    rw [perform, reload]
    split <;> rfl
  | _ => rfl

theorem reloadCalls_perform (browser : Browser) {call : Call} (hcall : call ≠ .reload) :
    (browser.perform call).reloadCalls = browser.reloadCalls := by
  cases call with
  | schedule timer seconds =>
    cases hrefused : browser.refuses .setInterval with
    | true =>
      rw [perform, schedule_of_refused hrefused]
      simp [reloadCalls, log, cancel]
    | false =>
      rw [perform, schedule_of_granted hrefused]
      rfl
  | reload => exact absurd rfl hcall
  | _ => rfl

theorem intervals_perform (browser : Browser) {call : Call} (hcall : call.isTimed = false) :
    (browser.perform call).intervals = browser.intervals := by
  cases call with
  | schedule timer seconds => cases hcall
  | cancel timer => cases hcall
  | reload =>
    rw [perform, reload]
    split <;> rfl
  | _ => rfl

/-! ## Starts -/

theorem perform_backend (browser : Browser) (call : Call) :
    backend.perform browser call = browser.perform call := rfl

theorem world_cancel (session : Session Browser) (timer : Timer) :
    (session.cancel backend timer).world = session.world.cancel timer := by
  unfold Session.cancel
  split
  · rfl
  · next hidle => exact (cancel_of_unscheduled hidle).symm

theorem Tracked.world_stop {session : Session Browser} (htracked : session.world.Tracked) :
    (session.stop backend).world = session.world.stilled := by
  have hcancelled := htracked.cancel .reload
  have hintervals : ((session.world.cancel .reload).cancel .countdown).intervals = [] := by
    rw [hcancelled.intervals_cancel, htracked.intervals_cancel, List.filter_filter,
      List.filter_eq_nil_iff]
    intro interval _
    cases interval.timer <;> decide
  unfold Session.stop stilled
  rw [Browser.world_cancel, Browser.world_cancel, ← hintervals]
  rfl

theorem Tracked.world_start {session : Session Browser} (htracked : session.world.Tracked) :
    (session.start backend).world
      = { (if 0 < session.controller.interval ∧ session.controller.isVisible then
            session.world.armed session.controller.interval
          else session.world.stilled) with
          shown := session.controller.started.display } := by
  have hdisplay : (session.start backend).controller = session.controller.started :=
    session.controller_start backend
  unfold Session.start at hdisplay ⊢
  rw [← hdisplay]
  simp only [Session.render, Session.world_call, Session.controller_call,
    Session.controller_stop, perform_backend, Browser.perform]
  by_cases hzero : session.controller.interval = 0
  · simp [hzero, Session.withPhase, htracked.world_stop]
  · by_cases hvisible : session.controller.isVisible = true
    · simp [hzero, hvisible, Nat.pos_of_ne_zero hzero, Session.withPhase, Session.schedule,
        htracked.world_stop, perform_backend, Browser.perform, armed]
    · simp [hzero, hvisible, Session.withPhase, htracked.world_stop]

theorem armed_of_granted {browser : Browser} (hgranted : browser.refuses .setInterval = false)
    (seconds : Nat) :
    browser.armed seconds
      = { browser with
          nextHandle := browser.nextHandle + 2
          intervals :=
            [browser.nextInterval .reload seconds,
              { browser.nextInterval .countdown 1 with handle := browser.nextHandle + 1 }]
          handles := ⟨some browser.nextHandle, some (browser.nextHandle + 1)⟩ } := by
  have hstilled : browser.stilled.refuses .setInterval = false := hgranted
  rw [armed, schedule_of_granted hstilled, schedule_of_granted]
  · simp [stilled, cancel, nextInterval, Handles.set, Handles.get?, Handles.empty]
  · exact hgranted

theorem armed_of_refused {browser : Browser} (hrefused : browser.refuses .setInterval = true)
    (seconds : Nat) :
    browser.armed seconds
      = (browser.stilled.log (.timerNotSet .reload)).log (.timerNotSet .countdown) := by
  have hstilled : browser.stilled.refuses .setInterval = true := hrefused
  rw [armed, schedule_of_refused hstilled, schedule_of_refused]
  · rfl
  · exact hrefused

/-! ## What runs after an event -/

/-- The intervals of a whole countdown: their timers and periods, in the order of setting. -/
def plan (seconds : Nat) : List (Timer × Nat) :=
  [(.reload, min (1000 * seconds) longestPeriod), (.countdown, 1000)]

def settings (browser : Browser) : List (Timer × Nat) :=
  browser.intervals.map fun interval => (interval.timer, interval.period)

theorem periods_of_settings {browser : Browser} {seconds : Nat}
    (hsettings : browser.settings = plan seconds) :
    browser.periods = [min (1000 * seconds) longestPeriod, 1000] := by
  have hperiods : browser.periods = browser.settings.map Prod.snd := by
    simp [periods, settings]
  rw [hperiods, hsettings]
  rfl

/-- The part of a browser on which its intervals depend. -/
def timing (browser : Browser) : (List Interval × Handles) × Nat × Nat :=
  ((browser.intervals, browser.handles), browser.nextHandle, browser.unsetTimers)

/-- Intervals run only as a whole, for the current interval of a page taken as visible. -/
structure InStep (session : Session Browser) : Prop where
  planned : session.world.intervals = [] ∨ session.controller.isVisible = true
    ∧ 0 < session.controller.interval
    ∧ session.world.settings = plan session.controller.interval
  tracked : session.world.Tracked

/-- After a restart only intervals run that it has set itself; they run if none was refused. -/
structure Restarted (before after : Session Browser) : Prop where
  inStep : InStep after
  fresh : ∀ interval ∈ after.world.intervals, before.world.nextHandle ≤ interval.handle
  running : after.world.unsetTimers = before.world.unsetTimers →
    after.controller.isVisible = true → 0 < after.controller.interval →
    after.world.settings = plan after.controller.interval

theorem InStep.of_eq {session other : Session Browser} (hinStep : InStep session)
    (hintervals : other.world.intervals = session.world.intervals)
    (hhandles : other.world.handles = session.world.handles)
    (hnext : session.world.nextHandle ≤ other.world.nextHandle)
    (hvisible : other.controller.isVisible = session.controller.isVisible)
    (hinterval : other.controller.interval = session.controller.interval) : InStep other := by
  refine ⟨?_, hinStep.tracked.of_eq hintervals hhandles hnext⟩
  rw [settings, hintervals, hvisible, hinterval]
  exact hinStep.planned

theorem Restarted.of_eq {before after first last : Session Browser}
    (hrestarted : Restarted before after)
    (hfirst : first.world.timing.2 = before.world.timing.2)
    (hlast : last.world.timing = after.world.timing)
    (hcontroller : last.controller = after.controller) : Restarted first last := by
  obtain ⟨hfirstNext, hfirstUnset⟩ := Prod.mk.injEq _ _ _ _ ▸ hfirst
  obtain ⟨⟨hintervals, hhandles⟩, hlastNext, hlastUnset⟩ :
      (last.world.intervals = after.world.intervals ∧ last.world.handles = after.world.handles)
        ∧ last.world.nextHandle = after.world.nextHandle
        ∧ last.world.unsetTimers = after.world.unsetTimers := by
    simpa [timing] using hlast
  refine ⟨hrestarted.inStep.of_eq hintervals hhandles (Nat.le_of_eq hlastNext.symm)
    (by rw [hcontroller]) (by rw [hcontroller]), ?_, ?_⟩
  · rw [hintervals, hfirstNext]
    exact hrestarted.fresh
  · rw [hlastUnset, hfirstUnset, settings, hintervals, hcontroller]
    exact hrestarted.running

/-- After a restart that has set no interval. -/
theorem Tracked.restarted_of_none {before after : Session Browser}
    (htracked : after.world.Tracked) (hnone : after.world.intervals = [])
    (hidle : after.world.unsetTimers = before.world.unsetTimers →
      after.controller.isVisible = true → ¬ 0 < after.controller.interval) :
    Restarted before after :=
  ⟨⟨Or.inl hnone, htracked⟩, by simp [hnone],
    fun hset hvisible hpos => absurd hpos (hidle hset hvisible)⟩

theorem Tracked.restarted_start {session : Session Browser} (htracked : session.world.Tracked) :
    Restarted session (session.start backend) := by
  have hcontroller := session.controller_start backend
  have hinterval : (session.start backend).controller.interval = session.controller.interval := by
    rw [hcontroller]
    rfl
  have hvisible : (session.start backend).controller.isVisible = session.controller.isVisible := by
    rw [hcontroller]
    rfl
  have hworld := htracked.world_start
  by_cases hactive : 0 < session.controller.interval ∧ session.controller.isVisible = true
  · rw [if_pos hactive] at hworld
    cases hrefused : session.world.refuses .setInterval with
    | true =>
      rw [armed_of_refused hrefused] at hworld
      refine htracked.start.restarted_of_none ?_ fun hunset => ?_
      · rw [hworld]
        rfl
      · rw [hworld] at hunset
        simp [unsetTimers, log, stilled] at hunset
        omega
    | false =>
      rw [armed_of_granted hrefused] at hworld
      have hsettings : (session.start backend).world.settings
          = plan (session.start backend).controller.interval := by
        rw [hworld, hinterval]
        rfl
      refine ⟨⟨Or.inr ⟨hvisible.trans hactive.2, hinterval ▸ hactive.1, hsettings⟩,
        htracked.start⟩, ?_, fun _ _ _ => hsettings⟩
      rw [hworld]
      simp [nextInterval]
  · rw [if_neg hactive] at hworld
    refine htracked.start.restarted_of_none ?_ fun _ hshown hpos => ?_
    · rw [hworld]
      rfl
    · exact hactive ⟨hinterval ▸ hpos, hvisible ▸ hshown⟩

theorem Restarted.select {before after : Session Browser} (hrestarted : Restarted before after)
    (seconds : Nat) : Restarted before (after.call backend (.select seconds)) :=
  hrestarted.of_eq rfl rfl rfl

theorem Tracked.restarted_restore {session : Session Browser}
    (htracked : session.world.Tracked) : Restarted session (session.restore backend) := by
  have hloaded : (session.loaded backend).world = session.world := Session.world_loaded ..
  rw [Session.restore_eq]
  refine ((Tracked.restarted_start (hloaded ▸ htracked)).of_eq ?_ rfl rfl).select _
  rw [hloaded]

/-- Saving changes nothing but the storage. -/
theorem world_save (session : Session Browser) :
    ∃ storage, (session.save backend).world = { session.world with storage } := by
  unfold Session.save
  simp only
  split
  · exact ⟨_, rfl⟩
  · exact ⟨session.world.storage, rfl⟩

/-- When a choice is started nothing runs any more, and at most the storage has changed. -/
theorem Tracked.world_chosen {session : Session Browser} (htracked : session.world.Tracked)
    (seconds : Nat) :
    ∃ storage, (Session.save backend { session.stop backend with
        controller := (session.stop backend).controller.withInterval seconds }).world
      = { session.world.stilled with storage } := by
  obtain ⟨storage, hsaved⟩ := world_save { session.stop backend with
    controller := (session.stop backend).controller.withInterval seconds }
  rw [htracked.world_stop] at hsaved
  exact ⟨storage, hsaved⟩

theorem Tracked.restarted_choose {session : Session Browser} (htracked : session.world.Tracked)
    (seconds : Nat) : Restarted session (session.choose backend seconds) := by
  obtain ⟨storage, hchosen⟩ := htracked.world_chosen seconds
  have hready : (Session.save backend { session.stop backend with
      controller := (session.stop backend).controller.withInterval seconds }).world.Tracked := by
    rw [hchosen]
    exact tracked_of_empty rfl rfl
  unfold Session.choose
  refine (hready.restarted_start.of_eq ?_ rfl rfl).select _
  rw [hchosen]
  rfl

/-- A page that becomes visible without an interval has no intervals to restart. -/
theorem InStep.restarted_visible {session : Session Browser} (hinStep : InStep session) :
    Restarted session (session.visibility backend true) := by
  by_cases hpos : 0 < session.controller.interval
  · have hvisible : session.visibility backend true
        = Session.start backend { session with
            controller :=
              { session.controller with isVisible := true }.withInterval
                session.controller.interval } := by
      simp [Session.visibility, hpos]
    have hstart := @Tracked.restarted_start { session with
      controller := { session.controller with isVisible := true }.withInterval
        session.controller.interval } hinStep.tracked
    rw [hvisible]
    exact hstart.of_eq rfl rfl rfl
  · have hnone : session.world.intervals = [] :=
      hinStep.planned.resolve_right fun hplanned => hpos hplanned.2.1
    have hsame : session.visibility backend true
        = { session with controller := { session.controller with isVisible := true } } := by
      simp [Session.visibility, hpos]
    rw [hsame]
    exact Tracked.restarted_of_none hinStep.tracked hnone fun _ _ => hpos

theorem Tracked.intervals_hidden {session : Session Browser} (htracked : session.world.Tracked) :
    (session.visibility backend false).world.intervals = [] := by
  have hstopped := @Tracked.world_stop
    { session with controller := { session.controller with isVisible := false } } htracked
  simp only [Session.visibility, Bool.false_eq_true, ↓reduceIte, Session.render,
    Session.world_call, perform_backend, Browser.perform]
  split <;> simp [Session.withPhase, hstopped, stilled]

theorem surroundings_handle (session : Session Browser) (event : Event) :
    (session.handle backend event).world.surroundings = session.world.surroundings := by
  have hperform : ∀ (world : Browser) (call : Call), event.mayCall call = true →
      world.surroundings = session.world.surroundings →
      (backend.perform world call).surroundings = session.world.surroundings :=
    fun world call _ hkept => (surroundings_perform world call).trans hkept
  exact Session.kept_handle hperform rfl

theorem isHidden_handle (session : Session Browser) (event : Event) :
    (session.handle backend event).world.isHidden = session.world.isHidden :=
  congrArg Prod.fst (surroundings_handle session event)

theorem refusals_handle (session : Session Browser) (event : Event) :
    (session.handle backend event).world.refusals = session.world.refusals :=
  congrArg Prod.snd (surroundings_handle session event)

/-- Only a tick can lead to a reload. -/
theorem reloadCalls_handle (session : Session Browser) {event : Event}
    (hevent : event ≠ .tick .reload) :
    (session.handle backend event).world.reloadCalls = session.world.reloadCalls := by
  have hperform : ∀ (world : Browser) (call : Call), event.mayCall call = true →
      world.reloadCalls = session.world.reloadCalls →
      (backend.perform world call).reloadCalls = session.world.reloadCalls := by
    intro world call hcall hkept
    rw [perform_backend, reloadCalls_perform, hkept]
    rintro rfl
    rcases event with _ | _ | _ | timer
    · cases hcall
    · cases hcall
    · cases hcall
    · cases timer with
      | reload => exact hevent rfl
      | countdown => cases hcall
  exact Session.kept_handle hperform rfl

theorem intervals_tick (session : Session Browser) (timer : Timer) :
    (session.tick backend timer).world.intervals = session.world.intervals := by
  have hperform : ∀ (world : Browser) (call : Call), Event.mayCall (.tick timer) call = true →
      world.intervals = session.world.intervals →
      (backend.perform world call).intervals = session.world.intervals := by
    intro world call hcall hkept
    rw [perform_backend, intervals_perform, hkept]
    cases timer <;> cases call <;> first | rfl | cases hcall
  exact Session.kept_handle hperform rfl

end Browser

end AddressBoard.Page
