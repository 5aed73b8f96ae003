import AddressBoard.Proofs.Refresh.Faithful
import Mathlib.Tactic.Common

/-!
# A session as a function of its past

With a faithful backend, a session that was restored once is determined by what it was restored to
and by the events since: the last choice, the last change of visibility, and the ticks that came
while it was active. The functions on the past below never look at a session; the invariant
`Agrees` says that a session stands where they say, and every event keeps it.
-/

namespace AddressBoard.Refresh

/-- What a session is restored to. -/
structure Origin where
  interval : Nat
  isVisible : Bool

/-- The events since a session was restored, the newest first. -/
abbrev Past := List Event

namespace Past

variable (origin : Origin)

def interval : Past → Nat
  | [] => origin.interval
  | .choose seconds :: _ => seconds
  | .restore :: earlier | .visibility _ :: earlier | .tick _ :: earlier => interval earlier

def isVisible : Past → Bool
  | [] => origin.isVisible
  | .visibility isVisible :: _ => isVisible
  | .restore :: earlier | .choose _ :: earlier | .tick _ :: earlier => isVisible earlier

def phase (past : Past) : Phase := phaseFor (past.interval origin) (past.isVisible origin)

/-- The ticks of the countdown that came in the active phase since the last restart, which is a
restoring, a choice, or a page that becomes visible. -/
def countdowns : Past → Nat
  | [] => 0
  | .restore :: _ | .choose _ :: _ | .visibility true :: _ => 0
  | .tick .countdown :: earlier =>
    if phase origin earlier = .active then countdowns earlier + 1 else countdowns earlier
  | .visibility false :: earlier | .tick .reload :: earlier => countdowns earlier

/-- The ticks of the reload timer that came in the active phase. -/
def reloads : Past → Nat
  | [] => 0
  | .tick .reload :: earlier =>
    if phase origin earlier = .active then reloads earlier + 1 else reloads earlier
  | .restore :: earlier | .choose _ :: earlier | .visibility _ :: earlier
  | .tick .countdown :: earlier => reloads earlier

def remaining (past : Past) : Nat :=
  if past.interval origin = 0 then 0
  else past.interval origin - past.countdowns origin % past.interval origin

/-- What is shown. The end of a countdown is shown as 0, the start of one as the interval. -/
def display (past : Past) : Display :=
  match past.phase origin with
  | .disabled => .hidden
  | .suspended => .paused
  | .active =>
    if past.countdowns origin = 0 then .remaining (past.interval origin)
    else
      .remaining ((past.interval origin - past.countdowns origin % past.interval origin)
        % past.interval origin)

end Past

/-- The interval that was selected last, of calls that are newest first. -/
def lastSelected? (calls : List Call) : Option Nat :=
  calls.findSome? fun
    | .select seconds => some seconds
    | _ => none

/-- The display that was shown last, of calls that are newest first. -/
def lastDisplay? (calls : List Call) : Option Display :=
  calls.findSome? fun
    | .display display => some display
    | _ => none

def Session.fresh {World : Type} (key : String) (isVisible : Bool) (world : World) :
    Session World :=
  { controller := .fresh key isVisible, world, calls := [], notices := [] }

/-! ## Calls that do not set timers decide what is counted and shown last -/

theorem count_reload_untimed (calls : List Call) :
    (untimed calls).count .reload = calls.count .reload :=
  List.count_filter rfl

theorem lastSelected?_untimed (calls : List Call) :
    lastSelected? (untimed calls) = lastSelected? calls := by
  induction calls with
  | nil => rfl
  | cons call calls ih =>
    unfold lastSelected? at ih ⊢
    cases call <;> simp [ih]

theorem lastDisplay?_untimed (calls : List Call) :
    lastDisplay? (untimed calls) = lastDisplay? calls := by
  induction calls with
  | nil => rfl
  | cons call calls ih =>
    unfold lastDisplay? at ih ⊢
    cases call <;> simp [ih]

/-! ## The countdown -/

section Countdown

variable {interval count : Nat}

theorem sub_mod_succ_of_eq_one (hpos : 0 < interval) (hlast : interval - count % interval = 1) :
    interval - (count + 1) % interval = interval := by
  have hlt : count % interval < interval := Nat.mod_lt count hpos
  have hwrap : (count + 1) % interval = 0 := by
    rw [Nat.add_mod, show count % interval = interval - 1 by omega]
    by_cases hone : interval = 1
    · simp [hone]
    · rw [Nat.mod_eq_of_lt (show 1 < interval by omega), Nat.sub_add_cancel hpos, Nat.mod_self]
  rw [hwrap, Nat.sub_zero]

theorem sub_mod_succ_of_ne_one (hpos : 0 < interval) (hmore : interval - count % interval ≠ 1) :
    interval - (count + 1) % interval = interval - count % interval - 1 := by
  have hlt : count % interval < interval := Nat.mod_lt count hpos
  have hnext : (count + 1) % interval = count % interval + 1 := by
    rw [Nat.add_mod, Nat.mod_eq_of_lt (show 1 < interval by omega),
      Nat.mod_eq_of_lt (show count % interval + 1 < interval by omega)]
  rw [hnext]
  omega

/-- What is shown after a second is one less than what remained, also where the countdown ends. -/
theorem sub_mod_succ_mod (hpos : 0 < interval) :
    (interval - (count + 1) % interval) % interval = interval - count % interval - 1 := by
  have hlt : count % interval < interval := Nat.mod_lt count hpos
  by_cases hlast : interval - count % interval = 1
  · rw [sub_mod_succ_of_eq_one hpos hlast, Nat.mod_self, hlast]
  · rw [sub_mod_succ_of_ne_one hpos hlast, Nat.mod_eq_of_lt (by omega)]

end Countdown

/-! ## The invariant -/

section Invariant

variable {World : Type} {backend : Backend World} {origin : Origin} {past : Past}
  {session : Session World}

/-- A session stands where its past says. -/
structure Agrees (backend : Backend World) (origin : Origin) (past : Past)
    (session : Session World) : Prop where
  interval : session.controller.interval = past.interval origin
  isVisible : session.controller.isVisible = past.isVisible origin
  phase : session.controller.phase = past.phase origin
  remaining : session.controller.remaining = past.remaining origin
  scheduled : ∀ timer,
    backend.isScheduled session.world timer = decide (session.controller.phase = .active)
  reloads : (untimed session.calls).count .reload = past.reloads origin
  selected : lastSelected? (untimed session.calls) = some (past.interval origin)
  displayed : lastDisplay? (untimed session.calls) = some (past.display origin)

theorem remaining_of_countdowns_eq_zero (hcount : past.countdowns origin = 0) :
    past.remaining origin = past.interval origin := by
  unfold Past.remaining
  split
  · next hzero => exact hzero.symm
  · rw [hcount, Nat.zero_mod, Nat.sub_zero]

theorem display_of_countdowns_eq_zero {controller : Controller}
    (hphase : controller.phase = past.phase origin) (hcount : past.countdowns origin = 0)
    (hremaining : controller.remaining = past.interval origin) :
    controller.display = past.display origin := by
  unfold Controller.display Past.display
  rw [hphase, hremaining]
  cases past.phase origin <;> simp [hcount]

theorem remaining_started {controller : Controller}
    (hwhole : controller.remaining = controller.interval) :
    controller.started.remaining = controller.interval := by
  unfold Controller.started
  simp only
  split
  · rfl
  · exact hwhole

theorem agrees_restore (hfaithful : backend.Faithful) (key : String) (isVisible : Bool)
    (world : World) :
    Agrees backend ⟨Session.savedInterval backend world key, isVisible⟩ []
      ((Session.fresh key isVisible world).restore backend) := by
  set session := Session.fresh key isVisible world with hsession
  have hcontroller := session.controller_restore backend
  have huntimed := session.untimed_restore backend
  have hremaining : (session.restore backend).controller.remaining
      = Session.savedInterval backend world key := by
    rw [hcontroller, remaining_started rfl]
    rfl
  have hphase : (session.restore backend).controller.phase
      = Past.phase ⟨Session.savedInterval backend world key, isVisible⟩ [] := by
    rw [hcontroller]
    rfl
  refine ⟨by rw [hcontroller]; rfl, by rw [hcontroller]; rfl, hphase, ?_,
    session.isScheduled_restore hfaithful, ?_, ?_, ?_⟩
  · rw [hremaining, remaining_of_countdowns_eq_zero rfl]
    rfl
  · rw [huntimed]
    rfl
  · rw [huntimed]
    rfl
  · rw [huntimed]
    exact congrArg some (display_of_countdowns_eq_zero hphase rfl hremaining)

theorem Agrees.choose (hfaithful : backend.Faithful) (hagrees : Agrees backend origin past session)
    (seconds : Nat) :
    Agrees backend origin (.choose seconds :: past) (session.choose backend seconds) := by
  have hcontroller := session.controller_choose backend seconds
  have huntimed := session.untimed_choose backend seconds
  have hremaining : (session.choose backend seconds).controller.remaining = seconds := by
    rw [hcontroller, remaining_started rfl]
    rfl
  have hphase : (session.choose backend seconds).controller.phase
      = Past.phase origin (.choose seconds :: past) := by
    rw [hcontroller]
    exact congrArg (phaseFor seconds) hagrees.isVisible
  refine ⟨by rw [hcontroller]; rfl, by rw [hcontroller]; exact hagrees.isVisible, hphase, ?_,
    session.isScheduled_choose hfaithful seconds, ?_, ?_, ?_⟩
  · rw [hremaining, remaining_of_countdowns_eq_zero rfl]
    rfl
  · rw [huntimed]
    simpa [Past.reloads] using hagrees.reloads
  · rw [huntimed]
    rfl
  · rw [huntimed]
    exact congrArg some (display_of_countdowns_eq_zero hphase rfl hremaining)

theorem Agrees.remaining_eq_zero (hagrees : Agrees backend origin past session)
    (hzero : session.controller.interval = 0) : session.controller.remaining = 0 := by
  rw [hagrees.remaining, Past.remaining, if_pos (by rw [← hagrees.interval, hzero])]

theorem Agrees.phase_eq_disabled (hagrees : Agrees backend origin past session)
    (hzero : session.controller.interval = 0) : session.controller.phase = .disabled := by
  rw [hagrees.phase, Past.phase, phaseFor_eq_disabled_iff, ← hagrees.interval, hzero]

/-- Without an interval nothing is started, but then a start would change nothing. -/
theorem Agrees.shown_eq (hagrees : Agrees backend origin past session) :
    session.controller.shown
      = ({ session.controller with isVisible := true }.withInterval
          session.controller.interval).started := by
  unfold Controller.shown
  split
  · rfl
  · next hoff =>
    have hzero : session.controller.interval = 0 := by omega
    simp [Controller.started, Controller.withInterval, phaseFor, hzero,
      hagrees.remaining_eq_zero hzero, hagrees.phase_eq_disabled hzero]

theorem Agrees.visible (hfaithful : backend.Faithful)
    (hagrees : Agrees backend origin past session) :
    Agrees backend origin (.visibility true :: past) (session.visibility backend true) := by
  have hcontroller := session.controller_visibility backend true
  rw [if_pos rfl, hagrees.shown_eq] at hcontroller
  have huntimed := session.untimed_visibility backend true
  have hremaining : (session.visibility backend true).controller.remaining
      = past.interval origin := by
    rw [hcontroller, remaining_started rfl]
    exact hagrees.interval
  have hphase : (session.visibility backend true).controller.phase
      = Past.phase origin (.visibility true :: past) := by
    rw [hcontroller]
    exact congrArg (phaseFor · true) hagrees.interval
  refine ⟨by rw [hcontroller]; exact hagrees.interval, by rw [hcontroller]; rfl, hphase, ?_,
    ?_, ?_, ?_, ?_⟩
  · rw [hremaining, remaining_of_countdowns_eq_zero rfl]
    rfl
  · intro timer
    refine session.isScheduled_visibility hfaithful true timer ?_ hagrees.phase_eq_disabled
    intro hzero
    rw [hagrees.scheduled timer, hagrees.phase_eq_disabled hzero]
    rfl
  · rw [huntimed]
    split <;> simpa [Past.reloads] using hagrees.reloads
  · rw [huntimed]
    split
    · exact hagrees.selected
    · exact hagrees.selected
  · have hdisplay := display_of_countdowns_eq_zero hphase rfl hremaining
    rw [huntimed]
    split
    · next hoff =>
      rw [hagrees.displayed, Past.display, hagrees.phase.symm,
        hagrees.phase_eq_disabled hoff.2, Past.display, ← hphase, hcontroller]
      simp [Controller.started, Controller.withInterval, phaseFor, hoff.2]
    · exact congrArg some hdisplay

theorem Agrees.hidden (hfaithful : backend.Faithful)
    (hagrees : Agrees backend origin past session) :
    Agrees backend origin (.visibility false :: past) (session.visibility backend false) := by
  have hcontroller : (session.visibility backend false).controller = session.controller.hid :=
    session.controller_visibility backend false
  have huntimed := session.untimed_visibility backend false
  rw [if_neg (fun hshown => Bool.false_ne_true hshown.1)] at huntimed
  have hphase : (session.visibility backend false).controller.phase
      = Past.phase origin (.visibility false :: past) := by
    rw [hcontroller, Past.phase, Past.interval, Past.isVisible, ← hagrees.interval]
    unfold Controller.hid phaseFor
    by_cases hzero : session.controller.interval = 0
    · simp [hzero, hagrees.phase_eq_disabled hzero]
    · simp [hzero, Nat.pos_of_ne_zero hzero]
  refine ⟨by rw [hcontroller]; exact hagrees.interval, by rw [hcontroller]; rfl, hphase,
    by rw [hcontroller]; exact hagrees.remaining, ?_, ?_, ?_, ?_⟩
  · intro timer
    refine session.isScheduled_visibility hfaithful false timer ?_ hagrees.phase_eq_disabled
    intro hzero
    rw [hagrees.scheduled timer, hagrees.phase_eq_disabled hzero]
    rfl
  · rw [huntimed]
    simpa [Past.reloads] using hagrees.reloads
  · rw [huntimed]
    exact hagrees.selected
  · rw [huntimed]
    refine congrArg some ?_
    have hinactive : Past.phase origin (.visibility false :: past) ≠ .active := by
      rw [Past.phase, ne_eq, phaseFor_eq_active_iff]
      exact fun hactive => Bool.false_ne_true hactive.2
    unfold Controller.display Past.display
    rw [hphase]
    cases hcase : Past.phase origin (.visibility false :: past) with
    | disabled => rfl
    | suspended => rfl
    | active => exact absurd hcase hinactive

theorem Agrees.of_active (hagrees : Agrees backend origin past session)
    (hactive : past.phase origin = .active) :
    0 < session.controller.interval ∧ session.controller.isVisible = true := by
  rw [hagrees.interval, hagrees.isVisible]
  exact phaseFor_eq_active_iff.mp hactive

theorem Agrees.tick_reload (hfaithful : backend.Faithful)
    (hagrees : Agrees backend origin past session) :
    Agrees backend origin (.tick .reload :: past) (session.tick backend .reload) := by
  have hcontroller : (session.tick backend .reload).controller = session.controller :=
    session.controller_tick backend .reload
  have huntimed : untimed (session.tick backend .reload).calls
      = if past.phase origin = .active then .reload :: untimed session.calls
        else untimed session.calls := by
    rw [session.untimed_tick, hagrees.scheduled, hagrees.phase]
    by_cases hactive : past.phase origin = .active
    · simp [hactive, (hagrees.of_active hactive).2]
    · simp [hactive]
  refine ⟨by rw [hcontroller]; exact hagrees.interval, by rw [hcontroller]; exact hagrees.isVisible,
    by rw [hcontroller]; exact hagrees.phase, by rw [hcontroller]; exact hagrees.remaining, ?_, ?_,
    ?_, ?_⟩
  · intro timer
    rw [hcontroller, Session.isScheduled_tick hfaithful]
    exact hagrees.scheduled timer
  · rw [huntimed, Past.reloads]
    split
    · rw [List.count_cons_self, hagrees.reloads]
    · exact hagrees.reloads
  · rw [huntimed]
    split <;> exact hagrees.selected
  · rw [huntimed]
    split <;> exact hagrees.displayed

/-- While a session is not active, nothing comes of a tick of the countdown. -/
theorem Agrees.tick_countdown_of_inactive
    (hagrees : Agrees backend origin past session) (hinactive : past.phase origin ≠ .active) :
    Agrees backend origin (.tick .countdown :: past) (session.tick backend .countdown) := by
  have hidle : backend.isScheduled session.world .countdown = false := by
    rw [hagrees.scheduled, hagrees.phase]
    exact decide_eq_false hinactive
  have hcount : Past.countdowns origin (.tick .countdown :: past) = past.countdowns origin := by
    rw [Past.countdowns, if_neg hinactive]
  rw [show session.tick backend .countdown = session by simp [Session.tick, hidle]]
  refine ⟨hagrees.interval, hagrees.isVisible, hagrees.phase, ?_, hagrees.scheduled,
    hagrees.reloads, hagrees.selected, ?_⟩
  · rw [hagrees.remaining]
    unfold Past.remaining
    rw [hcount]
    rfl
  · rw [hagrees.displayed]
    unfold Past.display
    rw [hcount]
    rfl

theorem Agrees.tick_countdown_of_active (hfaithful : backend.Faithful)
    (hagrees : Agrees backend origin past session) (hactive : past.phase origin = .active) :
    Agrees backend origin (.tick .countdown :: past) (session.tick backend .countdown) := by
  obtain ⟨hpos, hvisible⟩ := hagrees.of_active hactive
  set interval := past.interval origin with hinterval
  set count := past.countdowns origin with hcountdowns
  rw [hagrees.interval] at hpos
  have hlt : count % interval < interval := Nat.mod_lt count hpos
  have hremaining : session.controller.remaining = interval - count % interval := by
    rw [hagrees.remaining, Past.remaining, if_neg (by omega)]
  have hcount : Past.countdowns origin (.tick .countdown :: past) = count + 1 := by
    rw [Past.countdowns, if_pos hactive]
  have hrunning : session.controller.isVisible = true ∧ 0 < session.controller.remaining :=
    ⟨hvisible, by omega⟩
  have hscheduled : backend.isScheduled session.world .countdown = true := by
    rw [hagrees.scheduled, hagrees.phase]
    exact decide_eq_true hactive
  have hcontroller := session.controller_tick backend .countdown
  rw [if_pos ⟨rfl, hscheduled⟩, Controller.countedDown, if_pos hrunning] at hcontroller
  have huntimed := session.untimed_tick backend .countdown
  simp only [hscheduled, ↓reduceIte, Session.untimed_countDown, if_pos hrunning] at huntimed
  refine ⟨by rw [hcontroller]; exact hagrees.interval, by rw [hcontroller]; exact hagrees.isVisible,
    by rw [hcontroller]; exact hagrees.phase, ?_, ?_, ?_, ?_, ?_⟩
  · have hnext : Past.remaining origin (.tick .countdown :: past)
        = interval - (count + 1) % interval := by
      have hne : Past.interval origin (.tick .countdown :: past) ≠ 0 := Nat.ne_of_gt hpos
      rw [Past.remaining, if_neg hne, hcount]
      rfl
    rw [hcontroller, hnext]
    simp only [hremaining, hagrees.interval]
    split
    · next hlast => exact (sub_mod_succ_of_eq_one hpos hlast).symm
    · next hmore => exact (sub_mod_succ_of_ne_one hpos hmore).symm
  · intro timer
    rw [Session.isScheduled_tick hfaithful, hagrees.scheduled timer, hcontroller]
  · rw [huntimed]
    simpa [Past.reloads] using hagrees.reloads
  · rw [huntimed]
    exact hagrees.selected
  · have hshown : (interval - (count + 1) % interval) % interval
        = interval - count % interval - 1 := sub_mod_succ_mod hpos
    rw [huntimed]
    refine congrArg some ?_
    unfold Controller.display Past.display
    rw [hcount]
    simp only [hagrees.phase, hactive, hremaining, ← hshown]
    have hphase : Past.phase origin (.tick .countdown :: past) = .active := hactive
    rw [hphase]
    rfl

/-! ## Runs -/

theorem Agrees.handle (hfaithful : backend.Faithful) (hagrees : Agrees backend origin past session)
    {event : Event} (hevent : event ≠ .restore) :
    Agrees backend origin (event :: past) (session.handle backend event) := by
  cases event with
  | restore => exact absurd rfl hevent
  | choose seconds => exact hagrees.choose hfaithful seconds
  | visibility isVisible =>
    cases isVisible with
    | false => exact hagrees.hidden hfaithful
    | true => exact hagrees.visible hfaithful
  | tick timer =>
    cases timer with
    | reload => exact hagrees.tick_reload hfaithful
    | countdown =>
      by_cases hactive : past.phase origin = .active
      · exact hagrees.tick_countdown_of_active hfaithful hactive
      · exact hagrees.tick_countdown_of_inactive hactive

theorem Agrees.run (hfaithful : backend.Faithful) (hagrees : Agrees backend origin past session)
    {events : List Event} (hevents : .restore ∉ events) :
    Agrees backend origin (events.reverse ++ past) (session.run backend events) := by
  -- The past grows by the event that is handled, so it differs at every step.
  induction events generalizing past session with
  | nil => exact hagrees
  | cons event events ih =>
    obtain ⟨hevent, hrest⟩ := List.ne_and_not_mem_of_not_mem_cons hevents
    have hnext := ih (hagrees.handle hfaithful (Ne.symm hevent)) hrest
    rw [List.reverse_cons, List.append_assoc]
    exact hnext

end Invariant

variable {World : Type} {backend : Backend World}

/-- **A session is a function of its past.** After a restoring and any events, with any store and
any faithful timers, every part of the session is what the past says. -/
theorem run_eq_past (hfaithful : backend.Faithful) (key : String) (isVisible : Bool)
    (world : World) (events : List Event) (hevents : .restore ∉ events) :
    let origin : Origin := ⟨Session.savedInterval backend world key, isVisible⟩
    let past : Past := events.reverse
    let interval := past.interval origin
    let session := (Session.fresh key isVisible world).run backend (.restore :: events)
    session.controller.interval = interval
      ∧ session.controller.isVisible = past.isVisible origin
      ∧ (session.controller.phase = .disabled ↔ interval = 0)
      ∧ (session.controller.phase = .active ↔ 0 < interval ∧ past.isVisible origin = true)
      ∧ (session.controller.phase = .suspended ↔ 0 < interval ∧ past.isVisible origin = false)
      ∧ session.controller.remaining
          = (if 0 < interval then interval - past.countdowns origin % interval else 0)
      ∧ session.calls.count .reload = past.reloads origin
      ∧ lastSelected? session.calls = some interval
      ∧ lastDisplay? session.calls = some (past.display origin) := by
  intro origin past interval session
  have hagrees : Agrees backend origin past session := by
    have hrun := (agrees_restore hfaithful key isVisible world).run hfaithful hevents
    rwa [List.append_nil] at hrun
  refine ⟨hagrees.interval, hagrees.isVisible, ?_, ?_, ?_, ?_, ?_, ?_, ?_⟩
  · rw [hagrees.phase]
    exact phaseFor_eq_disabled_iff
  · rw [hagrees.phase]
    exact phaseFor_eq_active_iff
  · rw [hagrees.phase]
    exact phaseFor_eq_suspended_iff
  · rw [hagrees.remaining, Past.remaining]
    by_cases hzero : past.interval origin = 0
    · rw [if_pos hzero, if_neg (by omega)]
    · rw [if_neg hzero, if_pos (by omega)]
  · rw [← count_reload_untimed]
    exact hagrees.reloads
  · rw [← lastSelected?_untimed]
    exact hagrees.selected
  · rw [← lastDisplay?_untimed]
    exact hagrees.displayed

/-- A saved interval of 2 s: the page is reloaded once, hidden and shown again, a choice of 1 s is
made, and its first second ends. -/
theorem run_eq_past_of_wrap :
    let events : List Event :=
      [.tick .countdown, .tick .reload, .visibility false, .tick .reload, .visibility true,
        .choose 1, .tick .countdown]
    let session := (Session.fresh "key" true ⟨[("key", " 2 ")], [.reload]⟩).run Bench.backend
      (.restore :: events)
    Bench.backend.Faithful ∧ .restore ∉ events
      ∧ session.controller.interval = 1
      ∧ session.controller.phase = .active
      ∧ session.controller.remaining = 1
      ∧ session.calls.count .reload = 1
      ∧ lastSelected? session.calls = some 1
      ∧ lastDisplay? session.calls = some (.remaining 0) := by
  intro events session
  have hevents : .restore ∉ events := by decide
  obtain ⟨hinterval, -, -, hactive, -, hremaining, hreloads, hselected, hdisplayed⟩ :=
    run_eq_past Bench.faithful "key" true ⟨[("key", " 2 ")], [.reload]⟩ events hevents
  exact ⟨Bench.faithful, hevents, hinterval, hactive.mpr (by decide), hremaining.trans (by decide),
    hreloads.trans (by decide), hselected, hdisplayed.trans (by decide)⟩

end AddressBoard.Refresh
