import AddressBoard.Proofs.Refresh.Turns

/-!
# The trace of a session's calls

The calls of a session, kept newest first, tell what its timers are set to. With a faithful backend
no call schedules a timer that is scheduled or cancels one that is not, and what is set at any time
is what the controller of that time asks for.
-/

namespace AddressBoard.Refresh

/-- What a timer is set to: the seconds for which it was scheduled last, if it was not cancelled
since. -/
def Timer.setting? (timer : Timer) : List Call → Option Nat
  | [] => none
  | .schedule other seconds :: earlier =>
    if other = timer then some seconds else timer.setting? earlier
  | .cancel other :: earlier => if other = timer then none else timer.setting? earlier
  | .load _ :: earlier | .save _ _ :: earlier | .reload :: earlier | .display _ :: earlier
  | .select _ :: earlier => timer.setting? earlier

def Call.isSchedule : Call → Bool
  | .schedule _ _ => true
  | .cancel _ | .load _ | .save _ _ | .reload | .display _ | .select _ => false

def Call.isCancel : Call → Bool
  | .cancel _ => true
  | .schedule _ _ | .load _ | .save _ _ | .reload | .display _ | .select _ => false

/-- A timer is to be scheduled only while it is not, and cancelled only while it is. -/
def Call.Permitted (earlier : List Call) : Call → Prop
  | .schedule timer _ => timer.setting? earlier = none
  | .cancel timer => timer.setting? earlier ≠ none
  | .load _ | .save _ _ | .reload | .display _ | .select _ => True

def Orderly : List Call → Prop
  | [] => True
  | call :: earlier => call.Permitted earlier ∧ Orderly earlier

theorem Timer.setting?_untimed {call : Call} (huntimed : call.isTimed = false) (timer : Timer)
    (earlier : List Call) : timer.setting? (call :: earlier) = timer.setting? earlier := by
  cases call <;> first | rfl | cases huntimed

theorem Timer.setting?_append {made : List Call} (huntimed : ∀ call ∈ made, call.isTimed = false)
    (timer : Timer) (earlier : List Call) :
    timer.setting? (made ++ earlier) = timer.setting? earlier := by
  induction made with
  | nil => rfl
  | cons call made ih =>
    rw [List.cons_append, setting?_untimed (huntimed call List.mem_cons_self)]
    exact ih fun other hmem => huntimed other (List.mem_cons_of_mem call hmem)

theorem Call.permitted_of_untimed {call : Call} (huntimed : call.isTimed = false)
    (earlier : List Call) : call.Permitted earlier := by
  cases call <;> trivial

theorem Orderly.append {made earlier : List Call} (huntimed : ∀ call ∈ made, call.isTimed = false)
    (horderly : Orderly earlier) : Orderly (made ++ earlier) := by
  induction made with
  | nil => exact horderly
  | cons call made ih =>
    refine ⟨call.permitted_of_untimed (huntimed call List.mem_cons_self) _, ?_⟩
    exact ih fun other hmem => huntimed other (List.mem_cons_of_mem call hmem)

theorem Orderly.permitted {calls earlier : List Call} {call : Call} (horderly : Orderly calls)
    (hsuffix : call :: earlier <:+ calls) : call.Permitted earlier := by
  induction calls with
  | nil => cases List.suffix_nil.mp hsuffix
  | cons newest calls ih =>
    rcases List.suffix_cons_iff.mp hsuffix with heq | hearlier
    · obtain ⟨rfl, rfl⟩ := List.cons.inj heq
      exact horderly.1
    · exact ih horderly.2 hearlier

/-- What a controller asks a timer to be set to. -/
def Controller.setting? (controller : Controller) (timer : Timer) : Option Nat :=
  if controller.phase = .active then
    match timer with
    | .reload => some controller.interval
    | .countdown => some 1
  else none

theorem Controller.isSome_setting? (controller : Controller) (timer : Timer) :
    (controller.setting? timer).isSome = decide (controller.phase = .active) := by
  unfold setting?
  cases timer <;> split <;> simp [*]

theorem Controller.setting?_of_inactive {controller : Controller}
    (hinactive : controller.phase ≠ .active) (timer : Timer) : controller.setting? timer = none :=
  if_neg hinactive

theorem Controller.setting?_countedDown (controller : Controller) (timer : Timer) :
    controller.countedDown.setting? timer = controller.setting? timer := by
  unfold countedDown
  split <;> rfl

namespace Session

variable {World : Type}

/-! ## What is reported is what the calls say -/

structure Tracked (backend : Backend World) (session : Session World) : Prop where
  reported : ∀ timer,
    backend.isScheduled session.world timer = (timer.setting? session.calls).isSome
  orderly : Orderly session.calls

section Tracked

variable {backend : Backend World} (hfaithful : backend.Faithful) {session : Session World}
include hfaithful

/-- A call that sets no timers changes nothing in what is reported, be it performed or not. -/
theorem Tracked.untimed (htracked : Tracked backend session) {other : Session World} {call : Call}
    (huntimed : call.isTimed = false) (hcalls : other.calls = call :: session.calls)
    (hworld : other.world = backend.perform session.world call ∨ other.world = session.world) :
    Tracked backend other := by
  have hreported : ∀ timer, backend.isScheduled other.world timer
      = backend.isScheduled session.world timer := by
    intro timer
    rcases hworld with hperformed | hrefused
    · rw [hperformed, hfaithful.others _ _ _ huntimed]
    · rw [hrefused]
  refine ⟨fun timer => ?_, ?_⟩
  · rw [hreported, hcalls, Timer.setting?_untimed huntimed, htracked.reported]
  · rw [hcalls]
    exact ⟨call.permitted_of_untimed huntimed _, htracked.orderly⟩

theorem Tracked.call (htracked : Tracked backend session) {call : Call}
    (huntimed : call.isTimed = false) : Tracked backend (session.call backend call) :=
  htracked.untimed hfaithful huntimed rfl (Or.inl rfl)

theorem Tracked.cancelled (htracked : Tracked backend session) {timer : Timer}
    (hset : timer.setting? session.calls ≠ none) :
    Tracked backend (session.call backend (.cancel timer)) := by
  refine ⟨fun other => ?_, hset, htracked.orderly⟩
  rw [world_call, hfaithful.cancel, calls_call, Timer.setting?, htracked.reported]
  by_cases heq : timer = other
  · simp [heq]
  · simp [heq, Ne.symm heq]

theorem Tracked.cancel (htracked : Tracked backend session) (timer : Timer) :
    Tracked backend (session.cancel backend timer) := by
  unfold Session.cancel
  split
  · next hscheduled =>
    rw [htracked.reported, Option.isSome_iff_ne_none] at hscheduled
    exact htracked.cancelled hfaithful hscheduled
  · exact htracked

theorem Tracked.stop (htracked : Tracked backend session) :
    Tracked backend (session.stop backend) :=
  (htracked.cancel hfaithful .reload).cancel hfaithful .countdown

/-- After a stop nothing is set. -/
theorem Tracked.setting?_stop (htracked : Tracked backend session) (timer : Timer) :
    timer.setting? (session.stop backend).calls = none := by
  have hidle := (htracked.stop hfaithful).reported timer
  rw [isScheduled_stop hfaithful] at hidle
  simpa using hidle.symm

theorem Tracked.loaded (htracked : Tracked backend session) :
    Tracked backend (session.loaded backend) :=
  htracked.untimed hfaithful rfl (session.calls_loaded backend)
    (Or.inl (session.world_loaded backend))

theorem Tracked.save (htracked : Tracked backend session) :
    Tracked backend (session.save backend) := by
  apply htracked.untimed hfaithful _ (session.calls_save backend)
  · unfold Session.save
    simp only
    split
    · exact Or.inl rfl
    · exact Or.inr rfl
  · rfl

end Tracked

/-- The calls with which a start sets both timers, if it sets them. -/
def settingCalls (controller : Controller) : List Call :=
  if 0 < controller.interval ∧ controller.isVisible then
    [.schedule .countdown 1, .schedule .reload controller.interval]
  else []

theorem calls_start (backend : Backend World) (session : Session World) :
    (session.start backend).calls
      = .display session.controller.started.display
        :: (settingCalls session.controller ++ (session.stop backend).calls) := by
  have hcontroller := session.controller_start backend
  unfold start at hcontroller ⊢
  rw [← hcontroller]
  simp only [render, calls_call, controller_call]
  refine congrArg _ ?_
  unfold settingCalls
  by_cases hinterval : session.controller.interval = 0
  · simp [hinterval, withPhase]
  · have hpos : 0 < session.controller.interval := Nat.pos_of_ne_zero hinterval
    cases hvisible : session.controller.isVisible <;>
      simp [hinterval, hpos, hvisible, withPhase, schedule]

/-! ## The calls of an operation -/

/-- A later session whose calls since are all of an allowed kind. -/
def Adds (allowed : Call → Bool) (before after : Session World) : Prop :=
  ∃ made, after.calls = made ++ before.calls ∧ ∀ call ∈ made, allowed call = true

section Adds

variable {allowed : Call → Bool} {before middle after : Session World}

theorem adds_of_eq (hcalls : after.calls = before.calls) : Adds allowed before after :=
  ⟨[], hcalls, by simp⟩

theorem adds_of_cons {call : Call} (hallowed : allowed call = true)
    (hcalls : after.calls = call :: before.calls) : Adds allowed before after :=
  ⟨[call], hcalls, by simpa using hallowed⟩

theorem Adds.trans (hfirst : Adds allowed before middle) (hsecond : Adds allowed middle after) :
    Adds allowed before after := by
  obtain ⟨early, hearly, hallowedEarly⟩ := hfirst
  obtain ⟨late, hlate, hallowedLate⟩ := hsecond
  refine ⟨late ++ early, by rw [hlate, hearly, List.append_assoc], fun call hmem => ?_⟩
  rcases List.mem_append.mp hmem with hmem | hmem
  · exact hallowedLate call hmem
  · exact hallowedEarly call hmem

end Adds

theorem adds_cancel (backend : Backend World) (session : Session World) (timer : Timer) :
    Adds (!·.isSchedule) session (session.cancel backend timer) := by
  unfold cancel
  split
  · exact adds_of_cons rfl rfl
  · exact adds_of_eq rfl

theorem adds_stop (backend : Backend World) (session : Session World) :
    Adds (!·.isSchedule) session (session.stop backend) :=
  (adds_cancel backend session .reload).trans (adds_cancel backend _ .countdown)

theorem cancel_withController (backend : Backend World) (session : Session World)
    (controller : Controller) (timer : Timer) :
    Session.cancel backend timer { session with controller }
      = { session.cancel backend timer with controller } := by
  unfold cancel
  split <;> rfl

/-- What is stopped does not depend on the controller. -/
theorem stop_withController (backend : Backend World) (session : Session World)
    (controller : Controller) :
    Session.stop backend { session with controller }
      = { session.stop backend with controller } := by
  unfold stop
  rw [cancel_withController backend session controller .reload,
    cancel_withController backend (session.cancel backend .reload) controller .countdown]

theorem calls_hide (backend : Backend World) (session : Session World) :
    (session.visibility backend false).calls
      = .display (session.visibility backend false).controller.display
        :: (session.stop backend).calls := by
  unfold visibility
  simp only [Bool.false_eq_true, ↓reduceIte, render, calls_call, controller_call]
  refine congrArg _ ?_
  rw [stop_withController]
  split <;> rfl

theorem adds_start (backend : Backend World) (session : Session World) :
    Adds (!·.isCancel) (session.stop backend) (session.start backend) := by
  refine ⟨.display session.controller.started.display :: settingCalls session.controller, ?_, ?_⟩
  · rw [calls_start, List.cons_append]
  · unfold settingCalls
    split <;> simp [Call.isCancel]

/-- A tick sets no timers. -/
theorem adds_tick (backend : Backend World) (session : Session World) (timer : Timer) :
    Adds (!·.isTimed) session (session.tick backend timer) := by
  unfold tick countDown
  split
  · cases timer with
    | reload =>
      simp only
      split
      · exact adds_of_cons rfl rfl
      · exact adds_of_eq rfl
    | countdown =>
      simp only
      split
      · split <;> exact adds_of_cons rfl rfl
      · exact adds_of_eq rfl
  · exact adds_of_eq rfl

/-- Every operation first stops and then starts: once it schedules, it cancels no more. -/
theorem adds_handle (backend : Backend World) (session : Session World) (event : Event) :
    ∃ stopped, Adds (!·.isSchedule) session stopped
      ∧ Adds (!·.isCancel) stopped (session.handle backend event) := by
  cases event with
  | restore =>
    have hloaded : Adds (!·.isSchedule) session (session.loaded backend) :=
      adds_of_cons rfl (session.calls_loaded backend)
    refine ⟨_, hloaded.trans (adds_stop backend _), (adds_start backend _).trans ?_⟩
    exact adds_of_cons rfl rfl
  | choose seconds =>
    have hsaved : Adds (!·.isSchedule) session (Session.save backend
        { session.stop backend with
          controller := (session.stop backend).controller.withInterval seconds }) := by
      refine (adds_stop backend session).trans ?_
      exact adds_of_cons rfl (calls_save backend _)
    refine ⟨_, hsaved.trans (adds_stop backend _), (adds_start backend _).trans ?_⟩
    exact adds_of_cons rfl rfl
  | visibility isVisible =>
    cases isVisible with
    | true =>
      simp only [handle, visibility, ↓reduceIte]
      split
      · refine ⟨_, ?_, adds_start backend _⟩
        refine Adds.trans (adds_of_eq ?_) (adds_stop backend _)
        rfl
      · exact ⟨session, adds_of_eq rfl, adds_of_eq rfl⟩
    | false =>
      refine ⟨session.stop backend, adds_stop backend session, ?_⟩
      exact adds_of_cons rfl (calls_hide backend session)
  | tick timer =>
    refine ⟨session, adds_of_eq rfl, ?_⟩
    obtain ⟨made, hcalls, huntimed⟩ := adds_tick backend session timer
    refine ⟨made, hcalls, fun call hmem => ?_⟩
    have hcall := huntimed call hmem
    cases call <;> first | rfl | cases hcall

/-! ## Starts -/

theorem setting?_settingCalls (controller : Controller) (timer : Timer) {earlier : List Call}
    (hnone : timer.setting? earlier = none) :
    timer.setting? (settingCalls controller ++ earlier) = controller.started.setting? timer := by
  have hactive : controller.started.phase = .active
      ↔ 0 < controller.interval ∧ controller.isVisible = true := phaseFor_eq_active_iff
  unfold settingCalls Controller.setting?
  by_cases hstarts : 0 < controller.interval ∧ controller.isVisible = true
  · rw [if_pos hstarts, if_pos (hactive.mpr hstarts)]
    cases timer <;> rfl
  · rw [if_neg hstarts, if_neg (fun h => hstarts (hactive.mp h))]
    exact hnone

theorem orderly_settingCalls (controller : Controller) {earlier : List Call}
    (hnone : ∀ timer : Timer, timer.setting? earlier = none) (horderly : Orderly earlier) :
    Orderly (settingCalls controller ++ earlier) := by
  unfold settingCalls
  split
  · exact ⟨hnone .countdown, hnone .reload, horderly⟩
  · exact horderly

section Started

variable {backend : Backend World} (hfaithful : backend.Faithful) {session : Session World}
include hfaithful

theorem Tracked.setting?_start (htracked : Tracked backend session) (timer : Timer) :
    timer.setting? (session.start backend).calls = session.controller.started.setting? timer := by
  rw [calls_start, Timer.setting?_untimed rfl]
  exact setting?_settingCalls _ timer (htracked.setting?_stop hfaithful timer)

theorem Tracked.start (htracked : Tracked backend session) :
    Tracked backend (session.start backend) := by
  refine ⟨fun timer => ?_, ?_⟩
  · rw [isScheduled_start hfaithful, htracked.setting?_start hfaithful,
      Controller.isSome_setting?]
  · rw [calls_start]
    refine ⟨trivial, ?_⟩
    exact orderly_settingCalls _ (htracked.setting?_stop hfaithful)
      (htracked.stop hfaithful).orderly

end Started

/-! ## Operations -/

/-- The timers are set to what the controller asks for, and have been set in order. -/
structure InTune (backend : Backend World) (session : Session World) : Prop
    extends Tracked backend session where
  settled : session.controller.Settled
  set : ∀ timer, timer.setting? session.calls = session.controller.setting? timer

section InTune

variable {backend : Backend World} {session : Session World}

theorem InTune.scheduled (hinTune : InTune backend session) (timer : Timer) :
    backend.isScheduled session.world timer = decide (session.controller.phase = .active) := by
  rw [hinTune.reported, hinTune.set, Controller.isSome_setting?]

variable (hfaithful : backend.Faithful)
include hfaithful

theorem Tracked.inTune_start (htracked : Tracked backend session)
    (hwhole : session.controller.remaining = session.controller.interval) :
    InTune backend (session.start backend) := by
  refine ⟨htracked.start hfaithful, ?_, fun timer => ?_⟩
  · rw [controller_start]
    exact Controller.settled_started hwhole
  · rw [controller_start]
    exact htracked.setting?_start hfaithful timer

theorem InTune.call (hinTune : InTune backend session) {call : Call}
    (huntimed : call.isTimed = false) : InTune backend (session.call backend call) := by
  refine ⟨hinTune.toTracked.call hfaithful huntimed, hinTune.settled, fun timer => ?_⟩
  rw [calls_call, Timer.setting?_untimed huntimed]
  exact hinTune.set timer

theorem InTune.restore (hinTune : InTune backend session) :
    InTune backend (session.restore backend) := by
  have hloaded : Tracked backend (session.loaded backend) := hinTune.toTracked.loaded hfaithful
  rw [restore_eq]
  refine InTune.call hfaithful (hloaded.inTune_start hfaithful ?_) rfl
  rw [controller_loaded]
  rfl

theorem InTune.choose (hinTune : InTune backend session) (seconds : Nat) :
    InTune backend (session.choose backend seconds) := by
  have hstop : Tracked backend (session.stop backend) := hinTune.toTracked.stop hfaithful
  unfold Session.choose
  refine InTune.call hfaithful (Tracked.inTune_start hfaithful ?_ ?_) rfl
  · refine Tracked.save hfaithful ?_
    exact ⟨hstop.reported, hstop.orderly⟩
  · rw [controller_save]
    rfl

theorem InTune.shown (hinTune : InTune backend session) :
    InTune backend (session.visibility backend true) := by
  unfold visibility
  simp only [↓reduceIte]
  split
  · refine Tracked.inTune_start hfaithful ?_ rfl
    exact ⟨hinTune.reported, hinTune.orderly⟩
  · next hoff =>
    have hsettled := hinTune.settled.shown
    rw [Controller.shown, if_neg hoff] at hsettled
    exact ⟨⟨hinTune.reported, hinTune.orderly⟩, hsettled, hinTune.set⟩

theorem InTune.hid (hinTune : InTune backend session) :
    InTune backend (session.visibility backend false) := by
  have hcontroller : (session.visibility backend false).controller = session.controller.hid :=
    session.controller_visibility backend false
  have hsettled : session.controller.hid.Settled := hinTune.settled.hid
  have hinactive : session.controller.hid.phase ≠ .active := by
    rw [hsettled.phase, ne_eq, phaseFor_eq_active_iff]
    exact fun hactive => Bool.false_ne_true hactive.2
  have hstop : Tracked backend (session.stop backend) := hinTune.toTracked.stop hfaithful
  have hnone : ∀ timer : Timer,
      timer.setting? (session.visibility backend false).calls = none := by
    intro timer
    rw [calls_hide, Timer.setting?_untimed rfl]
    exact hinTune.toTracked.setting?_stop hfaithful timer
  have hdisabled : session.controller.interval = 0 → session.controller.phase = .disabled := by
    rw [hinTune.settled.phase]
    exact phaseFor_eq_disabled_iff.mpr
  have hoff : ∀ timer, session.controller.interval = 0 →
      backend.isScheduled session.world timer = false := by
    intro timer hzero
    rw [hinTune.scheduled, hdisabled hzero]
    rfl
  refine ⟨⟨fun timer => ?_, ?_⟩, ?_, fun timer => ?_⟩
  · rw [isScheduled_visibility hfaithful _ false timer (hoff timer) hdisabled, hcontroller, hnone]
    exact decide_eq_false hinactive
  · rw [calls_hide]
    exact ⟨trivial, hstop.orderly⟩
  · rw [hcontroller]
    exact hsettled
  · rw [hnone, hcontroller, Controller.setting?_of_inactive hinactive]

theorem InTune.tick (hinTune : InTune backend session) (timer : Timer) :
    InTune backend (session.tick backend timer) := by
  obtain ⟨made, hcalls, huntimed⟩ := adds_tick backend session timer
  replace huntimed : ∀ call ∈ made, call.isTimed = false := by simpa using huntimed
  refine ⟨⟨fun other => ?_, ?_⟩, settled_handle hinTune.settled (.tick timer), fun other => ?_⟩
  · rw [isScheduled_tick hfaithful, hcalls, Timer.setting?_append huntimed, hinTune.reported]
  · rw [hcalls]
    exact hinTune.orderly.append huntimed
  · rw [hcalls, Timer.setting?_append huntimed, hinTune.set, controller_tick]
    split
    · exact (session.controller.setting?_countedDown other).symm
    · rfl

theorem InTune.handle (hinTune : InTune backend session) (event : Event) :
    InTune backend (session.handle backend event) := by
  cases event with
  | restore => exact hinTune.restore hfaithful
  | choose seconds => exact hinTune.choose hfaithful seconds
  | visibility isVisible =>
    cases isVisible with
    | true => exact hinTune.shown hfaithful
    | false => exact hinTune.hid hfaithful
  | tick timer => exact hinTune.tick hfaithful timer

theorem InTune.run (hinTune : InTune backend session) (events : List Event) :
    InTune backend (session.run backend events) := by
  induction events generalizing session with
  | nil => exact hinTune
  | cons event events ih => exact ih (hinTune.handle hfaithful event)

end InTune

end Session

/-- **Restarts neither double nor leak timers.** With a faithful backend that has nothing scheduled
yet, both timers run exactly while a session is active, set to its present interval and to a second;
no call schedules a timer that is set or cancels one that is not; ticks do neither; and an operation
that has begun to schedule cancels no more. -/
theorem orderly_of_run {World : Type} {backend : Backend World} (hfaithful : backend.Faithful)
    (key : String) (isVisible : Bool) (world : World)
    (hidle : ∀ timer, backend.isScheduled world timer = false) (events : List Event) :
    let session := (Session.fresh key isVisible world).run backend events
    let controller := session.controller
    (∀ timer, backend.isScheduled session.world timer = decide (controller.phase = .active))
      ∧ (controller.phase = .active →
          Timer.reload.setting? session.calls = some controller.interval
            ∧ Timer.countdown.setting? session.calls = some 1)
      ∧ (controller.phase ≠ .active → ∀ timer : Timer, timer.setting? session.calls = none)
      ∧ (∀ timer seconds earlier, .schedule timer seconds :: earlier <:+ session.calls →
          timer.setting? earlier = none)
      ∧ (∀ timer earlier, .cancel timer :: earlier <:+ session.calls →
          timer.setting? earlier ≠ none)
      ∧ (∀ timer, ∃ made, (session.tick backend timer).calls = made ++ session.calls
          ∧ ∀ call ∈ made, call.isTimed = false)
      ∧ (∀ event, ∃ stopping starting,
          (session.handle backend event).calls = starting ++ (stopping ++ session.calls)
            ∧ (∀ call ∈ stopping, call.isSchedule = false)
            ∧ (∀ call ∈ starting, call.isCancel = false)) := by
  intro session controller
  have hfresh : Session.InTune backend (Session.fresh key isVisible world) := by
    refine ⟨⟨hidle, trivial⟩, Controller.settled_fresh key isVisible, fun timer => ?_⟩
    exact ((Controller.fresh key isVisible).setting?_of_inactive nofun timer).symm
  have hinTune : Session.InTune backend session := hfresh.run hfaithful events
  refine ⟨hinTune.scheduled, ?_, ?_, ?_, ?_, ?_, ?_⟩
  · intro hactive
    rw [hinTune.set, hinTune.set, Controller.setting?, Controller.setting?, if_pos hactive,
      if_pos hactive]
    exact ⟨rfl, rfl⟩
  · intro hinactive timer
    rw [hinTune.set, Controller.setting?_of_inactive hinactive]
  · intro timer seconds earlier hsuffix
    exact hinTune.orderly.permitted hsuffix
  · intro timer earlier hsuffix
    exact hinTune.orderly.permitted hsuffix
  · intro timer
    obtain ⟨made, hcalls, huntimed⟩ := Session.adds_tick backend session timer
    exact ⟨made, hcalls, by simpa using huntimed⟩
  · intro event
    obtain ⟨stopped, ⟨stopping, hstopping, hschedule⟩, starting, hstarting, hcancel⟩ :=
      Session.adds_handle backend session event
    refine ⟨stopping, starting, ?_, by simpa using hschedule, by simpa using hcancel⟩
    rw [hstarting, hstopping]

/-- Two restarts by choice, one by a page that is shown again, and a second restoring, which finds
the choice that was saved: one pair of timers runs, for the last interval. -/
theorem orderly_of_run_of_restarts :
    let events : List Event :=
      [.restore, .choose 60, .choose 30, .visibility false, .visibility true, .tick .countdown,
        .restore]
    let session := (Session.fresh "key" true ⟨[("key", "5")], []⟩).run Bench.backend events
    Bench.backend.Faithful
      ∧ (∀ timer, Bench.backend.isScheduled ⟨[("key", "5")], []⟩ timer = false)
      ∧ Timer.reload.setting? session.calls = some 30
      ∧ Timer.countdown.setting? session.calls = some 1
      ∧ (∀ timer seconds earlier, .schedule timer seconds :: earlier <:+ session.calls →
          timer.setting? earlier = none) := by
  intro events session
  have hidle : ∀ timer, Bench.backend.isScheduled ⟨[("key", "5")], []⟩ timer = false :=
    fun _ => rfl
  obtain ⟨-, hset, -, hscheduled, -⟩ :=
    orderly_of_run Bench.faithful "key" true ⟨[("key", "5")], []⟩ hidle events
  obtain ⟨hreload, hcountdown⟩ := hset (by decide)
  have hinterval : session.controller.interval = 30 := by decide
  exact ⟨Bench.faithful, hidle, hreload.trans (congrArg some hinterval), hcountdown, hscheduled⟩

end AddressBoard.Refresh
