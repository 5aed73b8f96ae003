import AddressBoard.Refresh.Session

/-!
# What an operation of a session comes to

An operation leaves a controller that does not depend on the backend, and it makes calls. The calls
that schedule and cancel timers depend on what the backend reports as scheduled; all other calls do
not. The lemmas here state both for every operation and for every backend, so that no later proof
opens an operation again.
-/

namespace AddressBoard.Refresh

/-- The calls that set timers, as against those that store, show and reload. -/
@[simp]
def Call.isTimed : Call → Bool
  | .schedule _ _ | .cancel _ => true
  | .load _ | .save _ _ | .reload | .display _ | .select _ => false

/-- The calls that do not set timers, in their order. -/
def untimed (calls : List Call) : List Call := calls.filter (!·.isTimed)

@[simp]
theorem untimed_nil : untimed [] = [] := rfl

@[simp]
theorem untimed_cons (call : Call) (calls : List Call) :
    untimed (call :: calls) = if call.isTimed then untimed calls else call :: untimed calls := by
  cases call <;> rfl

/-- The calls of a start: what was scheduled is cancelled, and the new state is shown. -/
def Call.isOfStart : Call → Bool
  | .schedule _ _ | .cancel _ | .display _ => true
  | .load _ | .save _ _ | .reload | .select _ => false

/-- The calls that an event can lead to. -/
def Event.mayCall : Event → Call → Bool
  | .restore, .load _ | .restore, .select _ | .choose _, .save _ _ | .choose _, .select _ => true
  | .restore, call | .choose _, call | .visibility _, call => call.isOfStart
  | .tick .reload, .reload => true
  | .tick .countdown, .display _ => true
  | .tick _, _ => false

theorem Event.mayCall_of_isOfStart (event : Event) (hevent : ∀ timer, event ≠ .tick timer)
    {call : Call} (hcall : call.isOfStart = true) : event.mayCall call = true := by
  cases event with
  | tick timer => exact absurd rfl (hevent timer)
  | restore | choose _ | visibility _ =>
    cases call <;> first | rfl | exact hcall

/-- The phase that an interval and the visibility of the page call for. -/
def phaseFor (interval : Nat) (isVisible : Bool) : Phase :=
  if interval = 0 then .disabled else if isVisible then .active else .suspended

theorem phaseFor_eq_disabled_iff {interval : Nat} {isVisible : Bool} :
    phaseFor interval isVisible = .disabled ↔ interval = 0 := by
  unfold phaseFor
  by_cases hinterval : interval = 0 <;> cases isVisible <;> simp [hinterval]

theorem phaseFor_eq_active_iff {interval : Nat} {isVisible : Bool} :
    phaseFor interval isVisible = .active ↔ 0 < interval ∧ isVisible = true := by
  unfold phaseFor
  by_cases hinterval : interval = 0 <;> cases isVisible <;>
    simp [hinterval, Nat.pos_iff_ne_zero]

theorem phaseFor_eq_suspended_iff {interval : Nat} {isVisible : Bool} :
    phaseFor interval isVisible = .suspended ↔ 0 < interval ∧ isVisible = false := by
  unfold phaseFor
  by_cases hinterval : interval = 0 <;> cases isVisible <;>
    simp [hinterval, Nat.pos_iff_ne_zero]

namespace Controller

def started (controller : Controller) : Controller :=
  { controller with
    remaining :=
      if 0 < controller.interval ∧ controller.isVisible then controller.interval
      else controller.remaining
    phase := phaseFor controller.interval controller.isVisible }

def shown (controller : Controller) : Controller :=
  if 0 < controller.interval then
    ({ controller with isVisible := true }.withInterval controller.interval).started
  else { controller with isVisible := true }

def hid (controller : Controller) : Controller :=
  { controller with
    isVisible := false
    phase := if 0 < controller.interval then .suspended else controller.phase }

/-- One second less, the end of the countdown being passed over. -/
def countedDown (controller : Controller) : Controller :=
  if controller.isVisible ∧ 0 < controller.remaining then
    { controller with
      remaining :=
        if controller.remaining = 1 then controller.interval else controller.remaining - 1 }
  else controller

@[simp]
theorem isVisible_shown (controller : Controller) : controller.shown.isVisible = true := by
  unfold shown
  split <;> rfl

@[simp]
theorem interval_countedDown (controller : Controller) :
    controller.countedDown.interval = controller.interval := by
  unfold countedDown
  split <;> rfl

@[simp]
theorem isVisible_countedDown (controller : Controller) :
    controller.countedDown.isVisible = controller.isVisible := by
  unfold countedDown
  split <;> rfl

end Controller

namespace Session

variable {World : Type} (backend : Backend World) (session : Session World)

def savedInterval (world : World) (key : String) : Nat :=
  ((backend.stored? world key).bind preference?).getD 0

/-! ## Single calls -/

@[simp]
theorem controller_call (call : Call) :
    (session.call backend call).controller = session.controller := rfl

@[simp]
theorem world_call (call : Call) :
    (session.call backend call).world = backend.perform session.world call := rfl

@[simp]
theorem calls_call (call : Call) : (session.call backend call).calls = call :: session.calls := rfl

@[simp]
theorem controller_note (notice : Notice) :
    (session.note notice).controller = session.controller := rfl

@[simp]
theorem calls_note (notice : Notice) : (session.note notice).calls = session.calls := rfl

@[simp]
theorem world_note (notice : Notice) : (session.note notice).world = session.world := rfl

@[simp]
theorem controller_cancel (timer : Timer) :
    (session.cancel backend timer).controller = session.controller := by
  unfold cancel
  split <;> rfl

@[simp]
theorem untimed_cancel (timer : Timer) :
    untimed (session.cancel backend timer).calls = untimed session.calls := by
  unfold cancel
  split <;> simp

@[simp]
theorem controller_stop : (session.stop backend).controller = session.controller := by
  simp [stop]

@[simp]
theorem untimed_stop : untimed (session.stop backend).calls = untimed session.calls := by
  simp [stop]

@[simp]
theorem controller_save : (session.save backend).controller = session.controller := by
  unfold save
  simp only
  split <;> rfl

def loaded : Session World :=
  let interval := savedInterval backend session.world session.controller.key
  let session := session.call backend (.load session.controller.key)
  let session := { session with controller := session.controller.withInterval interval }
  if 0 < interval then session.note (.intervalRestored interval) else session

theorem restore_eq :
    session.restore backend
      = ((session.loaded backend).start backend).call backend
          (.select (savedInterval backend session.world session.controller.key)) := rfl

@[simp]
theorem controller_loaded :
    (session.loaded backend).controller
      = session.controller.withInterval
          (savedInterval backend session.world session.controller.key) := by
  unfold loaded
  simp only
  split <;> rfl

@[simp]
theorem calls_loaded :
    (session.loaded backend).calls = .load session.controller.key :: session.calls := by
  unfold loaded
  simp only
  split <;> rfl

@[simp]
theorem world_loaded :
    (session.loaded backend).world
      = backend.perform session.world (.load session.controller.key) := by
  unfold loaded
  simp only
  split <;> rfl

@[simp]
theorem calls_save :
    (session.save backend).calls
      = .save session.controller.key (toString session.controller.interval) :: session.calls := by
  unfold save
  simp only
  split <;> rfl

/-! ## Operations -/

@[simp]
theorem controller_start :
    (session.start backend).controller = session.controller.started := by
  unfold start Controller.started phaseFor
  by_cases hinterval : session.controller.interval = 0
  · simp [hinterval, withPhase, render]
  · have hpos : 0 < session.controller.interval := by omega
    cases hvisible : session.controller.isVisible <;>
      simp [hinterval, hpos, hvisible, withPhase, render, schedule, Controller.withInterval]

@[simp]
theorem untimed_start :
    untimed (session.start backend).calls
      = .display session.controller.started.display :: untimed session.calls := by
  have hcontroller := session.controller_start backend
  unfold start at hcontroller ⊢
  rw [← hcontroller]
  simp only [render, calls_call, controller_call, untimed_cons]
  refine congrArg _ ?_
  split
  · simp [withPhase]
  · split <;> simp [withPhase, schedule]

theorem controller_restore :
    (session.restore backend).controller
      = (session.controller.withInterval
          (savedInterval backend session.world session.controller.key)).started := by
  simp [restore_eq]

theorem untimed_restore :
    untimed (session.restore backend).calls
      = .select (savedInterval backend session.world session.controller.key)
        :: .display (session.restore backend).controller.display
        :: .load session.controller.key :: untimed session.calls := by
  simp [restore_eq]

theorem controller_choose (seconds : Nat) :
    (session.choose backend seconds).controller
      = (session.controller.withInterval seconds).started := by
  simp [choose]

theorem untimed_choose (seconds : Nat) :
    untimed (session.choose backend seconds).calls
      = .select seconds :: .display (session.choose backend seconds).controller.display
        :: .save session.controller.key (toString seconds) :: untimed session.calls := by
  rw [controller_choose]
  simp [choose, Controller.withInterval]

theorem controller_visibility (isVisible : Bool) :
    (session.visibility backend isVisible).controller
      = if isVisible then session.controller.shown else session.controller.hid := by
  cases isVisible
  · unfold visibility Controller.hid
    by_cases hpos : 0 < session.controller.interval <;> simp [hpos, render, withPhase]
  · unfold visibility Controller.shown
    by_cases hpos : 0 < session.controller.interval <;>
      simp [hpos, Controller.withInterval]

theorem untimed_visibility (isVisible : Bool) :
    untimed (session.visibility backend isVisible).calls
      = if isVisible = true ∧ session.controller.interval = 0 then untimed session.calls
        else .display (session.visibility backend isVisible).controller.display
          :: untimed session.calls := by
  rw [controller_visibility]
  cases isVisible
  · unfold visibility Controller.hid
    by_cases hpos : 0 < session.controller.interval <;>
      simp [hpos, render, withPhase]
  · unfold visibility Controller.shown
    by_cases hpos : 0 < session.controller.interval
    · have hne : session.controller.interval ≠ 0 := by omega
      simp [hpos, hne, Controller.withInterval]
    · simp [show session.controller.interval = 0 by omega]

theorem controller_countDown :
    (session.countDown backend).controller = session.controller.countedDown := by
  unfold countDown Controller.countedDown
  split
  · next hrunning =>
    have hlast : session.controller.remaining - 1 = 0 ↔ session.controller.remaining = 1 := by
      omega
    simp only [hlast]
    split <;> rfl
  · rfl

/-- The end of the countdown is shown, although the controller has already passed over it. -/
theorem untimed_countDown :
    untimed (session.countDown backend).calls
      = if session.controller.isVisible ∧ 0 < session.controller.remaining then
          .display { session.controller with
            remaining := session.controller.remaining - 1 }.display :: untimed session.calls
        else untimed session.calls := by
  unfold countDown
  split
  · simp only
    split <;> simp [render]
  · rfl

theorem controller_tick (timer : Timer) :
    (session.tick backend timer).controller
      = if timer = .countdown ∧ backend.isScheduled session.world .countdown then
          session.controller.countedDown
        else session.controller := by
  unfold tick
  cases timer
  · split
    · simp only
      split <;> simp
    · simp
  · simp only [controller_countDown, true_and, apply_ite Session.controller]

theorem untimed_tick (timer : Timer) :
    untimed (session.tick backend timer).calls
      = if backend.isScheduled session.world timer then
          match timer with
          | .reload =>
            if session.controller.isVisible then .reload :: untimed session.calls
            else untimed session.calls
          | .countdown => untimed (session.countDown backend).calls
        else untimed session.calls := by
  unfold tick
  split
  · cases timer
    · simp only
      split <;> simp
    · rfl
  · rfl

/-! ## What a world keeps

What every call of an event keeps true of the world, the event keeps. -/

section Kept

variable {backend} {session} {kept : World → Prop}

theorem kept_cancel (timer : Timer)
    (hcancel : ∀ world, kept world → kept (backend.perform world (.cancel timer)))
    (hkept : kept session.world) : kept (session.cancel backend timer).world := by
  unfold cancel
  split
  · exact hcancel _ hkept
  · exact hkept

theorem kept_stop
    (hcancel : ∀ world timer, kept world → kept (backend.perform world (.cancel timer)))
    (hkept : kept session.world) : kept (session.stop backend).world :=
  kept_cancel .countdown (hcancel · .countdown) (kept_cancel .reload (hcancel · .reload) hkept)

theorem kept_start
    (hstart : ∀ world call, call.isOfStart = true → kept world →
      kept (backend.perform world call))
    (hkept : kept session.world) : kept (session.start backend).world := by
  have hstop : kept (session.stop backend).world :=
    kept_stop (fun world timer => hstart world _ rfl) hkept
  unfold start
  refine hstart _ _ rfl ?_
  split
  · exact hstop
  · split
    · exact hstop
    · exact hstart _ _ rfl (hstart _ _ rfl hstop)

theorem kept_handle {event : Event}
    (hperform : ∀ world call, event.mayCall call = true → kept world →
      kept (backend.perform world call))
    (hkept : kept session.world) : kept (session.handle backend event).world := by
  cases event with
  | restore =>
    have hstart : ∀ world call, call.isOfStart = true → kept world →
        kept (backend.perform world call) := fun world call hcall =>
      hperform world call (Event.mayCall_of_isOfStart .restore nofun hcall)
    rw [handle, restore_eq]
    refine hperform _ _ rfl (kept_start hstart ?_)
    rw [world_loaded]
    exact hperform _ _ rfl hkept
  | choose seconds =>
    have hstart : ∀ world call, call.isOfStart = true → kept world →
        kept (backend.perform world call) := fun world call hcall =>
      hperform world call (Event.mayCall_of_isOfStart (.choose seconds) nofun hcall)
    refine hperform _ _ rfl (kept_start hstart ?_)
    have hstop : kept (session.stop backend).world :=
      kept_stop (fun world timer => hstart world _ rfl) hkept
    unfold save
    simp only
    split
    · exact hperform _ _ rfl hstop
    · exact hstop
  | visibility isVisible =>
    simp only [handle, visibility]
    split
    · split
      · exact kept_start hperform hkept
      · exact hkept
    · refine hperform _ _ rfl ?_
      split <;> exact kept_stop (fun world timer => hperform world _ rfl) hkept
  | tick timer =>
    simp only [handle, tick]
    split
    · cases timer with
      | reload =>
        simp only
        split
        · exact hperform _ _ rfl hkept
        · exact hkept
      | countdown =>
        simp only [countDown]
        split
        · split <;> exact hperform _ _ rfl hkept
        · exact hkept
    · exact hkept

end Kept

/-! ## Runs -/

@[simp]
theorem run_cons (event : Event) (events : List Event) :
    session.run backend (event :: events) = (session.handle backend event).run backend events := rfl

end Session

end AddressBoard.Refresh
