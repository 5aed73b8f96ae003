import AddressBoard.Proofs.Refresh.Operations

/-!
# Faithful backends

A backend is faithful if it reports a timer as scheduled exactly from the call that schedules it to
the call that cancels it. Then the timers of a session run exactly while it is active, after every
operation and whatever was scheduled before its first start.
-/

namespace AddressBoard.Refresh

variable {World : Type}

/-- What a backend reports as scheduled is what the calls to it say. -/
structure Backend.Faithful (backend : Backend World) : Prop where
  schedule : ∀ world timer seconds other,
    backend.isScheduled (backend.perform world (.schedule timer seconds)) other
      = (decide (other = timer) || backend.isScheduled world other)
  cancel : ∀ world timer other,
    backend.isScheduled (backend.perform world (.cancel timer)) other
      = (decide (other ≠ timer) && backend.isScheduled world other)
  others : ∀ world call other, call.isTimed = false →
    backend.isScheduled (backend.perform world call) other = backend.isScheduled world other

/-! ## A bench -/

/-- The least world that can drive a session: what is stored, and which timers are scheduled. -/
structure Bench where
  items : List (String × String)
  timers : List Timer

namespace Bench

def perform (bench : Bench) : Call → Bench
  | .save key value => { bench with items := (key, value) :: bench.items }
  | .schedule timer _ => { bench with timers := timer :: bench.timers }
  | .cancel timer => { bench with timers := bench.timers.filter (· ≠ timer) }
  | _ => bench

def backend : Backend Bench where
  isScheduled bench timer := bench.timers.contains timer
  stored? bench key := bench.items.lookup key
  saveFault? _ := none
  perform := perform

theorem faithful : backend.Faithful where
  schedule bench timer seconds other := by simp [backend, perform]
  cancel bench timer other := by simp [backend, perform, Bool.and_comm]
  others bench call other htimed := by cases call <;> first | rfl | cases htimed

end Bench

/-! ## Timers of a session -/

namespace Session

variable {backend : Backend World} (hfaithful : backend.Faithful) (session : Session World)
include hfaithful

theorem isScheduled_cancel (timer other : Timer) :
    backend.isScheduled (session.cancel backend timer).world other
      = (decide (other ≠ timer) && backend.isScheduled session.world other) := by
  unfold cancel
  split
  · simp [hfaithful.cancel]
  · next hidle =>
    by_cases heq : other = timer
    · simp [heq, hidle]
    · simp [heq]

theorem isScheduled_stop (timer : Timer) :
    backend.isScheduled (session.stop backend).world timer = false := by
  simp only [stop, isScheduled_cancel hfaithful]
  cases timer <;> simp

theorem isScheduled_render (timer : Timer) :
    backend.isScheduled (session.render backend).world timer
      = backend.isScheduled session.world timer :=
  hfaithful.others _ _ _ rfl

theorem isScheduled_start (timer : Timer) :
    backend.isScheduled (session.start backend).world timer
      = decide (session.controller.started.phase = .active) := by
  have hstop := session.isScheduled_stop hfaithful timer
  unfold start Controller.started phaseFor
  rw [isScheduled_render hfaithful]
  by_cases hinterval : session.controller.interval = 0
  · simpa [hinterval, withPhase] using hstop
  · cases hvisible : session.controller.isVisible
    · simpa [hinterval, hvisible, withPhase] using hstop
    · cases timer <;>
        simp [hinterval, hvisible, withPhase, schedule, hfaithful.schedule]

theorem isScheduled_restore (timer : Timer) :
    backend.isScheduled (session.restore backend).world timer
      = decide ((session.restore backend).controller.phase = .active) := by
  rw [controller_restore, restore_eq, world_call, hfaithful.others _ _ _ rfl,
    isScheduled_start hfaithful, controller_loaded]

theorem isScheduled_choose (seconds : Nat) (timer : Timer) :
    backend.isScheduled (session.choose backend seconds).world timer
      = decide ((session.choose backend seconds).controller.phase = .active) := by
  rw [controller_choose]
  simp only [choose, world_call]
  rw [hfaithful.others _ _ _ rfl, isScheduled_start hfaithful]
  simp

theorem isScheduled_visibility (isVisible : Bool) (timer : Timer)
    (hoff : session.controller.interval = 0 → backend.isScheduled session.world timer = false)
    (hphase : session.controller.interval = 0 → session.controller.phase = .disabled) :
    backend.isScheduled (session.visibility backend isVisible).world timer
      = decide ((session.visibility backend isVisible).controller.phase = .active) := by
  rw [controller_visibility]
  by_cases hpos : 0 < session.controller.interval
  · cases isVisible
    · simp only [visibility, hpos, controller_stop, ↓reduceIte, Bool.false_eq_true, withPhase,
        Controller.hid, isScheduled_render hfaithful]
      simpa using isScheduled_stop hfaithful _ timer
    · simp only [visibility, hpos, ↓reduceIte, Controller.shown]
      exact isScheduled_start hfaithful _ timer
  · have hzero : session.controller.interval = 0 := by omega
    cases isVisible
    · simp only [visibility, hpos, controller_stop, ↓reduceIte, Bool.false_eq_true,
        Controller.hid, isScheduled_render hfaithful, hphase hzero]
      simpa using isScheduled_stop hfaithful _ timer
    · simp [visibility, hzero, Controller.shown, hoff hzero, hphase hzero]

theorem isScheduled_tick (fired timer : Timer) :
    backend.isScheduled (session.tick backend fired).world timer
      = backend.isScheduled session.world timer := by
  unfold tick
  split
  · cases fired
    · simp only
      split
      · exact hfaithful.others _ _ _ rfl
      · rfl
    · simp only [countDown]
      split
      · split <;> exact isScheduled_render hfaithful _ timer
      · rfl
  · rfl

end Session

end AddressBoard.Refresh
