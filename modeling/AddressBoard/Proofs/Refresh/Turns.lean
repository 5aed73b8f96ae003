import AddressBoard.Proofs.Refresh.Past
import Mathlib.Tactic.Common

/-!
# Sessions in a world that does as it likes

Nothing is asked of the backend here: what it reports as scheduled may have nothing to do with the
calls to it, and between two events its world may change by itself. What a session knows of itself
stays in order all the same, since no operation believes the backend, and a page that is hidden
stays still whatever ticks come.
-/

namespace AddressBoard.Refresh

/-- An event, and how the world has changed by itself before it. -/
structure Turn (World : Type) where
  change : World → World
  event : Event

/-- The events that leave a hidden page hidden and do not start anything. -/
def Event.isIdle : Event → Bool
  | .tick _ | .visibility false => true
  | .restore | .choose _ | .visibility true => false

def Event.isTick : Event → Bool
  | .tick _ => true
  | .restore | .choose _ | .visibility _ => false

theorem Event.eq_or_isTick_of_isIdle {event : Event} (hidle : event.isIdle = true) :
    event = .visibility false ∨ event.isTick = true := by
  match event with
  | .visibility false => exact Or.inl rfl
  | .tick _ => exact Or.inr rfl

namespace Session

variable {World : Type} (backend : Backend World)

def inWorld (world : World) (session : Session World) : Session World := { session with world }

def take (session : Session World) (turn : Turn World) : Session World :=
  (session.inWorld (turn.change session.world)).handle backend turn.event

def takeAll (turns : List (Turn World)) (session : Session World) : Session World :=
  turns.foldl (take backend) session

variable {backend}

/-- What every turn of a run keeps, the run keeps. -/
theorem takeAll_keeps (kept : Session World → Prop) {turns : List (Turn World)}
    (htake : ∀ session, kept session → ∀ turn ∈ turns, kept (session.take backend turn))
    {session : Session World} (hkept : kept session) :
    kept (session.takeAll backend turns) := by
  induction turns generalizing session with
  | nil => exact hkept
  | cons turn turns ih =>
    refine ih (fun session hkept later hmem => ?_) (htake session hkept turn List.mem_cons_self)
    exact htake session hkept later (List.mem_cons_of_mem turn hmem)

end Session

/-! ## The invariant -/

/-- The phase is the one that the interval and the visibility call for, and what remains is a part
of the interval that is not over. -/
structure Controller.Settled (controller : Controller) : Prop where
  phase : controller.phase = phaseFor controller.interval controller.isVisible
  remaining_le : controller.remaining ≤ controller.interval
  remaining_eq_zero : controller.remaining = 0 ↔ controller.interval = 0

namespace Controller

variable {controller : Controller}

theorem settled_fresh (key : String) (isVisible : Bool) : (fresh key isVisible).Settled :=
  ⟨rfl, Nat.le_refl 0, Iff.rfl⟩

theorem settled_started (hwhole : controller.remaining = controller.interval) :
    controller.started.Settled := by
  have hremaining : controller.started.remaining = controller.started.interval :=
    remaining_started hwhole
  exact ⟨rfl, Nat.le_of_eq hremaining, by rw [hremaining]⟩

theorem Settled.shown (hsettled : controller.Settled) : controller.shown.Settled := by
  unfold Controller.shown
  split
  · exact settled_started rfl
  · next hoff =>
    have hzero : controller.interval = 0 := by omega
    refine ⟨?_, hsettled.remaining_le, hsettled.remaining_eq_zero⟩
    rw [hsettled.phase, phaseFor, phaseFor, if_pos hzero, if_pos hzero]

theorem Settled.hid (hsettled : controller.Settled) : controller.hid.Settled := by
  refine ⟨?_, hsettled.remaining_le, hsettled.remaining_eq_zero⟩
  unfold Controller.hid
  by_cases hzero : controller.interval = 0
  · simp [hsettled.phase, phaseFor, hzero]
  · simp [phaseFor, hzero, Nat.pos_of_ne_zero hzero]

theorem Settled.countedDown (hsettled : controller.Settled) : controller.countedDown.Settled := by
  have hbound := hsettled.remaining_le
  unfold Controller.countedDown
  split
  · next hrunning =>
    have hpos : 0 < controller.interval := Nat.lt_of_lt_of_le hrunning.2 hbound
    refine ⟨hsettled.phase, ?_, ?_⟩
    · simp only
      split <;> omega
    · simp only
      split <;> omega
  · exact hsettled

theorem Settled.phase_of_running (hsettled : controller.Settled)
    (hrunning : controller.isVisible ∧ 0 < controller.remaining) : controller.phase = .active := by
  have hpos : 0 < controller.interval := Nat.lt_of_lt_of_le hrunning.2 hsettled.remaining_le
  rw [hsettled.phase]
  exact phaseFor_eq_active_iff.mpr ⟨hpos, hrunning.1⟩

end Controller

namespace Session

variable {World : Type} {backend : Backend World} {session : Session World}

theorem settled_handle (hsettled : session.controller.Settled) (event : Event) :
    (session.handle backend event).controller.Settled := by
  cases event with
  | restore =>
    rw [handle, controller_restore]
    exact Controller.settled_started rfl
  | choose seconds =>
    rw [handle, controller_choose]
    exact Controller.settled_started rfl
  | visibility isVisible =>
    rw [handle, controller_visibility]
    split
    · exact hsettled.shown
    · exact hsettled.hid
  | tick timer =>
    rw [handle, controller_tick]
    split
    · exact hsettled.countedDown
    · exact hsettled

theorem settled_takeAll (hsettled : session.controller.Settled) (turns : List (Turn World)) :
    (session.takeAll backend turns).controller.Settled := by
  refine takeAll_keeps (·.controller.Settled) (fun session hsettled turn _ => ?_) hsettled
  unfold take
  exact settled_handle (by exact hsettled) turn.event

/-- A second of a countdown that runs. -/
theorem countDown_of_running (hactive : session.controller.phase = .active)
    (hrunning : session.controller.isVisible ∧ 0 < session.controller.remaining) :
    (session.countDown backend).calls
        = .display (.remaining (session.controller.remaining - 1)) :: session.calls
      ∧ (session.countDown backend).world
        = backend.perform session.world
            (.display (.remaining (session.controller.remaining - 1))) := by
  unfold countDown
  rw [if_pos hrunning]
  simp only
  split <;> simp [render, Controller.display, hactive]

/-- A tick of the countdown is dropped, or it takes off a second that is there. -/
theorem tick_countdown (hsettled : session.controller.Settled) :
    session.tick backend .countdown = session
      ∨ ∃ left, left + 1 = session.controller.remaining
        ∧ (session.tick backend .countdown).calls = .display (.remaining left) :: session.calls
        ∧ (session.tick backend .countdown).controller.remaining
            = if left = 0 then session.controller.interval else left := by
  by_cases hrunning : session.controller.isVisible ∧ 0 < session.controller.remaining
  · cases hscheduled : backend.isScheduled session.world .countdown with
    | false => exact Or.inl (by simp [tick, hscheduled])
    | true =>
      have htick : session.tick backend .countdown = session.countDown backend := by
        simp [tick, hscheduled]
      refine Or.inr ⟨session.controller.remaining - 1, Nat.sub_add_cancel hrunning.2, ?_, ?_⟩
      · rw [htick]
        exact (countDown_of_running (hsettled.phase_of_running hrunning) hrunning).1
      · have hlast : session.controller.remaining - 1 = 0 ↔ session.controller.remaining = 1 := by
          omega
        rw [htick, controller_countDown, Controller.countedDown, if_pos hrunning]
        simp only [hlast]
  · have hidle : session.countDown backend = session := if_neg hrunning
    exact Or.inl (by simp [tick, hidle])

/-! ## Hidden pages -/

theorem tick_of_hidden (hhidden : session.controller.isVisible = false) (timer : Timer) :
    session.tick backend timer = session := by
  unfold tick countDown
  cases timer <;> simp [hhidden]

/-- Only the world differs between two sessions. -/
structure Unmoved (before after : Session World) : Prop where
  controller : after.controller = before.controller
  calls : after.calls = before.calls
  notices : after.notices = before.notices

theorem unmoved_take_of_hidden (hhidden : session.controller.isVisible = false) {turn : Turn World}
    (htick : turn.event.isTick = true) : Unmoved session (session.take backend turn) := by
  obtain ⟨change, event⟩ := turn
  cases event with
  | tick timer =>
    have hdropped : (session.inWorld (change session.world)).tick backend timer
        = session.inWorld (change session.world) := tick_of_hidden (by exact hhidden) timer
    rw [take, handle, hdropped]
    exact ⟨rfl, rfl, rfl⟩
  | restore | choose _ | visibility _ => cases htick

theorem unmoved_takeAll_of_hidden (hhidden : session.controller.isVisible = false)
    {turns : List (Turn World)} (hticks : ∀ turn ∈ turns, turn.event.isTick = true) :
    Unmoved session (session.takeAll backend turns) := by
  refine takeAll_keeps (Unmoved session) (fun later hunmoved turn hmem => ?_) ⟨rfl, rfl, rfl⟩
  have hturn : Unmoved later (later.take backend turn) :=
    unmoved_take_of_hidden (by rw [hunmoved.controller, hhidden]) (hticks turn hmem)
  exact ⟨hturn.controller.trans hunmoved.controller, hturn.calls.trans hunmoved.calls,
    hturn.notices.trans hunmoved.notices⟩

/-- A page was hidden and nothing has started since. -/
structure Hidden (before after : Session World) : Prop where
  isVisible : after.controller.isVisible = false
  remaining : after.controller.remaining = before.controller.remaining
  reloads : after.calls.count .reload = before.calls.count .reload

theorem hidden_take_of_hide (session : Session World) {turn : Turn World}
    (hhide : turn.event = .visibility false) : Hidden session (session.take backend turn) := by
  have hcontroller : (session.take backend turn).controller = session.controller.hid := by
    rw [take, hhide, handle, controller_visibility]
    rfl
  refine ⟨by rw [hcontroller]; rfl, by rw [hcontroller]; rfl, ?_⟩
  rw [take, hhide, handle, ← count_reload_untimed, untimed_visibility,
    ← count_reload_untimed session.calls]
  simp [inWorld]

theorem Hidden.take {later : Session World} (hhidden : Hidden session later) {turn : Turn World}
    (hidle : turn.event.isIdle = true) : Hidden session (later.take backend turn) := by
  rcases Event.eq_or_isTick_of_isIdle hidle with hhide | htick
  · have hturn : Hidden later (later.take backend turn) := later.hidden_take_of_hide hhide
    exact ⟨hturn.isVisible, hturn.remaining.trans hhidden.remaining,
      hturn.reloads.trans hhidden.reloads⟩
  · have hunmoved : Unmoved later (later.take backend turn) :=
      unmoved_take_of_hidden hhidden.isVisible htick
    exact ⟨by rw [hunmoved.controller, hhidden.isVisible],
      by rw [hunmoved.controller, hhidden.remaining], by rw [hunmoved.calls, hhidden.reloads]⟩

theorem Hidden.takeAll {later : Session World} (hhidden : Hidden session later)
    {turns : List (Turn World)} (hidle : ∀ turn ∈ turns, turn.event.isIdle = true) :
    Hidden session (later.takeAll backend turns) :=
  takeAll_keeps (Hidden session) (fun _ hhidden turn hmem => hhidden.take (hidle turn hmem)) hhidden

end Session

/-- **A session trusts no backend.** Whatever the backend reports and however its world changes,
the phase is the one that the interval and the visibility call for, the countdown never falls
below what it has, and a page that was hidden neither counts, shows nor reloads when ticks come. -/
theorem settled_of_turns {World : Type} (backend : Backend World) (key : String)
    (isVisible : Bool) (world : World) (turns : List (Turn World)) :
    let session := (Session.fresh key isVisible world).takeAll backend turns
    let controller := session.controller
    (controller.phase = .disabled ↔ controller.interval = 0)
      ∧ (controller.phase = .active ↔ 0 < controller.interval ∧ controller.isVisible = true)
      ∧ (controller.phase = .suspended ↔ 0 < controller.interval ∧ controller.isVisible = false)
      ∧ controller.remaining ≤ controller.interval
      ∧ (controller.remaining = 0 ↔ controller.interval = 0)
      ∧ (∀ change, let next := session.take backend ⟨change, .tick .countdown⟩
          next = session.inWorld (change session.world)
            ∨ ∃ left, left + 1 = controller.remaining
              ∧ next.calls = .display (.remaining left) :: session.calls
              ∧ next.controller.remaining = if left = 0 then controller.interval else left)
      ∧ (∀ (change : World → World) (window ticks : List (Turn World)),
          (∀ turn ∈ window, turn.event.isIdle = true) →
          (∀ turn ∈ ticks, turn.event.isTick = true) →
          let hidden := (session.take backend ⟨change, .visibility false⟩).takeAll backend window
          let after := hidden.takeAll backend ticks
          after.controller = hidden.controller
            ∧ after.calls = hidden.calls
            ∧ after.controller.remaining = controller.remaining
            ∧ after.calls.count .reload = session.calls.count .reload) := by
  intro session controller
  have hsettled : controller.Settled :=
    Session.settled_takeAll (Controller.settled_fresh key isVisible) turns
  refine ⟨?_, ?_, ?_, hsettled.remaining_le, hsettled.remaining_eq_zero, ?_, ?_⟩
  · rw [hsettled.phase]
    exact phaseFor_eq_disabled_iff
  · rw [hsettled.phase]
    exact phaseFor_eq_active_iff
  · rw [hsettled.phase]
    exact phaseFor_eq_suspended_iff
  · intro change next
    exact Session.tick_countdown (by exact hsettled)
  · intro change window ticks hwindow hticks hidden after
    have hhidden : Session.Hidden session hidden :=
      (session.hidden_take_of_hide rfl).takeAll hwindow
    have hunmoved : Session.Unmoved hidden after :=
      Session.unmoved_takeAll_of_hidden hhidden.isVisible hticks
    refine ⟨hunmoved.controller, hunmoved.calls, ?_, ?_⟩
    · rw [hunmoved.controller, hhidden.remaining]
    · rw [hunmoved.calls, hhidden.reloads]

/-- A backend that reports both timers whatever was cancelled: 4 s of 30 s have passed when the
page is hidden, and then ticks of both timers still come. -/
theorem settled_of_turns_of_stubborn :
    let stubborn : Backend Bench := { Bench.backend with isScheduled := fun _ _ => true }
    let turns : List (Turn Bench) :=
      [⟨id, .choose 30⟩, ⟨id, .tick .countdown⟩, ⟨id, .tick .countdown⟩, ⟨id, .tick .countdown⟩,
        ⟨id, .tick .countdown⟩]
    let window : List (Turn Bench) := [⟨id, .tick .reload⟩, ⟨id, .visibility false⟩]
    let ticks : List (Turn Bench) := [⟨id, .tick .reload⟩, ⟨id, .tick .countdown⟩]
    let session := (Session.fresh "key" true ⟨[], []⟩).takeAll stubborn turns
    let hidden := (session.take stubborn ⟨id, .visibility false⟩).takeAll stubborn window
    let after := hidden.takeAll stubborn ticks
    (∀ turn ∈ window, turn.event.isIdle = true) ∧ (∀ turn ∈ ticks, turn.event.isTick = true)
      ∧ session.controller.phase = .active
      ∧ after.controller.remaining = 26
      ∧ after.calls.count .reload = 0 := by
  intro stubborn turns window ticks session hidden after
  have hwindow : ∀ turn ∈ window, turn.event.isIdle = true := by simp [window, Event.isIdle]
  have hticks : ∀ turn ∈ ticks, turn.event.isTick = true := by simp [ticks, Event.isTick]
  obtain ⟨-, hactive, -, -, -, -, hstill⟩ :=
    settled_of_turns stubborn "key" true ⟨[], []⟩ turns
  obtain ⟨-, -, hremaining, hreloads⟩ := hstill id window ticks hwindow hticks
  have hrunning : session.controller.phase = .active := by
    dsimp only [session]
    exact hactive.mpr (by decide)
  refine ⟨hwindow, hticks, hrunning, ?_, ?_⟩
  · dsimp only [after, hidden, session]
    exact hremaining.trans (by decide)
  · dsimp only [after, hidden, session]
    exact hreloads.trans (by decide)

end AddressBoard.Refresh
