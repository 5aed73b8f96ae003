import AddressBoard.Proofs.Refresh.Trace

/-!
# Late ticks

A tick can come late, when its timer was already cancelled. A session drops it if the backend no
longer reports the timer, and if the page is hidden; its own phase it does not ask. So a backend
that goes on reporting a cancelled timer makes it reload a page whose refreshing is off, and exactly
as often as such ticks come while the page is visible. With a faithful backend only an active
session reloads.
-/

namespace AddressBoard.Refresh

/-- The change of the world before the turn leaves alone which timers are reported. -/
def Turn.IsSteady {World : Type} (backend : Backend World) (turn : Turn World) : Prop :=
  ∀ world timer, backend.isScheduled (turn.change world) timer = backend.isScheduled world timer

namespace Session

variable {World : Type}

/-- The turn is a tick of the reload timer on which the session acts. -/
def hears (backend : Backend World) (session : Session World) (turn : Turn World) : Bool :=
  decide (turn.event = .tick .reload) && backend.isScheduled (turn.change session.world) .reload
    && session.controller.isVisible

def heard (backend : Backend World) : List (Turn World) → Session World → Nat
  | [], _ => 0
  | turn :: turns, session =>
    heard backend turns (session.take backend turn) + if session.hears backend turn then 1 else 0

/-- Refreshing is off, and no turn selects or restores an interval that is not 0. -/
def StaysOff (backend : Backend World) : List (Turn World) → Session World → Prop
  | [], session => session.controller.interval = 0
  | turn :: turns, session =>
    session.controller.interval = 0 ∧ StaysOff backend turns (session.take backend turn)

instance decidableStaysOff (backend : Backend World) :
    ∀ (turns : List (Turn World)) (session : Session World),
      Decidable (session.StaysOff backend turns)
  | [], session => inferInstanceAs (Decidable (session.controller.interval = 0))
  | turn :: turns, session =>
    have := decidableStaysOff backend turns (session.take backend turn)
    inferInstanceAs (Decidable (_ ∧ _))

variable {backend : Backend World} {session : Session World}

/-! ## Reloads are ticks that are heard -/

theorem calls_take_of_tick (change : World → World) :
    (session.take backend ⟨change, .tick .reload⟩).calls
      = if session.hears backend ⟨change, .tick .reload⟩ then .reload :: session.calls
        else session.calls := by
  cases hscheduled : backend.isScheduled (change session.world) .reload <;>
    cases hvisible : session.controller.isVisible <;>
      simp [take, inWorld, handle, tick, hears, hscheduled, hvisible]

theorem reloads_take (turn : Turn World) :
    (session.take backend turn).calls.count .reload
      = session.calls.count .reload + if session.hears backend turn then 1 else 0 := by
  obtain ⟨change, event⟩ := turn
  cases event with
  | restore =>
    rw [take, handle, ← count_reload_untimed, untimed_restore, ← count_reload_untimed session.calls]
    simp [hears, inWorld]
  | choose seconds =>
    rw [take, handle, ← count_reload_untimed, untimed_choose, ← count_reload_untimed session.calls]
    simp [hears, inWorld]
  | visibility isVisible =>
    rw [take, handle, ← count_reload_untimed, untimed_visibility,
      ← count_reload_untimed session.calls]
    split <;> simp [hears, inWorld]
  | tick timer =>
    cases timer with
    | reload =>
      rw [calls_take_of_tick]
      split <;> simp
    | countdown =>
      rw [take, handle, ← count_reload_untimed, untimed_tick, untimed_countDown,
        ← count_reload_untimed session.calls]
      split
      · simp only
        split <;> simp [hears, inWorld]
      · simp [hears, inWorld]

theorem reloads_takeAll (turns : List (Turn World)) :
    (session.takeAll backend turns).calls.count .reload
      = session.calls.count .reload + session.heard backend turns := by
  induction turns generalizing session with
  | nil => rfl
  | cons turn turns ih =>
    change ((session.take backend turn).takeAll backend turns).calls.count .reload = _
    rw [ih, reloads_take, heard]
    omega

/-! ## Refreshing that is off -/

theorem StaysOff.interval {turns : List (Turn World)} (hoff : session.StaysOff backend turns) :
    session.controller.interval = 0 := by
  cases turns with
  | nil => exact hoff
  | cons turn turns => exact hoff.1

theorem StaysOff.takeAll {turns : List (Turn World)} (hoff : session.StaysOff backend turns) :
    (session.takeAll backend turns).controller.interval = 0 := by
  induction turns generalizing session with
  | nil => exact hoff
  | cons turn turns ih => exact ih hoff.2

/-- A page that is visible while the session is not active has refreshing switched off. -/
theorem phase_ne_active_iff (hsettled : session.controller.Settled)
    (hvisible : session.controller.isVisible = true) :
    session.controller.phase ≠ .active ↔ session.controller.phase = .disabled := by
  rw [hsettled.phase, ne_eq, phaseFor_eq_active_iff, phaseFor_eq_disabled_iff]
  simp [hvisible]

/-- A reload outside the active phase is a late tick: the timer was cancelled when refreshing was
switched off, and the backend still reports it. -/
theorem active_of_reload_iff (hsettled : session.controller.Settled) (change : World → World) :
    ((session.take backend ⟨change, .tick .reload⟩).calls ≠ session.calls →
        session.controller.phase = .active)
      ↔ ¬ (session.controller.phase = .disabled ∧ session.controller.isVisible = true
            ∧ backend.isScheduled (change session.world) .reload = true) := by
  rw [calls_take_of_tick]
  constructor
  · rintro honly ⟨hdisabled, hvisible, hreported⟩
    have hactive : session.controller.phase = .active :=
      honly (by simp [hears, hvisible, hreported])
    rw [hdisabled] at hactive
    cases hactive
  · intro hnone hreload
    by_contra hinactive
    have hheard : session.hears backend ⟨change, .tick .reload⟩ = true := by
      by_contra hdropped
      exact hreload (if_neg hdropped)
    simp only [hears, decide_true, Bool.true_and, Bool.and_eq_true] at hheard
    obtain ⟨hreported, hvisible⟩ := hheard
    exact hnone ⟨(phase_ne_active_iff hsettled hvisible).mp hinactive, hvisible, hreported⟩

/-! ## Faithful backends -/

section Faithful

theorem InTune.inWorld (hinTune : InTune backend session) {world : World}
    (hsame : ∀ timer, backend.isScheduled world timer = backend.isScheduled session.world timer) :
    InTune backend (session.inWorld world) where
  reported timer := (hsame timer).trans (hinTune.reported timer)
  orderly := hinTune.orderly
  settled := hinTune.settled
  set := hinTune.set

theorem InTune.take (hfaithful : backend.Faithful) (hinTune : InTune backend session)
    {turn : Turn World} (hsteady : turn.IsSteady backend) :
    InTune backend (session.take backend turn) :=
  (hinTune.inWorld (hsteady session.world)).handle hfaithful turn.event

theorem InTune.takeAll (hfaithful : backend.Faithful) (hinTune : InTune backend session)
    {turns : List (Turn World)} (hsteady : ∀ turn ∈ turns, turn.IsSteady backend) :
    InTune backend (session.takeAll backend turns) :=
  takeAll_keeps (InTune backend)
    (fun _ hinTune turn hmem => hinTune.take hfaithful (hsteady turn hmem)) hinTune

theorem InTune.active_of_hears (hinTune : InTune backend session) {turn : Turn World}
    (hsteady : turn.IsSteady backend) (hhears : session.hears backend turn = true) :
    session.controller.phase = .active := by
  simp only [hears, Bool.and_eq_true] at hhears
  have hreported : backend.isScheduled session.world .reload = true := by
    rw [← hsteady session.world .reload]
    exact hhears.1.2
  rw [hinTune.scheduled] at hreported
  exact of_decide_eq_true hreported

theorem InTune.heard_eq_zero (hfaithful : backend.Faithful) (hinTune : InTune backend session)
    {turns : List (Turn World)} (hsteady : ∀ turn ∈ turns, turn.IsSteady backend)
    (hoff : session.StaysOff backend turns) : session.heard backend turns = 0 := by
  induction turns generalizing session with
  | nil => rfl
  | cons turn turns ih =>
    have hturn : turn.IsSteady backend := hsteady turn List.mem_cons_self
    have hlater := ih (hinTune.take hfaithful hturn)
      (fun other hmem => hsteady other (List.mem_cons_of_mem turn hmem)) hoff.2
    have hdropped : ¬ session.hears backend turn = true := by
      intro hhears
      have hactive := hinTune.active_of_hears hturn hhears
      rw [hinTune.settled.phase, phaseFor_eq_active_iff] at hactive
      exact Nat.ne_of_gt hactive.1 hoff.1
    rw [heard, hlater, if_neg hdropped]

end Faithful

end Session

/-- **Which late ticks reload.** A tick of the reload timer reloads the page exactly if the backend
reports the timer and the page is visible; it comes from an active session unless refreshing is off
and the timer is still reported. While refreshing stays off, the page is reloaded as often as such
ticks are heard, which with a faithful backend is never. -/
theorem reload_of_late_tick {World : Type} (backend : Backend World) (key : String)
    (isVisible : Bool) (world : World) (turns : List (Turn World)) :
    let session := (Session.fresh key isVisible world).takeAll backend turns
    let controller := session.controller
    (∀ change, let next := session.take backend ⟨change, .tick .reload⟩
        let reported := backend.isScheduled (change session.world) .reload
        next.calls = (if reported && controller.isVisible then .reload :: session.calls
            else session.calls)
          ∧ ((next.calls ≠ session.calls → controller.phase = .active)
              ↔ ¬ (controller.phase = .disabled ∧ controller.isVisible = true
                    ∧ reported = true)))
      ∧ (∀ change window, let off := session.take backend ⟨change, .choose 0⟩
          let after := off.takeAll backend window
          off.StaysOff backend window →
          after.controller.phase = .disabled
            ∧ after.calls.count .reload
                = session.calls.count .reload + off.heard backend window)
      ∧ (backend.Faithful → (∀ timer, backend.isScheduled world timer = false) →
          (∀ turn ∈ turns, turn.IsSteady backend) →
          (∀ turn, turn.IsSteady backend → turn.event = .tick .reload →
              (session.take backend turn).calls ≠ session.calls → controller.phase = .active)
            ∧ ∀ turn window, turn.IsSteady backend → turn.event = .choose 0 →
                (∀ later ∈ window, later.IsSteady backend) →
                let off := session.take backend turn
                off.StaysOff backend window →
                (off.takeAll backend window).calls.count .reload
                  = session.calls.count .reload) := by
  intro session controller
  have hsettled : controller.Settled :=
    Session.settled_takeAll (Controller.settled_fresh key isVisible) turns
  have hquiet : ∀ turn : Turn World, turn.event = .choose 0 →
      (session.take backend turn).calls.count .reload = session.calls.count .reload := by
    intro turn hchoice
    rw [Session.reloads_take, Session.hears, hchoice]
    rfl
  refine ⟨?_, ?_, ?_⟩
  · intro change next reported
    refine ⟨?_, Session.active_of_reload_iff hsettled change⟩
    rw [Session.calls_take_of_tick, Session.hears, decide_eq_true rfl, Bool.true_and]
  · intro change window off after hoff
    have hafter : after.controller.Settled :=
      Session.settled_takeAll (Session.settled_handle (by exact hsettled) (.choose 0)) window
    refine ⟨?_, ?_⟩
    · rw [hafter.phase, phaseFor_eq_disabled_iff]
      exact hoff.takeAll
    · rw [Session.reloads_takeAll, hquiet ⟨change, .choose 0⟩ rfl]
  · intro hfaithful hidle hsteady
    have hfresh : Session.InTune backend (Session.fresh key isVisible world) := by
      refine ⟨⟨hidle, trivial⟩, Controller.settled_fresh key isVisible, fun timer => ?_⟩
      exact ((Controller.fresh key isVisible).setting?_of_inactive nofun timer).symm
    have hinTune : Session.InTune backend session := hfresh.takeAll hfaithful hsteady
    refine ⟨?_, ?_⟩
    · rintro ⟨change, event⟩ hturn rfl hreload
      refine hinTune.active_of_hears hturn ?_
      by_contra hdropped
      exact hreload (by rw [Session.calls_take_of_tick, if_neg hdropped])
    · intro turn window hturn hchoice hwindow off hoff
      have hlater : Session.InTune backend off := hinTune.take hfaithful hturn
      rw [Session.reloads_takeAll, hquiet turn hchoice,
        hlater.heard_eq_zero hfaithful hwindow hoff, Nat.add_zero]

/-- A backend that goes on reporting what was cancelled. -/
def Bench.stubborn : Backend Bench where
  isScheduled := backend.isScheduled
  stored? := backend.stored?
  saveFault? := backend.saveFault?
  perform bench
    | .cancel _ => bench
    | call => bench.perform call

/-- Refreshing is switched off after 30 s were chosen. The stubborn backend lets two late ticks
through, the faithful one none. -/
theorem reload_of_late_tick_of_switched_off :
    let turns : List (Turn Bench) := [⟨id, .choose 30⟩, ⟨id, .tick .countdown⟩]
    let off : Turn Bench := ⟨id, .choose 0⟩
    let window : List (Turn Bench) :=
      [⟨id, .tick .reload⟩, ⟨id, .tick .countdown⟩, ⟨id, .visibility true⟩, ⟨id, .tick .reload⟩]
    let session := (Session.fresh "key" true ⟨[], []⟩).takeAll Bench.stubborn turns
    let obeyed := (Session.fresh "key" true ⟨[], []⟩).takeAll Bench.backend turns
    (session.take Bench.stubborn off).StaysOff Bench.stubborn window
      ∧ ((session.take Bench.stubborn off).takeAll Bench.stubborn window).calls.count .reload = 2
      ∧ (∀ turn ∈ turns, turn.IsSteady Bench.backend)
      ∧ (obeyed.take Bench.backend off).StaysOff Bench.backend window
      ∧ ((obeyed.take Bench.backend off).takeAll Bench.backend window).calls.count .reload = 0 := by
  intro turns off window session obeyed
  obtain ⟨hstubborn, hobeyed, htwo⟩ :
      (session.take Bench.stubborn off).StaysOff Bench.stubborn window
        ∧ (obeyed.take Bench.backend off).StaysOff Bench.backend window
        ∧ session.calls.count .reload
            + (session.take Bench.stubborn off).heard Bench.stubborn window = 2 := by
    decide +revert
  have hsteady : ∀ turn : Turn Bench, turn.change = id → turn.IsSteady Bench.backend := by
    intro turn hchange world timer
    rw [hchange]
    rfl
  have hturns : ∀ turn ∈ turns, turn.IsSteady Bench.backend := by
    intro turn hmem
    refine hsteady turn ?_
    simp only [turns, List.mem_cons, List.not_mem_nil, or_false] at hmem
    rcases hmem with rfl | rfl <;> rfl
  have hwindow : ∀ turn ∈ window, turn.IsSteady Bench.backend := by
    intro turn hmem
    refine hsteady turn ?_
    simp only [window, List.mem_cons, List.not_mem_nil, or_false] at hmem
    rcases hmem with rfl | rfl | rfl | rfl <;> rfl
  obtain ⟨-, hheard, -⟩ := reload_of_late_tick Bench.stubborn "key" true ⟨[], []⟩ turns
  obtain ⟨-, -, hfaithful⟩ := reload_of_late_tick Bench.backend "key" true ⟨[], []⟩ turns
  obtain ⟨-, hsilent⟩ := hfaithful Bench.faithful (fun _ => rfl) hturns
  refine ⟨hstubborn, ?_, hturns, hobeyed, ?_⟩
  · exact (hheard id window hstubborn).2.trans htwo
  · exact hsilent off window (hsteady off rfl) rfl hwindow hobeyed

/-- Refreshing was switched off while the page is visible, and a late tick reloads it. -/
theorem reload_while_disabled :
    let turns : List (Turn Bench) := [⟨id, .choose 30⟩, ⟨id, .choose 0⟩]
    let session := (Session.fresh "key" true ⟨[], []⟩).takeAll Bench.stubborn turns
    session.controller.phase = .disabled ∧ session.controller.interval = 0
      ∧ (session.take Bench.stubborn ⟨id, .tick .reload⟩).calls = .reload :: session.calls := by
  intro turns session
  exact ⟨rfl, rfl, rfl⟩

end AddressBoard.Refresh
