import AddressBoard.Refresh.Session

/-!
# Sessions that failures do not tell apart

A session looks at its world only to learn which timers are scheduled and whether a save would fail.
Two sessions whose worlds agree on the timers stay alike through every event but a restoring. What
is saved, and whether it can be, leaves no trace but the warning that it could not.
-/

namespace AddressBoard.Refresh

variable {World : Type}

/-- The notices but those of a failure to save. -/
def news (notices : List Notice) : List Notice :=
  notices.filter fun
    | .intervalUnsaved _ => false
    | _ => true

/-- A likeness of worlds: it decides which timers are scheduled, every call keeps it, and a save
that only one of two worlds performs keeps it too. -/
structure Likeness (backend : Backend World) where
  alike : World → World → Prop
  symm : ∀ {first second}, alike first second → alike second first
  isScheduled : ∀ {first second}, alike first second → ∀ timer,
    backend.isScheduled first timer = backend.isScheduled second timer
  perform : ∀ {first second}, alike first second → ∀ call,
    alike (backend.perform first call) (backend.perform second call)
  save : ∀ {first second}, alike first second → ∀ key value,
    alike (backend.perform first (.save key value)) second

namespace Session

variable {backend : Backend World}

/-- Two sessions that differ at most in what their worlds may differ in and in warnings of choices
that could not be saved. -/
structure Alike (likeness : Likeness backend) (first second : Session World) : Prop where
  controller : first.controller = second.controller
  world : likeness.alike first.world second.world
  news : news first.notices = news second.notices

variable {likeness : Likeness backend} {first second : Session World}

theorem Alike.symm (halike : Alike likeness first second) : Alike likeness second first :=
  ⟨halike.controller.symm, likeness.symm halike.world, halike.news.symm⟩

theorem Alike.call (halike : Alike likeness first second) (call : Call) :
    Alike likeness (first.call backend call) (second.call backend call) :=
  ⟨halike.controller, likeness.perform halike.world call, halike.news⟩

theorem Alike.note (halike : Alike likeness first second) (notice : Notice) :
    Alike likeness (first.note notice) (second.note notice) := by
  refine ⟨halike.controller, halike.world, ?_⟩
  have hnews := halike.news
  unfold Refresh.news at hnews ⊢
  rw [Session.note, Session.note, List.filter_cons, List.filter_cons, hnews]

/-- The same change to both controllers. -/
theorem Alike.remember (halike : Alike likeness first second)
    (change : Controller → Controller) :
    Alike likeness { first with controller := change first.controller }
      { second with controller := change second.controller } :=
  ⟨congrArg change halike.controller, halike.world, halike.news⟩

theorem Alike.cancel (halike : Alike likeness first second) (timer : Timer) :
    Alike likeness (first.cancel backend timer) (second.cancel backend timer) := by
  unfold Session.cancel
  rw [likeness.isScheduled halike.world timer]
  split
  · exact halike.call (.cancel timer)
  · exact halike

theorem Alike.stop (halike : Alike likeness first second) :
    Alike likeness (first.stop backend) (second.stop backend) :=
  (halike.cancel .reload).cancel .countdown

theorem Alike.render (halike : Alike likeness first second) :
    Alike likeness (first.render backend) (second.render backend) := by
  unfold Session.render
  rw [halike.controller]
  exact halike.call _

theorem Alike.withPhase (halike : Alike likeness first second) (phase : Phase) :
    Alike likeness (first.withPhase phase) (second.withPhase phase) :=
  halike.remember fun controller => { controller with phase }

theorem Alike.schedule (halike : Alike likeness first second) :
    Alike likeness (first.schedule backend) (second.schedule backend) := by
  have hwhole := halike.remember fun controller => controller.withInterval controller.interval
  unfold Session.schedule
  rw [halike.controller] at hwhole ⊢
  exact (hwhole.call _).call _

theorem Alike.start (halike : Alike likeness first second) :
    Alike likeness (first.start backend) (second.start backend) := by
  have hstop := halike.stop
  unfold Session.start
  simp only
  rw [hstop.controller]
  apply Alike.render
  split
  · exact hstop.withPhase .disabled
  · split
    · exact hstop.withPhase .suspended
    · exact hstop.schedule.withPhase .active

/-- One of the sessions may meet a fault where the other meets none, or another one. -/
theorem Alike.save (halike : Alike likeness first second) :
    Alike likeness (first.save backend) (second.save backend) := by
  have hsaved : ∀ {session other : Session World}, Alike likeness session other →
      Alike likeness (session.save backend) other := by
    intro session other hsame
    unfold Session.save
    simp only
    split
    · exact ⟨hsame.controller, likeness.save hsame.world _ _, hsame.news⟩
    · exact ⟨hsame.controller, hsame.world, hsame.news⟩
  exact (hsaved (hsaved halike).symm).symm

theorem Alike.choose (halike : Alike likeness first second) (seconds : Nat) :
    Alike likeness (first.choose backend seconds) (second.choose backend seconds) := by
  have hchosen := halike.stop.remember fun controller => controller.withInterval seconds
  exact hchosen.save.start.call (.select seconds)

theorem Alike.visibility (halike : Alike likeness first second) (isVisible : Bool) :
    Alike likeness (first.visibility backend isVisible) (second.visibility backend isVisible) := by
  have htold := halike.remember fun controller => { controller with isVisible }
  unfold Session.visibility
  simp only
  rw [halike.controller] at htold ⊢
  split
  · split
    · exact (htold.remember fun controller =>
        controller.withInterval second.controller.interval).start
    · exact htold
  · have hstop := htold.stop
    apply Alike.render
    rw [hstop.controller]
    split
    · exact hstop.withPhase .suspended
    · exact hstop

theorem Alike.countDown (halike : Alike likeness first second) :
    Alike likeness (first.countDown backend) (second.countDown backend) := by
  unfold Session.countDown
  rw [halike.controller]
  split
  · have hrest := (halike.remember fun controller =>
      { controller with remaining := controller.remaining - 1 }).render
    simp only
    rw [halike.controller] at hrest
    split
    · exact hrest.remember fun controller => controller.withInterval controller.interval
    · exact hrest
  · exact halike

theorem Alike.tick (halike : Alike likeness first second) (timer : Timer) :
    Alike likeness (first.tick backend timer) (second.tick backend timer) := by
  unfold Session.tick
  rw [likeness.isScheduled halike.world timer, halike.controller]
  split
  · cases timer with
    | reload =>
      simp only
      split
      · exact halike.call .reload
      · exact halike
    | countdown => exact halike.countDown
  · exact halike

/-- No event but a restoring can tell two sessions apart. -/
theorem Alike.handle (halike : Alike likeness first second) {event : Event}
    (hevent : event ≠ .restore) :
    Alike likeness (first.handle backend event) (second.handle backend event) := by
  cases event with
  | restore => exact absurd rfl hevent
  | choose seconds => exact halike.choose seconds
  | visibility isVisible => exact halike.visibility isVisible
  | tick timer => exact halike.tick timer

end Session

end AddressBoard.Refresh
