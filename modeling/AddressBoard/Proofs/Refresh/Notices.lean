import AddressBoard.Proofs.Refresh.Operations

/-!
# Notices are not read

A session writes notices and never looks at them. So a session that has other notices goes the same
way through every event.
-/

namespace AddressBoard.Refresh.Session

variable {World : Type} (backend : Backend World) (session : Session World) (notices : List Notice)

theorem cancel_withNotices (timer : Timer) :
    Session.cancel backend timer { session with notices }
      = { session.cancel backend timer with notices } := by
  unfold cancel
  split <;> rfl

theorem stop_withNotices :
    Session.stop backend { session with notices } = { session.stop backend with notices } := by
  unfold stop
  rw [cancel_withNotices backend session notices .reload,
    cancel_withNotices backend (session.cancel backend .reload) notices .countdown]

theorem start_withNotices :
    Session.start backend { session with notices } = { session.start backend with notices } := by
  unfold start
  rw [stop_withNotices]
  simp only
  split
  · rfl
  · split <;> rfl

theorem visibility_withNotices (isVisible : Bool) :
    Session.visibility backend isVisible { session with notices }
      = { session.visibility backend isVisible with notices } := by
  unfold visibility
  simp only
  split
  · split
    · exact start_withNotices backend
        { session with
          controller := ({ session.controller with isVisible } : Controller).withInterval
            session.controller.interval } notices
    · rfl
  · rw [stop_withNotices backend
      { session with controller := { session.controller with isVisible } }]
    simp only
    split <;> rfl

theorem countDown_withNotices :
    Session.countDown backend { session with notices }
      = { session.countDown backend with notices } := by
  unfold countDown
  simp only
  split
  · split <;> rfl
  · rfl

theorem tick_withNotices (timer : Timer) :
    Session.tick backend timer { session with notices }
      = { session.tick backend timer with notices } := by
  unfold tick
  simp only
  split
  · cases timer with
    | reload =>
      simp only
      split <;> rfl
    | countdown => exact countDown_withNotices backend session notices
  · rfl

theorem save_withNotices :
    ∃ others, Session.save backend { session with notices }
      = { session.save backend with notices := others } := by
  unfold save
  simp only
  split
  · exact ⟨notices, rfl⟩
  · exact ⟨_, rfl⟩

theorem choose_withNotices (seconds : Nat) :
    ∃ others, Session.choose backend seconds { session with notices }
      = { session.choose backend seconds with notices := others } := by
  obtain ⟨chosen, hchosen⟩ : ∃ chosen : Session World, chosen = { session.stop backend with
      controller := (session.stop backend).controller.withInterval seconds } := ⟨_, rfl⟩
  obtain ⟨others, hsave⟩ := save_withNotices backend chosen notices
  refine ⟨others, ?_⟩
  have hstart := start_withNotices backend (chosen.save backend) others
  rw [← hsave, hchosen] at hstart
  unfold choose
  rw [stop_withNotices]
  exact congrArg (Session.call backend (.select seconds)) hstart

theorem restore_withNotices :
    ∃ others, Session.restore backend { session with notices }
      = { session.restore backend with notices := others } := by
  obtain ⟨others, hloaded⟩ : ∃ others, Session.loaded backend { session with notices }
      = { session.loaded backend with notices := others } := by
    unfold loaded
    simp only
    split
    · exact ⟨_, rfl⟩
    · exact ⟨_, rfl⟩
  refine ⟨others, ?_⟩
  rw [restore_eq, restore_eq, hloaded, start_withNotices]
  rfl

/-- What a session does depends on none of its notices. -/
theorem handle_withNotices (event : Event) :
    ∃ others, Session.handle backend { session with notices } event
      = { session.handle backend event with notices := others } := by
  cases event with
  | restore => exact restore_withNotices backend session notices
  | choose seconds => exact choose_withNotices backend session notices seconds
  | visibility isVisible =>
    exact ⟨notices, visibility_withNotices backend session notices isVisible⟩
  | tick timer => exact ⟨notices, tick_withNotices backend session notices timer⟩

end AddressBoard.Refresh.Session
