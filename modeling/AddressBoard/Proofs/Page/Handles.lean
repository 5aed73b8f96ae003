import AddressBoard.Page.Browser
import AddressBoard.Proofs.Refresh.Operations
import Mathlib.Tactic.Common

/-!
# Handles of intervals

A page knows its intervals by their handles only: it cancels by a handle, and takes a timer as
scheduled if it has a handle for it. Whatever it asks of its browser, its handles stay those of the
intervals that run, so that a timer is scheduled exactly if its interval runs.
-/

namespace AddressBoard.Page

open Refresh (Call Event Session Timer)

namespace Browser

/-- The handles of the page are those of the running intervals, each at the timer of its interval,
and no handle is given out twice. -/
structure Tracked (browser : Browser) : Prop where
  kept : ∀ interval ∈ browser.intervals,
    browser.handles.get? interval.timer = some interval.handle
  running : ∀ timer handle, browser.handles.get? timer = some handle →
    ∃ interval ∈ browser.intervals, interval.timer = timer ∧ interval.handle = handle
  apart : ∀ timer other handle, browser.handles.get? timer = some handle →
    browser.handles.get? other = some handle → other = timer
  issued : ∀ interval ∈ browser.intervals, interval.handle < browser.nextHandle

theorem tracked_of_empty {browser : Browser} (hnone : browser.intervals = [])
    (hempty : browser.handles = .empty) : browser.Tracked := by
  refine ⟨?_, ?_, ?_, ?_⟩
  · simp [hnone]
  · simp [hempty]
  · simp [hempty]
  · simp [hnone]

section Tracked

variable {browser other : Browser}

theorem Tracked.of_eq (htracked : browser.Tracked)
    (hintervals : other.intervals = browser.intervals) (hhandles : other.handles = browser.handles)
    (hnext : browser.nextHandle ≤ other.nextHandle) : other.Tracked := by
  obtain ⟨hkept, hrunning, hapart, hissued⟩ := htracked
  rw [← hintervals, ← hhandles] at hkept
  rw [← hintervals, ← hhandles] at hrunning
  rw [← hhandles] at hapart
  rw [← hintervals] at hissued
  exact ⟨hkept, hrunning, hapart,
    fun interval hmem => Nat.lt_of_lt_of_le (hissued interval hmem) hnext⟩

/-! ## What handles tell -/

theorem Tracked.isScheduled_iff (htracked : browser.Tracked) {timer : Timer} :
    browser.isScheduled timer = true ↔ ∃ interval ∈ browser.intervals, interval.timer = timer := by
  rw [isScheduled, Option.isSome_iff_exists]
  constructor
  · rintro ⟨handle, hhandle⟩
    obtain ⟨interval, hmem, htimer, -⟩ := htracked.running timer handle hhandle
    exact ⟨interval, hmem, htimer⟩
  · rintro ⟨interval, hmem, rfl⟩
    exact ⟨_, htracked.kept interval hmem⟩

/-- A handle that the page has was given out before. -/
theorem Tracked.lt_nextHandle (htracked : browser.Tracked) {timer : Timer} {handle : Nat}
    (hhandle : browser.handles.get? timer = some handle) : handle < browser.nextHandle := by
  obtain ⟨interval, hmem, -, rfl⟩ := htracked.running timer handle hhandle
  exact htracked.issued interval hmem

theorem Tracked.get?_ne_iff (htracked : browser.Tracked) {timer : Timer} {interval : Interval}
    (hmem : interval ∈ browser.intervals) :
    browser.handles.get? timer ≠ some interval.handle ↔ interval.timer ≠ timer := by
  rw [not_iff_not]
  constructor
  · exact fun hhandle => htracked.apart _ _ _ hhandle (htracked.kept interval hmem)
  · rintro rfl
    exact htracked.kept interval hmem

/-- Clearing the interval with the handle of a timer clears the intervals of this timer. -/
theorem Tracked.intervals_cancel (htracked : browser.Tracked) (timer : Timer) :
    (browser.cancel timer).intervals
      = browser.intervals.filter fun interval => interval.timer ≠ timer := by
  apply List.filter_congr
  intro interval hmem
  rw [decide_eq_decide]
  exact htracked.get?_ne_iff hmem

theorem cancel_of_unscheduled {timer : Timer} (hidle : ¬ browser.isScheduled timer = true) :
    browser.cancel timer = browser := by
  have hnone : browser.handles.get? timer = none := by
    simpa [isScheduled] using hidle
  have hhandles : browser.handles.set none timer = browser.handles := by
    rw [← hnone, Handles.set_get?]
  have hintervals : browser.intervals.filter
      (fun interval => browser.handles.get? timer ≠ some interval.handle) = browser.intervals :=
    List.filter_eq_self.mpr fun interval _ => by simp [hnone]
  unfold cancel
  rw [hintervals, hhandles]

/-! ## What calls do to handles -/

theorem Tracked.mem_cancel_iff (htracked : browser.Tracked) {timer : Timer} {interval : Interval} :
    interval ∈ (browser.cancel timer).intervals
      ↔ interval ∈ browser.intervals ∧ interval.timer ≠ timer := by
  rw [htracked.intervals_cancel, List.mem_filter, decide_eq_true_eq]

theorem get?_cancel {timer asked : Timer} {handle : Nat}
    (hhandle : (browser.cancel timer).handles.get? asked = some handle) :
    asked ≠ timer ∧ browser.handles.get? asked = some handle := by
  have hasked : asked ≠ timer := by
    rintro rfl
    rw [cancel, Handles.get?_set_self] at hhandle
    cases hhandle
  rw [cancel, Handles.get?_set_of_ne _ _ hasked] at hhandle
  exact ⟨hasked, hhandle⟩

theorem Tracked.cancel (htracked : browser.Tracked) (timer : Timer) :
    (browser.cancel timer).Tracked := by
  refine ⟨?_, ?_, ?_, ?_⟩
  · intro interval hmem
    obtain ⟨holder, hother⟩ := htracked.mem_cancel_iff.mp hmem
    rw [Browser.cancel, Handles.get?_set_of_ne _ _ hother]
    exact htracked.kept interval holder
  · intro asked handle hhandle
    obtain ⟨hasked, hbefore⟩ := get?_cancel hhandle
    obtain ⟨interval, hmem, rfl, hsame⟩ := htracked.running asked handle hbefore
    exact ⟨interval, htracked.mem_cancel_iff.mpr ⟨hmem, hasked⟩, rfl, hsame⟩
  · intro asked other handle hasked hother
    exact htracked.apart asked other handle (get?_cancel hasked).2 (get?_cancel hother).2
  · exact fun interval hmem => htracked.issued interval (htracked.mem_cancel_iff.mp hmem).1

/-- A new interval in place of none, under a handle that was never given out. -/
theorem Tracked.push (htracked : browser.Tracked) {interval : Interval}
    (hidle : browser.handles.get? interval.timer = none)
    (hnext : interval.handle = browser.nextHandle)
    (hintervals : other.intervals = browser.intervals ++ [interval])
    (hhandles : other.handles = browser.handles.set (some interval.handle) interval.timer)
    (hissued : other.nextHandle = browser.nextHandle + 1) : other.Tracked := by
  have hget : ∀ asked, asked ≠ interval.timer →
      other.handles.get? asked = browser.handles.get? asked := fun asked hasked => by
    rw [hhandles, Handles.get?_set_of_ne _ _ hasked]
  have hself : other.handles.get? interval.timer = some interval.handle := by
    rw [hhandles, Handles.get?_set_self]
  have hnew : ∀ asked, browser.handles.get? asked ≠ some interval.handle := by
    intro asked hasked
    exact Nat.lt_irrefl _ (hnext ▸ htracked.lt_nextHandle hasked)
  refine ⟨?_, ?_, ?_, ?_⟩
  · intro running hmem
    rw [hintervals, List.mem_append, List.mem_singleton] at hmem
    rcases hmem with holder | rfl
    · have hkept := htracked.kept running holder
      have hrunning : running.timer ≠ interval.timer := by
        intro hsame
        rw [hsame, hidle] at hkept
        cases hkept
      rw [hget _ hrunning]
      exact hkept
    · exact hself
  · intro asked handle hasked
    rw [hintervals]
    by_cases hsame : asked = interval.timer
    · subst hsame
      exact ⟨interval, List.mem_append_right _ List.mem_cons_self, rfl,
        Option.some.inj (hself.symm.trans hasked)⟩
    · rw [hget asked hsame] at hasked
      obtain ⟨older, hmem, htimer, hhandle⟩ := htracked.running asked handle hasked
      exact ⟨older, List.mem_append_left _ hmem, htimer, hhandle⟩
  · intro asked also handle hasked halso
    by_cases hfirst : asked = interval.timer <;> by_cases hsecond : also = interval.timer
    · rw [hfirst, hsecond]
    · rw [hget also hsecond, ← hasked, hfirst, hself] at halso
      exact absurd halso (hnew also)
    · rw [hget asked hfirst, ← halso, hsecond, hself] at hasked
      exact absurd hasked (hnew asked)
    · rw [hget asked hfirst] at hasked
      rw [hget also hsecond] at halso
      exact htracked.apart asked also handle hasked halso
  · intro running hmem
    rw [hintervals, List.mem_append, List.mem_singleton] at hmem
    rw [hissued]
    rcases hmem with holder | rfl
    · exact Nat.lt_succ_of_lt (htracked.issued running holder)
    · omega

theorem Tracked.schedule (htracked : browser.Tracked) (timer : Timer) (seconds : Nat) :
    (browser.schedule timer seconds).Tracked := by
  have hcancelled := htracked.cancel timer
  unfold Browser.schedule
  simp only
  split
  · exact hcancelled.of_eq rfl rfl (Nat.le_refl _)
  · refine hcancelled.push ?_ rfl rfl rfl rfl
    exact Handles.get?_set_self _ _ _

/-- Whatever a page asks of its browser, its handles stay those of the intervals that run. -/
theorem Tracked.perform (htracked : browser.Tracked) (call : Call) :
    (browser.perform call).Tracked := by
  cases call with
  | schedule timer seconds => exact htracked.schedule timer seconds
  | cancel timer => exact htracked.cancel timer
  | reload =>
    rw [Browser.perform, Browser.reload]
    split <;> exact htracked.of_eq rfl rfl (Nat.le_refl _)
  | _ => exact htracked.of_eq rfl rfl (Nat.le_refl _)

/-! ## What passes -/

/-- An interval that fires keeps its timer and its handle. -/
theorem Tracked.reach (htracked : browser.Tracked) (interval : Interval) :
    (browser.reach interval).Tracked := by
  have hbefore : ∀ later ∈ (browser.reach interval).intervals, ∃ older ∈ browser.intervals,
      later.timer = older.timer ∧ later.handle = older.handle := by
    intro later hmem
    obtain ⟨older, holder, rfl⟩ := List.mem_map.mp hmem
    refine ⟨older, holder, ?_, ?_⟩ <;> split <;> rfl
  refine ⟨?_, ?_, htracked.apart, ?_⟩
  · intro later hmem
    obtain ⟨older, holder, htimer, hhandle⟩ := hbefore later hmem
    rw [htimer, hhandle]
    exact htracked.kept older holder
  · intro timer handle hget
    obtain ⟨older, holder, htimer, hhandle⟩ := htracked.running timer handle hget
    refine ⟨_, List.mem_map_of_mem holder, ?_, ?_⟩
    · rw [← htimer]
      split <;> rfl
    · rw [← hhandle]
      split <;> rfl
  · intro later hmem
    obtain ⟨older, holder, -, hhandle⟩ := hbefore later hmem
    rw [hhandle]
    exact htracked.issued older holder

end Tracked

/-! ## Sessions -/

section Sessions

variable {session : Session Browser}

theorem Tracked.handle (htracked : session.world.Tracked) (event : Event) :
    (session.handle backend event).world.Tracked :=
  Session.kept_handle (fun _ call _ hkept => hkept.perform call) htracked

theorem Tracked.start (htracked : session.world.Tracked) :
    (session.start backend).world.Tracked :=
  Session.kept_start (fun _ call _ hkept => hkept.perform call) htracked

end Sessions

end Browser

end AddressBoard.Page
