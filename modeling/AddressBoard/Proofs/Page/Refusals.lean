import AddressBoard.Proofs.Page.Clock
import AddressBoard.Proofs.Refresh.Alike
import AddressBoard.Proofs.Refresh.Preference
import Mathlib.Data.List.Forall2

/-!
# Refusals that a page goes on without

A browser that will not store a choice or reload a page leaves its traces in the storage, the count
of reloads, the console and the warnings, and nowhere else: two runs of a page that differ only in
such refusals look the same at every step. What each refusal leads to is settled where it is met, at
a choice or when the reload timer fires.
-/

namespace AddressBoard.Page

open Refresh (Call Event Likeness Session Timer)

/-- The refusals to store and to reload, as against those to set an interval or to listen. -/
def Refusal.isMild : Refusal → Bool
  | .noStorage | .storageDenied | .getItem | .setItem | .reload => true
  | .setInterval | .documentListener | .buttonListener => false

/-- The same action, or two that fill in mild refusals. The page is not loaded anew. -/
inductive Refilled : Action → Action → Prop
  | click (target : Target) : Refilled (.click target) (.click target)
  | key (name : String) : Refilled (.key name) (.key name)
  | visibility (isHidden : Bool) : Refilled (.visibility isHidden) (.visibility isHidden)
  | advance (millis : Nat) : Refilled (.advance millis) (.advance millis)
  | editRow (index : Nat) (edit : RowEdit) : Refilled (.editRow index edit) (.editRow index edit)
  | refuse {first second : List Refusal} :
    (∀ refusal ∈ first, refusal.isMild = true) → (∀ refusal ∈ second, refusal.isMild = true) →
    Refilled (.refuse first) (.refuse second)

/-! ## Browsers -/

namespace Browser

def IsMild (browser : Browser) : Prop := ∀ refusal ∈ browser.refusals, refusal.isMild = true

theorem IsMild.granted {browser : Browser} (hmild : browser.IsMild) :
    browser.refuses .setInterval = false := by
  refine eq_false_of_ne_true fun hrefuses => ?_
  cases hmild .setInterval (List.contains_iff_mem.mp hrefuses)

/-- The browser without what mild refusals can change. -/
def bared (browser : Browser) : Browser :=
  { browser with storage := [], refusals := [], reloads := 0, console := [] }

/-- A call comes to the same for a browser that refuses nothing and has nothing. -/
theorem bared_perform {browser : Browser} (hgranted : browser.refuses .setInterval = false)
    (call : Call) : (browser.perform call).bared = (browser.bared.perform call).bared := by
  cases call with
  | schedule timer seconds =>
    have hbared : browser.bared.refuses .setInterval = false := rfl
    rw [perform, perform, schedule_of_granted hgranted, schedule_of_granted hbared]
    rfl
  | reload =>
    rw [perform, reload]
    split <;> rfl
  | _ => rfl

theorem reloadCalls_reload (browser : Browser) :
    browser.reload.reloadCalls = browser.reloadCalls + 1 := by
  unfold reload reloadCalls
  split
  · rw [log, List.count_cons_self, Nat.add_assoc]
  · exact Nat.add_right_comm _ _ _

/-- Two browsers that differ at most in what mild refusals can change, and that were asked to reload
equally often. -/
structure Alike (first second : Browser) : Prop where
  bared : first.bared = second.bared
  reloadCalls : first.reloadCalls = second.reloadCalls
  firstMild : first.IsMild
  secondMild : second.IsMild

section Alike

variable {first second : Browser}

theorem Alike.symm (halike : Alike first second) : Alike second first :=
  ⟨halike.bared.symm, halike.reloadCalls.symm, halike.secondMild, halike.firstMild⟩

theorem Alike.intervals (halike : Alike first second) : first.intervals = second.intervals := by
  have hbared : first.bared.intervals = second.bared.intervals := by rw [halike.bared]
  exact hbared

theorem Alike.isScheduled (halike : Alike first second) (timer : Timer) :
    first.isScheduled timer = second.isScheduled timer := by
  have hbared : first.bared.isScheduled timer = second.bared.isScheduled timer := by
    rw [halike.bared]
  exact hbared

theorem IsMild.perform {browser : Browser} (hmild : browser.IsMild) (call : Call) :
    (browser.perform call).IsMild := by
  have hrefusals : (browser.perform call).refusals = browser.refusals :=
    congrArg Prod.snd (surroundings_perform browser call)
  rw [IsMild, hrefusals]
  exact hmild

theorem Alike.perform (halike : Alike first second) (call : Call) :
    Alike (first.perform call) (second.perform call) := by
  refine ⟨?_, ?_, halike.firstMild.perform call, halike.secondMild.perform call⟩
  · rw [bared_perform halike.firstMild.granted, bared_perform halike.secondMild.granted,
      halike.bared]
  · by_cases hreload : call = .reload
    · rw [hreload, Browser.perform, Browser.perform, reloadCalls_reload, reloadCalls_reload,
        halike.reloadCalls]
    · rw [reloadCalls_perform first hreload, reloadCalls_perform second hreload,
        halike.reloadCalls]

/-- A change that looks at nothing that mild refusals can change. -/
theorem Alike.changed (halike : Alike first second) (change : Browser → Browser)
    (hbared : ∀ browser, (change browser).bared = (change browser.bared).bared)
    (hreloadCalls : ∀ browser, (change browser).reloadCalls = browser.reloadCalls)
    (hrefusals : ∀ browser, (change browser).refusals = browser.refusals) :
    Alike (change first) (change second) := by
  refine ⟨?_, ?_, ?_, ?_⟩
  · rw [hbared first, hbared second, halike.bared]
  · rw [hreloadCalls, hreloadCalls, halike.reloadCalls]
  · rw [IsMild, hrefusals]
    exact halike.firstMild
  · rw [IsMild, hrefusals]
    exact halike.secondMild

end Alike

def likeness : Likeness backend where
  alike := Alike
  symm := Alike.symm
  isScheduled := Alike.isScheduled
  perform := Alike.perform
  save halike _ _ := ⟨halike.bared, halike.reloadCalls, halike.firstMild, halike.secondMild⟩

end Browser

namespace Board

/-! ## Boards -/

/-- Two boards whose sessions cannot be told apart, and which are the same otherwise. -/
structure Alike (first second : Board) : Prop where
  board : second = { first with session := second.session }
  session : first.session.Alike Browser.likeness second.session

section Alike

variable {first second : Board}

theorem alike_of_session (board : Board) {session other : Session Browser}
    (hsessions : session.Alike Browser.likeness other) :
    Alike { board with session } { board with session := other } :=
  ⟨rfl, hsessions⟩

theorem Alike.exists_session (halike : Alike first second) :
    ∃ other, second = { first with session := other }
      ∧ first.session.Alike Browser.likeness other :=
  ⟨second.session, halike.board, halike.session⟩

theorem Alike.browser (halike : Alike first second) : first.browser.Alike second.browser :=
  halike.session.world

theorem Alike.handle (halike : Alike first second) {event : Event} (hevent : event ≠ .restore) :
    Alike (first.handle event) (second.handle event) := by
  obtain ⟨other, rfl, hsessions⟩ := halike.exists_session
  exact alike_of_session first (hsessions.handle hevent)

theorem Alike.withBrowser (halike : Alike first second) {browser other : Browser}
    (hbrowsers : browser.Alike other) :
    Alike (first.withBrowser browser) (second.withBrowser other) := by
  obtain ⟨session, rfl, hsessions⟩ := halike.exists_session
  exact alike_of_session first ⟨hsessions.controller, hbrowsers, hsessions.news⟩

theorem Alike.offers (halike : Alike first second) (target : Target) :
    first.offers target = second.offers target := by
  have hshown : first.browser.bared.shown = second.browser.bared.shown := by
    rw [halike.browser.bared]
  obtain ⟨other, rfl, hsessions⟩ := halike.exists_session
  cases target with
  | indicator => exact congrArg Refresh.Display.isVisible hshown
  | _ => rfl

theorem Alike.openHistory (halike : Alike first second) (row : Row) :
    Alike (first.openHistory row) (second.openHistory row) := by
  obtain ⟨other, rfl, hsessions⟩ := halike.exists_session
  unfold Board.openHistory
  simp only
  split
  · exact ⟨rfl, hsessions⟩
  · exact ⟨rfl, hsessions.note _⟩

theorem Alike.press (halike : Alike first second) (target : Target) :
    Alike (first.press target) (second.press target) := by
  cases target with
  | option seconds =>
    have hclosed :
        Alike { first with isMenuOpen := false } { second with isMenuOpen := false } := by
      obtain ⟨other, rfl, hsessions⟩ := halike.exists_session
      exact ⟨rfl, hsessions⟩
    rw [Board.press, Board.press]
    exact hclosed.handle Event.noConfusion
  | history index =>
    have hrows : second.rows = first.rows := by rw [halike.board]
    rw [Board.press, Board.press, hrows]
    split
    · split
      · exact halike.openHistory _
      · exact halike
    · exact halike
  | _ =>
    obtain ⟨other, rfl, hsessions⟩ := halike.exists_session
    exact ⟨rfl, hsessions⟩

theorem Alike.click (halike : Alike first second) (target : Target) :
    Alike (first.click target) (second.click target) := by
  unfold Board.click
  rw [halike.offers]
  split
  · have hpress := halike.press target
    simp only
    split
    · exact hpress
    · obtain ⟨other, heq, hsessions⟩ := hpress.exists_session
      rw [heq]
      exact ⟨rfl, hsessions⟩
  · exact halike

theorem Alike.key (halike : Alike first second) (name : String) :
    Alike (first.key name) (second.key name) := by
  obtain ⟨other, rfl, hsessions⟩ := halike.exists_session
  unfold Board.key
  split
  · exact ⟨rfl, hsessions⟩
  · exact ⟨rfl, hsessions⟩

theorem Alike.visibility (halike : Alike first second) (isHidden : Bool) :
    Alike (first.visibility isHidden) (second.visibility isHidden) := by
  have hchanged := halike.withBrowser (halike.browser.changed
    (fun browser => { browser with isHidden }) (fun _ => rfl) (fun _ => rfl) fun _ => rfl)
  have hlistening : second.isListening = first.isListening := by rw [halike.board]
  rw [visibility_eq, visibility_eq, hlistening]
  split
  · exact hchanged.handle nofun
  · exact hchanged

theorem Alike.fire (halike : Alike first second) (interval : Interval) :
    Alike (first.fire interval) (second.fire interval) := by
  have hreached := halike.withBrowser (halike.browser.changed
    (fun browser => browser.reach interval) (fun _ => rfl) (fun _ => rfl) fun _ => rfl)
  rw [Board.fire, Board.fire]
  exact hreached.handle nofun

theorem Alike.nextDue? (halike : Alike first second) :
    first.browser.nextDue? = second.browser.nextDue? := by
  rw [Browser.nextDue?, Browser.nextDue?, halike.browser.intervals]

theorem Alike.fireTo (halike : Alike first second) (target steps : Nat) :
    Alike (fireTo target steps first) (fireTo target steps second) := by
  induction steps generalizing first second with
  | zero => exact halike
  | succ steps ih =>
    unfold Board.fireTo
    rw [halike.nextDue?]
    split
    · exact halike
    · next interval hdue =>
      split
      · exact ih (halike.fire interval)
      · exact halike

theorem Alike.advance (halike : Alike first second) (millis : Nat) :
    Alike (first.advance millis) (second.advance millis) := by
  have hnow : first.browser.now = second.browser.now := by
    have hbared : first.browser.bared.now = second.browser.bared.now := by
      rw [halike.browser.bared]
    exact hbared
  have hsteps : stepsFor first.browser millis = stepsFor second.browser millis := by
    rw [stepsFor, stepsFor, halike.browser.intervals]
  have hfires := halike.fireTo (second.browser.now + millis) (stepsFor second.browser millis)
  unfold Board.advance
  simp only
  rw [hnow, hsteps]
  exact hfires.withBrowser (hfires.browser.changed
    (fun browser => { browser with now := second.browser.now + millis }) (fun _ => rfl)
    (fun _ => rfl) fun _ => rfl)

theorem Alike.act (halike : Alike first second) {action other : Action}
    (hrefilled : Refilled action other) : Alike (first.act action) (second.act other) := by
  cases hrefilled with
  | click target => exact halike.click target
  | key name => exact halike.key name
  | visibility isHidden => exact halike.visibility isHidden
  | advance millis => exact halike.advance millis
  | editRow index edit =>
    obtain ⟨other, rfl, hsessions⟩ := halike.exists_session
    exact ⟨rfl, hsessions⟩
  | refuse hfirst hsecond =>
    exact halike.withBrowser ⟨halike.browser.bared, halike.browser.reloadCalls, hfirst, hsecond⟩

theorem Alike.run (halike : Alike first second) {actions others : List Action}
    (hrefilled : List.Forall₂ Refilled actions others) :
    Alike (first.run actions) (second.run others) := by
  induction hrefilled generalizing first second with
  | nil => exact halike
  | cons hfirst _ ih => exact ih (halike.act hfirst)

/-- What is seen of a page, and what it tells of its start. -/
structure SameToSee (first second : Board) : Prop where
  offers : ∀ target, first.offers target = second.offers target
  periods : first.browser.periods = second.browser.periods
  control : first.control = second.control
  modal : first.modal = second.modal
  reports : first.session.notices.filter (!·.isWarning)
    = second.session.notices.filter (!·.isWarning)

theorem Alike.sameToSee (halike : Alike first second) : SameToSee first second := by
  have hreports : ∀ notices, (Refresh.news notices).filter (!·.isWarning)
      = notices.filter (!·.isWarning) := by
    intro notices
    rw [Refresh.news, List.filter_filter]
    refine congrArg (List.filter · notices) ?_
    funext notice
    cases notice <;> rfl
  refine ⟨halike.offers, ?_, ?_, ?_, ?_⟩
  · rw [Browser.periods, Browser.periods, halike.browser.intervals]
  · have hbared : ∀ board : Board, board.control = Control.markup board.browser.bared.shown
        board.browser.bared.selected board.choices board.isMenuOpen := fun _ => rfl
    rw [hbared, hbared, halike.browser.bared, halike.board]
  · rw [modal, modal, halike.board]
  · rw [← hreports, halike.session.news, hreports]

end Alike

/-! ## Choices -/

theorem storage_perform (browser : Browser) {call : Call} (hcall : call.isSave = false) :
    (browser.perform call).storage = browser.storage := by
  cases call with
  | save key value => cases hcall
  | schedule timer seconds =>
    rw [Browser.perform, Browser.schedule]
    simp only
    split <;> rfl
  | reload =>
    rw [Browser.perform, Browser.reload]
    split <;> rfl
  | _ => rfl

theorem storage_start (session : Session Browser) :
    (session.start Browser.backend).world.storage = session.world.storage := by
  have hperform : ∀ (world : Browser) (call : Call), call.isOfStart = true →
      world.storage = session.world.storage →
      (Browser.backend.perform world call).storage = session.world.storage := by
    intro world call hcall hkept
    refine (storage_perform world ?_).trans hkept
    cases call <;> first | rfl | cases hcall
  exact Session.kept_start hperform rfl

theorem storage_stop (session : Session Browser) :
    (session.stop Browser.backend).world.storage = session.world.storage := by
  have hcancel : ∀ (world : Browser) (timer : Timer),
      world.storage = session.world.storage →
      (Browser.backend.perform world (.cancel timer)).storage = session.world.storage :=
    fun world _ hkept => (storage_perform world rfl).trans hkept
  exact Session.kept_stop hcancel rfl

/-- A choice is saved without a word, or a warning says that it is not and the storage stays. -/
theorem saved_of_choose (session : Session Browser) (seconds : Nat) :
    let chosen := session.choose Browser.backend seconds
    (chosen.world.storage
          = putItem session.controller.key (toString seconds) session.world.storage
        ∧ chosen.notices = session.notices)
      ∨ (chosen.world.storage = session.world.storage
        ∧ ∃ fault, chosen.notices = .intervalUnsaved fault :: session.notices) := by
  intro chosen
  obtain ⟨ready, hready⟩ : ∃ ready : Session Browser, ready =
      { session.stop Browser.backend with
        controller := (session.stop Browser.backend).controller.withInterval seconds } := ⟨_, rfl⟩
  have hchosen : chosen
      = ((ready.save Browser.backend).start Browser.backend).call Browser.backend
          (.select seconds) := by
    rw [hready]
    rfl
  have hstorage : chosen.world.storage = (ready.save Browser.backend).world.storage := by
    rw [hchosen, Session.world_call, Browser.perform_backend, storage_perform _ rfl,
      storage_start]
  have hnotices : chosen.notices = (ready.save Browser.backend).notices := by
    rw [hchosen, Session.notices_call, Session.notices_start]
  have hkey : ready.controller.key = session.controller.key := by
    rw [hready, Session.controller_stop]
    rfl
  have hinterval : ready.controller.interval = seconds := by
    rw [hready]
    rfl
  have hitems : ready.world.storage = session.world.storage := by
    rw [hready]
    exact storage_stop session
  have htold : ready.notices = session.notices := by
    rw [hready]
    exact session.notices_stop
  rw [hstorage, hnotices, ← hkey, ← hitems, ← htold, Session.save, hinterval]
  cases Browser.backend.saveFault? ready.world with
  | none => exact Or.inl ⟨rfl, rfl⟩
  | some fault => exact Or.inr ⟨rfl, fault, rfl⟩

/-- The key under which a page keeps its interval. -/
def IsKeyed (board : Board) : Prop := board.session.controller.key = "ddns-auto-refresh"

theorem isKeyed_load (board : Board) : board.load.IsKeyed := by
  obtain ⟨choices, hsettings⟩ := Settings.ofIntervals_eq board.source.intervals?
  obtain ⟨hcontroller, -⟩ := (board.loading.handle .restore).listen_eq
  rw [IsKeyed, load_eq, hcontroller, session_handle, Session.key_handle]
  exact congrArg Settings.storageKey hsettings

theorem IsKeyed.act {board : Board} (hkeyed : board.IsKeyed) (action : Action) :
    (board.act action).IsKeyed := by
  cases action with
  | refuse refusals => exact hkeyed
  | load => exact board.isKeyed_load
  | _ =>
    refine act_keeps (fun earlier later hsame hkept => ?_) (fun earlier hkept event => ?_) hkeyed
      nofun nofun
    · have hcontroller : later.session.controller = earlier.session.controller :=
        congrArg Prod.fst hsame
      rw [IsKeyed, hcontroller]
      exact hkept
    · exact (Session.key_handle _ event).trans hkept

theorem IsKeyed.run {board : Board} (hkeyed : board.IsKeyed) (actions : List Action) :
    (board.run actions).IsKeyed := by
  induction actions generalizing board with
  | nil => exact hkeyed
  | cons action actions ih => exact ih (hkeyed.act action)

/-! ## Firing -/

/-- The intervals that fire while time passes up to `target`, each with the board on which it
does. -/
def firingsTo (target : Nat) : (steps : Nat) → Board → List (Board × Interval)
  | 0, _ => []
  | steps + 1, board =>
    match board.browser.nextDue? with
    | none => []
    | some interval =>
      if interval.due ≤ target then
        (board, interval) :: firingsTo target steps (board.fire interval)
      else []

/-- Nothing else happens to the board. -/
theorem foldl_firingsTo (target steps : Nat) (board : Board) :
    (firingsTo target steps board).foldl (fun _ firing => firing.1.fire firing.2) board
      = fireTo target steps board := by
  induction steps generalizing board with
  | zero => rfl
  | succ steps ih =>
    unfold firingsTo fireTo
    cases board.browser.nextDue? with
    | none => rfl
    | some interval =>
      simp only
      by_cases hdue : interval.due ≤ target
      · rw [if_pos hdue, if_pos hdue]
        exact ih (board.fire interval)
      · rw [if_neg hdue, if_neg hdue]
        rfl

theorem later_of_firing {target steps : Nat} {board : Board} {firing : Board × Interval}
    (hfiring : firing ∈ firingsTo target steps board) :
    Later board firing.1 ∧ firing.2 ∈ firing.1.browser.intervals := by
  induction steps generalizing board with
  | zero => cases hfiring
  | succ steps ih =>
    unfold firingsTo at hfiring
    split at hfiring
    · cases hfiring
    · next interval hdue =>
      split at hfiring
      · rcases List.mem_cons.mp hfiring with rfl | hrest
        · exact ⟨Later.refl board, nextDue?_mem hdue⟩
        · obtain ⟨hlater, hmem⟩ := ih hrest
          exact ⟨(later_fire board interval).trans hlater, hmem⟩
      · cases hfiring

def firings (board : Board) (millis : Nat) : List (Board × Interval) :=
  firingsTo (board.browser.now + millis) (stepsFor board.browser millis) board

theorem isScheduled_of_settings {browser : Browser} (htracked : browser.Tracked) {seconds : Nat}
    (hsettings : browser.settings = Browser.plan seconds) (timer : Timer) :
    browser.isScheduled timer = true := by
  have hset : timer ∈ browser.settings.map Prod.fst := by
    rw [hsettings]
    cases timer <;> simp [Browser.plan]
  obtain ⟨setting, hsetting, rfl⟩ := List.mem_map.mp hset
  obtain ⟨interval, hmem, rfl⟩ := List.mem_map.mp hsetting
  exact htracked.isScheduled_iff.mpr ⟨interval, hmem, rfl⟩

theorem settings_reach (browser : Browser) (interval : Interval) :
    (browser.reach interval).settings = browser.settings := by
  rw [Browser.settings, Browser.reach, List.map_map]
  refine List.map_congr_left fun other _ => ?_
  simp only [Function.comp_apply]
  split <;> rfl

/-- The reload timer reloads the page, or an error says that the page is not reloaded. -/
theorem Safe.reload_fired {board : Board} (hsafe : board.Safe) {interval : Interval}
    (hmem : interval ∈ board.browser.intervals) (htimer : interval.timer = .reload) :
    let fired := board.fire interval
    (fired.browser.reloads = board.browser.reloads + 1
          ∧ fired.browser.console = board.browser.console
        ∨ fired.browser.reloads = board.browser.reloads
          ∧ fired.browser.console = .notReloaded :: board.browser.console)
      ∧ fired.browser.periods = board.browser.periods
      ∧ ∀ timer, fired.browser.isScheduled timer = true := by
  intro fired
  obtain ⟨hvisible, -, hplan⟩ := hsafe.inStep.planned.resolve_left (List.ne_nil_of_mem hmem)
  have hlater := later_fire board interval
  have hfired : fired.browser.settings = board.browser.settings := hlater.settings
  have htracked := hsafe.inStep.tracked
  refine ⟨?_, ?_, isScheduled_of_settings (hlater.tracked htracked) (hfired.trans hplan)⟩
  · set reached := board.browser.reach interval
    set session := (board.withBrowser reached).session
    have hscheduled : Browser.backend.isScheduled reached .reload = true :=
      isScheduled_of_settings (htracked.reach interval)
        ((settings_reach board.browser interval).trans hplan) .reload
    have hticked : session.tick Browser.backend .reload
        = session.call Browser.backend .reload := by
      unfold Session.tick
      exact (if_pos hscheduled).trans (if_pos hvisible)
    have hbrowser : fired.browser = reached.reload := by
      calc fired.browser
          = (session.tick Browser.backend interval.timer).world := rfl
        _ = (session.call Browser.backend .reload).world := by rw [htimer, hticked]
        _ = reached.reload := rfl
    rw [hbrowser, Browser.reload]
    split
    · exact Or.inr ⟨rfl, rfl⟩
    · exact Or.inl ⟨rfl, rfl⟩
  · have hperiods : ∀ browser : Browser, browser.periods = browser.settings.map Prod.snd := by
      intro browser
      simp [Browser.periods, Browser.settings]
    rw [hperiods, hperiods, hfired]

/-! ## Two runs -/

/-- What a failure to save or to reload comes to. A click on a choice that the menu offers saves it
without a word, or leaves the storage as it is with one warning. When the reload timer fires, the
page is reloaded without a word, or it is not and the console has one error more; both timers run
on. -/
structure Contained (board : Board) : Prop where
  choices : ∀ seconds, board.offers (.option seconds) = true →
    let clicked := board.act (.click (.option seconds))
    (clicked.browser.storage
          = putItem "ddns-auto-refresh" (toString seconds) board.browser.storage
        ∧ clicked.session.notices = board.session.notices)
      ∨ (clicked.browser.storage = board.browser.storage
        ∧ ∃ fault, clicked.session.notices = .intervalUnsaved fault :: board.session.notices)
  reloads : ∀ millis, ∀ firing ∈ board.firings millis, firing.2.timer = .reload →
    let before := firing.1.browser
    let fired := (firing.1.fire firing.2).browser
    (fired.reloads = before.reloads + 1 ∧ fired.console = before.console
        ∨ fired.reloads = before.reloads ∧ fired.console = .notReloaded :: before.console)
      ∧ fired.periods = before.periods ∧ ∀ timer, fired.isScheduled timer = true

theorem contained_run (source : Source) (storage : List (String × String))
    (refusals : List Refusal) (isHidden : Bool) (actions : List Action) :
    ((start source (Browser.blank storage refusals isHidden)).run actions).Contained := by
  obtain ⟨board, hboard⟩ : ∃ board, board =
      (start source (Browser.blank storage refusals isHidden)).run actions := ⟨_, rfl⟩
  have hreachable : board.Reachable := ⟨source, storage, refusals, isHidden, actions, hboard⟩
  have hkeyed : board.IsKeyed := by
    rw [hboard]
    exact IsKeyed.run (isKeyed_load _) actions
  rw [← hboard]
  refine ⟨?_, ?_⟩
  · intro seconds hoffers clicked
    have hclicked : clicked.session = board.session.choose Browser.backend seconds := by
      calc clicked.session
          = (board.click (.option seconds)).session := rfl
        _ = board.session.choose Browser.backend seconds := by
            rw [click_option hoffers]
            rfl
    have hsaved := saved_of_choose board.session seconds
    rw [← hclicked, hkeyed] at hsaved
    exact hsaved
  · intro millis firing hfiring htimer
    obtain ⟨hlater, hmem⟩ := later_of_firing hfiring
    exact (hlater.safe hreachable.safe).reload_fired hmem htimer

theorem Alike.refl {board : Board} (hmild : board.browser.IsMild) : Alike board board :=
  ⟨rfl, ⟨rfl, ⟨rfl, rfl, hmild, hmild⟩, rfl⟩⟩

theorem alike_start (source : Source) (storage : List (String × String)) (isHidden : Bool) :
    Alike (start source (Browser.blank storage [] isHidden))
      (start source (Browser.blank storage [] isHidden)) := by
  have hnone : (start source (Browser.blank storage [] isHidden)).browser.refusals = [] := by
    rw [start_eq]
    exact (faultless_load rfl).refusals
  apply Alike.refl
  rw [Browser.IsMild, hnone]
  exact fun refusal hmem => absurd hmem List.not_mem_nil

/-- **Refusals to store and to reload never reach the page.** Two runs from one start without
refusals that are filled with any mild ones look the same after every number of actions. What they
may differ in is settled choice by choice and reload by reload. -/
theorem sameToSee_of_refilled (source : Source) (storage : List (String × String))
    (isHidden : Bool) {actions others : List Action}
    (hrefilled : List.Forall₂ Refilled actions others) (count : Nat) :
    let started := start source (Browser.blank storage [] isHidden)
    let first := started.run (actions.take count)
    let second := started.run (others.take count)
    SameToSee first second
      ∧ first.browser.reloadCalls = second.browser.reloadCalls
      ∧ first.Contained ∧ second.Contained := by
  intro started first second
  have halike : Alike first second :=
    (alike_start source storage isHidden).run (List.forall₂_take count hrefilled)
  exact ⟨halike.sameToSee, halike.browser.reloadCalls,
    contained_run source storage [] isHidden _, contained_run source storage [] isHidden _⟩

/-- One run cannot save and the other cannot reload. Each shows by its storage and its reloads what
it was refused, and neither shows it on the page. -/
theorem sameToSee_of_refilled_of_half_minute :
    let started := start ⟨none, []⟩ (Browser.blank [] [] false)
    let actions : List Action :=
      [.click .toggle, .refuse [.setItem], .click (.option 30), .refuse [], .advance 30000]
    let others : List Action :=
      [.click .toggle, .refuse [], .click (.option 30), .refuse [.reload], .advance 30000]
    List.Forall₂ Refilled actions others
      ∧ SameToSee (started.run actions) (started.run others)
      ∧ (started.run actions).browser.storage = []
      ∧ (started.run others).browser.storage = [("ddns-auto-refresh", "30")]
      ∧ (started.run actions).browser.reloads = 1
      ∧ (started.run others).browser.reloads = 0 := by
  intro started actions others
  have hmild : ∀ refusal ∈ ([] : List Refusal), refusal.isMild = true := by decide
  have hrefilled : List.Forall₂ Refilled actions others :=
    .cons (.click _) (.cons (.refuse (by decide) hmild) (.cons (.click _)
      (.cons (.refuse hmild (by decide)) (.cons (.advance _) .nil))))
  obtain ⟨hsame, -, -, -⟩ := sameToSee_of_refilled ⟨none, []⟩ [] false hrefilled 5
  refine ⟨hrefilled, hsame, ?_, ?_, ?_, ?_⟩
  · decide
  · decide
  · decide
  · decide

end Board

end AddressBoard.Page
