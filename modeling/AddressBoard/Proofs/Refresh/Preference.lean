import AddressBoard.Page.Browser
import AddressBoard.Proofs.Refresh.Turns

/-!
# The saved interval

Every choice is saved at once, under one key, and a save can fail. What is stored after any turns is
the text of the last choice that could be saved, or what was stored at first; and a session that is
restored from it takes up that choice.
-/

namespace AddressBoard.Refresh

/-! ## Texts that stand for an interval -/

/-- An unsigned numeral, with blanks around it or none. -/
def IsPreference (text : String) (seconds : Nat) : Prop :=
  ∃ before numeral after, text.toList = before ++ (numeral ++ after)
    ∧ (∀ character ∈ before, Text.isBlank character = true)
    ∧ (∀ character ∈ after, Text.isBlank character = true)
    ∧ Numeral.IsUnsigned numeral seconds

theorem isBlank_of_isUnsigned {numeral : List Char} {seconds : Nat}
    (hnumeral : Numeral.IsUnsigned numeral seconds) :
    ∀ character ∈ numeral, Text.isBlank character = false := by
  obtain ⟨sign, digits, rfl, hsign, -, hdigits, -, -⟩ := hnumeral
  intro character hmem
  rcases List.mem_append.mp hmem with hmem | hmem
  · rcases hsign with rfl | rfl
    · cases hmem
    · obtain rfl := List.mem_singleton.mp hmem
      decide
  · exact Text.isBlank_of_isDigit (hdigits character hmem)

theorem preference?_eq_some_iff {text : String} {seconds : Nat} :
    preference? text = some seconds ↔ IsPreference text seconds := by
  unfold preference?
  rw [Numeral.readUnsigned?_eq_some_iff]
  constructor
  · intro hnumeral
    obtain ⟨before, after, htext, hbefore, hafter⟩ := Text.eq_append_trim text.toList
    exact ⟨before, _, after, htext, hbefore, hafter, hnumeral⟩
  · rintro ⟨before, numeral, after, htext, hbefore, hafter, hnumeral⟩
    rw [htext, Text.trim_append hbefore (isBlank_of_isUnsigned hnumeral) hafter]
    exact hnumeral

theorem isPreference_toString {seconds : Nat} (hlimit : seconds ≤ Numeral.greatestUnsigned) :
    IsPreference (toString seconds) seconds := by
  refine ⟨[], Nat.toDigits 10 seconds, [], ?_, by simp, by simp,
    Numeral.isUnsigned_toDigits hlimit⟩
  simp

theorem IsPreference.unique {text : String} {seconds other : Nat}
    (hpreference : IsPreference text seconds) (hother : IsPreference text other) :
    seconds = other := by
  rw [← preference?_eq_some_iff] at hpreference hother
  exact Option.some.inj (hpreference.symm.trans hother)

theorem IsPreference.le_greatest {text : String} {seconds : Nat}
    (hpreference : IsPreference text seconds) : seconds ≤ Numeral.greatestUnsigned := by
  obtain ⟨_, _, _, _, _, _, _, _, _, _, _, _, _, hlimit⟩ := hpreference
  exact hlimit

/-! ## Stores -/

def Call.isSave : Call → Bool
  | .save _ _ => true
  | .load _ | .schedule _ _ | .cancel _ | .reload | .display _ | .select _ => false

/-- What a backend stores: a save sets one item and no other call sets any, and at times nothing can
be read. -/
structure Store {World : Type} (backend : Backend World) where
  item? : World → (key : String) → Option String
  isReadable : World → Bool
  stored?_eq : ∀ world key,
    backend.stored? world key = if isReadable world then item? world key else none
  item?_save : ∀ world key value,
    item? (backend.perform world (.save key value))
      = Function.update (item? world) key (some value)
  item?_others : ∀ world call, call.isSave = false →
    item? (backend.perform world call) = item? world

end AddressBoard.Refresh

namespace AddressBoard.Page.Browser

/-- The local storage of a browser. -/
def store : Refresh.Store backend where
  item? browser key := browser.storage.lookup key
  isReadable browser := browser.hasStorage && !browser.refuses .getItem
  stored?_eq browser key := by
    simp [backend, stored?]
  item?_save browser key value := by
    funext other
    by_cases heq : other = key
    · simp [backend, perform, heq]
    · simp [backend, perform, heq, lookup_putItem_of_ne heq]
  item?_others browser call hcall := by
    cases call with
    | save key value => cases hcall
    | schedule timer seconds =>
      simp only [backend, perform, schedule]
      split <;> rfl
    | reload =>
      simp only [backend, perform, reload]
      split <;> rfl
    | _ => rfl

end AddressBoard.Page.Browser

namespace AddressBoard.Refresh

/-! ## Attempts to save -/

/-- A save of a choice, and the fault that it met. -/
structure Attempt where
  seconds : Nat
  fault? : Option StorageFault

namespace Attempt

def call (key : String) (attempt : Attempt) : Call := .save key (toString attempt.seconds)

def warning? (attempt : Attempt) : Option Notice := attempt.fault?.map .intervalUnsaved

/-- The items after an attempt. -/
def record (key : String) (items : String → Option String) (attempt : Attempt) :
    String → Option String :=
  match attempt.fault? with
  | none => Function.update items key (some (toString attempt.seconds))
  | some _ => items

/-- The last choice that was saved. -/
def lastKept? : List Attempt → Option Nat
  | [] => none
  | attempt :: later =>
    (lastKept? later).or (if attempt.fault?.isNone then some attempt.seconds else none)

theorem foldl_record_of_ne {key other : String} (hne : other ≠ key) (attempts : List Attempt)
    (items : String → Option String) : attempts.foldl (record key) items other = items other := by
  induction attempts generalizing items with
  | nil => rfl
  | cons attempt attempts ih =>
    rw [List.foldl_cons, ih, record]
    cases attempt.fault? with
    | none => exact Function.update_of_ne hne _ _
    | some fault => rfl

theorem foldl_record_self (key : String) (attempts : List Attempt)
    (items : String → Option String) :
    attempts.foldl (record key) items key
      = ((lastKept? attempts).map toString).or (items key) := by
  induction attempts generalizing items with
  | nil => rfl
  | cons attempt attempts ih =>
    rw [List.foldl_cons, ih, lastKept?, record]
    cases lastKept? attempts with
    | some seconds => rfl
    | none => cases attempt.fault? <;> simp

end Attempt

def Event.choice? : Event → Option Nat
  | .choose seconds => some seconds
  | .restore | .visibility _ | .tick _ => none

theorem Event.isSave_of_mayCall {event : Event} (hchoice : event.choice? = none) {call : Call}
    (hcall : event.mayCall call = true) : call.isSave = false := by
  cases call with
  | save key value =>
    cases event with
    | choose seconds => cases hchoice
    | restore | visibility _ => cases hcall
    | tick timer => cases timer <;> cases hcall
  | _ => rfl

namespace Session

variable {World : Type} (backend : Backend World)

/-- The attempt to save that an event leads to. A choice stops the timers before it is saved. -/
def attempt? (session : Session World) (event : Event) : Option Attempt :=
  event.choice?.map fun seconds => ⟨seconds, backend.saveFault? (session.stop backend).world⟩

/-- The attempts of a run, in their order. -/
def attempts : List (Turn World) → Session World → List Attempt
  | [], _ => []
  | turn :: turns, session =>
    ((session.inWorld (turn.change session.world)).attempt? backend turn.event).toList
      ++ attempts turns (session.take backend turn)

theorem seconds_attempts (turns : List (Turn World)) (session : Session World) :
    (session.attempts backend turns).map (·.seconds) = turns.filterMap (·.event.choice?) := by
  induction turns generalizing session with
  | nil => rfl
  | cons turn turns ih =>
    rw [attempts, List.map_append, ih, List.filterMap_cons, attempt?]
    cases turn.event.choice? <;> rfl

/-! ## What attempts do -/

variable {backend} (store : Store backend)

/-- A later session that has made the given attempts to save, and has warned and stored
accordingly. -/
structure Made (attempts : List Attempt) (before after : Session World) : Prop where
  key : after.controller.key = before.controller.key
  saves : after.calls.filter (·.isSave)
    = (attempts.map (·.call before.controller.key)).reverse ++ before.calls.filter (·.isSave)
  warnings : after.notices.filter (·.isWarning)
    = (attempts.filterMap (·.warning?)).reverse ++ before.notices.filter (·.isWarning)
  items : store.item? after.world
    = attempts.foldl (Attempt.record before.controller.key) (store.item? before.world)

theorem Made.trans {first second : List Attempt} {before middle after : Session World}
    (hfirst : Made store first before middle) (hsecond : Made store second middle after) :
    Made store (first ++ second) before after := by
  refine ⟨hsecond.key.trans hfirst.key, ?_, ?_, ?_⟩
  · rw [hsecond.saves, hfirst.saves, hfirst.key, List.map_append, List.reverse_append,
      List.append_assoc]
  · rw [hsecond.warnings, hfirst.warnings, List.filterMap_append, List.reverse_append,
      List.append_assoc]
  · rw [hsecond.items, hfirst.items, hfirst.key, List.foldl_append]

/-! ## What an event does -/

theorem key_handle (session : Session World) (event : Event) :
    (session.handle backend event).controller.key = session.controller.key := by
  cases event with
  | restore =>
    rw [handle, controller_restore]
    rfl
  | choose seconds =>
    rw [handle, controller_choose]
    rfl
  | visibility isVisible =>
    rw [handle, controller_visibility, Controller.shown]
    split
    · split <;> rfl
    · rfl
  | tick timer =>
    rw [handle, controller_tick, Controller.countedDown]
    split
    · split <;> rfl
    · rfl

theorem filter_isSave_untimed (calls : List Call) :
    (untimed calls).filter (·.isSave) = calls.filter (·.isSave) := by
  rw [untimed, List.filter_filter]
  refine congrArg (List.filter · calls) ?_
  funext call
  cases call <;> rfl

theorem saves_handle (session : Session World) (event : Event) :
    (session.handle backend event).calls.filter (·.isSave)
      = ((session.attempt? backend event).toList.map (·.call session.controller.key)).reverse
        ++ session.calls.filter (·.isSave) := by
  rw [← filter_isSave_untimed, ← filter_isSave_untimed session.calls]
  cases event with
  | restore =>
    rw [handle, untimed_restore]
    rfl
  | choose seconds =>
    rw [handle, untimed_choose]
    rfl
  | visibility isVisible =>
    rw [handle, untimed_visibility]
    split <;> rfl
  | tick timer =>
    rw [handle, untimed_tick]
    split
    · cases timer with
      | reload =>
        simp only
        split <;> rfl
      | countdown =>
        simp only [untimed_countDown]
        split <;> rfl
    · rfl

@[simp]
theorem notices_call (call : Call) (session : Session World) :
    (session.call backend call).notices = session.notices := rfl

@[simp]
theorem notices_stop (session : Session World) :
    (session.stop backend).notices = session.notices := by
  unfold stop cancel
  split <;> split <;> rfl

@[simp]
theorem notices_start (session : Session World) :
    (session.start backend).notices = session.notices := by
  unfold start
  rw [← @notices_stop World backend session]
  simp only [render, notices_call]
  split
  · rfl
  · split <;> rfl

theorem warnings_handle (session : Session World) (event : Event) :
    (session.handle backend event).notices.filter (·.isWarning)
      = ((session.attempt? backend event).toList.filterMap (·.warning?)).reverse
        ++ session.notices.filter (·.isWarning) := by
  cases event with
  | restore =>
    rw [handle, restore_eq, notices_call, notices_start]
    unfold loaded
    simp only
    split <;> rfl
  | choose seconds =>
    rw [handle, choose, notices_call, notices_start, attempt?, Event.choice?, Option.map_some]
    unfold save
    simp only
    cases backend.saveFault? (session.stop backend).world with
    | none => simp [Attempt.warning?]
    | some fault => simp [Attempt.warning?, Notice.isWarning]
  | visibility isVisible =>
    simp only [handle, visibility]
    split
    · split
      · rw [notices_start]
        rfl
      · rfl
    · simp only [render, notices_call]
      split <;> simp [withPhase, attempt?, Event.choice?]
  | tick timer =>
    simp only [handle, tick]
    split
    · cases timer with
      | reload =>
        simp only
        split <;> rfl
      | countdown =>
        simp only [countDown]
        split
        · split <;> rfl
        · rfl
    · rfl

/-! ## What is stored -/

theorem item?_stop (session : Session World) :
    store.item? (session.stop backend).world = store.item? session.world := by
  have hcancel : ∀ world timer, store.item? world = store.item? session.world →
      store.item? (backend.perform world (.cancel timer)) = store.item? session.world :=
    fun world timer hkept => (store.item?_others world _ rfl).trans hkept
  exact kept_stop hcancel rfl

theorem item?_start (session : Session World) :
    store.item? (session.start backend).world = store.item? session.world := by
  have hstart : ∀ world call, call.isOfStart = true →
      store.item? world = store.item? session.world →
      store.item? (backend.perform world call) = store.item? session.world := by
    intro world call hcall hkept
    refine (store.item?_others world call ?_).trans hkept
    cases call <;> first | rfl | cases hcall
  exact kept_start hstart rfl

theorem item?_save (session : Session World) :
    store.item? (session.save backend).world
      = Attempt.record session.controller.key (store.item? session.world)
          ⟨session.controller.interval, backend.saveFault? session.world⟩ := by
  unfold save Attempt.record
  simp only
  cases backend.saveFault? session.world with
  | none => exact store.item?_save _ _ _
  | some fault => rfl

theorem item?_handle (session : Session World) (event : Event) :
    store.item? (session.handle backend event).world
      = (session.attempt? backend event).toList.foldl (Attempt.record session.controller.key)
          (store.item? session.world) := by
  cases hchoice : event.choice? with
  | none =>
    have hperform : ∀ world call, event.mayCall call = true →
        store.item? world = store.item? session.world →
        store.item? (backend.perform world call) = store.item? session.world := fun world call hcall
      hkept => (store.item?_others world call (Event.isSave_of_mayCall hchoice hcall)).trans hkept
    rw [attempt?, hchoice]
    exact kept_handle hperform rfl
  | some seconds =>
    obtain rfl : event = .choose seconds := by
      cases event <;> cases hchoice
      rfl
    rw [handle, choose, world_call, store.item?_others _ _ rfl, item?_start, item?_save, item?_stop,
      controller_stop]
    rfl

theorem made_handle (session : Session World) (event : Event) :
    Made store (session.attempt? backend event).toList session (session.handle backend event) :=
  ⟨session.key_handle event, session.saves_handle event, session.warnings_handle event,
    session.item?_handle store event⟩

theorem made_take {turn : Turn World}
    (hkeep : ∀ world, store.item? (turn.change world) = store.item? world)
    (session : Session World) :
    Made store ((session.inWorld (turn.change session.world)).attempt? backend turn.event).toList
      session (session.take backend turn) := by
  have hevent := made_handle store (session.inWorld (turn.change session.world)) turn.event
  refine ⟨hevent.key, hevent.saves, hevent.warnings, ?_⟩
  rw [← hkeep session.world]
  exact hevent.items

theorem made_takeAll {turns : List (Turn World)}
    (hkeep : ∀ turn ∈ turns, ∀ world, store.item? (turn.change world) = store.item? world)
    (session : Session World) :
    Made store (session.attempts backend turns) session (session.takeAll backend turns) := by
  induction turns generalizing session with
  | nil => exact ⟨rfl, rfl, rfl, rfl⟩
  | cons turn turns ih =>
    have hturn := made_take store (hkeep turn List.mem_cons_self) session
    have hrest := ih (fun later hmem => hkeep later (List.mem_cons_of_mem turn hmem))
      (session.take backend turn)
    exact hturn.trans store hrest

/-! ## What is restored -/

theorem savedInterval_of_isPreference {world : World} {key text : String} {seconds : Nat}
    (hreadable : store.isReadable world = true) (hitem : store.item? world key = some text)
    (hpreference : IsPreference text seconds) : savedInterval backend world key = seconds := by
  rw [savedInterval, store.stored?_eq, if_pos hreadable, hitem, Option.bind_some,
    preference?_eq_some_iff.mpr hpreference]
  rfl

theorem savedInterval_of_unreadable {world : World} (hunreadable : store.isReadable world = false)
    (key : String) : savedInterval backend world key = 0 := by
  rw [savedInterval, store.stored?_eq, hunreadable]
  rfl

theorem savedInterval_of_none {world : World} {key : String}
    (hnone : ∀ text seconds, store.item? world key = some text → ¬ IsPreference text seconds) :
    savedInterval backend world key = 0 := by
  rw [savedInterval, store.stored?_eq]
  split
  · cases hitem : store.item? world key with
    | none => rfl
    | some text =>
      have hunread : preference? text = none := by
        refine Option.eq_none_iff_forall_ne_some.mpr fun seconds heq => ?_
        exact hnone text seconds hitem (preference?_eq_some_iff.mp heq)
      rw [Option.bind_some, hunread]
      rfl
  · rfl

end Session

/-- **The saved interval survives.** Whichever saves fail and whatever else the world does, each
choice is tried once to be saved and nothing else is; a save that fails is warned of once and
stores nothing; other items never change; and what is stored is the last choice that could be
saved, or else what was stored at first. A session restored from that store, hidden or not, takes up
that choice, or the interval that the first text stands for, or none. -/
theorem stored_of_turns {World : Type} {backend : Backend World} (store : Store backend)
    (key : String) (isVisible : Bool) (world : World) (turns : List (Turn World))
    (hkeep : ∀ turn ∈ turns, ∀ world, store.item? (turn.change world) = store.item? world) :
    let fresh := Session.fresh key isVisible world
    let session := fresh.takeAll backend turns
    let attempts := fresh.attempts backend turns
    let kept? := Attempt.lastKept? attempts
    attempts.map (·.seconds) = turns.filterMap (·.event.choice?)
      ∧ (session.calls.filter (·.isSave)).reverse
          = attempts.map (fun attempt => .save key (toString attempt.seconds))
      ∧ (session.notices.filter (·.isWarning)).reverse
          = attempts.filterMap (fun attempt => attempt.fault?.map .intervalUnsaved)
      ∧ (∀ change seconds, (∀ world, store.item? (change world) = store.item? world) →
          backend.saveFault? ((session.inWorld (change session.world)).stop backend).world ≠ none →
          store.item? (session.take backend ⟨change, .choose seconds⟩).world
            = store.item? session.world)
      ∧ (∀ other, other ≠ key → store.item? session.world other = store.item? world other)
      ∧ store.item? session.world key = (kept?.map toString).or (store.item? world key)
      ∧ ∀ (later : World) (isShown : Bool),
          let restored := ((Session.fresh key isShown later).restore backend).controller.interval
          (store.isReadable later = false → restored = 0)
            ∧ (store.isReadable later = true →
              store.item? later key = store.item? session.world key →
              (∀ seconds, kept? = some seconds → seconds ≤ 4294967295 → restored = seconds)
                ∧ (∀ text seconds, kept? = none → store.item? world key = some text →
                    IsPreference text seconds → restored = seconds)
                ∧ (kept? = none → (∀ text seconds, store.item? world key = some text →
                    ¬ IsPreference text seconds) → restored = 0)) := by
  intro fresh session attempts kept?
  have hmade : Session.Made store attempts fresh session := Session.made_takeAll store hkeep fresh
  have hitem : store.item? session.world key
      = (kept?.map toString).or (store.item? world key) := by
    rw [hmade.items]
    exact Attempt.foldl_record_self key attempts _
  refine ⟨Session.seconds_attempts backend turns fresh, ?_, ?_, ?_, ?_, hitem, ?_⟩
  · rw [hmade.saves, List.reverse_append, List.reverse_reverse]
    rfl
  · rw [hmade.warnings, List.reverse_append, List.reverse_reverse]
    rfl
  · intro change seconds hchange hfault
    obtain ⟨fault, hfault⟩ := Option.ne_none_iff_exists'.mp hfault
    have hturn : Session.Made store _ session
        (session.take backend ⟨change, .choose seconds⟩) :=
      Session.made_take store hchange session
    rw [hturn.items, Session.attempt?, Event.choice?, Option.map_some, hfault]
    rfl
  · intro other hne
    rw [hmade.items]
    exact Attempt.foldl_record_of_ne hne attempts _
  · intro later isShown restored
    have hrestored : restored = Session.savedInterval backend later key := by
      change Controller.interval _ = _
      rw [Session.controller_restore]
      rfl
    refine ⟨fun hunreadable => ?_, fun hreadable hlater => ⟨?_, ?_, ?_⟩⟩
    · rw [hrestored, Session.savedInterval_of_unreadable store hunreadable]
    · intro seconds hkept hlimit
      rw [hitem, hkept] at hlater
      rw [hrestored]
      exact Session.savedInterval_of_isPreference store hreadable hlater
        (isPreference_toString hlimit)
    · intro text seconds hkept htext hpreference
      rw [hitem, hkept, htext] at hlater
      rw [hrestored]
      exact Session.savedInterval_of_isPreference store hreadable hlater hpreference
    · intro hkept hnone
      rw [hitem, hkept] at hlater
      rw [hrestored]
      refine Session.savedInterval_of_none store fun text seconds htext => hnone text seconds ?_
      rw [← htext, hlater]
      rfl

/-- Of three choices only the second can be saved: 5 s go on running, and 30 s are restored. -/
theorem stored_of_turns_of_refusals :
    let refusing (refusals : List Page.Refusal) (browser : Page.Browser) : Page.Browser :=
      { browser with refusals }
    let world := Page.Browser.blank [("key", " +7"), ("other", "x")] [] false
    let turns : List (Turn Page.Browser) :=
      [⟨id, .restore⟩, ⟨refusing [.setItem], .choose 60⟩, ⟨refusing [], .choose 30⟩,
        ⟨refusing [.storageDenied], .choose 5⟩, ⟨id, .tick .countdown⟩]
    let session := (Session.fresh "key" true world).takeAll Page.Browser.backend turns
    let later := Page.Browser.blank session.world.storage [] true
    (∀ turn ∈ turns, ∀ world,
        Page.Browser.store.item? (turn.change world) = Page.Browser.store.item? world)
      ∧ session.controller.interval = 5
      ∧ Page.Browser.store.item? session.world "key" = some "30"
      ∧ ((Session.fresh "key" false later).restore Page.Browser.backend).controller.interval
          = 30 := by
  intro refusing world turns session later
  have hkeep : ∀ turn ∈ turns, ∀ world,
      Page.Browser.store.item? (turn.change world) = Page.Browser.store.item? world := by
    simp [turns, refusing, Page.Browser.store]
  obtain ⟨-, -, -, -, -, hitem, hrestored⟩ :=
    stored_of_turns Page.Browser.store "key" true world turns hkeep
  obtain ⟨-, hreadable⟩ := hrestored later false
  have hkept : Attempt.lastKept? ((Session.fresh "key" true world).attempts Page.Browser.backend
      turns) = some 30 := by decide +kernel
  have hblank : Page.Browser.store.isReadable later = true := by decide
  have hsame : Page.Browser.store.item? later "key"
      = Page.Browser.store.item? ((Session.fresh "key" true world).takeAll Page.Browser.backend
        turns).world "key" := by
    simp only [later, session, Page.Browser.store, Page.Browser.blank]
  obtain ⟨hrestored, -⟩ := hreadable hblank hsame
  refine ⟨hkeep, by decide +kernel, ?_, hrestored 30 hkept (by decide)⟩
  rw [hkept] at hitem
  dsimp only [session]
  exact hitem

end AddressBoard.Refresh
