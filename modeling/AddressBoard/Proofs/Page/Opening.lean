import AddressBoard.Proofs.Page.Timers
import Mathlib.Data.List.DropRight

/-!
# What the modal shows

Rows are bound when a page is loaded, but what a click on one opens is read when it comes. So what
the modal shows is found by looking back: to the latest load and what was refused then, to the
latest click on a bound row since and the row as it was by then, and to the clicks and keys after.
-/

namespace AddressBoard.Page

open History (Change Pager readLog)

/-! ## Looking back -/

/-- What is refused after an action, of what was refused before it. -/
def Action.refusals (before : List Refusal) : Action → List Refusal
  | .refuse refusals => refusals
  | _ => before

def refusalsAfter (refusals : List Refusal) (actions : List Action) : List Refusal :=
  actions.foldl Action.refusals refusals

/-- The actions up to the latest load. -/
def untilLoad (actions : List Action) : List Action := actions.rdropWhile (· ≠ .load)

/-- The actions since the latest load. -/
def sinceLoad (actions : List Action) : List Action := actions.rtakeWhile (· ≠ .load)

/-- Whether a load during which this is refused binds a row. -/
def Row.isBoundUnder (refusals : List Refusal) (row : Row) : Bool :=
  row.history?.isSome && row.hasButton && !refusals.contains .buttonListener

/-- The row at a place, if a load binds it. -/
def Source.bound? (source : Source) (refusals : List Refusal) (index : Nat) : Option Row :=
  source.rows[index]?.filter (Row.isBoundUnder refusals)

/-- What an action makes of the row at a place. -/
def Action.edited (index : Nat) (row : Row) : Action → Row
  | .editRow other edit => if other = index then row.edit edit else row
  | _ => row

/-- A click that opened the history of a row, between the actions since the page was loaded and the
actions that followed. The row is given as it was loaded. -/
structure Opening where
  before : List Action
  index : Nat
  row : Row
  after : List Action

/-- The opening of an action, if it is a click on a bound row. -/
def Action.opening? (bound? : Nat → Option Row) (after : List Action) : Action → Option Opening
  | .click (.history index) => (bound? index).map fun row => ⟨[], index, row, after⟩
  | _ => none

/-- The latest click on a bound row. -/
def lastOpening? (bound? : Nat → Option Row) : List Action → Option Opening
  | [] => none
  | action :: after =>
    ((lastOpening? bound? after).map fun opening =>
        { opening with before := action :: opening.before }).or
      (action.opening? bound? after)

/-! ## What is found -/

/-- The history of a row. One that is missing or that cannot be read is empty. -/
def Row.log (row : Row) : List Change :=
  match row.history? with
  | none => []
  | some raw => (readLog raw).toOption.getD []

/-- The domain's name without the blanks around it, if any of it is not blank. -/
def Row.title (row : Row) : String :=
  match row.domain? with
  | none => "Unknown"
  | some name =>
    if name.toList.all Text.isBlank then "Unknown" else String.ofList (Text.trim name.toList)

/-- The page that an action turns to, of so many pages. -/
def Action.turned (totalPages page : Nat) : Action → Nat
  | .click .previous => max 1 (page - 1)
  | .click .next => min totalPages (page + 1)
  | _ => page

def Action.closes : Action → Bool
  | .click .close | .click .backdrop => true
  | .key name => name = "Escape"
  | _ => false

namespace Opening

variable (opening : Opening)

/-- The row as it was when the click came. -/
def seen : Row := opening.before.foldl (Action.edited opening.index) opening.row

def totalPages : Nat := max 1 ((opening.seen.log.length + 19) / 20)

/-- The pager that shows what was opened, moved by what happened since. -/
def pager : Pager where
  changes := opening.seen.log.reverse
  label := opening.seen.title
  page := opening.after.foldl (Action.turned opening.totalPages) 1
  pageSize := 20
  isOpen := opening.after.all fun action => !action.closes

end Opening

def shownPager : Option Opening → Pager
  | none => .closed 20
  | some opening => opening.pager

/-! ## The latest click -/

section Latest

variable {bound? : Nat → Option Row} {actions : List Action}

theorem click_of_opening {action : Action} {opening : Opening}
    (hopening : action.opening? bound? actions = some opening) :
    ∃ index row, action = .click (.history index) ∧ bound? index = some row := by
  unfold Action.opening? at hopening
  split at hopening
  · next index =>
    obtain ⟨row, hrow, -⟩ := Option.map_eq_some_iff.mp hopening
    exact ⟨index, row, rfl, hrow⟩
  · cases hopening

theorem lastOpening?_concat_of_bound {index : Nat} {row : Row} (hbound : bound? index = some row) :
    lastOpening? bound? (actions ++ [.click (.history index)])
      = some ⟨actions, index, row, []⟩ := by
  induction actions with
  | nil => simp [lastOpening?, Action.opening?, hbound]
  | cons action actions ih => simp [lastOpening?, ih]

/-- An action that opens nothing comes after the latest opening. -/
theorem lastOpening?_concat {action : Action} (hquiet : action.opening? bound? [] = none) :
    lastOpening? bound? (actions ++ [action])
      = (lastOpening? bound? actions).map fun opening =>
          { opening with after := opening.after ++ [action] } := by
  induction actions with
  | nil => simp [lastOpening?, hquiet]
  | cons first actions ih =>
    have hlater : first.opening? bound? (actions ++ [action])
        = (first.opening? bound? actions).map fun opening =>
            { opening with after := opening.after ++ [action] } := by
      unfold Action.opening?
      split
      · rw [Option.map_map]
        rfl
      · rfl
    rw [List.cons_append, lastOpening?, lastOpening?, ih, hlater, Option.map_or, Option.map_map,
      Option.map_map]
    rfl

theorem opening?_eq_none_iff {action : Action} {after : List Action} :
    action.opening? bound? after = none
      ↔ ∀ index, action = .click (.history index) → bound? index = none := by
  constructor
  · rintro hnone index rfl
    exact Option.map_eq_none_iff.mp hnone
  · intro hnone
    refine Option.eq_none_iff_forall_ne_some.mpr fun opening hopening => ?_
    obtain ⟨index, row, hclick, hbound⟩ := click_of_opening hopening
    rw [hnone index hclick] at hbound
    cases hbound

theorem lastOpening?_eq_none_iff :
    lastOpening? bound? actions = none
      ↔ ∀ index, .click (.history index) ∈ actions → bound? index = none := by
  induction actions with
  | nil => simp [lastOpening?]
  | cons action actions ih =>
    rw [lastOpening?, Option.or_eq_none_iff, Option.map_eq_none_iff, ih, opening?_eq_none_iff]
    simp only [List.mem_cons]
    constructor
    · rintro ⟨hlater, hfirst⟩ index (heq | hmem)
      · exact hfirst index heq.symm
      · exact hlater index hmem
    · intro hnone
      refine ⟨fun index hmem => hnone index (Or.inr hmem), ?_⟩
      exact fun index heq => hnone index (Or.inl heq.symm)

/-- The latest opening is a click on a bound row with none behind it. -/
theorem lastOpening?_eq_some_iff {opening : Opening} :
    lastOpening? bound? actions = some opening
      ↔ actions = opening.before ++ .click (.history opening.index) :: opening.after
        ∧ bound? opening.index = some opening.row
        ∧ ∀ index, .click (.history index) ∈ opening.after → bound? index = none := by
  obtain ⟨before, index, row, after⟩ := opening
  induction actions generalizing before with
  | nil => simp [lastOpening?]
  | cons action actions ih =>
    rw [lastOpening?, Option.or_eq_some_iff, Option.map_eq_some_iff, Option.map_eq_none_iff]
    constructor
    · rintro (⟨later, hlater, heq⟩ | ⟨hnone, hopening⟩)
      · obtain ⟨rfl, rfl, rfl, rfl⟩ := Opening.mk.inj heq
        obtain ⟨hsplit, hbound, hnone⟩ := (ih later.before).mp hlater
        exact ⟨congrArg (action :: ·) hsplit, hbound, hnone⟩
      · obtain ⟨index, row, rfl, hbound⟩ := click_of_opening hopening
        rw [Action.opening?, hbound] at hopening
        obtain ⟨rfl, rfl, rfl, rfl⟩ := Opening.mk.inj (Option.some.inj hopening)
        exact ⟨rfl, hbound, lastOpening?_eq_none_iff.mp hnone⟩
    · rintro ⟨hsplit, hbound, hnone⟩
      cases before with
      | nil =>
        obtain ⟨rfl, rfl⟩ := List.cons.inj hsplit
        refine Or.inr ⟨lastOpening?_eq_none_iff.mpr hnone, ?_⟩
        exact congrArg (Option.map _) hbound
      | cons first before =>
        obtain ⟨rfl, hrest⟩ := List.cons.inj hsplit
        exact Or.inl ⟨_, (ih before).mpr ⟨hrest, hbound, hnone⟩, rfl⟩

end Latest

/-! ## Bounds of the page -/

theorem turned_bounds {totalPages page : Nat} (hpage : 1 ≤ page ∧ page ≤ totalPages)
    (action : Action) :
    1 ≤ action.turned totalPages page ∧ action.turned totalPages page ≤ totalPages := by
  unfold Action.turned
  split <;> omega

theorem foldl_turned_bounds {totalPages page : Nat} (hpage : 1 ≤ page ∧ page ≤ totalPages)
    (actions : List Action) :
    1 ≤ actions.foldl (Action.turned totalPages) page
      ∧ actions.foldl (Action.turned totalPages) page ≤ totalPages := by
  induction actions generalizing page with
  | nil => exact hpage
  | cons action actions ih => exact ih (turned_bounds hpage action)

theorem totalPages_pager (opening : Opening) : opening.pager.totalPages = opening.totalPages := by
  simp [Pager.totalPages, Opening.pager, Opening.totalPages]

theorem shownPager_bounds (opening? : Option Opening) :
    1 ≤ (shownPager opening?).page
      ∧ (shownPager opening?).page ≤ (shownPager opening?).totalPages := by
  cases opening? with
  | none => decide
  | some opening =>
    rw [shownPager, totalPages_pager]
    apply foldl_turned_bounds
    exact ⟨Nat.le_refl 1, Nat.le_max_left 1 _⟩

/-- The pager after an action that opens nothing. -/
def moved (pager : Pager) (action : Action) : Pager :=
  { pager with
    page := action.turned pager.totalPages pager.page
    isOpen := pager.isOpen && !action.closes }

theorem moved_shownPager (opening? : Option Opening) (action : Action) :
    moved (shownPager opening?) action
      = shownPager (opening?.map fun opening =>
          { opening with after := opening.after ++ [action] }) := by
  cases opening? with
  | none =>
    have hone : action.turned 1 1 = 1 := by
      have hbounds : 1 ≤ action.turned 1 1 ∧ action.turned 1 1 ≤ 1 :=
        turned_bounds ⟨Nat.le_refl 1, Nat.le_refl 1⟩ action
      omega
    have htotal : (Pager.closed 20).totalPages = 1 := rfl
    rw [Option.map_none, shownPager, moved, htotal]
    exact congrArg (fun page => { Pager.closed 20 with page }) hone
  | some opening =>
    rw [Option.map_some, shownPager, shownPager, moved, totalPages_pager]
    simp [Opening.pager, Opening.totalPages, Opening.seen]

/-! ## Names and logs -/

theorem label_eq_title (row : Row) : row.label = row.title := by
  unfold Row.label Row.title
  cases row.domain? with
  | none => rfl
  | some name => simp [Text.trim_eq_nil_iff]

theorem openLog_eq (pager : Pager) (row : Row) :
    (pager.openLog (row.history?.getD "") row.label).1
      = { changes := row.log.reverse, label := row.title, page := 1, pageSize := pager.pageSize
          isOpen := true } := by
  have hread : row.log = ((readLog (row.history?.getD "")).toOption).getD [] := by
    unfold Row.log
    cases row.history? with
    | none => rfl
    | some raw => rfl
  rw [hread, label_eq_title]
  unfold Pager.openLog
  cases readLog (row.history?.getD "") with
  | ok log => rfl
  | error fault => rfl

namespace Board

/-! ## One action -/

/-- What of a board no click changes. -/
def served (board : Board) : Source × List BoardRow := (board.source, board.rows)

/-- What of a board the modal depends on. -/
def contents (board : Board) : (Source × List BoardRow) × Pager := (board.served, board.pager)

theorem contents_advance (board : Board) (millis : Nat) :
    (board.advance millis).contents = board.contents :=
  @fireTo_keeps (fun later => later.contents = board.contents) _ (fun _ _ _ hkept => hkept) _ _ rfl

theorem contents_visibility (board : Board) (isHidden : Bool) :
    (board.visibility isHidden).contents = board.contents := by
  unfold visibility
  simp only
  split <;> rfl

theorem served_press (board : Board) (target : Target) :
    (board.press target).served = board.served := by
  cases target with
  | option seconds => rw [press, handle, served, served]
  | history index =>
    rw [press]
    split
    · split
      · unfold openHistory
        simp only
        split <;> rfl
      · rfl
    · rfl
  | _ => rfl

theorem served_click (board : Board) (target : Target) :
    (board.click target).served = board.served := by
  unfold click
  by_cases hoffers : board.offers target = true
  · rw [if_pos hoffers]
    refine Eq.trans ?_ (board.served_press target)
    exact (apply_ite served _ _ _).trans (ite_self _)
  · rw [if_neg hoffers]

theorem source_act (board : Board) (action : Action) :
    (board.act action).source = board.source := by
  cases action with
  | click target => exact congrArg Prod.fst (board.served_click target)
  | key name =>
    rw [act, key]
    split <;> rfl
  | visibility isHidden => exact congrArg (·.1.1) (board.contents_visibility isHidden)
  | advance millis => exact congrArg (·.1.1) (board.contents_advance millis)
  | editRow index edit => rfl
  | refuse refusals => rfl
  | load =>
    rw [act, load_eq, listen]
    split <;> rfl

theorem refusals_act (board : Board) (action : Action) :
    (board.act action).browser.refusals = action.refusals board.browser.refusals := by
  cases action with
  | refuse refusals => rfl
  | load =>
    have hlistens : ∀ board : Board, board.listen.browser.refusals = board.browser.refusals := by
      intro board
      unfold listen
      split <;> rfl
    have hrestored : (board.loading.handle .restore).browser.refusals
        = board.loading.browser.refusals :=
      Browser.refusals_handle board.loading.session .restore
    rw [act, load_eq, hlistens, hrestored]
    rfl
  | _ =>
    exact @act_keeps (fun later => later.browser.refusals = board.browser.refusals)
      (fun _ _ hsame hkept => (congrArg (·.2.1) hsame).trans hkept)
      (fun _ hkept event => (Browser.refusals_handle _ event).trans hkept) board rfl _
      Action.noConfusion fun _ => Action.noConfusion

theorem rows_act (board : Board) {action : Action} (hstays : action ≠ .load) (index : Nat) :
    (board.act action).rows[index]?
      = board.rows[index]?.map fun row => { row with toRow := action.edited index row.toRow } := by
  have hsame : ∀ rows : List BoardRow, rows[index]? = rows[index]?.map fun row =>
      { row with toRow := row.toRow } := by
    intro rows
    exact Option.map_id'.symm
  cases action with
  | click target =>
    have hrows : (board.click target).rows = board.rows :=
      congrArg Prod.snd (board.served_click target)
    rw [act, hrows]
    exact hsame board.rows
  | key name =>
    rw [act, key]
    split <;> exact hsame board.rows
  | visibility isHidden =>
    have hrows : (board.visibility isHidden).rows = board.rows :=
      congrArg (·.1.2) (board.contents_visibility isHidden)
    rw [act, hrows]
    exact hsame board.rows
  | advance millis =>
    have hrows : (board.advance millis).rows = board.rows :=
      congrArg (·.1.2) (board.contents_advance millis)
    rw [act, hrows]
    exact hsame board.rows
  | editRow other edit =>
    rw [act, List.getElem?_modify]
    apply congrArg fun change => board.rows[index]?.map change
    funext row
    change _ = BoardRow.mk (if other = index then row.toRow.edit edit else row.toRow) row.isBound
    by_cases hplace : other = index
    · rw [if_pos hplace, if_pos hplace]
      rfl
    · rw [if_neg hplace, if_neg hplace]
  | refuse refusals => exact hsame board.rows
  | load => exact absurd rfl hstays

theorem pager_opened {board : Board} {index : Nat} {row : BoardRow}
    (hrow : board.rows[index]? = some row) (hbound : row.isBound = true)
    (hbutton : row.hasButton = true) :
    (board.act (.click (.history index))).pager
      = { changes := row.log.reverse, label := row.title, page := 1
          pageSize := board.pager.pageSize, isOpen := true } := by
  have hoffers : board.offers (.history index) = true := by
    rw [offers, hrow]
    exact hbutton
  have hpress : board.press (.history index) = board.openHistory row.toRow := by
    rw [press, hrow]
    exact if_pos hbound
  have hpager : (board.openHistory row.toRow).pager
      = (board.pager.openLog (row.history?.getD "") row.label).1 := by
    unfold openHistory
    simp only
    split <;> rfl
  rw [act, click, if_pos hoffers, hpress]
  exact hpager.trans (openLog_eq board.pager row.toRow)

theorem pager_click (board : Board) (target : Target) :
    (board.click target).pager
      = if board.offers target then (board.press target).pager else board.pager := by
  unfold click
  by_cases hoffers : board.offers target = true
  · rw [if_pos hoffers, if_pos hoffers]
    exact (apply_ite Board.pager _ _ _).trans (ite_self _)
  · rw [if_neg hoffers, if_neg hoffers]

theorem pager_previous {board : Board} (hfirst : 1 ≤ board.pager.page) :
    (board.click .previous).pager = { board.pager with page := max 1 (board.pager.page - 1) } := by
  rw [pager_click, offers, press, Pager.previous?]
  by_cases hprevious : board.pager.hasPrevious = true
  · have hpage : max 1 (board.pager.page - 1) = board.pager.page - 1 := by
      have hmore : 1 < board.pager.page := of_decide_eq_true hprevious
      omega
    rw [if_pos hprevious, if_pos hprevious, hpage]
    rfl
  · have hpage : max 1 (board.pager.page - 1) = board.pager.page := by
      have hmost : ¬ 1 < board.pager.page := fun hmore => hprevious (decide_eq_true hmore)
      omega
    rw [if_neg hprevious, hpage]

theorem pager_next {board : Board} (hlast : board.pager.page ≤ board.pager.totalPages) :
    (board.click .next).pager
      = { board.pager with page := min board.pager.totalPages (board.pager.page + 1) } := by
  rw [pager_click, offers, press, Pager.next?]
  by_cases hnext : board.pager.hasNext = true
  · have hpage : min board.pager.totalPages (board.pager.page + 1) = board.pager.page + 1 := by
      have hless : board.pager.page < board.pager.totalPages := of_decide_eq_true hnext
      omega
    rw [if_pos hnext, if_pos hnext, hpage]
    rfl
  · have hpage : min board.pager.totalPages (board.pager.page + 1) = board.pager.page := by
      have hmost : ¬ board.pager.page < board.pager.totalPages :=
        fun hless => hnext (decide_eq_true hless)
      omega
    rw [if_neg hnext, hpage]

theorem pager_press_unbound {board : Board} {index : Nat}
    (hunbound : ∀ row, board.rows[index]? = some row → row.isBound = false) :
    (board.press (.history index)).pager = board.pager := by
  rw [press]
  split
  · next row hrow => rw [if_neg (ne_true_of_eq_false (hunbound row hrow))]
  · rfl

theorem moved_of_turning {pager : Pager} {action : Action} (hcloses : action.closes = false) :
    moved pager action = { pager with page := action.turned pager.totalPages pager.page } := by
  rw [moved, hcloses, Bool.not_false, Bool.and_true]

theorem moved_of_still {pager : Pager} {action : Action}
    (hturned : action.turned pager.totalPages pager.page = pager.page)
    (hcloses : action.closes = false) : moved pager action = pager := by
  rw [moved_of_turning hcloses, hturned]

theorem moved_of_closes {pager : Pager} {action : Action}
    (hturned : action.turned pager.totalPages pager.page = pager.page)
    (hcloses : action.closes = true) : moved pager action = pager.close := by
  rw [moved, hturned, hcloses, Bool.not_true, Bool.and_false, Pager.close]

theorem pager_moved {board : Board}
    (hpage : 1 ≤ board.pager.page ∧ board.pager.page ≤ board.pager.totalPages) {action : Action}
    (hstays : action ≠ .load)
    (hquiet : ∀ index, action = .click (.history index) →
      ∀ row, board.rows[index]? = some row → row.isBound = false) :
    (board.act action).pager = moved board.pager action := by
  cases action with
  | click target =>
    rw [act]
    cases target with
    | previous =>
      rw [moved_of_turning rfl]
      exact pager_previous hpage.1
    | next =>
      rw [moved_of_turning rfl]
      exact pager_next hpage.2
    | close => exact (pager_click board .close).trans (moved_of_closes rfl rfl).symm
    | backdrop => exact (pager_click board .backdrop).trans (moved_of_closes rfl rfl).symm
    | history index =>
      rw [moved_of_still rfl rfl, pager_click, pager_press_unbound (hquiet index rfl), ite_self]
    | option seconds =>
      rw [moved_of_still rfl rfl, pager_click, press, handle]
      exact ite_self _
    | _ =>
      rw [moved_of_still rfl rfl, pager_click]
      exact ite_self _
  | key name =>
    rw [act, key]
    by_cases hescape : name = "Escape"
    · have hcloses : Action.closes (.key name) = true := decide_eq_true hescape
      rw [moved_of_closes rfl hcloses]
      by_cases hopen : board.pager.isOpen = true
      · rw [if_pos ⟨hescape, hopen⟩]
        rfl
      · rw [if_neg fun hboth => hopen hboth.2, Pager.close, ← eq_false_of_ne_true hopen]
    · have hkeeps : Action.closes (.key name) = false := decide_eq_false hescape
      rw [if_neg fun hboth => hescape hboth.1, moved_of_still rfl hkeeps]
  | visibility isHidden =>
    rw [moved_of_still rfl rfl]
    exact congrArg (·.2) (board.contents_visibility isHidden)
  | advance millis =>
    rw [moved_of_still rfl rfl]
    exact congrArg (·.2) (board.contents_advance millis)
  | editRow index edit => exact (moved_of_still rfl rfl).symm
  | refuse refusals => exact (moved_of_still rfl rfl).symm
  | load => exact absurd rfl hstays

/-! ## The whole run -/

/-- A board stands where its past says. -/
structure Told (source : Source) (refusals : List Refusal) (actions : List Action)
    (board : Board) : Prop where
  served : board.source = source
  refused : board.browser.refusals = refusalsAfter refusals actions
  rows : ∀ index, board.rows[index]? = source.rows[index]?.map fun row =>
    BoardRow.mk ((sinceLoad actions).foldl (Action.edited index) row)
      (row.isBoundUnder (refusalsAfter refusals (untilLoad actions)))
  pager : board.pager = shownPager (lastOpening?
    (source.bound? (refusalsAfter refusals (untilLoad actions))) (sinceLoad actions))

section Told

variable {source : Source} {refusals : List Refusal} {actions : List Action} {board : Board}

theorem told_load (hsource : board.source = source)
    (hrefusals : board.browser.refusals = refusalsAfter refusals actions)
    (huntil : untilLoad actions = actions) (hsince : sinceLoad actions = []) :
    Told source refusals actions board.load := by
  have hcontents : board.load.contents = board.loading.contents := by
    rw [load_eq, listen]
    split <;> rfl
  refine ⟨?_, ?_, ?_, ?_⟩
  · exact (board.source_act .load).trans hsource
  · exact (board.refusals_act .load).trans hrefusals
  · intro index
    have hrows : board.load.rows = source.rows.map (bind board.browser.cleared) := by
      rw [← hsource]
      exact congrArg (·.1.2) hcontents
    rw [hrows, List.getElem?_map, huntil, hsince, ← hrefusals]
    rfl
  · have hpager : board.load.pager
        = .closed (Settings.ofIntervals board.source.intervals?).1.pageSize :=
      congrArg (·.2) hcontents
    obtain ⟨choices, hsettings⟩ := Settings.ofIntervals_eq board.source.intervals?
    rw [hpager, hsettings, hsince]
    rfl

theorem sinceLoad_concat {action : Action} (hstays : action ≠ .load) :
    sinceLoad (actions ++ [action]) = sinceLoad actions ++ [action] := by
  rw [sinceLoad, List.rtakeWhile_concat, if_pos (decide_eq_true hstays), sinceLoad]

theorem untilLoad_concat {action : Action} (hstays : action ≠ .load) :
    untilLoad (actions ++ [action]) = untilLoad actions := by
  rw [untilLoad, List.rdropWhile_concat, if_pos (decide_eq_true hstays), untilLoad]

theorem Told.bound? (htold : Told source refusals actions board) {index : Nat} {row : BoardRow}
    (hrow : board.rows[index]? = some row) (hbound : row.isBound = true) :
    ∃ loaded, source.bound? (refusalsAfter refusals (untilLoad actions)) index = some loaded := by
  rw [htold.rows] at hrow
  obtain ⟨loaded, hloaded, rfl⟩ := Option.map_eq_some_iff.mp hrow
  exact ⟨loaded, Option.filter_eq_some_iff.mpr ⟨hloaded, hbound⟩⟩

theorem hasButton_foldl (actions : List Action) (index : Nat) (row : Row) :
    (actions.foldl (Action.edited index) row).hasButton = row.hasButton := by
  induction actions generalizing row with
  | nil => rfl
  | cons action actions ih =>
    rw [List.foldl_cons, ih]
    unfold Action.edited
    split
    · split <;> rfl
    · rfl

/-- A click on a bound row opens what the row has come to be since the page was loaded. -/
theorem Told.pager_opened (htold : Told source refusals actions board) {index : Nat} {loaded : Row}
    (hbound : source.bound? (refusalsAfter refusals (untilLoad actions)) index = some loaded) :
    (board.act (.click (.history index))).pager
      = shownPager (some ⟨sinceLoad actions, index, loaded, []⟩) := by
  obtain ⟨hloaded, hbinds⟩ := Option.filter_eq_some_iff.mp hbound
  have hrow := htold.rows index
  rw [hloaded, Option.map_some] at hrow
  have hbutton : loaded.hasButton = true := by
    simp only [Row.isBoundUnder, Bool.and_eq_true] at hbinds
    exact hbinds.1.2
  have hsize : board.pager.pageSize = 20 := by
    rw [htold.pager]
    cases lastOpening? _ (sinceLoad actions) <;> rfl
  rw [Board.pager_opened hrow hbinds ((hasButton_foldl _ _ _).trans hbutton), hsize]
  rfl

theorem Told.act (htold : Told source refusals actions board) (action : Action) :
    Told source refusals (actions ++ [action]) (board.act action) := by
  have hrefused : (board.act action).browser.refusals
      = refusalsAfter refusals (actions ++ [action]) := by
    rw [refusals_act, htold.refused, refusalsAfter, refusalsAfter, List.foldl_append]
    rfl
  by_cases hload : action = .load
  · subst hload
    apply told_load htold.served
    · exact (board.refusals_act .load).symm.trans hrefused
    · simp [untilLoad]
    · simp [sinceLoad]
  · refine ⟨(board.source_act action).trans htold.served, hrefused, ?_, ?_⟩
    · intro index
      rw [board.rows_act hload, htold.rows, sinceLoad_concat hload, untilLoad_concat hload,
        Option.map_map]
      simp only [List.foldl_append]
      rfl
    · rw [sinceLoad_concat hload, untilLoad_concat hload]
      cases hopening : action.opening?
          (source.bound? (refusalsAfter refusals (untilLoad actions))) [] with
      | none =>
        have hquiet : ∀ index, action = .click (.history index) →
            ∀ row, board.rows[index]? = some row → row.isBound = false := by
          intro index hclick row hrow
          refine eq_false_of_ne_true fun hbound => ?_
          obtain ⟨loaded, hloaded⟩ := htold.bound? hrow hbound
          rw [opening?_eq_none_iff.mp hopening index hclick] at hloaded
          cases hloaded
        have hpage := shownPager_bounds (lastOpening?
          (source.bound? (refusalsAfter refusals (untilLoad actions))) (sinceLoad actions))
        rw [← htold.pager] at hpage
        rw [pager_moved hpage hload hquiet, htold.pager, moved_shownPager,
          lastOpening?_concat hopening]
      | some opening =>
        obtain ⟨index, loaded, rfl, hbound⟩ := click_of_opening hopening
        rw [lastOpening?_concat_of_bound hbound, htold.pager_opened hbound]

end Told

end Board

end AddressBoard.Page
