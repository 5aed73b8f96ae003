import AddressBoard.History.Log
import AddressBoard.Proofs.Json.Values

/-!
# Which texts are logs

A text is read as a log exactly if it is a JSON array of changes, and then as the log of these. What
the reader finds is computed from the tree that the text spells; the conditions on the tree do not
mention the reader.
-/

namespace AddressBoard.History

open Json (EndsNumber Lexeme Space Spelled Tree Written)

/-! ## Logs as trees -/

/-- The values of the members that have a name. -/
def valuesOf (name : String) (members : List (List Nat × Tree)) : List Tree :=
  (members.filter fun named => named.1 = Json.units name.toList).map Prod.snd

def addressOf? : Tree → Option String
  | .text units => (Json.decode? units).map String.ofList
  | _ => none

def instantOf? : Tree → Option Calendar.Instant
  | .text units =>
    (Json.decode? units).bind fun characters =>
      (Calendar.Instant.read (String.ofList characters)).toOption
  | .number lexeme =>
    (lexeme.integer?.filter fun millis =>
      Numeral.leastSigned ≤ millis ∧ millis ≤ Numeral.greatestSigned).bind
        Calendar.Instant.ofMillis?
  | _ => none

/-- Enters members into a draft, where a field can be entered once. -/
def Draft.enter? (draft : Draft) : List (List Nat × Tree) → Option Draft
  | [] => some draft
  | (name, tree) :: members => do
    let name ← Json.decode? name
    if String.ofList name = Field.address.name then
      if draft.address?.isSome then none
      else
        let address ← addressOf? tree
        { draft with address? := some address }.enter? members
    else if String.ofList name = Field.time.name then
      if draft.time?.isSome then none
      else
        let instant ← instantOf? tree
        { draft with time? := some instant }.enter? members
    else draft.enter? members

def Draft.change? (draft : Draft) : Option Change := do
  let address ← draft.address?
  let time ← draft.time?
  some { address, time }

def changeOf? : Tree → Option Change
  | .object members => (Draft.enter? ⟨none, none⟩ members).bind Draft.change?
  | .array [address, time] => do
    let address ← addressOf? address
    let time ← instantOf? time
    some { address, time }
  | _ => none

def treeLog? : Tree → Option (List Change)
  | .array elements => elements.mapM changeOf?
  | _ => none

/-! ## Values -/

@[simp]
theorem toOption_ofGrammar {Result : Type} (outcome : Json.Outcome Json.Cause Result) :
    (ofGrammar outcome).toOption = outcome.toOption :=
  Json.toOption_mapError _ _

@[simp]
theorem toOption_reportBehind {Result : Type} (close : List Char → List Char)
    (outcome : Json.Outcome LogCause Result) :
    (reportBehind close outcome).toOption = outcome.toOption :=
  Json.toOption_mapError _ _

@[simp]
theorem toOption_refuse {Result : Type} (expected : Part) (source : List Char) :
    (refuse expected source : Json.Outcome LogCause Result).toOption = none := by
  unfold refuse
  split
  · rfl
  · rfl
  · simp

theorem toOption_address {tree : Tree} {source rest : List Char}
    (hvalue : Spelled (.value tree) source rest) :
    (address source).toOption = (addressOf? tree).map fun address => (address, rest) := by
  unfold address
  cases hvalue with
  | text hspace htext =>
    rw [hspace.skipSpace_cons rfl]
    simp only [Json.toOption_bind, toOption_ofGrammar, Json.toOption_text htext, addressOf?]
    cases Json.decode? _ <;> rfl
  | number hspace hnumber =>
    obtain ⟨character, behind, rfl, hbegins⟩ := hnumber.head_cons
    rw [hspace.skipSpace_cons (Json.black_of_number hbegins)]
    split
    · next heq =>
      cases heq
      rcases hbegins with heq | hdigit <;> contradiction
    · exact toOption_refuse _ _
  | null hspace | affirmed hspace | denied hspace | array hspace _ | object hspace _ =>
    rw [hspace.skipSpace_cons rfl]
    exact toOption_refuse _ _

theorem toOption_ofMillis (millis : Int) :
    (Calendar.Instant.ofMillis millis).toOption = Calendar.Instant.ofMillis? millis := by
  unfold Calendar.Instant.ofMillis
  cases Calendar.Instant.ofMillis? millis <;> rfl

theorem toOption_instant_number (number : Json.Number) :
    (instant (.scalar (.number number))).toOption
      = (number.integer?.filter fun millis =>
          Numeral.leastSigned ≤ millis ∧ millis ≤ Numeral.greatestSigned).bind
            Calendar.Instant.ofMillis? := by
  cases number with
  | integer millis =>
    by_cases hrange : Numeral.leastSigned ≤ millis ∧ millis ≤ Numeral.greatestSigned
    · rw [instant, if_pos hrange, Json.toOption_mapError, toOption_ofMillis]
      simp [Json.Number.integer?, Option.filter, hrange]
    · rw [instant, if_neg hrange]
      simp [Json.Number.integer?, Option.filter, hrange]
  | float value => rfl

theorem toOption_time (source : List Char) :
    (time source).toOption
      = (Json.value greatestDepth source).toOption.bind fun outcome =>
          (instant outcome.1).toOption.map fun instant => (instant, outcome.2) := by
  unfold time
  rw [Json.toOption_bind, toOption_ofGrammar]
  congr
  funext ⟨value, rest⟩
  simp only
  cases instant value <;> rfl

theorem toOption_time_scalar {character : Char} {source behind : List Char}
    (hskip : Json.skipSpace source = character :: behind) (harray : character ≠ '[')
    (hobject : character ≠ '\x7b') :
    (time source).toOption
      = (Json.scalar (character :: behind)).toOption.bind fun outcome =>
          (instant (.scalar outcome.1)).toOption.map fun instant => (instant, outcome.2) := by
  rw [toOption_time, Json.value, Json.stepsFor, Json.valueWithin_of_scalar hskip harray hobject,
    Json.toOption_bind]
  cases (Json.scalar (character :: behind)).toOption <;> rfl

/-- No array and no object is a time, whether it is read or too deep. -/
theorem toOption_time_nested {character : Char} {source behind : List Char}
    (hskip : Json.skipSpace source = character :: behind)
    (hnested : character = '[' ∨ character = '\x7b') : (time source).toOption = none := by
  rw [toOption_time]
  cases hvalue : Json.value greatestDepth source with
  | error fault => rfl
  | ok outcome =>
    obtain ⟨value, rest⟩ := outcome
    have hnone := Json.valueWithin_of_nested hskip hnested hvalue
    cases value with
    | scalar scalar => exact absurd rfl (hnone scalar)
    | array elements => rfl
    | object members => rfl

theorem filter_integer?_value (number : Lexeme) (rest : List Char) :
    ((number.value rest).toOption.bind Json.Number.integer?).filter (fun millis =>
        Numeral.leastSigned ≤ millis ∧ millis ≤ Numeral.greatestSigned)
      = number.integer?.filter fun millis =>
          Numeral.leastSigned ≤ millis ∧ millis ≤ Numeral.greatestSigned := by
  rw [Json.integer?_value, Option.filter_filter]
  congr
  funext millis
  have hwider : Numeral.leastSigned ≤ millis ∧ millis ≤ Numeral.greatestSigned →
      -(Json.greatestNegated : Int) ≤ millis ∧ millis ≤ Json.greatestSignificand := by
    unfold Numeral.leastSigned Numeral.greatestSigned Json.greatestNegated
      Json.greatestSignificand
    omega
  by_cases hrange : Numeral.leastSigned ≤ millis ∧ millis ≤ Numeral.greatestSigned
  · simp [hrange, hwider hrange]
  · simp only [hrange, decide_false, Bool.and_false]

theorem toOption_time_number {number : Lexeme} {source behind rest : List Char}
    (hspace : Space source behind) (hnumber : Json.LexemeSpelled number behind rest)
    (hend : EndsNumber rest) :
    (time source).toOption
      = (instantOf? (.number number)).map fun instant => (instant, rest) := by
  obtain ⟨character, others, rfl, hbegins⟩ := hnumber.head_cons
  have hskip := hspace.skipSpace_cons (Json.black_of_number hbegins)
  have harray : character ≠ '[' := by
    rintro rfl
    rcases hbegins with heq | hdigit <;> contradiction
  have hobject : character ≠ '\x7b' := by
    rintro rfl
    rcases hbegins with heq | hdigit <;> contradiction
  rw [toOption_time_scalar hskip harray hobject, Json.scalar_number hbegins, Json.number,
    Json.lexeme_of_spelled hnumber hend, instantOf?, ← filter_integer?_value number rest]
  simp only [Json.toOption_bind, Json.toOption_ok, Option.bind_some]
  cases (number.value rest).toOption with
  | none => rfl
  | some value =>
    simp only [Option.bind_some, Json.toOption_pure, toOption_instant_number]

theorem toOption_time_of_spelled {tree : Tree} {source rest : List Char}
    (hvalue : Spelled (.value tree) source rest) (hend : EndsNumber rest) :
    (time source).toOption = (instantOf? tree).map fun instant => (instant, rest) := by
  cases hvalue with
  | null hspace | affirmed hspace | denied hspace =>
    rw [toOption_time_scalar (hspace.skipSpace_cons rfl) (by decide) (by decide)]
    rfl
  | number hspace hnumber => exact toOption_time_number hspace hnumber hend
  | text hspace htext =>
    rw [toOption_time_scalar (hspace.skipSpace_cons rfl) (by decide) (by decide), Json.scalar,
      Json.toOption_bind, Json.toOption_text htext, instantOf?]
    cases Json.decode? _ with
    | none => rfl
    | some characters =>
      simp only [Option.map_some, Option.bind_some, Json.toOption_pure, instant,
        Json.toOption_mapError]
  | array hspace _ => exact toOption_time_nested (hspace.skipSpace_cons rfl) (Or.inl rfl)
  | object hspace _ => exact toOption_time_nested (hspace.skipSpace_cons rfl) (Or.inr rfl)

/-! ## Objects -/

theorem toOption_colon_bind {Result : Type} {source behind : List Char}
    (hcolon : Space source (':' :: behind)) (next : List Char → Json.Outcome LogCause Result) :
    (ofGrammar (Json.colon source) >>= next).toOption = (next behind).toOption := by
  rw [Json.toOption_bind, toOption_ofGrammar, Json.colon_of_space hcolon]
  rfl

theorem toOption_fields {isFirst : Bool} {members : List (List Nat × Tree)}
    {source rest : List Char} (hmembers : Spelled (.members isFirst members) source rest)
    {steps : Nat} (hsteps : source.length ≤ steps + rest.length) (draft : Draft) :
    (fields steps isFirst draft source).toOption
      = (draft.enter? members).map fun draft => (draft, rest) := by
  -- The draft is what the members before these have come to.
  induction members generalizing isFirst source steps draft with
  | nil =>
    have hshorter := hmembers.length_lt
    obtain ⟨steps, rfl⟩ : ∃ fewer, steps = fewer + 1 := ⟨steps - 1, by omega⟩
    cases hmembers with
    | noMember hspace =>
      rw [fields, Json.toMember_of_close hspace]
      rfl
  | cons named members ih =>
    have hshorter := hmembers.length_lt
    obtain ⟨steps, rfl⟩ : ∃ fewer, steps = fewer + 1 := ⟨steps - 1, by omega⟩
    cases hmembers with
    | member hdivided hquote hname hcolon hvalue hothers =>
      have hstart := hdivided.length_le
      have hbehindQuote := hquote.length_le
      have hbehindName := hname.length_lt
      have hbehindColon := hcolon.length_le
      have hbetween := hvalue.length_lt
      simp only [List.length_cons] at hbehindQuote hbehindColon
      rw [fields, Json.toMember_of_member hdivided hquote, Draft.enter?]
      simp only [Json.toOption_bind, toOption_ofGrammar, Json.toOption_ok, Option.bind_some,
        Json.toOption_text hname]
      cases Json.decode? _ with
      | none => rfl
      | some name =>
        simp only [Option.map_some, Option.bind_some, Option.bind_eq_bind]
        split
        · split
          · rfl
          · rw [toOption_colon_bind hcolon, Json.toOption_bind, toOption_address hvalue]
            cases addressOf? _ with
            | none => rfl
            | some address => exact ih hothers (by omega) _
        · split
          · split
            · rfl
            · rw [toOption_colon_bind hcolon, Json.toOption_bind,
                toOption_time_of_spelled hvalue hothers.endsNumber_members]
              cases instantOf? _ with
              | none => rfl
              | some instant => exact ih hothers (by omega) _
          · rw [toOption_colon_bind hcolon, Json.toOption_bind, toOption_ofGrammar,
              Json.skipValue_of_spelled hvalue hothers.endsNumber_members]
            exact ih hothers (by omega) draft

theorem toOption_changeOfObject {members : List (List Nat × Tree)} {source rest : List Char}
    (hmembers : Spelled (.members true members) source rest) :
    (changeOfObject source).toOption
      = (changeOf? (.object members)).map fun change => (change, rest) := by
  have hsteps : source.length ≤ Json.stepsFor source + rest.length := by
    unfold Json.stepsFor
    omega
  rw [changeOfObject, Json.toOption_bind, toOption_reportBehind, toOption_fields hmembers hsteps,
    changeOf?]
  cases Draft.enter? _ members with
  | none => rfl
  | some draft =>
    obtain ⟨address?, time?⟩ := draft
    cases address? <;> cases time? <;> rfl

/-! ## Pairs -/

theorem toOption_endOfPair {others : List Tree} {source rest : List Char}
    (hothers : Spelled (.elements false others) source rest) :
    (endOfPair source).toOption = if others = [] then some rest else none := by
  unfold endOfPair
  cases hothers with
  | noElement hspace =>
    simp only [hspace.skipSpace_cons rfl]
    rfl
  | element hdivided =>
    simp only [Space.skipSpace_cons hdivided rfl]
    split <;> rfl

theorem changeOf?_pair (first second : Tree) (others : List Tree) :
    changeOf? (.array (first :: second :: others))
      = (addressOf? first).bind fun address => (instantOf? second).bind fun time =>
          if others = [] then some { address, time } else none := by
  cases others with
  | nil => rfl
  | cons third others => cases addressOf? first <;> cases instantOf? second <;> rfl

theorem toOption_changeOfArray {elements : List Tree} {source rest : List Char}
    (helements : Spelled (.elements true elements) source rest) :
    (changeOfArray source).toOption
      = (changeOf? (.array elements)).map fun change => (change, rest) := by
  rw [changeOfArray]
  cases helements with
  | noElement hspace =>
    rw [Json.toElement_of_close hspace]
    rfl
  | @element _ first others _ _ _ _ hdivided hfirst hothers =>
    rw [Json.toElement_of_element hdivided hfirst]
    simp only [Json.toOption_bind, toOption_ofGrammar, Json.toOption_ok, Option.bind_some,
      toOption_address hfirst.skipSpace]
    cases hothers with
    | noElement hspace =>
      cases addressOf? first with
      | none => rfl
      | some address =>
        simp only [Option.map_some, Option.bind_some, Json.toElement_of_close hspace]
        rfl
    | @element _ second others _ _ _ _ hdivided hsecond hothers =>
      have htime := toOption_time_of_spelled hsecond.skipSpace hothers.endsNumber_elements
      rw [changeOf?_pair]
      cases addressOf? first with
      | none => rfl
      | some address =>
        simp only [Option.map_some, Option.bind_some, Json.toElement_of_element hdivided hsecond,
          Json.toOption_ok, Json.toOption_bind, toOption_reportBehind, htime]
        cases instantOf? second with
        | none => rfl
        | some instant =>
          simp only [Option.map_some, Option.bind_some, toOption_endOfPair hothers]
          split <;> rfl

/-! ## Changes and logs -/

theorem toOption_change {tree : Tree} {source rest : List Char}
    (hvalue : Spelled (.value tree) source rest) :
    (change source).toOption = (changeOf? tree).map fun change => (change, rest) := by
  unfold change
  cases hvalue with
  | number hspace hnumber =>
    obtain ⟨character, behind, rfl, hbegins⟩ := hnumber.head_cons
    rw [hspace.skipSpace_cons (Json.black_of_number hbegins)]
    split
    · next heq =>
      cases heq
      rcases hbegins with heq | hdigit <;> contradiction
    · next heq =>
      cases heq
      rcases hbegins with heq | hdigit <;> contradiction
    · exact toOption_refuse _ _
  | array hspace helements =>
    rw [hspace.skipSpace_cons rfl]
    exact toOption_changeOfArray helements
  | object hspace hmembers =>
    rw [hspace.skipSpace_cons rfl]
    exact toOption_changeOfObject hmembers
  | null hspace | affirmed hspace | denied hspace | text hspace _ =>
    rw [hspace.skipSpace_cons rfl]
    exact toOption_refuse _ _

theorem toOption_changes {isFirst : Bool} {elements : List Tree} {source rest : List Char}
    (helements : Spelled (.elements isFirst elements) source rest) {steps : Nat}
    (hsteps : source.length ≤ steps + rest.length) :
    (changes steps isFirst source).toOption
      = (elements.mapM changeOf?).map fun changes => (changes, rest) := by
  induction elements generalizing isFirst source steps with
  | nil =>
    have hshorter := helements.length_lt
    obtain ⟨steps, rfl⟩ : ∃ fewer, steps = fewer + 1 := ⟨steps - 1, by omega⟩
    cases helements with
    | noElement hspace =>
      rw [changes, Json.toElement_of_close hspace]
      rfl
  | cons element elements ih =>
    have hshorter := helements.length_lt
    obtain ⟨steps, rfl⟩ : ∃ fewer, steps = fewer + 1 := ⟨steps - 1, by omega⟩
    cases helements with
    | element hdivided hvalue hothers =>
      have hstart := hdivided.length_le
      have hbetween := hvalue.length_lt
      rw [changes, Json.toElement_of_element hdivided hvalue, List.mapM_cons]
      simp only [Json.toOption_bind, toOption_ofGrammar, Json.toOption_ok, Option.bind_some,
        toOption_change hvalue.skipSpace]
      cases changeOf? element with
      | none => rfl
      | some change =>
        have hread : (changes steps false _).toOption = _ := ih hothers (by omega)
        simp only [Option.map_some, Option.bind_some, hread]
        cases elements.mapM changeOf? <;> rfl

/-- What is read from a text is what its tree stands for. -/
theorem toOption_logOf {tree : Tree} {source rest : List Char}
    (hvalue : Spelled (.value tree) source rest) (hend : Space rest []) :
    (logOf source).toOption = treeLog? tree := by
  unfold logOf
  cases hvalue with
  | number hspace hnumber =>
    obtain ⟨character, behind, rfl, hbegins⟩ := hnumber.head_cons
    rw [hspace.skipSpace_cons (Json.black_of_number hbegins)]
    split
    · next heq =>
      cases heq
      rcases hbegins with heq | hdigit <;> contradiction
    · exact toOption_refuse _ _
  | @array trees _ behind _ hspace helements =>
    have hsteps : behind.length ≤ Json.stepsFor behind + rest.length := by
      unfold Json.stepsFor
      omega
    rw [hspace.skipSpace_cons rfl, treeLog?]
    simp only [Json.toOption_bind, toOption_changes helements hsteps]
    cases trees.mapM changeOf? with
    | none => rfl
    | some log =>
      simp only [Option.map_some, Option.bind_some, hend.skipSpace_eq rfl]
      rfl
  | null hspace | affirmed hspace | denied hspace | text hspace _ | object hspace _ =>
    rw [hspace.skipSpace_cons rfl]
    exact toOption_refuse _ _

theorem toOption_readLog {text : String} {tree : Tree} (hwritten : Written text tree) :
    (readLog text).toOption = treeLog? tree := by
  obtain ⟨rest, hvalue, hend⟩ := hwritten
  rw [readLog, Json.toOption_mapError]
  exact toOption_logOf hvalue hend

/-! ## Trees of whole characters -/

theorem units_inj {first second : List Char} (hunits : Json.units first = Json.units second) :
    first = second := by
  have hdecode := congrArg Json.decode? hunits
  rw [Json.decode?_units, Json.decode?_units] at hdecode
  exact Option.some.inj hdecode

/-- A field after the values of its members, which must not be more than one. -/
def settle {Content : Type} (read : Tree → Option Content) :
    Option Content → List Tree → Option (Option Content)
  | field?, [] => some field?
  | none, tree :: trees => (read tree).bind fun content => settle read (some content) trees
  | some _, _ :: _ => none

theorem valuesOf_cons (name : String) (characters : List Char) (tree : Tree)
    (members : List (List Nat × Tree)) :
    valuesOf name ((Json.units characters, tree) :: members)
      = if String.ofList characters = name then tree :: valuesOf name members
        else valuesOf name members := by
  have hname : Json.units characters = Json.units name.toList
      ↔ String.ofList characters = name := by
    constructor
    · intro hunits
      rw [units_inj hunits, String.ofList_toList]
    · rintro rfl
      rw [String.toList_ofList]
  unfold valuesOf
  by_cases heq : String.ofList characters = name
  · rw [if_pos heq, List.filter_cons_of_pos (by simp [hname, heq])]
    rfl
  · rw [if_neg heq, List.filter_cons_of_neg (by simp [hname, heq])]

/-- Entering members one by one comes to what the members of each name come to together. -/
theorem enter?_eq {members : List (List Nat × Tree)}
    (hnames : ∀ named ∈ members, ∃ characters, named.1 = Json.units characters) (draft : Draft) :
    draft.enter? members
      = (settle addressOf? draft.address? (valuesOf "ip" members)).bind fun address? =>
          (settle instantOf? draft.time? (valuesOf "time" members)).map fun time? =>
            { address?, time? } := by
  induction members generalizing draft with
  | nil => rfl
  | cons named members ih =>
    obtain ⟨name, tree⟩ := named
    obtain ⟨characters, rfl⟩ : ∃ characters, name = Json.units characters :=
      hnames (name, tree) List.mem_cons_self
    have hrest := ih fun named hmem => hnames named (List.mem_cons_of_mem _ hmem)
    rw [Draft.enter?, Json.decode?_units, valuesOf_cons, valuesOf_cons]
    simp only [Option.bind_eq_bind, Option.bind_some, Field.name]
    obtain ⟨address?, time?⟩ := draft
    by_cases haddress : String.ofList characters = "ip"
    · have htime : String.ofList characters ≠ "time" := by
        rw [haddress]
        decide
      rw [if_pos haddress, if_pos haddress, if_neg htime]
      cases address? with
      | some old => rfl
      | none =>
        simp only [settle]
        cases addressOf? tree with
        | none => rfl
        | some address => exact hrest ⟨some address, time?⟩
    · rw [if_neg haddress, if_neg haddress]
      by_cases htime : String.ofList characters = "time"
      · rw [if_pos htime, if_pos htime]
        cases time? with
        | some old => cases settle addressOf? address? (valuesOf "ip" members) <;> rfl
        | none =>
          simp only [settle]
          cases instantOf? tree with
          | none => cases settle addressOf? address? (valuesOf "ip" members) <;> rfl
          | some instant => exact hrest ⟨address?, some instant⟩
      · rw [if_neg htime, if_neg htime]
        exact hrest ⟨address?, time?⟩

/-! ## Logs that are read -/

/-- A log of two pairs, with half a second behind the second change. -/
theorem readLog_two :
    readLog "[[\"a\",0],[\"b\",1500]]" = .ok [⟨"a", ⟨0, 0⟩⟩, ⟨"b", ⟨1, 500000000⟩⟩] := by
  have hwritten : Json.Written "[[\"a\",0],[\"b\",1500]]"
      (.array
        [.array [.text (Json.units ['a']), .number ⟨false, ['0'], [], none⟩],
          .array [.text (Json.units ['b']), .number ⟨false, ['1', '5', '0', '0'], [], none⟩]]) :=
    ⟨[], .pair
      (.pair (.plain (by simp) _) (.integer (by simp) (by simp) (by simp) _))
      (.pair (.plain (by simp) _) (.integer (by simp) (by simp) (by simp) _)), .refl _⟩
  rw [← Json.toOption_eq_some, toOption_readLog hwritten]
  rfl

end AddressBoard.History
