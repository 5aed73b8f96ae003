import AddressBoard.Proofs.Calendar.Unambiguous
import AddressBoard.Proofs.History.Reading

/-!
# Milliseconds as numbers and as texts

The time of an event can be a count of milliseconds, and the count a number or a text. A text is
tried as a date before it is tried as a count, but no count is a date, so the two kinds of writing
stand for the same instant, and are refused for the same counts.
-/

namespace AddressBoard.Calendar

/-! ## Texts of a count -/

/-- A text of a count: a signed numeral, with blanks around it or none. -/
def IsCount (content : List Char) (count : Int) : Prop :=
  ∃ before numeral after, content = before ++ (numeral ++ after)
    ∧ (∀ character ∈ before, Text.isBlank character = true)
    ∧ (∀ character ∈ after, Text.isBlank character = true)
    ∧ Numeral.IsSigned numeral count

theorem isBlank_of_mem_signed {numeral : List Char} {count : Int}
    (hsigned : Numeral.IsSigned numeral count) :
    ∀ character ∈ numeral, Text.isBlank character = false := by
  obtain ⟨first, others, rfl, hblack, hdigits⟩ := eq_cons_of_signed hsigned
  exact List.forall_mem_cons.mpr
    ⟨hblack, fun character hmem => Text.isBlank_of_isDigit (hdigits character hmem)⟩

theorem IsCount.isSigned_trim {content : List Char} {count : Int}
    (hcount : IsCount content count) : Numeral.IsSigned (Text.trim content) count := by
  obtain ⟨before, numeral, after, rfl, hbefore, hafter, hsigned⟩ := hcount
  rw [Text.trim_append hbefore (isBlank_of_mem_signed hsigned) hafter]
  exact hsigned

/-- A text of a count is read as that number of milliseconds, and refused as that number. -/
theorem IsCount.read_eq {content : List Char} {millis : Int} (hcount : IsCount content millis)
    (hleast : Numeral.leastSigned ≤ millis) (hgreatest : millis ≤ Numeral.greatestSigned) :
    Instant.read (String.ofList content) = Instant.ofMillis millis := by
  have hsigned := hcount.isSigned_trim
  have hdates : dateReadings.findSome? (fun reading => reading (Text.trim content)) = none :=
    List.findSome?_eq_none_iff.mpr fun reading hreading => dateReading_of_signed hsigned hreading
  have hnumber : Numeral.readSigned? (Text.trim content) = some millis :=
    Numeral.readSigned?_eq_some_iff.mpr ⟨hsigned, hleast, hgreatest⟩
  unfold Instant.read
  simp only [String.toList_ofList, hdates, hnumber]

theorem Instant.ofMillis?_eq_some_iff {millis : Int} {instant : Instant} :
    Instant.ofMillis? millis = some instant
      ↔ (Instant.earliestSecond * 1000 ≤ millis ∧ millis < (Instant.latestSecond + 1) * 1000)
        ∧ instant = ⟨millis / 1000, (millis % 1000).toNat * 1000000⟩ := by
  have hrange : Instant.InRange ⟨millis / 1000, (millis % 1000).toNat * 1000000⟩
      ↔ Instant.earliestSecond * 1000 ≤ millis ∧ millis < (Instant.latestSecond + 1) * 1000 := by
    simp only [Instant.InRange, Instant.earliestSecond, Instant.latestSecond]
    omega
  rw [Instant.ofMillis?, Option.ite_none_right_eq_some, hrange, Option.some.injEq, eq_comm]

end AddressBoard.Calendar

namespace AddressBoard.History

open Calendar (Instant IsCount dateReadings)
open Json (Lexeme Tree Written)

/-! ## Events whose time is left open -/

/-- The events of an address with a place left open for the time: pairs, and objects with one
address and any other members around that place. -/
inductive EventOf (address : String) : (Tree → Tree) → Prop where
  | pair : EventOf address fun time => .array [.text (Json.units address.toList), time]
  | object {before after : List (List Nat × Tree)}
      (hnames : ∀ named ∈ before ++ after, ∃ characters, named.1 = Json.units characters)
      (haddress : valuesOf "ip" (before ++ after) = [.text (Json.units address.toList)])
      (htime : valuesOf "time" (before ++ after) = []) :
      EventOf address fun time => .object (before ++ (Json.units "time".toList, time) :: after)

theorem valuesOf_append (name : String) (before after : List (List Nat × Tree)) :
    valuesOf name (before ++ after) = valuesOf name before ++ valuesOf name after := by
  simp only [valuesOf, List.filter_append, List.map_append]

theorem addressOf?_units (address : String) :
    addressOf? (.text (Json.units address.toList)) = some address := by
  rw [addressOf?, Json.decode?_units, Option.map_some, String.ofList_toList]

/-- All that an event makes of its time is the instant that the time names. -/
theorem EventOf.changeOf?_eq {address : String} {event : Tree → Tree}
    (hevent : EventOf address event) (time : Tree) :
    changeOf? (event time) = (instantOf? time).map fun instant => ⟨address, instant⟩ := by
  cases hevent with
  | pair =>
    rw [changeOf?, addressOf?_units]
    cases instantOf? time <;> rfl
  | @object before after hnames haddress htime =>
    have hall : ∀ named ∈ before ++ (Json.units "time".toList, time) :: after,
        ∃ characters, named.1 = Json.units characters := by
      simp only [List.forall_mem_append, List.forall_mem_cons] at hnames ⊢
      exact ⟨hnames.1, ⟨_, rfl⟩, hnames.2⟩
    have haddresses : valuesOf "ip" (before ++ (Json.units "time".toList, time) :: after)
        = [.text (Json.units address.toList)] := by
      rw [valuesOf_append, valuesOf_cons, if_neg (by decide), ← valuesOf_append, haddress]
    have htimes : valuesOf "time" (before ++ (Json.units "time".toList, time) :: after)
        = [time] := by
      rw [valuesOf_append, List.append_eq_nil_iff] at htime
      rw [valuesOf_append, valuesOf_cons, if_pos (by decide), htime.1, htime.2, List.nil_append]
    rw [changeOf?, enter?_eq hall, haddresses, htimes]
    simp only [settle, addressOf?_units, Option.bind_some]
    cases instantOf? time <;> rfl

theorem toOption_readLog_of_event {address : String} {event : Tree → Tree}
    (hevent : EventOf address event) {text : String} {time : Tree}
    (hwritten : Written text (.array [event time])) :
    (readLog text).toOption = (instantOf? time).map fun instant => [⟨address, instant⟩] := by
  rw [toOption_readLog hwritten, treeLog?, List.mapM_cons, hevent.changeOf?_eq]
  cases instantOf? time <;> rfl

/-! ## Counts as times -/

section Counts

variable {millis : Int} (hleast : Numeral.leastSigned ≤ millis)
  (hgreatest : millis ≤ Numeral.greatestSigned)
include hleast hgreatest

theorem instantOf?_of_integer {lexeme : Lexeme} (hinteger : lexeme.integer? = some millis) :
    instantOf? (.number lexeme) = Instant.ofMillis? millis := by
  simp [instantOf?, hinteger, Option.filter, hleast, hgreatest]

theorem instantOf?_of_count {content : List Char} (hcount : IsCount content millis) :
    instantOf? (.text (Json.units content)) = Instant.ofMillis? millis := by
  rw [instantOf?, Json.decode?_units, Option.bind_some, hcount.read_eq hleast hgreatest,
    toOption_ofMillis]

/-- **Milliseconds mean the same as a number and as a text.** The log of one event at a count of
milliseconds is read alike from both, and it is read exactly if the count lies in the range of
dates: then the event is at the whole seconds of the count, rounded down, and the rest of it in
nanoseconds. No count of any length and sign is read as a date. -/
theorem readLog_of_millis {address : String} {event : Tree → Tree}
    (hevent : EventOf address event) {lexeme : Lexeme} (hinteger : lexeme.integer? = some millis)
    {content : List Char} (hcount : IsCount content millis) {asNumber asText : String}
    (hnumber : Written asNumber (.array [event (.number lexeme)]))
    (htext : Written asText (.array [event (.text (Json.units content))])) :
    (readLog asNumber).toOption = (readLog asText).toOption
      ∧ (∀ log, readLog asNumber = .ok log
          ↔ (Instant.earliestSecond * 1000 ≤ millis ∧ millis < (Instant.latestSecond + 1) * 1000)
            ∧ log = [⟨address, ⟨millis / 1000, (millis % 1000).toNat * 1000000⟩⟩])
      ∧ ∀ other count, IsCount other count →
          ∀ reading ∈ dateReadings, reading (Text.trim other) = none := by
  have hread : (readLog asNumber).toOption
      = (Instant.ofMillis? millis).map fun instant => [⟨address, instant⟩] := by
    rw [toOption_readLog_of_event hevent hnumber, instantOf?_of_integer hleast hgreatest hinteger]
  refine ⟨?_, ?_, ?_⟩
  · rw [hread, toOption_readLog_of_event hevent htext, instantOf?_of_count hleast hgreatest hcount]
  · intro log
    rw [← Json.toOption_eq_some, hread, Option.map_eq_some_iff]
    simp only [Instant.ofMillis?_eq_some_iff]
    constructor
    · rintro ⟨instant, ⟨hrange, rfl⟩, rfl⟩
      exact ⟨hrange, rfl⟩
    · rintro ⟨hrange, rfl⟩
      exact ⟨_, ⟨hrange, rfl⟩, rfl⟩
  · intro other count hother reading hreading
    exact Calendar.dateReading_of_signed hother.isSigned_trim hreading

end Counts

/-- A second and a half before the start of 1970, whose text is behind a blank. -/
theorem readLog_of_millis_of_negative :
    (readLog "[[\"a\",-1500]]").toOption = (readLog "[[\"a\",\" -1500\"]]").toOption
      ∧ readLog "[[\"a\",-1500]]" = .ok [⟨"a", ⟨-2, 500000000⟩⟩] := by
  have hnumber : Written "[[\"a\",-1500]]" (.array [.array
      [.text (Json.units ['a']), .number ⟨true, ['1', '5', '0', '0'], [], none⟩]]) :=
    ⟨[], .array (.refl _) (.element rfl
      (.pair (.plain (by simp) _) (.integer (by simp) (by simp) (by simp) _))
      (.noElement (.refl _))), .refl _⟩
  have htext : Written "[[\"a\",\" -1500\"]]" (.array [.array
      [.text (Json.units ['a']), .text (Json.units [' ', '-', '1', '5', '0', '0'])]]) :=
    ⟨[], .array (.refl _) (.element rfl
      (.pair (.plain (by simp) _) (.plain (by simp) _)) (.noElement (.refl _))), .refl _⟩
  have hcount : IsCount [' ', '-', '1', '5', '0', '0'] (-1500) :=
    ⟨[' '], (toString (-1500 : Int)).toList, [], rfl, List.forall_mem_singleton.mpr (by decide),
      List.forall_mem_nil _, Numeral.isSigned_toString _⟩
  have hevent : EventOf "a" fun time => .array [.text (Json.units ['a']), time] := .pair
  obtain ⟨hsame, hread, -⟩ := readLog_of_millis (by decide) (by decide) hevent rfl hcount
    hnumber htext
  exact ⟨hsame, (hread _).mpr ⟨by decide, rfl⟩⟩

end AddressBoard.History
