import AddressBoard.Proofs.Refresh.Preference
import AddressBoard.Settings
import Mathlib.Data.List.Destutter
import Mathlib.Data.List.Sort

/-!
# Lists of intervals as sets

A list of intervals stands for the set of the numbers between its commas, with 0 in it, and is read
as this set in ascending order. So it does not matter how the list is written: in which order, how
often, with which blanks. A list that is no such set is reported at its first bad part, and the page
keeps the standard choices.
-/

namespace AddressBoard.Refresh.Menu

/-! ## Parts -/

/-- The text is a list of parts with commas between them. -/
structure IsList (text : String) (parts : List String) : Prop where
  text_eq : text = ",".intercalate parts
  nonempty : parts ≠ []
  plain : ∀ part ∈ parts, ',' ∉ part.toList

theorem parts_ne_nil (text : List Char) : parts text ≠ [] := by
  cases text with
  | nil => exact List.cons_ne_nil _ _
  | cons character rest =>
    unfold parts
    split
    · exact List.cons_ne_nil _ _
    · split <;> exact List.cons_ne_nil _ _

theorem parts_eq_splitOn (text : List Char) : parts text = text.splitOn ',' := by
  induction text with
  | nil => rfl
  | cons character rest ih =>
    have hsome := parts_ne_nil rest
    rw [List.splitOn_eq_splitOnP] at ih ⊢
    rw [List.splitOnP_cons_eq_if_modifyHead, ← ih, parts]
    cases hparts : parts rest with
    | nil => exact absurd hparts hsome
    | cons first others => simp

theorem notMem_parts (text : List Char) : ∀ part ∈ parts text, ',' ∉ part := by
  induction text with
  | nil => simp [parts]
  | cons character rest ih =>
    unfold parts
    cases hparts : parts rest with
    | nil => exact absurd hparts (parts_ne_nil rest)
    | cons first others =>
      rw [hparts, List.forall_mem_cons] at ih
      simp only
      split
      · exact List.forall_mem_cons.mpr ⟨List.not_mem_nil, List.forall_mem_cons.mpr ih⟩
      · next hother =>
        have hfirst : ',' ∉ character :: first := by
          rw [List.mem_cons, not_or]
          exact ⟨fun heq => hother heq.symm, ih.1⟩
        exact List.forall_mem_cons.mpr ⟨hfirst, ih.2⟩

theorem toList_intercalate_comma (parts : List String) :
    (",".intercalate parts).toList = [','].intercalate (parts.map String.toList) :=
  String.toList_intercalate

theorem IsList.parts_eq {text : String} {parts : List String} (hlist : IsList text parts) :
    Menu.parts text.toList = parts.map String.toList := by
  rw [parts_eq_splitOn, hlist.text_eq, toList_intercalate_comma]
  apply List.splitOn_intercalate
  · exact List.forall_mem_map.mpr hlist.plain
  · exact fun hnil => hlist.nonempty (List.map_eq_nil_iff.mp hnil)

theorem exists_isList (text : String) : ∃ parts, IsList text parts := by
  refine ⟨(parts text.toList).map String.ofList, ?_, ?_, ?_⟩
  · apply String.toList_inj.mp
    rw [toList_intercalate_comma, List.map_map, parts_eq_splitOn]
    have hsame : String.toList ∘ String.ofList = id := funext fun _ => String.toList_ofList
    rw [hsame, List.map_id, List.intercalate_splitOn]
  · exact fun hnil => parts_ne_nil _ (List.map_eq_nil_iff.mp hnil)
  · rw [List.forall_mem_map]
    intro part hmem
    rw [String.toList_ofList]
    exact notMem_parts _ part hmem

/-! ## What is read of the parts -/

theorem interval_eq_ok_iff {part : List Char} {seconds : Nat} :
    interval part = .ok seconds ↔ Numeral.readUnsigned? part = some seconds := by
  unfold interval
  split <;> simp_all

theorem mapM_interval_of_some {parts : List (List Char)}
    (hread : ∀ part ∈ parts, (Numeral.readUnsigned? part).isSome) :
    parts.mapM interval = .ok (parts.filterMap Numeral.readUnsigned?) := by
  induction parts with
  | nil => rfl
  | cons part others ih =>
    rw [List.forall_mem_cons] at hread
    obtain ⟨seconds, hseconds⟩ := Option.isSome_iff_exists.mp hread.1
    rw [List.mapM_cons, ih hread.2, List.filterMap_cons_some hseconds,
      interval_eq_ok_iff.mpr hseconds]
    rfl

theorem mapM_interval_of_none {before after : List (List Char)} {part : List Char}
    (hread : ∀ earlier ∈ before, (Numeral.readUnsigned? earlier).isSome)
    (hbad : Numeral.readUnsigned? part = none) :
    (before ++ part :: after).mapM interval
      = .error (.badInterval (String.ofList part)) := by
  rw [List.mapM_append, mapM_interval_of_some hread, List.mapM_cons, interval, hbad]
  rfl

/-- The parts that are read, without the blanks around them. -/
def trimmed (parts : List String) : List (List Char) :=
  (parts.map fun part => Text.trim part.toList).filter (· ≠ [])

theorem IsList.entries_eq {text : String} {parts : List String} (hlist : IsList text parts) :
    entries text.toList = trimmed parts := by
  rw [entries, hlist.parts_eq, List.map_map]
  rfl

theorem trimmed_append (before after : List String) :
    trimmed (before ++ after) = trimmed before ++ trimmed after := by
  simp only [trimmed, List.map_append, List.filter_append]

def IsBlankPart (part : String) : Prop :=
  ∀ character ∈ part.toList, Text.isBlank character = true

theorem mem_trimmed {parts : List String} {entry : List Char} :
    entry ∈ trimmed parts
      ↔ ∃ part ∈ parts, ¬ IsBlankPart part ∧ Text.trim part.toList = entry := by
  simp only [trimmed, List.mem_filter, List.mem_map, decide_eq_true_eq, IsBlankPart,
    ← Text.trim_eq_nil_iff]
  constructor
  · rintro ⟨⟨part, hmem, rfl⟩, hsome⟩
    exact ⟨part, hmem, hsome, rfl⟩
  · rintro ⟨part, hmem, hsome, rfl⟩
    exact ⟨⟨part, hmem, rfl⟩, hsome⟩

theorem trimmed_eq_nil_iff {parts : List String} :
    trimmed parts = [] ↔ ∀ part ∈ parts, IsBlankPart part := by
  simp only [trimmed, List.filter_eq_nil_iff, List.forall_mem_map, decide_eq_true_eq, not_not,
    Text.trim_eq_nil_iff, IsBlankPart]

theorem not_isBlankPart {part : String} {seconds : Nat} (hinterval : IsPreference part seconds) :
    ¬ IsBlankPart part := by
  intro hblank
  have hread := preference?_eq_some_iff.mpr hinterval
  rw [preference?, Text.trim_eq_nil_iff.mpr hblank] at hread
  cases hread

/-! ## Numbers in order -/

theorem mem_destutter'_ne {first number : Nat} {others : List Nat} :
    number ∈ others.destutter' (· ≠ ·) first ↔ number ∈ first :: others := by
  induction others generalizing first with
  | nil => rfl
  | cons other others ih =>
    by_cases hsame : first = other
    · rw [List.destutter'_cons_neg _ (not_not.mpr hsame), ih, hsame]
      simp
    · rw [List.destutter'_cons_pos _ hsame, List.mem_cons, ih, ← List.mem_cons]

theorem pairwise_destutter'_ne {first : Nat} {others : List Nat}
    (hsorted : (first :: others).Pairwise (· ≤ ·)) :
    (others.destutter' (· ≠ ·) first).Pairwise (· < ·) := by
  induction others generalizing first with
  | nil => exact List.pairwise_singleton _ _
  | cons other others ih =>
    obtain ⟨hfirst, hothers⟩ := List.pairwise_cons.mp hsorted
    by_cases hsame : first = other
    · rw [List.destutter'_cons_neg _ (not_not.mpr hsame)]
      exact ih (hsame ▸ hothers)
    · rw [List.destutter'_cons_pos _ hsame]
      refine List.pairwise_cons.mpr ⟨fun number hmem => ?_, ih hothers⟩
      have hleast : other ≤ number := by
        rcases List.mem_cons.mp (mem_destutter'_ne.mp hmem) with rfl | hmem
        · exact Nat.le_refl _
        · exact (List.pairwise_cons.mp hothers).1 number hmem
      have hless : first < other := Nat.lt_of_le_of_ne (hfirst other List.mem_cons_self) hsame
      exact Nat.lt_of_lt_of_le hless hleast

/-- Numbers in ascending order, without the repeats that then are neighbours. -/
def sorted (numbers : List Nat) : List Nat := (numbers.mergeSort (· ≤ ·)).destutter (· ≠ ·)

theorem mem_sorted {number : Nat} {numbers : List Nat} :
    number ∈ sorted numbers ↔ number ∈ numbers := by
  have hmem : number ∈ numbers.mergeSort (· ≤ ·) ↔ number ∈ numbers := List.mem_mergeSort
  rw [← hmem, sorted]
  cases numbers.mergeSort (· ≤ ·) with
  | nil => rfl
  | cons first others => exact mem_destutter'_ne

theorem pairwise_sorted (numbers : List Nat) : (sorted numbers).Pairwise (· < ·) := by
  have hsorted := List.pairwise_mergeSort' (· ≤ ·) numbers
  unfold sorted
  cases hnumbers : numbers.mergeSort (· ≤ ·) with
  | nil => exact List.Pairwise.nil
  | cons first others => exact pairwise_destutter'_ne (hnumbers ▸ hsorted)

/-- Inserting numbers one by one comes to sorting them and dropping the repeats. -/
theorem ascending_eq_sorted (numbers : List Nat) : ascending numbers = sorted numbers :=
  (pairwise_ascending numbers).eq_of_mem_iff (pairwise_sorted numbers) fun _ =>
    mem_ascending.trans mem_sorted.symm

/-! ## The set that a list stands for -/

/-- The list names an interval, and nothing that is none. -/
structure IsValid (parts : List String) : Prop where
  some : ∃ part ∈ parts, ¬ IsBlankPart part
  all : ∀ part ∈ parts, ¬ IsBlankPart part → ∃ seconds, IsPreference part seconds

/-- The list offers 0 and all that it names. -/
def Offers (parts : List String) (seconds : Nat) : Prop :=
  seconds = 0 ∨ ∃ part ∈ parts, IsPreference part seconds

/-- The first part that is no interval and not blank. -/
def IsFirstBad (parts : List String) (part : String) : Prop :=
  ∃ before after, parts = before ++ part :: after
    ∧ (∀ earlier ∈ before, ¬ IsBlankPart earlier → ∃ seconds, IsPreference earlier seconds)
    ∧ ¬ IsBlankPart part ∧ ∀ seconds, ¬ IsPreference part seconds

theorem isSome_of_mem_trimmed {parts : List String}
    (hall : ∀ part ∈ parts, ¬ IsBlankPart part → ∃ seconds, IsPreference part seconds) :
    ∀ entry ∈ trimmed parts, (Numeral.readUnsigned? entry).isSome := by
  intro entry hentry
  obtain ⟨part, hmem, hsome, rfl⟩ := mem_trimmed.mp hentry
  obtain ⟨seconds, hseconds⟩ := hall part hmem hsome
  exact Option.isSome_iff_exists.mpr ⟨seconds, preference?_eq_some_iff.mpr hseconds⟩

theorem mem_filterMap_trimmed {parts : List String} {seconds : Nat} :
    seconds ∈ (trimmed parts).filterMap Numeral.readUnsigned?
      ↔ ∃ part ∈ parts, IsPreference part seconds := by
  rw [List.mem_filterMap]
  constructor
  · rintro ⟨entry, hentry, hread⟩
    obtain ⟨part, hmem, -, rfl⟩ := mem_trimmed.mp hentry
    exact ⟨part, hmem, preference?_eq_some_iff.mp hread⟩
  · rintro ⟨part, hmem, hinterval⟩
    exact ⟨_, mem_trimmed.mpr ⟨part, hmem, not_isBlankPart hinterval, rfl⟩,
      preference?_eq_some_iff.mpr hinterval⟩

section Read

variable {text : String} {parts : List String} (hlist : IsList text parts)
include hlist

theorem read_of_valid (hvalid : IsValid parts) :
    read text = .ok (sorted (0 :: (trimmed parts).filterMap Numeral.readUnsigned?)) := by
  have hread := mapM_interval_of_some (isSome_of_mem_trimmed hvalid.all)
  have hsome : (trimmed parts).filterMap Numeral.readUnsigned? ≠ [] := by
    obtain ⟨part, hmem, hpart⟩ := hvalid.some
    obtain ⟨seconds, hseconds⟩ := hvalid.all part hmem hpart
    exact List.ne_nil_of_mem (mem_filterMap_trimmed.mpr ⟨part, hmem, hseconds⟩)
  rw [← ascending_eq_sorted, read, hlist.entries_eq, hread]
  exact if_neg hsome

theorem read_of_blank (hblank : ∀ part ∈ parts, IsBlankPart part) :
    read text = .error .noIntervals := by
  rw [read, hlist.entries_eq, trimmed_eq_nil_iff.mpr hblank]
  rfl

theorem read_of_isFirstBad {part : String} (hbad : IsFirstBad parts part) :
    read text = .error (.badInterval (String.ofList (Text.trim part.toList))) := by
  obtain ⟨before, after, rfl, hbefore, hpart, hnone⟩ := hbad
  have hsome : Text.trim part.toList ≠ [] := mt Text.trim_eq_nil_iff.mp hpart
  have hrefused : Numeral.readUnsigned? (Text.trim part.toList) = none :=
    Option.eq_none_iff_forall_not_mem.mpr fun seconds hread =>
      hnone seconds (preference?_eq_some_iff.mp hread)
  have htrimmed : trimmed (part :: after) = Text.trim part.toList :: trimmed after := by
    simp [trimmed, hsome]
  rw [read, hlist.entries_eq, trimmed_append, htrimmed,
    mapM_interval_of_none (isSome_of_mem_trimmed hbefore) hrefused]
  rfl

end Read

theorem all_or_exists_isFirstBad (parts : List String) :
    (∀ part ∈ parts, ¬ IsBlankPart part → ∃ seconds, IsPreference part seconds)
      ∨ ∃ part, IsFirstBad parts part := by
  induction parts with
  | nil => exact Or.inl (List.forall_mem_nil _)
  | cons first others ih =>
    by_cases hfirst : ¬ IsBlankPart first → ∃ seconds, IsPreference first seconds
    · rcases ih with hothers | ⟨part, before, after, rfl, hbefore, hpart⟩
      · exact Or.inl (List.forall_mem_cons.mpr ⟨hfirst, hothers⟩)
      · exact Or.inr ⟨part, first :: before, after, rfl,
          List.forall_mem_cons.mpr ⟨hfirst, hbefore⟩, hpart⟩
    · rw [Classical.not_imp, not_exists] at hfirst
      exact Or.inr ⟨first, [], others, rfl, List.forall_mem_nil _, hfirst⟩

theorem valid_or_blank_or_bad (parts : List String) :
    IsValid parts ∨ (∀ part ∈ parts, IsBlankPart part) ∨ ∃ part, IsFirstBad parts part := by
  rcases all_or_exists_isFirstBad parts with hall | hbad
  · by_cases hblank : ∀ part ∈ parts, IsBlankPart part
    · exact Or.inr (Or.inl hblank)
    · have hsome : ∃ part ∈ parts, ¬ IsBlankPart part := by
        simpa only [not_forall, exists_prop] using hblank
      exact Or.inl ⟨hsome, hall⟩
  · exact Or.inr (Or.inr hbad)

/-- What is read is the set that the list stands for, in ascending order. -/
theorem read_eq_ok_iff {text : String} {parts : List String} (hlist : IsList text parts)
    {choices : List Nat} :
    read text = .ok choices
      ↔ IsValid parts ∧ choices.Pairwise (· < ·)
        ∧ ∀ seconds, seconds ∈ choices ↔ Offers parts seconds := by
  have hmem : ∀ seconds,
      seconds ∈ sorted (0 :: (trimmed parts).filterMap Numeral.readUnsigned?)
        ↔ Offers parts seconds := fun seconds => by
    rw [mem_sorted, List.mem_cons, mem_filterMap_trimmed, Offers]
  constructor
  · intro hread
    rcases valid_or_blank_or_bad parts with hvalid | hblank | ⟨part, hbad⟩
    · rw [read_of_valid hlist hvalid, Except.ok.injEq] at hread
      rw [← hread]
      exact ⟨hvalid, pairwise_sorted _, hmem⟩
    · rw [read_of_blank hlist hblank] at hread
      cases hread
    · rw [read_of_isFirstBad hlist hbad] at hread
      cases hread
  · rintro ⟨hvalid, hsorted, hoffers⟩
    have hsame : choices = sorted (0 :: (trimmed parts).filterMap Numeral.readUnsigned?) :=
      hsorted.eq_of_mem_iff (pairwise_sorted _) fun seconds =>
        (hoffers seconds).trans (hmem seconds).symm
    rw [read_of_valid hlist hvalid, hsame]

/-! ## Other ways to write a list -/

/-- The second list is the first one in another order, with parts or 0 or blanks added. -/
inductive Restated : List String → List String → Prop where
  | trans {parts between others : List String} (hfirst : Restated parts between)
      (hsecond : Restated between others) : Restated parts others
  | reordered {parts others : List String} (hperm : parts.Perm others) : Restated parts others
  | again {part : String} {parts : List String} (hmem : part ∈ parts) :
      Restated parts (part :: parts)
  | blank {part : String} {parts : List String} (hblank : IsBlankPart part) :
      Restated parts (part :: parts)
  | padded {before part after : String} {parts : List String} (hbefore : IsBlankPart before)
      (hafter : IsBlankPart after) :
      Restated (part :: parts) ((before ++ part ++ after) :: parts)
  | zero {part : String} {parts : List String} (hzero : IsPreference part 0) :
      Restated parts (part :: parts)

theorem trim_padded {before after : String} (part : String) (hbefore : IsBlankPart before)
    (hafter : IsBlankPart after) :
    Text.trim (before ++ part ++ after).toList = Text.trim part.toList := by
  rw [String.toList_append, String.toList_append, List.append_assoc]
  exact Text.trim_pad part.toList hbefore hafter

theorem isPreference_padded {before part after : String} {seconds : Nat}
    (hbefore : IsBlankPart before) (hafter : IsBlankPart after) :
    IsPreference (before ++ part ++ after) seconds ↔ IsPreference part seconds := by
  rw [← preference?_eq_some_iff, ← preference?_eq_some_iff, preference?, preference?,
    trim_padded part hbefore hafter]

theorem isBlankPart_padded {before part after : String} (hbefore : IsBlankPart before)
    (hafter : IsBlankPart after) : IsBlankPart (before ++ part ++ after) ↔ IsBlankPart part := by
  unfold IsBlankPart
  rw [← Text.trim_eq_nil_iff, ← Text.trim_eq_nil_iff, trim_padded part hbefore hafter]

theorem Restated.offers {parts others : List String} (hrestated : Restated parts others)
    (seconds : Nat) : Offers others seconds ↔ Offers parts seconds := by
  unfold Offers
  induction hrestated with
  | trans _ _ ihFirst ihSecond => exact ihSecond.trans ihFirst
  | reordered hperm => simp only [hperm.mem_iff]
  | again hmem =>
    rw [List.exists_mem_cons_iff]
    exact or_congr_right ⟨fun hor => hor.elim (fun h => ⟨_, hmem, h⟩) id, Or.inr⟩
  | blank hblank =>
    rw [List.exists_mem_cons_iff]
    exact or_congr_right (or_iff_right fun h => not_isBlankPart h hblank)
  | padded hbefore hafter =>
    rw [List.exists_mem_cons_iff, List.exists_mem_cons_iff, isPreference_padded hbefore hafter]
  | zero hzero =>
    rw [List.exists_mem_cons_iff, or_left_comm]
    exact or_iff_right_of_imp fun h => Or.inl (h.unique hzero)

theorem IsValid.cons {part : String} {parts : List String} (hvalid : IsValid parts)
    (hpart : ¬ IsBlankPart part → ∃ seconds, IsPreference part seconds) :
    IsValid (part :: parts) := by
  obtain ⟨other, hmem, hother⟩ := hvalid.some
  exact ⟨⟨other, List.mem_cons_of_mem part hmem, hother⟩,
    List.forall_mem_cons.mpr ⟨hpart, hvalid.all⟩⟩

theorem Restated.isValid {parts others : List String} (hrestated : Restated parts others)
    (hvalid : IsValid parts) : IsValid others := by
  induction hrestated with
  | trans _ _ ihFirst ihSecond => exact ihSecond (ihFirst hvalid)
  | reordered hperm =>
    obtain ⟨part, hmem, hpart⟩ := hvalid.some
    exact ⟨⟨part, hperm.mem_iff.mp hmem, hpart⟩,
      fun part hmem => hvalid.all part (hperm.mem_iff.mpr hmem)⟩
  | again hmem => exact hvalid.cons (hvalid.all _ hmem)
  | blank hblank => exact hvalid.cons fun hpart => absurd hblank hpart
  | padded hbefore hafter =>
    obtain ⟨hsome, hall⟩ := hvalid
    rw [List.exists_mem_cons_iff] at hsome
    rw [List.forall_mem_cons] at hall
    constructor
    · rwa [List.exists_mem_cons_iff, isBlankPart_padded hbefore hafter]
    · rw [List.forall_mem_cons, isBlankPart_padded hbefore hafter]
      simp only [isPreference_padded hbefore hafter]
      exact hall
  | zero hzero => exact hvalid.cons fun _ => ⟨0, hzero⟩

theorem notMem_of_blank {part : String} (hblank : IsBlankPart part) : ',' ∉ part.toList :=
  fun hmem => absurd (hblank ',' hmem) (by decide)

theorem notMem_of_isPreference {part : String} {seconds : Nat}
    (hinterval : IsPreference part seconds) : ',' ∉ part.toList := by
  obtain ⟨before, _, after, htext, hbefore, hafter, sign, digits, rfl, hsign, -, hdigits, -⟩ :=
    hinterval
  have hmark : ',' ∉ sign := by
    rcases hsign with rfl | rfl <;> decide
  have hdigit : ',' ∉ digits := fun hmem => absurd (hdigits ',' hmem) (by decide)
  have hfirst : ',' ∉ before := fun hmem => absurd (hbefore ',' hmem) (by decide)
  have hlast : ',' ∉ after := fun hmem => absurd (hafter ',' hmem) (by decide)
  simp [htext, hmark, hdigit, hfirst, hlast]

theorem Restated.plain {parts others : List String} (hrestated : Restated parts others)
    (hplain : ∀ part ∈ parts, ',' ∉ part.toList) : ∀ part ∈ others, ',' ∉ part.toList := by
  induction hrestated with
  | trans _ _ ihFirst ihSecond => exact ihSecond (ihFirst hplain)
  | reordered hperm => exact fun part hmem => hplain part (hperm.mem_iff.mpr hmem)
  | again hmem => exact List.forall_mem_cons.mpr ⟨hplain _ hmem, hplain⟩
  | blank hblank => exact List.forall_mem_cons.mpr ⟨notMem_of_blank hblank, hplain⟩
  | padded hbefore hafter =>
    rw [List.forall_mem_cons] at hplain ⊢
    refine ⟨?_, hplain.2⟩
    simp [notMem_of_blank hbefore, notMem_of_blank hafter, hplain.1]
  | zero hzero => exact List.forall_mem_cons.mpr ⟨notMem_of_isPreference hzero, hplain⟩

/-- The list is read the same in whatever way it is written. -/
theorem read_of_restated {text : String} {parts others : List String} (hlist : IsList text parts)
    (hrestated : Restated parts others) {choices : List Nat} (hread : read text = .ok choices) :
    read (",".intercalate others) = .ok choices := by
  obtain ⟨hvalid, hsorted, hoffers⟩ := (read_eq_ok_iff hlist).mp hread
  have hothers := hrestated.isValid hvalid
  have hnonempty : others ≠ [] := by
    obtain ⟨part, hmem, -⟩ := hothers.some
    exact List.ne_nil_of_mem hmem
  have hlisted : IsList (",".intercalate others) others :=
    ⟨rfl, hnonempty, hrestated.plain hlist.plain⟩
  exact (read_eq_ok_iff hlisted).mpr ⟨hothers, hsorted, fun seconds =>
    (hoffers seconds).trans (hrestated.offers seconds).symm⟩

/-- The choices themselves, written with commas between them, are read as the same choices. -/
theorem read_of_choices {text : String} {choices : List Nat} (hread : read text = .ok choices) :
    read (",".intercalate (choices.map toString)) = .ok choices := by
  obtain ⟨parts, hlist⟩ := exists_isList text
  obtain ⟨-, hsorted, hoffers⟩ := (read_eq_ok_iff hlist).mp hread
  have hzero : 0 ∈ choices := (hoffers 0).mpr (Or.inl rfl)
  have hinterval : ∀ seconds ∈ choices, IsPreference (toString seconds) seconds := by
    intro seconds hmem
    apply isPreference_toString
    rcases (hoffers seconds).mp hmem with rfl | ⟨part, -, hpart⟩
    · exact Nat.zero_le _
    · exact hpart.le_greatest
  have hlisted : IsList (",".intercalate (choices.map toString)) (choices.map toString) := by
    refine ⟨rfl, fun hnil => ?_, List.forall_mem_map.mpr fun seconds hmem => ?_⟩
    · rw [List.map_eq_nil_iff.mp hnil] at hzero
      cases hzero
    · exact notMem_of_isPreference (hinterval seconds hmem)
  refine (read_eq_ok_iff hlisted).mpr ⟨⟨?_, ?_⟩, hsorted, fun seconds => ?_⟩
  · exact ⟨_, List.mem_map_of_mem hzero, not_isBlankPart (hinterval 0 hzero)⟩
  · exact List.forall_mem_map.mpr fun seconds hmem _ => ⟨seconds, hinterval seconds hmem⟩
  · constructor
    · exact fun hmem => Or.inr ⟨_, List.mem_map_of_mem hmem, hinterval seconds hmem⟩
    · rintro (rfl | ⟨part, hpart, hseconds⟩)
      · exact hzero
      · obtain ⟨choice, hmem, rfl⟩ := List.mem_map.mp hpart
        rwa [hseconds.unique (hinterval choice hmem)]

/-- **A list of intervals is read as a set.** It is read if it names an interval and nothing that is
none, and then as 0 and what it names, in ascending order, in whatever way it is written. Otherwise
its first bad part is reported, or that there is no part, and a page keeps its standard settings. -/
theorem choices_of_list (text : String) :
    ∃ parts, IsList text parts
      ∧ ((∃ choices, read text = .ok choices) ↔ IsValid parts)
      ∧ (∀ choices, read text = .ok choices →
          choices.Pairwise (· < ·)
          ∧ (∀ seconds, seconds ∈ choices ↔ Offers parts seconds)
          ∧ (∀ others, Restated parts others → read (",".intercalate others) = .ok choices)
          ∧ read (",".intercalate (choices.map toString)) = .ok choices)
      ∧ (∀ part, IsFirstBad parts part → ∃ fault, read text = .error fault
          ∧ fault.message = "Config error: invalid interval '"
              ++ String.ofList (Text.trim part.toList) ++ "'")
      ∧ ((∀ part ∈ parts, IsBlankPart part) → ∃ fault, read text = .error fault
          ∧ fault.message = "Config error: no intervals given")
      ∧ (¬ IsValid parts →
          ((∃ part, IsFirstBad parts part) ∨ ∀ part ∈ parts, IsBlankPart part)
          ∧ (Settings.ofIntervals (some text)).1 = Settings.standard) := by
  obtain ⟨parts, hlist⟩ := exists_isList text
  refine ⟨parts, hlist, ⟨?_, fun hvalid => ⟨_, read_of_valid hlist hvalid⟩⟩, ?_, ?_, ?_, ?_⟩
  · rintro ⟨choices, hread⟩
    exact ((read_eq_ok_iff hlist).mp hread).1
  · intro choices hread
    obtain ⟨-, hsorted, hoffers⟩ := (read_eq_ok_iff hlist).mp hread
    exact ⟨hsorted, hoffers, fun others hothers => read_of_restated hlist hothers hread,
      read_of_choices hread⟩
  · exact fun part hbad => ⟨_, read_of_isFirstBad hlist hbad, rfl⟩
  · exact fun hblank => ⟨_, read_of_blank hlist hblank, rfl⟩
  · intro hinvalid
    have hor := (valid_or_blank_or_bad parts).resolve_left hinvalid
    refine ⟨hor.symm, ?_⟩
    rcases hor with hblank | ⟨part, hbad⟩
    · rw [Settings.ofIntervals, read_of_blank hlist hblank]
    · rw [Settings.ofIntervals, read_of_isFirstBad hlist hbad]

end AddressBoard.Refresh.Menu
