import BlockCalc.Logging.Template
import BlockCalc.Proofs.Token.Reading
import Mathlib.Data.List.TakeWhile

/-! # Which templates are accepted

The check of a template looks for one field in it, `%(name)[flags][width][.precision]type`, and what
stands before and behind the field does not matter. `Template.FieldText` says what the text of a
field is made of. A zero can be a flag as well as a digit of the width, and the check takes it for a
flag; it finds a field wherever there is one all the same.

* `isConversionTail_iff`: what stands behind the name of a field.
* `isAccepted_iff`: a template is accepted if it is empty or has a field in it. -/

namespace BlockCalc

namespace Template

open Cursor

/-! ### The text of a field -/

/-- An asterisk, or decimal digits of any script. -/
inductive CountText : List Char → Prop
  | asterisk : CountText ['*']
  | digits {ds : List Char} : ds ≠ [] → (∀ c ∈ ds, decimalDigits.contains c = true) → CountText ds

/-- A count that may be missing. -/
def WidthText (cs : List Char) : Prop := cs = [] ∨ CountText cs

/-- A point and a count, which may be missing together. -/
def PrecisionText (cs : List Char) : Prop := cs = [] ∨ ∃ ds, CountText ds ∧ cs = '.' :: ds

/-- What stands behind the name of a field. -/
inductive TailText : List Char → Prop
  | intro {flags width precision : List Char} {type : Char} :
    (∀ c ∈ flags, isFlag c = true) → WidthText width → PrecisionText precision →
    isType type = true → TailText (flags ++ (width ++ (precision ++ [type])))

/-- A field: the name, which is made of word characters, and what stands behind it. -/
inductive FieldText : List Char → Prop
  | intro {name tail : List Char} : name ≠ [] → (∀ c ∈ name, wordChars.contains c = true) →
    TailText tail → FieldText ('%' :: '(' :: (name ++ ')' :: tail))

/-! ### Characters -/

theorem mem_of_isType {c : Char} (h : isType c = true) :
    c ∈ "diouxefgcrsaDIOUXEFGCRSA%İıſ".toList := by
  simpa [isType, or_assoc] using h

/-- A type is no part of what may stand before it. -/
theorem isType_apart {c : Char} (h : isType c = true) :
    isFlag c = false ∧ decimalDigits.contains c = false ∧ c ≠ '*' ∧ c ≠ '.' := by
  have hall : ("diouxefgcrsaDIOUXEFGCRSA%İıſ".toList.all fun c =>
      !isFlag c && !decimalDigits.contains c && c != '*' && c != '.') = true := by
    decide +kernel
  simpa [and_assoc] using List.all_eq_true.mp hall c (mem_of_isType h)

/-! ### Counts -/

theorem skipCount?_eq_none {rest : List Char} (hd : Stops decimalDigits.contains rest)
    (ha : Stops (· == '*') rest) : skipCount? rest = none := by
  rcases rest with _ | ⟨c, rest⟩
  · rfl
  · have hc : decimalDigits.contains c = false := hd c rfl
    have hc' : (c == '*') = false := ha c rfl
    simp [skipCount?, hc, hc']

theorem skipCount?_append {width rest : List Char} (h : CountText width)
    (hd : Stops decimalDigits.contains rest) : skipCount? (width ++ rest) = some rest := by
  rcases h with _ | ⟨hne, hds⟩
  · rfl
  · obtain ⟨c, ds, rfl⟩ := List.exists_cons_of_ne_nil hne
    have hc := hds c List.mem_cons_self
    have hstar : c ≠ '*' := by
      rintro rfl
      exact absurd hc (by decide +kernel)
    have htail := dropWhile_append_stops (fun x hx => hds x (List.mem_cons_of_mem _ hx)) hd
    simp [skipCount?, hstar, hc, htail]

theorem exists_countText {cs rest : List Char} (h : skipCount? cs = some rest) :
    ∃ width, CountText width ∧ cs = width ++ rest := by
  rcases cs with _ | ⟨c, r⟩
  · cases h
  rw [skipCount?] at h
  split at h
  · next hc =>
    rw [beq_iff_eq] at hc
    cases h
    exact ⟨['*'], .asterisk, by rw [hc]; rfl⟩
  · split at h
    · next hc =>
      cases h
      refine ⟨c :: r.takeWhile decimalDigits.contains, .digits (List.cons_ne_nil _ _) ?_, ?_⟩
      · intro x hx
        rcases List.mem_cons.mp hx with rfl | hx
        · exact hc
        · exact List.mem_takeWhile_imp hx
      · rw [List.cons_append, List.takeWhile_append_dropWhile]
    · cases h

/-- **Flags and a width** are passed over, whichever of the two a zero is taken for. -/
theorem skip_width {flags width rest : List Char} (hf : ∀ c ∈ flags, isFlag c = true)
    (hw : WidthText width) (hrf : Stops isFlag rest) (hrd : Stops decimalDigits.contains rest)
    (hra : Stops (· == '*') rest) :
    (skipCount? ((flags ++ (width ++ rest)).dropWhile isFlag)).getD
      ((flags ++ (width ++ rest)).dropWhile isFlag) = rest := by
  have hrest : ([] ++ rest).dropWhile isFlag = rest := dropWhile_append_stops nofun hrf
  rw [List.nil_append] at hrest
  -- Digits that are no flags may be left of a width, or none.
  have hdigits : ∀ ds : List Char, (∀ c ∈ ds, decimalDigits.contains c = true) →
      (skipCount? (ds ++ rest)).getD (ds ++ rest) = rest := by
    intro ds hds
    by_cases hne : ds = []
    · rw [hne, List.nil_append, skipCount?_eq_none hrd hra]
      rfl
    · rw [skipCount?_append (.digits hne hds) hrd]
      rfl
  rw [List.dropWhile_append_of_pos hf]
  rcases hw with rfl | hw
  · rw [List.nil_append, hrest]
    exact hdigits [] nofun
  cases hw with
  | asterisk => rfl
  | digits _ hds =>
    have hdrop : (width ++ rest).dropWhile isFlag = width.dropWhile isFlag ++ rest := by
      rw [List.dropWhile_append, hrest]
      split
      · next h => rw [List.isEmpty_iff.mp h, List.nil_append]
      · rfl
    rw [hdrop]
    exact hdigits _ fun c hc => hds c ((List.dropWhile_sublist _).mem hc)

theorem exists_widthText (cs : List Char) :
    ∃ width, WidthText width ∧ cs = width ++ (skipCount? cs).getD cs := by
  rcases h : skipCount? cs with _ | rest
  · exact ⟨[], .inl rfl, rfl⟩
  · obtain ⟨width, hw, hcs⟩ := exists_countText h
    exact ⟨width, .inr hw, hcs⟩

/-! ### Precisions -/

theorem skipPrecision_of_ne {c : Char} {rest : List Char} (hc : c ≠ '.') :
    skipPrecision (c :: rest) = c :: rest := by
  unfold skipPrecision
  split
  · next h => exact absurd (List.cons.inj h).1 hc
  · rfl

theorem skipPrecision_append {precision rest : List Char} {type : Char}
    (hp : PrecisionText precision) (ht : isType type = true) :
    skipPrecision (precision ++ type :: rest) = type :: rest := by
  obtain ⟨-, hdigit, -, hpoint⟩ := isType_apart ht
  rcases hp with rfl | ⟨ds, hds, rfl⟩
  · exact skipPrecision_of_ne hpoint
  · rw [List.cons_append, skipPrecision, skipCount?_append hds (stops_cons hdigit)]
    rfl

theorem exists_precisionText (cs : List Char) :
    ∃ precision, PrecisionText precision ∧ cs = precision ++ skipPrecision cs := by
  unfold skipPrecision
  split
  · next r =>
    rcases h : skipCount? r with _ | rest
    · exact ⟨[], .inl rfl, rfl⟩
    · obtain ⟨ds, hds, hr⟩ := exists_countText h
      exact ⟨'.' :: ds, .inr ⟨ds, hds, rfl⟩, by rw [hr]; rfl⟩
  · exact ⟨[], .inl rfl, rfl⟩

theorem stops_precision {precision : List Char} {type : Char} {p : Char → Bool}
    (hp : PrecisionText precision) (hpoint : p '.' = false) (htype : p type = false)
    (rest : List Char) :
    Stops p (precision ++ type :: rest) := by
  rcases hp with rfl | ⟨ds, -, rfl⟩
  · exact stops_cons htype
  · exact stops_cons hpoint

/-! ### Fields -/

theorem isConversionTail_iff {cs : List Char} :
    isConversionTail cs = true ↔ ∃ tail rest, TailText tail ∧ cs = tail ++ rest := by
  constructor
  · intro h
    obtain ⟨width, hw, hwidth⟩ := exists_widthText (cs.dropWhile isFlag)
    obtain ⟨precision, hp, hprecision⟩ := exists_precisionText
      ((skipCount? (cs.dropWhile isFlag)).getD (cs.dropWhile isFlag))
    unfold isConversionTail at h
    dsimp only at h
    split at h
    · next type rest hrest =>
      have hflags : ∀ c ∈ cs.takeWhile isFlag, isFlag c = true := fun _ => List.mem_takeWhile_imp
      refine ⟨_, rest, .intro hflags hw hp h, ?_⟩
      rw [hrest] at hprecision
      calc cs = cs.takeWhile isFlag ++ cs.dropWhile isFlag :=
            (List.takeWhile_append_dropWhile).symm
        _ = cs.takeWhile isFlag ++ (width ++ (precision ++ type :: rest)) := by
            rw [← hprecision, ← hwidth]
        _ = _ := by simp only [List.append_assoc, List.singleton_append]
    · cases h
  · rintro ⟨_, rest, ⟨hf, hw, hp, ht⟩, rfl⟩
    next flags width precision type =>
    obtain ⟨hflag, hdigit, hstar, -⟩ := isType_apart ht
    have hskip := skip_width hf hw (stops_precision hp (by decide) hflag rest)
      (stops_precision hp (by decide +kernel) hdigit rest)
      (stops_precision hp (by decide) (by simpa using hstar) rest)
    simp only [List.append_assoc, List.singleton_append]
    unfold isConversionTail
    dsimp only
    rw [hskip, skipPrecision_append hp ht]
    exact ht

theorem startsConversion_iff {cs : List Char} :
    startsConversion cs = true ↔ ∃ field rest, FieldText field ∧ cs = field ++ rest := by
  constructor
  · intro h
    unfold startsConversion at h
    split at h
    · next r =>
      dsimp only at h
      split at h
      · next tail htail =>
        rw [Bool.and_eq_true, Bool.not_eq_true', List.isEmpty_eq_false_iff] at h
        obtain ⟨text, rest, ht, rfl⟩ := isConversionTail_iff.mp h.2
        refine ⟨_, rest, .intro h.1 (fun c hc => List.mem_takeWhile_imp hc) ht, ?_⟩
        rw [List.cons_append, List.cons_append, List.append_assoc, List.cons_append, ← htail,
          List.takeWhile_append_dropWhile]
      · cases h
    · cases h
  · rintro ⟨_, rest, ⟨hne, hname, ht⟩, rfl⟩
    next name tail =>
    have hstop : Stops wordChars.contains (')' :: (tail ++ rest)) := stops_cons (by decide +kernel)
    rw [List.cons_append, List.cons_append, List.append_assoc, List.cons_append, startsConversion,
      takeWhile_append_stops hname hstop, dropWhile_append_stops hname hstop]
    show (!name.isEmpty && isConversionTail (tail ++ rest)) = true
    rw [isConversionTail_iff.mpr ⟨tail, rest, ht, rfl⟩, Bool.and_true, Bool.not_eq_true',
      List.isEmpty_eq_false_iff]
    exact hne

/-- A field stands somewhere in a text. -/
def HasField (cs : List Char) : Prop :=
  ∃ before field after, cs = before ++ (field ++ after) ∧ FieldText field

theorem hasConversion_iff : ∀ {cs : List Char}, hasConversion cs = true ↔ HasField cs
  | [] => by
    constructor
    · nofun
    · rintro ⟨before, field, after, h, hf⟩
      cases hf
      simp at h
  | c :: r => by
    rw [hasConversion, Bool.or_eq_true, startsConversion_iff, @hasConversion_iff r]
    constructor
    · rintro (⟨field, rest, hf, h⟩ | ⟨before, field, after, rfl, hf⟩)
      · exact ⟨[], field, rest, h, hf⟩
      · exact ⟨c :: before, field, after, rfl, hf⟩
    · rintro ⟨before, field, after, h, hf⟩
      rcases before with _ | ⟨b, before⟩
      · exact .inl ⟨field, after, hf, h⟩
      · exact .inr ⟨before, field, after, (List.cons.inj h).2, hf⟩

/-- **A template is accepted if it is empty or has a field in it.** -/
theorem isAccepted_iff {template : String} :
    isAccepted template = true ↔ template = "" ∨ HasField template.toList := by
  rw [isAccepted, Bool.or_eq_true, List.isEmpty_iff, hasConversion_iff, String.toList_eq_nil_iff]

end Template

end BlockCalc
