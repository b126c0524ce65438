import BlockCalc.Logging.Template
import BlockCalc.Proofs.Token.Reading
import Mathlib.Data.List.TakeWhile

/-! # How a template is read

`Template.Spelled c text` says how a conversion is written behind its percent sign, and
`Template.Reads cs ps` that the pieces `ps`, written one behind the other, make up the text `cs`. Of
the conversions only those count that are of a type some value can be written in; a text has one
reading at most.

* `conversionAt?_append`, `exists_of_conversionAt?`: one conversion.
* `piecesWithin_iff`: a whole text. -/

namespace BlockCalc

namespace Template

open Cursor

/-- A conversion of a type that some value can be written in. -/
def Conversion.Typed (c : Conversion) : Prop := ∃ m, Manner.ofType? c.type = some m

/-! ### The text of a conversion -/

/-- The name of a field between brackets, or nothing. -/
inductive KeyText : Option String → List Char → Prop
  | missing : KeyText none []
  | named {name : List Char} : ')' ∉ name →
    KeyText (some (String.ofList name)) ('(' :: (name ++ [')']))

/-- A point and digits, of which there may be none, or nothing. -/
inductive PlacesText : Option Nat → List Char → Prop
  | missing : PlacesText none []
  | given {ds : List Char} : (∀ d ∈ ds, d.isDigit = true) →
    PlacesText (some (Nat.ofDigitChars 10 ds 0)) ('.' :: ds)

/-- The letters for the size of a number. -/
def sizeLetters : List Char := ['h', 'l', 'L']

/-- A letter for the size of a number, or nothing. -/
def SizeText (cs : List Char) : Prop := cs = [] ∨ ∃ c ∈ sizeLetters, cs = [c]

/-- The text of a conversion behind its percent sign. A zero at the start of a width is a flag. -/
inductive Spelled : Conversion → List Char → Prop
  | intro {field : Option String} {key flags width places size : List Char}
    {precision : Option Nat} {type : Char} : KeyText field key →
    (∀ c ∈ flags, isFlag c = true) → (∀ d ∈ width, d.isDigit = true) → width.head? ≠ some '0' →
    PlacesText precision places → SizeText size → (∃ m, Manner.ofType? type = some m) →
    Spelled ⟨field, flags, Nat.ofDigitChars 10 width 0, precision, type⟩
      (key ++ (flags ++ (width ++ (places ++ (size ++ [type])))))

/-- The text of a template and its pieces. -/
inductive Reads : List Char → List Piece → Prop
  | nil : Reads [] []
  | plain {c : Char} {cs : List Char} {ps : List Piece} :
    c ≠ '%' → Reads cs ps → Reads (c :: cs) (.char c :: ps)
  | percent {cs : List Char} {ps : List Piece} :
    Reads cs ps → Reads ('%' :: '%' :: cs) (.char '%' :: ps)
  | conversion {c : Conversion} {text cs : List Char} {ps : List Piece} :
    Spelled c text → Reads cs ps → Reads ('%' :: (text ++ cs)) (.conversion c :: ps)

/-! ### Characters -/

theorem type_apart {type : Char} (h : ∃ m, Manner.ofType? type = some m) :
    isFlag type = false ∧ type.isDigit = false ∧ type ≠ '.' ∧ type ∉ sizeLetters ∧
      type ≠ '(' ∧ type ≠ '%' := by
  obtain ⟨m, hm⟩ := h
  unfold Manner.ofType? at hm
  split at hm
  all_goals first | decide | cases hm

theorem isFlag_eq_false_of_isDigit {d : Char} (h : d.isDigit = true) (h0 : d ≠ '0') :
    isFlag d = false := by
  have hne : ∀ c : Char, c.isDigit = false → d ≠ c := by
    rintro c hc rfl
    rw [h] at hc
    cases hc
  simp [isFlag, h0, hne '#' (by decide), hne '+' (by decide), hne ' ' (by decide),
    hne '-' (by decide)]

section Stops

variable {p : Char → Bool} {size : List Char} {type : Char}

theorem stops_size (hs : SizeText size) (hsize : sizeLetters.any p = false)
    (htype : p type = false) (rest : List Char) : Stops p (size ++ type :: rest) := by
  rcases hs with rfl | ⟨c, hc, rfl⟩
  · exact stops_cons htype
  · rw [List.any_eq_false] at hsize
    exact stops_cons (Bool.eq_false_iff.mpr (hsize c hc))

theorem stops_places {precision : Option Nat} {places : List Char}
    (hp : PlacesText precision places) (hs : SizeText size) (hpoint : p '.' = false)
    (hsize : sizeLetters.any p = false) (htype : p type = false) (rest : List Char) :
    Stops p (places ++ (size ++ type :: rest)) := by
  cases hp with
  | given => exact stops_cons hpoint
  | missing => exact stops_size hs hsize htype rest

end Stops

/-! ### Counts and sizes -/

theorem takeCount_append {ds rest : List Char} (h : ∀ d ∈ ds, d.isDigit = true)
    (hr : Stops Char.isDigit rest) :
    takeCount (ds ++ rest) = (Nat.ofDigitChars 10 ds 0, rest) := by
  rw [takeCount, takeWhile_append_stops h hr, dropWhile_append_stops h hr]

theorem takePrecision_append {precision : Option Nat} {places rest : List Char}
    (h : PlacesText precision places) (hr : Stops Char.isDigit rest)
    (hpoint : Stops (· == '.') rest) : takePrecision (places ++ rest) = (precision, rest) := by
  cases h with
  | given h => rw [List.cons_append, takePrecision, takeCount_append h hr]
  | missing =>
    rw [List.nil_append]
    unfold takePrecision
    split
    · exact absurd (hpoint '.' rfl) (by decide)
    · rfl

theorem exists_placesText (cs : List Char) :
    ∃ places, PlacesText (takePrecision cs).1 places ∧ cs = places ++ (takePrecision cs).2 := by
  unfold takePrecision
  split
  · next r =>
    refine ⟨'.' :: r.takeWhile Char.isDigit, .given fun _ => List.mem_takeWhile_imp, ?_⟩
    rw [List.cons_append, takeCount, List.takeWhile_append_dropWhile]
  · exact ⟨[], .missing, rfl⟩

theorem skipSize_append {size rest : List Char} {type : Char} (hs : SizeText size)
    (ht : type ∉ sizeLetters) : skipSize (size ++ type :: rest) = type :: rest := by
  rcases hs with rfl | ⟨c, hc, rfl⟩
  · rw [List.nil_append]
    unfold skipSize
    split
    · next h => exact absurd (List.cons.inj h).1 (by rintro rfl; exact ht (by decide))
    · next h => exact absurd (List.cons.inj h).1 (by rintro rfl; exact ht (by decide))
    · next h => exact absurd (List.cons.inj h).1 (by rintro rfl; exact ht (by decide))
    · rfl
  · simp only [sizeLetters, List.mem_cons, List.not_mem_nil, or_false] at hc
    rcases hc with rfl | rfl | rfl <;> rfl

theorem exists_sizeText (cs : List Char) : ∃ size, SizeText size ∧ cs = size ++ skipSize cs := by
  unfold skipSize
  split
  · exact ⟨['h'], .inr ⟨'h', by decide, rfl⟩, rfl⟩
  · exact ⟨['l'], .inr ⟨'l', by decide, rfl⟩, rfl⟩
  · exact ⟨['L'], .inr ⟨'L', by decide, rfl⟩, rfl⟩
  · exact ⟨[], .inl rfl, rfl⟩

/-! ### Conversions -/

theorem conversion?_append (field : Option String) {flags width places size : List Char}
    {precision : Option Nat} {type : Char} (hf : ∀ c ∈ flags, isFlag c = true)
    (hw : ∀ d ∈ width, d.isDigit = true) (h0 : width.head? ≠ some '0')
    (hp : PlacesText precision places) (hs : SizeText size)
    (ht : ∃ m, Manner.ofType? type = some m) (rest : List Char) :
    conversion? field (flags ++ (width ++ (places ++ (size ++ type :: rest)))) =
      some (⟨field, flags, Nat.ofDigitChars 10 width 0, precision, type⟩, rest) := by
  obtain ⟨hflag, hdigit, hpoint, hsize, -, -⟩ := type_apart ht
  have hdigits : Stops Char.isDigit (places ++ (size ++ type :: rest)) :=
    stops_places hp hs (by decide) (by decide) hdigit rest
  have hflags : Stops isFlag (width ++ (places ++ (size ++ type :: rest))) := by
    rcases width with _ | ⟨d, ds⟩
    · exact stops_places hp hs (by decide) (by decide) hflag rest
    · refine stops_cons (isFlag_eq_false_of_isDigit (hw d List.mem_cons_self) ?_)
      rintro rfl
      exact h0 rfl
  have hsizes : Stops Char.isDigit (size ++ type :: rest) :=
    stops_size hs (by decide) hdigit rest
  have hpoints : Stops (· == '.') (size ++ type :: rest) :=
    stops_size hs (by decide) (by simpa using hpoint) rest
  unfold conversion?
  rw [takeWhile_append_stops hf hflags, dropWhile_append_stops hf hflags,
    takeCount_append hw hdigits]
  dsimp only
  rw [takePrecision_append hp hsizes hpoints]
  dsimp only
  rw [skipSize_append hs hsize]

theorem exists_of_conversion? {field : Option String} {cs rest : List Char} {c : Conversion}
    (h : conversion? field cs = some (c, rest)) (ht : c.Typed) {key : List Char}
    (hk : KeyText field key) : ∃ text, Spelled c (key ++ text) ∧ cs = text ++ rest := by
  unfold conversion? at h
  dsimp only at h
  obtain ⟨places, hp, hplaces⟩ := exists_placesText (takeCount (cs.dropWhile isFlag)).2
  obtain ⟨size, hs, hsize⟩ := exists_sizeText
    (takePrecision (takeCount (cs.dropWhile isFlag)).2).2
  split at h
  · cases h
  · next type r hr =>
    obtain ⟨rfl, rfl⟩ := Prod.mk.inj (Option.some.inj h)
    have hflags : ∀ c ∈ cs.takeWhile isFlag, isFlag c = true := fun _ => List.mem_takeWhile_imp
    have hwidth : ∀ d ∈ (cs.dropWhile isFlag).takeWhile Char.isDigit, d.isDigit = true :=
      fun _ => List.mem_takeWhile_imp
    have h0 : ((cs.dropWhile isFlag).takeWhile Char.isDigit).head? ≠ some '0' := by
      intro h
      have hstop := stops_dropWhile isFlag cs
      rcases hd : cs.dropWhile isFlag with _ | ⟨d, ds⟩
      · rw [hd] at h
        cases h
      · rw [hd] at h hstop
        have hf : isFlag d = false := hstop d rfl
        by_cases hdigit : d.isDigit = true
        · rw [List.takeWhile_cons_of_pos hdigit] at h
          cases h
          cases hf
        · rw [List.takeWhile_cons_of_neg hdigit] at h
          cases h
    refine ⟨_, .intro hk hflags hwidth h0 hp hs ht, ?_⟩
    rw [hr] at hsize
    simp only [List.append_assoc, List.singleton_append]
    rw [← hsize, ← hplaces, takeCount]
    dsimp only
    rw [List.takeWhile_append_dropWhile, List.takeWhile_append_dropWhile]

/-- A conversion without a field starts neither like one with a field nor with a percent sign. -/
theorem Spelled.head_ne {c : Conversion} {text : List Char} (h : Spelled c text) (rest : List Char) :
    (text ++ rest).head? ≠ some '%' ∧ (c.field = none → (text ++ rest).head? ≠ some '(') := by
  obtain ⟨hk, hf, hw, -, hp, hs, ht⟩ := h
  next field key flags width places size precision type =>
  obtain ⟨-, -, -, -, hparen, hpercent⟩ := type_apart ht
  -- What stands behind the key does not start with either of them.
  have hbody : ∀ x, isFlag x = false → x.isDigit = false → x ≠ '.' → x ∉ sizeLetters → x ≠ type →
      (flags ++ (width ++ (places ++ (size ++ [type]))) ++ rest).head? ≠ some x := by
    intro x hxf hxd hxp hxs hxt hx
    rcases flags with _ | ⟨f, flags⟩
    · rcases width with _ | ⟨d, width⟩
      · have hstop : Stops (· == x) (places ++ (size ++ type :: rest)) := by
          refine stops_places hp hs (by simpa using hxp.symm) ?_ (by simpa using hxt.symm) rest
          rw [List.any_eq_false]
          rintro c hc hcx
          rw [beq_iff_eq.mp hcx] at hc
          exact hxs hc
        simp only [List.nil_append, List.append_assoc, List.singleton_append] at hx
        simpa using hstop x hx
      · cases hx
        rw [hw _ List.mem_cons_self] at hxd
        cases hxd
    · cases hx
      rw [hf _ List.mem_cons_self] at hxf
      cases hxf
  cases hk with
  | missing =>
    exact ⟨hbody '%' (by decide) (by decide) (by decide) (by decide) hpercent.symm,
      fun _ => hbody '(' (by decide) (by decide) (by decide) (by decide) hparen.symm⟩
  | named => exact ⟨nofun, nofun⟩

theorem conversionAt?_of_head_ne {cs : List Char} (h : cs.head? ≠ some '(') :
    conversionAt? cs = conversion? none cs := by
  unfold conversionAt?
  split
  · exact absurd rfl h
  · rfl

theorem conversionAt?_append {c : Conversion} {text : List Char} (h : Spelled c text)
    (rest : List Char) : conversionAt? (text ++ rest) = some (c, rest) := by
  have hhead := (h.head_ne rest).2
  obtain ⟨hk, hf, hw, h0, hp, hs, ht⟩ := h
  have hbody := fun field => conversion?_append field hf hw h0 hp hs ht rest
  cases hk with
  | missing =>
    rw [conversionAt?_of_head_ne (hhead rfl)]
    simpa only [List.nil_append, List.append_assoc, List.singleton_append] using hbody none
  | @named name hname =>
    have hrun : ∀ x ∈ name, (x != ')') = true := by
      intro x hx
      rw [bne_iff_ne]
      rintro rfl
      exact hname hx
    simp only [List.cons_append, List.append_assoc, List.nil_append]
    rw [conversionAt?, dropWhile_append_stops hrun (stops_cons (by decide)),
      takeWhile_append_stops hrun (stops_cons (by decide))]
    exact hbody _

theorem exists_of_conversionAt? {cs rest : List Char} {c : Conversion}
    (h : conversionAt? cs = some (c, rest)) (ht : c.Typed) :
    ∃ text, Spelled c text ∧ cs = text ++ rest := by
  unfold conversionAt? at h
  split at h
  · next r =>
    have hstop := stops_dropWhile (· != ')') r
    split at h
    · next x tail htail =>
      rw [htail] at hstop
      obtain rfl : x = ')' := by simpa using hstop x rfl
      have hname : ')' ∉ r.takeWhile (· != ')') := fun hmem => by
        simpa using List.mem_takeWhile_imp hmem
      obtain ⟨text, hs, rfl⟩ := exists_of_conversion? h ht (.named hname)
      refine ⟨_, hs, ?_⟩
      simp only [List.cons_append, List.append_assoc, List.nil_append]
      rw [← htail, List.takeWhile_append_dropWhile]
    · cases h
  · obtain ⟨text, hs, rfl⟩ := exists_of_conversion? h ht .missing
    exact ⟨text, hs, rfl⟩

/-! ### Whole texts -/

theorem piecesWithin_percent (n : Nat) (r : List Char) :
    piecesWithin (n + 1) ('%' :: '%' :: r) = (piecesWithin n r).map (.char '%' :: ·) := rfl

theorem piecesWithin_conversion (n : Nat) {r : List Char} (h : r.head? ≠ some '%') :
    piecesWithin (n + 1) ('%' :: r) =
      (conversionAt? r).bind fun p => (piecesWithin n p.2).map (.conversion p.1 :: ·) := by
  rcases r with _ | ⟨x, r⟩
  · rfl
  · have hx : x ≠ '%' := fun hx => h (by rw [hx]; rfl)
    rw [piecesWithin]
    · rcases conversionAt? (x :: r) with _ | ⟨c, rest⟩ <;> rfl
    · rintro r' ⟨⟩
      exact hx rfl

theorem piecesWithin_plain (n : Nat) {c : Char} (r : List Char) (h : c ≠ '%') :
    piecesWithin (n + 1) (c :: r) = (piecesWithin n r).map (.char c :: ·) := by
  rw [piecesWithin]
  · rintro r' ⟨⟩
    exact absurd rfl h
  · rintro ⟨⟩
    exact absurd rfl h

theorem reads_of_piecesWithin : ∀ {n : Nat} {cs : List Char} {ps : List Piece},
    piecesWithin n cs = some ps → (∀ c, .conversion c ∈ ps → c.Typed) → Reads cs ps
  | _, [], ps, h, _ => by
    rw [piecesWithin] at h
    cases h
    exact .nil
  | 0, _ :: _, _, h, _ => nomatch h
  | n + 1, c :: r, ps, h, ht => by
    by_cases hc : c = '%'
    · subst hc
      by_cases hr : r.head? = some '%'
      · obtain ⟨r, rfl⟩ := List.head?_eq_some_iff.mp hr
        rw [piecesWithin_percent] at h
        obtain ⟨ps, hps, rfl⟩ := Option.map_eq_some_iff.mp h
        exact .percent (reads_of_piecesWithin hps fun c hc => ht c (List.mem_cons_of_mem _ hc))
      · rw [piecesWithin_conversion n hr] at h
        obtain ⟨⟨c, rest⟩, hconv, h⟩ := Option.bind_eq_some_iff.mp h
        obtain ⟨ps, hps, rfl⟩ := Option.map_eq_some_iff.mp h
        obtain ⟨text, hs, rfl⟩ := exists_of_conversionAt? hconv (ht c List.mem_cons_self)
        exact .conversion hs
          (reads_of_piecesWithin hps fun c hc => ht c (List.mem_cons_of_mem _ hc))
    · rw [piecesWithin_plain n r hc] at h
      obtain ⟨ps, hps, rfl⟩ := Option.map_eq_some_iff.mp h
      exact .plain hc (reads_of_piecesWithin hps fun c hc => ht c (List.mem_cons_of_mem _ hc))

/-- A text that has been read is followed by the pieces of the rest. -/
theorem piecesWithin_append {cs : List Char} {ps : List Piece} (h : Reads cs ps)
    (rest : List Char) : ∀ {n : Nat}, (cs ++ rest).length ≤ n →
      ∃ m, rest.length ≤ m ∧ piecesWithin n (cs ++ rest) = (piecesWithin m rest).map (ps ++ ·) := by
  induction h with
  | nil =>
    intro n hn
    refine ⟨n, hn, ?_⟩
    simp
  | plain hc _ ih =>
    rintro (_ | n) hn
    · cases hn
    · obtain ⟨m, hm, h⟩ := ih (Nat.le_of_succ_le_succ hn)
      refine ⟨m, hm, ?_⟩
      rw [List.cons_append, piecesWithin_plain n _ hc, h, Option.map_map]
      rfl
  | percent _ ih =>
    rintro (_ | n) hn
    · cases hn
    · obtain ⟨m, hm, h⟩ := ih (Nat.le_of_succ_le (Nat.le_of_succ_le_succ hn))
      refine ⟨m, hm, ?_⟩
      rw [List.cons_append, List.cons_append, piecesWithin_percent, h, Option.map_map]
      rfl
  | conversion hs _ ih =>
    rintro (_ | n) hn
    · cases hn
    · rw [List.cons_append, List.append_assoc, List.length_cons, List.length_append] at hn
      obtain ⟨m, hm, h⟩ := ih (n := n) (by omega)
      refine ⟨m, hm, ?_⟩
      rw [List.cons_append, List.append_assoc, piecesWithin_conversion n (hs.head_ne _).1,
        conversionAt?_append hs, Option.bind_some, h, Option.map_map]
      rfl

theorem piecesWithin_of_reads {cs : List Char} {ps : List Piece} (h : Reads cs ps) :
    piecesWithin cs.length cs = some ps := by
  obtain ⟨m, -, hm⟩ := piecesWithin_append h [] (Nat.le_refl _)
  rw [List.append_nil, piecesWithin, Option.map_some, List.append_nil] at hm
  exact hm

/-- Only conversions of known types are read. -/
theorem Reads.typed {cs : List Char} {ps : List Piece} (h : Reads cs ps) :
    ∀ c, .conversion c ∈ ps → c.Typed := by
  induction h with
  | nil => nofun
  | plain _ _ ih | percent _ ih =>
    intro c hc
    exact ih c (by simpa using hc)
  | conversion hs _ ih =>
    intro c hc
    rcases List.mem_cons.mp hc with hc | hc
    · cases hc
      obtain ⟨-, -, -, -, -, -, ht⟩ := hs
      exact ht
    · exact ih c hc

/-- **A text is cut into the pieces that it is made of.** -/
theorem piecesWithin_iff {cs : List Char} {ps : List Piece} :
    (piecesWithin cs.length cs = some ps ∧ ∀ c, .conversion c ∈ ps → c.Typed) ↔ Reads cs ps :=
  ⟨fun h => reads_of_piecesWithin h.1 h.2,
    fun h => ⟨piecesWithin_of_reads h, h.typed⟩⟩

end Template

end BlockCalc
