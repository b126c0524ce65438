import BlockCalc.Command
import BlockCalc.Proofs.Logging.Accepted
import BlockCalc.Proofs.Logging.Pieces
import BlockCalc.Proofs.Settings

/-! # Formats that are accepted, and formats that can be used

Settings are meant to have a format that log lines can be written after. The check of a format looks
for one field in it, of any name and any type, and for nothing else. A log line needs more:
`Template.Usable` asks for a value at every conversion of the format, and for a type that suits it.

So the two differ. `Template.Orderly` says what a format should be like, and such a format can be used
for every record; but the check does not ask for it, and there are formats that it accepts though no
record can be written after them (`Template.Vain`).

* `convert?_isSome_iff`, `renderPieces_isSome_iff`: one conversion, and the pieces of a format.
* `render?_isSome_iff`: which formats can be used.
* `formats_checked_and_used`: the check and the use side by side. -/

namespace BlockCalc

namespace Template

/-! ### Values -/

/-- Whether a value can be written in a certain way: as text always, as a number if it is one. -/
def Suits : Manner → FieldValue → Prop
  | .plain, _ | .shown, _ | .ascii, _ => True
  | .whole, .number _ | .whole, .real (.finite _ _) => True
  | .based, .number _ => True
  | .decimal, .number _ | .decimal, .real _ => True
  | .single, .text s => s.length = 1
  | .single, .number n => n.toNat < 0x110000
  | _, _ => False

/-- The greatest precision of a way to write. -/
def Manner.bound : Manner → Nat
  | .whole | .based => wholePrecision
  | _ => precisionBound

/-- A conversion that a value can be written in. -/
structure Fits (c : Conversion) (v : FieldValue) : Prop where
  width_le : c.width ≤ widthBound
  suits : ∃ m, Manner.ofType? c.type = some m ∧ Suits m v ∧ c.precision.getD 0 ≤ m.bound

theorem write?_isSome_iff {c : Conversion} {v : FieldValue} (m : Manner)
    (h : c.precision.getD 0 ≤ precisionBound) :
    (write? c m v).isSome = true ↔ Suits m v ∧ c.precision.getD 0 ≤ m.bound := by
  have hwhole : ∀ negative n, (whole? c negative n).isSome = true ↔
      c.precision.getD 0 ≤ wholePrecision := by
    intro negative n
    rw [whole?]
    dsimp only
    split <;> simp_all
  cases m <;> rcases v with _ | _ | (_ | _ | _) | _ <;>
    simp [write?, Suits, Manner.bound, hwhole, h, -Nat.reducePow]

theorem Manner.bound_le (m : Manner) : m.bound ≤ precisionBound := by
  cases m <;> decide

/-- **One conversion.** -/
theorem convert?_isSome_iff {c : Conversion} {v : FieldValue} :
    (convert? c v).isSome = true ↔ Fits c v := by
  rw [convert?]
  constructor
  · intro h
    split at h
    · next hb =>
      rcases hm : Manner.ofType? c.type with _ | m
      · rw [hm] at h
        cases h
      · rw [hm] at h
        obtain ⟨hs, hp⟩ := (write?_isSome_iff m hb.2).mp h
        exact ⟨hb.1, m, hm, hs, hp⟩
    · cases h
  · rintro ⟨hw, m, hm, hs, hp⟩
    have hb := Nat.le_trans hp m.bound_le
    rw [if_pos ⟨hw, hb⟩, hm]
    exact (write?_isSome_iff m hb).mpr ⟨hs, hp⟩

/-! ### Pieces -/

/-- Every conversion has a value that can be written in it. A conversion without a field takes what
is at hand, and has to be the first of all. -/
structure Supplied (r : Record) (atHand : Option FieldValue) (ps : List Piece) : Prop where
  named : ∀ c name, .conversion c ∈ ps → c.field = some name →
    ∃ v, r.field? name = some v ∧ Fits c v
  unnamed : ∀ before c after, ps = before ++ .conversion c :: after → c.field = none →
    (∀ d, .conversion d ∉ before) ∧ ∃ v, atHand = some v ∧ Fits c v

section Supplied

variable {r : Record} {atHand : Option FieldValue} {ps : List Piece}

theorem supplied_nil : Supplied r atHand [] := ⟨nofun, fun before c after h _ => by simp at h⟩

theorem supplied_char {x : Char} : Supplied r atHand (.char x :: ps) ↔ Supplied r atHand ps := by
  constructor
  · rintro ⟨hn, hu⟩
    refine ⟨fun c name hc => hn c name (List.mem_cons_of_mem _ hc), fun before c after h hf => ?_⟩
    obtain ⟨hd, hv⟩ := hu (.char x :: before) c after (by rw [h]; rfl) hf
    exact ⟨fun d hm => hd d (List.mem_cons_of_mem _ hm), hv⟩
  · rintro ⟨hn, hu⟩
    refine ⟨fun c name hc => hn c name (by simpa using hc), fun before c after h hf => ?_⟩
    rcases before with _ | ⟨p, before⟩
    · cases h
    · obtain ⟨rfl, htail⟩ := List.cons.inj h
      obtain ⟨hd, hv⟩ := hu before c after htail hf
      exact ⟨fun d hm => hd d (by simpa using hm), hv⟩

theorem supplied_conversion {c : Conversion} : Supplied r atHand (.conversion c :: ps) ↔
    (∃ v, c.value? r atHand = some v ∧ Fits c v) ∧ Supplied r none ps := by
  constructor
  · rintro ⟨hn, hu⟩
    refine ⟨?_, fun d name hd => hn d name (List.mem_cons_of_mem _ hd),
      fun before d after h hf => ?_⟩
    · rcases hf : c.field with _ | name
      · rw [Conversion.value?, hf]
        exact (hu [] c ps rfl hf).2
      · rw [Conversion.value?, hf]
        exact hn c name List.mem_cons_self hf
    · obtain ⟨hd, -⟩ := hu (.conversion c :: before) d after (by rw [h]; rfl) hf
      exact absurd List.mem_cons_self (hd c)
  · rintro ⟨hv, hn, hu⟩
    refine ⟨fun d name hd hf => ?_, fun before d after h hf => ?_⟩
    · rcases List.mem_cons.mp hd with hd | hd
      · cases hd
        rwa [Conversion.value?, hf] at hv
      · exact hn d name hd hf
    · rcases before with _ | ⟨p, before⟩
      · cases h
        rw [Conversion.value?, hf] at hv
        exact ⟨nofun, hv⟩
      · obtain ⟨-, v, hnone, -⟩ := hu before d after (List.cons.inj h).2 hf
        cases hnone

theorem renderPieces_conversion (c : Conversion) : renderPieces r atHand (.conversion c :: ps) =
    (c.value? r atHand).bind fun v => (convert? c v).bind fun s =>
      (renderPieces r none ps).map (s :: ·) := by
  rw [renderPieces]
  rcases c.value? r atHand with _ | v
  · rfl
  · rcases renderPieces r none ps <;> rfl

end Supplied

/-- **The pieces of a format.** -/
theorem renderPieces_isSome_iff {r : Record} : ∀ {ps : List Piece} {atHand : Option FieldValue},
    (renderPieces r atHand ps).isSome = true ↔ Supplied r atHand ps
  | [], _ => ⟨fun _ => supplied_nil, fun _ => rfl⟩
  | .char x :: ps, atHand => by
    rw [renderPieces, Option.isSome_map, supplied_char]
    exact renderPieces_isSome_iff
  | .conversion c :: ps, atHand => by
    rw [renderPieces_conversion, supplied_conversion, ← @renderPieces_isSome_iff r ps none]
    simp only [← convert?_isSome_iff]
    rcases c.value? r atHand with _ | v
    · simp
    · simp only [Option.bind_some, Option.some.injEq, exists_eq_left']
      rcases convert? c v with _ | s <;> simp

/-! ### Formats -/

/-- A format that a record can be written after: it is empty, or made of characters and conversions
that all have a value to write. At first the record as a whole is at hand. -/
def Usable (r : Record) (template : String) : Prop :=
  template = "" ∨ ∃ ps, Reads template.toList ps ∧
    Supplied r (some (r.whole (isTimed template.toList))) ps

/-- A format as it should be: every conversion in it names a field that all records have, and is of a
type that suits it. -/
def Orderly (cs : List Char) : Prop :=
  ∃ ps, Reads cs ps ∧ ∀ c, .conversion c ∈ ps →
    ∃ name, c.field = some name ∧ ∀ r : Record, ∃ v, r.field? name = some v ∧ Fits c v

/-- A format that is accepted though no record can be written after it. -/
def Vain (template : String) : Prop :=
  isAccepted template = true ∧ ∀ r, render? template r = none

section Formats

variable {template : String} {r : Record}

theorem Supplied.typed {atHand : Option FieldValue} {ps : List Piece} (h : Supplied r atHand ps) :
    ∀ c, .conversion c ∈ ps → c.Typed := by
  have htyped : ∀ {c v}, Fits c v → c.Typed := by
    rintro c v ⟨-, m, hm, -⟩
    exact ⟨m, hm⟩
  intro c hc
  rcases hf : c.field with _ | name
  · obtain ⟨before, after, hps⟩ := List.append_of_mem hc
    obtain ⟨-, v, -, hv⟩ := h.unnamed before c after hps hf
    exact htyped hv
  · obtain ⟨v, -, hv⟩ := h.named c name hc hf
    exact htyped hv

theorem render?_isSome (h : template ≠ "") : (render? template r).isSome = true ↔
    ∃ ps, piecesWithin template.toList.length template.toList = some ps ∧
      Supplied r (some (r.whole (isTimed template.toList))) ps := by
  have hne : template.toList.isEmpty = false := by
    rwa [List.isEmpty_eq_false_iff, Ne, String.toList_eq_nil_iff]
  rw [render?, pieces, hne]
  rcases piecesWithin template.toList.length template.toList with _ | ps
  · simp
  · simp only [← renderPieces_isSome_iff, Option.some.injEq, exists_eq_left']
    change (Option.bind _ fun ss => some (String.join ss)).isSome = true ↔ _
    rcases renderPieces r (some (r.whole (isTimed template.toList))) ps <;> simp

/-- **Which formats can be used.** -/
theorem render?_isSome_iff : (render? template r).isSome = true ↔ Usable r template := by
  by_cases h : template = ""
  · subst h
    exact ⟨fun _ => .inl rfl, fun _ => rfl⟩
  · rw [render?_isSome h, Usable]
    constructor
    · rintro ⟨ps, hps, hs⟩
      exact .inr ⟨ps, piecesWithin_iff.mp ⟨hps, hs.typed⟩, hs⟩
    · rintro (h' | ⟨ps, hps, hs⟩)
      · exact absurd h' h
      · exact ⟨ps, (piecesWithin_iff.mpr hps).1, hs⟩

/-- A format as it should be can be used for all records. -/
theorem Orderly.usable (h : Orderly template.toList) (r : Record) : Usable r template := by
  obtain ⟨ps, hps, hall⟩ := h
  refine .inr ⟨ps, hps, fun c name hc hf => ?_, fun before c after hsplit hf => ?_⟩
  · obtain ⟨name', hf', hv⟩ := hall c hc
    rw [hf] at hf'
    cases hf'
    exact hv r
  · obtain ⟨name, hf', -⟩ := hall c (by rw [hsplit]; simp)
    rw [hf] at hf'
    cases hf'

end Formats

/-! ### Plain fields -/

/-- A field with nothing but a type. -/
def plainField (name : List Char) (type : Char) : List Char :=
  '%' :: '(' :: (name ++ [')', type])

/-- The conversion that a plain field is. -/
def plainConversion (name : List Char) (type : Char) : Conversion :=
  ⟨some (String.ofList name), [], 0, none, type⟩

section Plain

variable {name : List Char} {type : Char} {m : Manner}

theorem paren_notMem (hname : ∀ c ∈ name, wordChars.contains c = true) : ')' ∉ name :=
  fun h => absurd (hname _ h) (by decide +kernel)

theorem isType_of_manner (h : Manner.ofType? type = some m) : isType type = true := by
  unfold Manner.ofType? at h
  split at h
  all_goals first | decide | cases h

theorem fieldText_plain (hne : name ≠ []) (hname : ∀ c ∈ name, wordChars.contains c = true)
    (hm : Manner.ofType? type = some m) : FieldText (plainField name type) := by
  have htail : TailText ([] ++ ([] ++ ([] ++ [type]))) :=
    .intro nofun (.inl rfl) (.inl rfl) (isType_of_manner hm)
  exact .intro hne hname htail

theorem spelled_plain (hname : ')' ∉ name) (hm : Manner.ofType? type = some m) :
    Spelled (plainConversion name type) ('(' :: (name ++ [')', type])) := by
  have h : Spelled (plainConversion name type)
      ('(' :: (name ++ [')']) ++ ([] ++ ([] ++ ([] ++ ([] ++ [type]))))) :=
    @Spelled.intro _ _ [] [] _ [] none type (.named hname) nofun nofun nofun .missing (.inl rfl)
      ⟨m, hm⟩
  simpa using h

theorem reads_plain (hname : ')' ∉ name) (hm : Manner.ofType? type = some m) {cs : List Char}
    {ps : List Piece} (h : Reads cs ps) :
    Reads (plainField name type ++ cs) (.conversion (plainConversion name type) :: ps) :=
  .conversion (spelled_plain hname hm) h

theorem fits_plain {v : FieldValue} (hm : Manner.ofType? type = some m) :
    Fits (plainConversion name type) v ↔ Suits m v := by
  constructor
  · rintro ⟨-, m', hm', hs, -⟩
    obtain rfl : m = m' := Option.some.inj (hm.symm.trans hm')
    exact hs
  · exact fun hs => ⟨Nat.zero_le _, m, hm, hs, Nat.zero_le _⟩

/-- **One conversion that does not fit spoils a format**, wherever it stands. -/
theorem vain_of_misfit {before rest : List Char} {ps : List Piece} (hbefore : Reads before ps)
    (hne : name ≠ []) (hname : ∀ c ∈ name, wordChars.contains c = true)
    (hm : Manner.ofType? type = some m)
    (hmisfit : ∀ (r : Record) v, r.field? (String.ofList name) = some v → ¬ Suits m v) :
    Vain (String.ofList (before ++ (plainField name type ++ rest))) := by
  constructor
  · rw [isAccepted_iff, String.toList_ofList]
    exact .inr ⟨before, _, rest, rfl, fieldText_plain hne hname hm⟩
  · intro r
    rw [← Option.not_isSome_iff_eq_none, render?_isSome (by simp [plainField])]
    rintro ⟨ps', hps', hsup⟩
    rw [String.toList_ofList] at hps'
    have hs := spelled_plain (paren_notMem hname) hm
    obtain ⟨n, hn, hread⟩ := piecesWithin_append hbefore (plainField name type ++ rest)
      (Nat.le_refl _)
    obtain ⟨n, rfl⟩ := Nat.exists_eq_add_of_lt hn
    rw [hread, plainField, List.cons_append, piecesWithin_conversion _ (hs.head_ne rest).1,
      conversionAt?_append hs, Option.bind_some] at hps'
    obtain ⟨ps₁, hps₁, rfl⟩ := Option.map_eq_some_iff.mp hps'
    obtain ⟨ps₂, -, rfl⟩ := Option.map_eq_some_iff.mp hps₁
    obtain ⟨v, hv, hfit⟩ := hsup.named (plainConversion name type) _ (by simp) rfl
    exact hmisfit r v hv ((fits_plain hm).mp hfit)

end Plain

/-! ### The format where nothing is said -/

section Orderly

variable {cs : List Char}

theorem orderly_nil : Orderly [] := ⟨[], .nil, nofun⟩

theorem Orderly.text (h : Orderly cs) : ∀ text : List Char, '%' ∉ text → Orderly (text ++ cs)
  | [], _ => h
  | x :: text, hx => by
    rw [List.mem_cons, not_or] at hx
    obtain ⟨ps, hps, hall⟩ := h.text text hx.2
    exact ⟨_, .plain (Ne.symm hx.1) hps, fun c hc => hall c (by simpa using hc)⟩

theorem Orderly.field (h : Orderly cs) (name : String) {type : Char} {m : Manner}
    (hname : ')' ∉ name.toList) (hm : Manner.ofType? type = some m)
    (hv : ∀ r : Record, ∃ v, r.field? name = some v ∧ Suits m v) :
    Orderly (plainField name.toList type ++ cs) := by
  obtain ⟨ps, hps, hall⟩ := h
  refine ⟨_, reads_plain hname hm hps, fun c hc => ?_⟩
  rcases List.mem_cons.mp hc with hc | hc
  · cases hc
    refine ⟨_, rfl, fun r => ?_⟩
    obtain ⟨v, hv, hs⟩ := hv r
    exact ⟨v, by rwa [String.ofList_toList], (fits_plain hm).mpr hs⟩
  · exact hall c hc

/-- The default format is as it should be. -/
theorem orderly_default : Orderly Settings.default.format.toList := by
  have htext : Settings.default.format.toList = "[".toList ++ (plainField "asctime".toList 's' ++
      ("] ".toList ++ (plainField "name".toList 's' ++ (" - ".toList ++
        (plainField "levelname".toList 's' ++ (" - ".toList ++
          (plainField "message".toList 's' ++ []))))))) := by decide
  have hs : Manner.ofType? 's' = some .plain := rfl
  have hmessage := orderly_nil.field "message" (by decide) hs
    fun r => ⟨.text r.message, rfl, trivial⟩
  have hlevel := (hmessage.text " - ".toList (by decide)).field "levelname" (by decide) hs
    fun r => ⟨.text r.level.label, rfl, trivial⟩
  have hsource := (hlevel.text " - ".toList (by decide)).field "name" (by decide) hs
    fun r => ⟨.text r.source, rfl, trivial⟩
  have htime := (hsource.text "] ".toList (by decide)).field "asctime" (by decide) hs
    fun r => ⟨.text r.time, rfl, trivial⟩
  rw [htext]
  exact htime.text "[".toList (by decide)

end Orderly

end Template

/-! ### Settings and log lines -/

/-- A table that says nothing but a format. -/
def formatTable (v : Toml) : List (String × Toml) := [("logging", .table [("format", v)])]

theorem ofTable_formatTable (limit : Nat) (v : Toml) :
    Settings.ofTable limit (formatTable v) =
      (Settings.checkFormat (some v)).map fun f => { Settings.default with format := f } := by
  rcases h : Settings.checkFormat (some v) with why | f
  all_goals
    change (Settings.checkFormat (some v) >>= fun f => .ok (Settings.mk _ _ f none)) = _
    rw [h]
    rfl

theorem ofTable_formatTable_eq_ok_iff {limit : Nat} {v : Toml} {s : Settings} :
    Settings.ofTable limit (formatTable v) = .ok s ↔
      ∃ f, v = .text f ∧ (f = "" ∨ Template.HasField f.toList) ∧
        s = { Settings.default with format := f } := by
  simp only [← Template.isAccepted_iff]
  rw [ofTable_formatTable]
  constructor
  · intro h
    rcases hc : Settings.checkFormat (some v) with why | f
    · rw [hc] at h
      cases h
    · rw [hc] at h
      cases h
      obtain ⟨rfl, hf⟩ := Settings.takes_some.mp (Settings.checkFormat_eq_ok_iff.mp hc)
      exact ⟨f, rfl, hf, rfl⟩
  · rintro ⟨f, rfl, hf, rfl⟩
    rw [Settings.checkFormat_eq_ok_iff.mpr (Settings.takes_some.mpr ⟨rfl, hf⟩)]
    rfl

theorem ofTable_formatTable_eq_error {limit : Nat} {v : Toml} {why : Failure}
    (h : Settings.ofTable limit (formatTable v) = .error why) :
    ∃ c, why = Settings.failure c ∧ c.family = .settings := by
  rw [ofTable_formatTable] at h
  unfold Settings.checkFormat at h
  split at h
  · cases h
  · split at h
    · cases h
    · cases h
      exact ⟨_, rfl, rfl⟩
  · cases h
    exact ⟨_, rfl, rfl⟩

theorem logLine_of_vain {f : String} (h : Template.Vain f) (host : Host) {threshold : Level}
    {remark : Command.Remark} (hlevel : threshold.weight ≤ remark.level.weight) :
    Command.logLine host threshold f remark = "--- Logging error ---\n" := by
  rw [Command.logLine, if_pos hlevel, h.2]

open Template in
/-- **What a format is checked for, and what it needs.** A table of settings is taken with exactly
those formats that are empty or have a field in them, and every other one is refused by a fault of the
settings. A record can be written after exactly those formats that are made of characters and
conversions that all have a value of a suitable type; a format as it should be, such as the default
one, can be used for every record. The check does not look for this: behind any text that can be read,
one conversion of a field that is unknown, or of a type that does not suit its field, makes a format
that is accepted and of no use, and there is no log line then but a complaint. -/
theorem formats_checked_and_used (limit : Nat) :
    (∀ v s, Settings.ofTable limit (formatTable v) = .ok s ↔
      ∃ f, v = .text f ∧ (f = "" ∨ HasField f.toList) ∧
        s = { Settings.default with format := f }) ∧
    (∀ v why, Settings.ofTable limit (formatTable v) = .error why →
      ∃ c, why = Settings.failure c ∧ c.family = .settings) ∧
    (∀ f r, (∃ line, render? f r = some line) ↔ Usable r f) ∧
    (∀ f : String, Orderly f.toList → ∀ r, ∃ line, render? f r = some line) ∧
    Orderly Settings.default.format.toList ∧
    (∀ before ps name type m rest, Reads before ps → name ≠ [] →
      (∀ c ∈ name, wordChars.contains c = true) → Manner.ofType? type = some m →
      (∀ (r : Record) v, r.field? (String.ofList name) = some v → ¬ Suits m v) →
      Vain (String.ofList (before ++ (plainField name type ++ rest)))) ∧
    (∀ f, Vain f → ∀ host threshold (remark : Command.Remark),
      threshold.weight ≤ remark.level.weight →
      Command.logLine host threshold f remark = "--- Logging error ---\n") := by
  refine ⟨fun v s => ofTable_formatTable_eq_ok_iff, fun v why => ofTable_formatTable_eq_error,
    fun f r => ?_, fun f hf r => ?_, orderly_default, ?_, ?_⟩
  · rw [← render?_isSome_iff, Option.isSome_iff_exists]
  · rw [← Option.isSome_iff_exists, render?_isSome_iff]
    exact hf.usable r
  · exact fun before ps name type m rest hb hne hname hm hmis =>
      vain_of_misfit hb hne hname hm hmis
  · exact fun f hf host threshold remark hlevel => logLine_of_vain hf host hlevel

open Template in
/-- A field of an unknown name behind a proper one is accepted, and no record can be written; the
default format can be used. -/
theorem formats_checked_and_used_unknown :
    Settings.ofTable depthLimit (formatTable (.text "%(message)s %(nosuch)s")) =
      .ok { Settings.default with format := "%(message)s %(nosuch)s" } ∧
    (∀ r, render? "%(message)s %(nosuch)s" r = none) ∧
    (∀ host, Command.logLine host .debug "%(message)s %(nosuch)s"
      ⟨.info, "ember.cli", [.words "reading file: ", .filled 's' (.path (Path.ofText "p.em"))]⟩ =
        "--- Logging error ---\n") ∧
    ∀ r, ∃ line, render? Settings.default.format r = some line := by
  obtain ⟨hcheck, -, -, horderly, hdefault, hvain, hlog⟩ := formats_checked_and_used depthLimit
  have htext : "%(message)s %(nosuch)s" = String.ofList ((plainField "message".toList 's' ++
      [' ']) ++ (plainField "nosuch".toList 's' ++ [])) := by decide
  have hbefore : Reads (plainField "message".toList 's' ++ [' ']) _ :=
    reads_plain (by decide) rfl (.plain (by decide) .nil)
  have hv : Vain "%(message)s %(nosuch)s" := by
    rw [htext]
    refine hvain _ _ "nosuch".toList 's' .plain [] hbefore (by decide)
      (List.all_eq_true.mp (by decide +kernel)) rfl ?_
    rintro r v ⟨⟩
  exact ⟨(hcheck _ _).mpr ⟨_, rfl, isAccepted_iff.mp hv.1, rfl⟩, hv.2,
    fun host => hlog _ hv host .debug _ (by decide), horderly _ hdefault⟩

end BlockCalc
