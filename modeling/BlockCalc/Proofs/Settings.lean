import BlockCalc.Proofs.Command.Settings
import BlockCalc.Proofs.Enclosed
import BlockCalc.Proofs.Location

/-! # Validated settings

A table makes settings if each of its parts passes its check: what is not said has a default, and
what is said has to be right (`Takes`). The checks are said here without the functions that make
them. A result variable is a text that the lexer reads as one name, itself (`NamesItself`); a level
is a text that spells the label of a level once its letters are in upper case (`Level.Names`);
`Valid` puts them together, and `Follows` says which settings come of them.

A value that cannot be shown is never right (`not_names_of_obstacle`), but neither is there a fault
that names it, since the fault would show it: this is the failure that `Unshowable` describes.

* `isName_iff_namesItself`: the check of names and the lexer accept the same texts.
* `ofTable_eq_ok_iff`, `load_eq_ok_iff`: the settings that a table makes.
* `settings_validated`: settings are loaded just if they are valid, and a program that assigns to
  their result variable reports what it assigned. -/

namespace BlockCalc

/-! ### Names and levels -/

/-- A text whose only token is the name that it spells. -/
def NamesItself (s : String) : Prop :=
  (tokenize s.toList).map (List.map Token.lexeme) = .ok [.name s, .endOfInput]

/-- The check of names and the lexer accept the same texts. -/
theorem isName_iff_namesItself {s : String} : isName s.toList = true ↔ NamesItself s := by
  unfold NamesItself
  constructor
  · intro h
    have hstops : Cursor.Stops isNameChar [] := nofun
    obtain ⟨ts, hts, hf⟩ := Cursor.reads_name s.toList h hstops 0
    have hend := Cursor.feed_gap (0 + s.toList.length) (List.forall_mem_nil (isBlank · = true))
    rw [List.append_nil, hend] at hf
    rw [Cursor.tokenize_eq_ok_iff.mpr hf]
    simp [Except.map, hts]
  · intro h
    obtain ⟨ts, hts, hl⟩ := exists_ok_of_map h
    have hfeed := Cursor.tokenize_eq_ok_iff.mp hts
    obtain ⟨t, us, rfl, ht, -⟩ := List.map_eq_cons_iff.mp hl
    have hspelled := Cursor.spelled_feed (Cursor.start s.toList) t (by rw [hfeed]; simp)
    rw [ht] at hspelled
    exact hspelled

namespace Level

/-- A text that spells the label of a level once its letters are in upper case. -/
def Names (s : String) (l : Level) : Prop := s.toList.flatMap upperChar = l.label.toList

theorem ofName?_eq_some_iff {s : String} {l : Level} : ofName? s = some l ↔ Names s l := by
  constructor
  · intro h
    have hl := List.find?_some h
    exact (beq_iff_eq.mp hl).symm
  · intro h
    rw [ofName?, h]
    cases l <;> decide

theorem upperChar_of_lt {c : Char} (h : c.toNat < 97) : upperChar c = [c] := by
  have hne : ∀ d : Char, 97 ≤ d.toNat → c ≠ d := by
    rintro d hd rfl
    omega
  have hlower : ¬ ('a' ≤ c ∧ c ≤ 'z') := by
    rintro ⟨ha, -⟩
    exact absurd (le_toNat ha) (Nat.not_le.mpr h)
  unfold upperChar
  rw [if_neg hlower]
  simp [hne]

/-- A name of a level begins with the first letter of a label, or with what becomes it in upper
case. -/
theorem Names.exists_head {s : String} {l : Level} (h : Names s l) : ∃ c rest,
    s.toList = c :: rest ∧ (c ∈ ['D', 'I', 'W', 'E', 'C'] ∨ upperChar c ≠ [c]) := by
  unfold Names at h
  rcases hs : s.toList with _ | ⟨c, rest⟩
  · rw [hs] at h
    cases l <;> cases h
  · refine ⟨c, rest, rfl, ?_⟩
    by_cases hc : upperChar c = [c]
    · left
      rw [hs, List.flatMap_cons, hc] at h
      have hhead : l.label.toList.head? = some c := by
        rw [← h]
        rfl
      cases l <;> cases hhead <;> decide
    · exact .inr hc

end Level

namespace Settings

/-! ### What is said and what is not -/

/-- What is not said has a default, and what is said has to be right. -/
inductive Takes {α β : Type} (P : β → α → Prop) (d : α) : Option β → α → Prop
  | unsaid : Takes P d none d
  | said {v a} : P v a → Takes P d (some v) a

section Takes

variable {α β : Type} {P : β → α → Prop} {d a : α}

@[simp]
theorem takes_none : Takes P d none a ↔ a = d := by
  constructor
  · rintro ⟨⟩
    rfl
  · rintro rfl
    exact .unsaid

@[simp]
theorem takes_some {v : β} : Takes P d (some v) a ↔ P v a := by
  constructor
  · rintro (_ | h)
    exact h
  · exact .said

theorem exists_takes_iff {o : Option β} :
    (∃ a, Takes P d o a) ↔ ∀ v, o = some v → ∃ a, P v a := by
  rcases o with _ | v <;> simp

/-- What is said in two places: the first wins, but the second has to be right all the same. -/
theorem takes_or_iff {o o' : Option β} :
    (∃ b, Takes P d o' b ∧ Takes P b o a) ↔ (∃ b, Takes P d o' b) ∧ Takes P d (o.or o') a := by
  rcases o with _ | v
  · simp only [takes_none, Option.none_or]
    constructor
    · rintro ⟨b, hb, rfl⟩
      exact ⟨⟨a, hb⟩, hb⟩
    · rintro ⟨-, h⟩
      exact ⟨a, h, rfl⟩
  · simp only [takes_some, Option.some_or, exists_and_right]

end Takes

theorem bind_eq_ok_iff {α β : Type} {x : Except Failure α} {f : α → Except Failure β} {b : β} :
    (x >>= f) = .ok b ↔ ∃ a, x = .ok a ∧ f a = .ok b := by
  rcases x with why | a <;> simp [bind, Except.bind]

/-! ### The checks -/

section Checks

variable {limit : Nat} {table : List (String × Toml)} {name : String}

/-- A section that is absent or a table. -/
def Tabular (table : List (String × Toml)) (name : String) : Prop :=
  ∀ v, Toml.find? name table = some v → ∃ entries, v = .table entries

/-- The value of a key in a section that is a table. -/
def valueAt? (table : List (String × Toml)) (name key : String) : Option Toml :=
  match Toml.find? name table with
  | some (.table entries) => Toml.find? key entries
  | _ => none

/-- A value that can be the result variable. -/
def IsResultVariable (v : Toml) (r : String) : Prop := v = .text r ∧ NamesItself r

/-- A value that can be the format. -/
def IsFormat (v : Toml) (f : String) : Prop := v = .text f ∧ Template.isAccepted f = true

/-- The level of a table as text. -/
def fileLevel? (table : List (String × Toml)) : Option String :=
  (valueAt? table "logging" "level").map Toml.plain

/-- The level from outside, unless it is blank. -/
def outsideLevel? (outside : Option String) : Option String :=
  if (trimBlanks (outside.getD "")).toList.isEmpty then none
  else some (trimBlanks (outside.getD ""))

theorem section?_eq_ok_iff {es : List (String × Toml)} : section? table name = .ok es ↔
    Takes (fun v es => v = .table es) [] (Toml.find? name table) es := by
  unfold section?
  split
  · next hn => rw [hn, takes_none, Except.ok.injEq, eq_comm]
  · next hs => rw [hs, takes_some, Except.ok.injEq, Toml.table.injEq]
  · next v hne hv =>
    rw [hv, takes_some]
    constructor
    · intro h
      cases h
    · rintro rfl
      exact absurd rfl (hne es)

theorem find?_eq_valueAt? {es : List (String × Toml)} (h : section? table name = .ok es)
    (key : String) : Toml.find? key es = valueAt? table name key := by
  rw [section?_eq_ok_iff] at h
  unfold valueAt?
  generalize Toml.find? name table = o at h
  rcases o with _ | v
  · rw [takes_none.mp h]
    rfl
  · rw [takes_some.mp h]

/-- A text that is accepted is taken as it is. -/
theorem text_eq_ok_iff {P : String → Prop} {s r : String} {b : Bool} {why : Failure}
    (hb : b = true ↔ P s) :
    (if b = true then Except.ok s else Except.error why) = .ok r ↔
      Toml.text s = .text r ∧ P r := by
  rw [Toml.text.injEq]
  by_cases h : b = true
  · rw [if_pos h, Except.ok.injEq]
    constructor
    · rintro rfl
      exact ⟨rfl, hb.mp h⟩
    · exact And.left
  · rw [if_neg h]
    constructor
    · intro herror
      cases herror
    · rintro ⟨rfl, hr⟩
      exact absurd (hb.mpr hr) h

theorem checkResultVariable_eq_ok_iff {v : Option Toml} {r : String} :
    checkResultVariable limit v = .ok r ↔ Takes IsResultVariable default.resultVariable v r := by
  unfold checkResultVariable
  split
  · rw [takes_none, Except.ok.injEq, eq_comm]
  · next s =>
    rw [takes_some, IsResultVariable]
    exact text_eq_ok_iff isName_iff_namesItself
  · next w hne =>
    rw [takes_some, IsResultVariable]
    constructor
    · intro h
      split at h <;> cases h
    · rintro ⟨rfl, -⟩
      exact absurd rfl (hne r)

theorem Takes.namesItself {v : Option Toml} {r : String}
    (h : Takes IsResultVariable default.resultVariable v r) : NamesItself r := by
  rcases v with _ | v
  · rw [takes_none.mp h]
    exact isName_iff_namesItself.mp (by decide)
  · exact (takes_some.mp h).2

theorem checkLevel_eq_ok_iff {s : String} {l : Level} :
    checkLevel s = .ok l ↔ Level.Names s l := by
  rw [← Level.ofName?_eq_some_iff, checkLevel]
  rcases Level.ofName? s with _ | l' <;> simp

/-- The text of a value that cannot be shown would begin with a bracket, a brace, a minus sign or a
digit. -/
theorem head_of_obstacle {v : Toml} {stop : TomlStop} (h : v.obstacle? limit = some stop)
    {c : Char} {rest : List Char} (hs : v.plain.toList = c :: rest) :
    c ∈ ['[', '\x7b', '-'] ∨ c.isDigit = true := by
  have hhead : v.plain.toList.head? = some c := by rw [hs]; rfl
  rcases v with _ | n | _ | _ | _ | _ | _ | items | entries
  case integer =>
    have hmem : c ∈ (toString n).toList := List.mem_of_head? hhead
    rcases mem_toString_int hmem with rfl | hd
    · exact .inl (by decide)
    · exact .inr hd
  case array =>
    simp only [Toml.plain, Toml.detail, String.toList_append] at hhead
    cases hhead
    exact .inl (by decide)
  case table =>
    simp only [Toml.plain, Toml.detail, String.toList_append] at hhead
    cases hhead
    exact .inl (by decide)
  all_goals cases h

theorem not_names_of_obstacle {v : Toml} {stop : TomlStop} (h : v.obstacle? limit = some stop)
    (l : Level) : ¬ Level.Names v.plain l := by
  have hsigns : ∀ x ∈ ['[', '\x7b', '-'],
      ¬ (x ∈ ['D', 'I', 'W', 'E', 'C'] ∨ Level.upperChar x ≠ [x]) := by
    simp only [List.mem_cons, List.not_mem_nil, or_false, forall_eq_or_imp, forall_eq]
    decide
  have hletters : ∀ x ∈ ['D', 'I', 'W', 'E', 'C'], 57 < x.toNat := by simp
  intro hl
  obtain ⟨c, rest, hs, hc⟩ := hl.exists_head
  rcases head_of_obstacle h hs with hsign | hd
  · exact hsigns c hsign hc
  · have hle : c.toNat ≤ 57 := (Char.isDigit_iff_toNat.mp hd).2
    rcases hc with hmem | hne
    · have := hletters c hmem
      omega
    · exact hne (Level.upperChar_of_lt (by omega))

theorem levelOf_eq_ok_iff {v : Option Toml} {l : Level} :
    levelOf limit v = .ok l ↔ Takes Level.Names default.level (v.map Toml.plain) l := by
  rcases v with _ | v
  · rw [levelOf, Option.map_none, takes_none, Except.ok.injEq, eq_comm]
  · rw [levelOf, shown, Option.map_some, takes_some]
    rcases ho : v.obstacle? limit with _ | stop
    · exact checkLevel_eq_ok_iff
    · have hnot := not_names_of_obstacle ho l
      simp [hnot]

theorem checkFormat_eq_ok_iff {v : Option Toml} {f : String} :
    checkFormat v = .ok f ↔ Takes IsFormat default.format v f := by
  unfold checkFormat
  split
  · rw [takes_none, Except.ok.injEq, eq_comm]
  · next s =>
    rw [takes_some, IsFormat]
    exact text_eq_ok_iff (P := fun f => Template.isAccepted f = true) Iff.rfl
  · next w hne =>
    rw [takes_some, IsFormat]
    constructor
    · intro h
      cases h
    · rintro ⟨rfl, -⟩
      exact absurd rfl (hne f)

theorem withLevel_eq_ok_iff {outside : Option String} {s s' : Settings} :
    withLevel outside s = .ok s' ↔
      Takes Level.Names s.level (outsideLevel? outside) s'.level ∧
        s' = { s with level := s'.level } := by
  rcases s with ⟨r, l, f, p⟩
  rcases s' with ⟨r', l', f', p'⟩
  unfold withLevel outsideLevel?
  dsimp only
  split
  · rw [takes_none]
    constructor
    · rintro ⟨⟩
      exact ⟨rfl, rfl⟩
    · rintro ⟨rfl, ⟨⟩⟩
      rfl
  · rw [takes_some, ← checkLevel_eq_ok_iff]
    constructor
    · intro h
      split at h
      · next hl =>
        cases h
        exact ⟨hl, rfl⟩
      · cases h
    · rintro ⟨h, ⟨⟩⟩
      rw [h]

/-- The settings of a table, apart from what comes from outside. -/
structure Makes (table : List (String × Toml)) (s : Settings) : Prop where
  interpreter : Tabular table "interpreter"
  logging : Tabular table "logging"
  result : Takes IsResultVariable default.resultVariable
    (valueAt? table "interpreter" "result_variable") s.resultVariable
  level : Takes Level.Names default.level (fileLevel? table) s.level
  format : Takes IsFormat default.format (valueAt? table "logging" "format") s.format
  path : s.path = none

theorem exists_section_iff :
    (∃ entries, section? table name = .ok entries) ↔ Tabular table name := by
  simp only [section?_eq_ok_iff]
  exact exists_takes_iff

/-- **The settings that a table makes.** -/
theorem ofTable_eq_ok_iff {s : Settings} : ofTable limit table = .ok s ↔ Makes table s := by
  simp only [ofTable, bind_eq_ok_iff]
  constructor
  · rintro ⟨interpreter, hi, logging, hl, r, hr, level, hlevel, format, hf, ⟨⟩⟩
    rw [checkResultVariable_eq_ok_iff, find?_eq_valueAt? hi] at hr
    rw [levelOf_eq_ok_iff, find?_eq_valueAt? hl] at hlevel
    rw [checkFormat_eq_ok_iff, find?_eq_valueAt? hl] at hf
    exact ⟨exists_section_iff.mp ⟨_, hi⟩, exists_section_iff.mp ⟨_, hl⟩, hr, hlevel, hf, rfl⟩
  · rintro ⟨hi, hl, hr, hlevel, hf, hp⟩
    obtain ⟨interpreter, hi⟩ := exists_section_iff.mpr hi
    obtain ⟨logging, hl⟩ := exists_section_iff.mpr hl
    refine ⟨interpreter, hi, logging, hl, s.resultVariable, ?_, s.level, ?_, s.format, ?_, ?_⟩
    · rwa [checkResultVariable_eq_ok_iff, find?_eq_valueAt? hi]
    · rwa [levelOf_eq_ok_iff, find?_eq_valueAt? hl]
    · rwa [checkFormat_eq_ok_iff, find?_eq_valueAt? hl]
    · rw [← hp]
      rfl

end Checks

/-! ### The settings that are loaded -/

section Loading

variable {platform : Platform} {disk : Disk} {path : Option Path} {outside : Option String}
  {table : List (String × Toml)}

/-- The table that settings are made of: that of a file, or an empty one if there is none. -/
def HasTable (platform : Platform) (disk : Disk) : Option Path → List (String × Toml) → Prop
  | none, table => table = []
  | some p, table => readTable platform.reading disk p = .ok table

/-- A table and a level from outside in which all is absent or right. -/
structure Valid (table : List (String × Toml)) (outside : Option String) : Prop where
  interpreter : Tabular table "interpreter"
  logging : Tabular table "logging"
  result : ∀ v, valueAt? table "interpreter" "result_variable" = some v →
    ∃ r, v = .text r ∧ NamesItself r
  level : ∀ t, fileLevel? table = some t → ∃ l, Level.Names t l
  format : ∀ v, valueAt? table "logging" "format" = some v →
    ∃ f, v = .text f ∧ Template.isAccepted f = true
  override : ∀ t, outsideLevel? outside = some t → ∃ l, Level.Names t l

/-- The settings of a table and a level from outside, which wins over that of the table. -/
structure Follows (table : List (String × Toml)) (path : Option Path) (outside : Option String)
    (s : Settings) : Prop where
  result : Takes IsResultVariable default.resultVariable
    (valueAt? table "interpreter" "result_variable") s.resultVariable
  level : Takes Level.Names default.level ((outsideLevel? outside).or (fileLevel? table)) s.level
  format : Takes IsFormat default.format (valueAt? table "logging" "format") s.format
  path : s.path = path

theorem load_of_hasTable (h : HasTable platform disk path table) : load platform disk path outside =
    ofTable platform.quoting table >>= fun s => withLevel outside { s with path := path } := by
  rcases path with _ | p
  · subst h
    have hempty : ofTable platform.quoting [] = .ok default :=
      ofTable_eq_ok_iff.mpr ⟨nofun, nofun, .unsaid, .unsaid, .unsaid, rfl⟩
    have hpath : { default with path := none } = default := rfl
    rw [load_none, hempty]
    dsimp only [bind, Except.bind]
    rw [hpath]
  · unfold HasTable at h
    rw [load_eq_bind, h]
    rfl

/-- **The settings that are loaded.** -/
theorem load_eq_ok_iff (h : HasTable platform disk path table) {s : Settings} :
    load platform disk path outside = .ok s ↔ Valid table outside ∧ Follows table path outside s := by
  simp only [load_of_hasTable h, bind_eq_ok_iff, ofTable_eq_ok_iff, withLevel_eq_ok_iff]
  constructor
  · rintro ⟨s0, hm, hlevel, hs⟩
    obtain ⟨hfile, hboth⟩ := takes_or_iff.mp ⟨s0.level, hm.level, hlevel⟩
    rw [hs]
    exact ⟨⟨hm.interpreter, hm.logging, exists_takes_iff.mp ⟨_, hm.result⟩,
      exists_takes_iff.mp hfile, exists_takes_iff.mp ⟨_, hm.format⟩,
      exists_takes_iff.mp ⟨_, hlevel⟩⟩, hm.result, hboth, hm.format, rfl⟩
  · rintro ⟨hv, hf⟩
    -- The level of the file is right even if it does not count.
    obtain ⟨l, hl, hlevel⟩ := takes_or_iff.mpr ⟨exists_takes_iff.mpr hv.level, hf.level⟩
    refine ⟨⟨s.resultVariable, l, s.format, none⟩,
      ⟨hv.interpreter, hv.logging, hf.result, hl, hf.format, rfl⟩, hlevel, ?_⟩
    rw [← hf.path]

theorem exists_load_iff (h : HasTable platform disk path table) :
    (∃ s, load platform disk path outside = .ok s) ↔ Valid table outside := by
  simp only [load_eq_ok_iff h]
  constructor
  · rintro ⟨s, hv, -⟩
    exact hv
  · intro hv
    obtain ⟨r, hr⟩ := exists_takes_iff.mpr hv.result
    obtain ⟨f, hf⟩ := exists_takes_iff.mpr hv.format
    obtain ⟨b, hb⟩ := exists_takes_iff.mpr hv.level
    obtain ⟨l, hl⟩ := exists_takes_iff.mpr hv.override
    exact ⟨⟨r, l, f, path⟩, hv, hr, (takes_or_iff.mp ⟨b, hb, hl⟩).2, hf, rfl⟩

end Loading

/-! ### Settings that are refused -/

/-- The only faults of a check are faults of the settings. -/
def Blames {α : Type} (r : Except Failure α) : Prop :=
  ∀ f, r = .error (.fault f) → ∃ c, f = Fault.of c ∧ c.family = .settings

section Blames

variable {α β : Type} {limit : Nat}

theorem blames_ok (a : α) : Blames (.ok a) := by
  intro f hf
  cases hf

theorem blames_failure {c : Cause} (hc : c.family = .settings) :
    Blames (.error (failure c) : Except Failure α) := by
  rintro f ⟨⟩
  exact ⟨c, rfl, hc⟩

theorem blames_stopped (stop : TomlStop) : Blames (.error (stopped stop) : Except Failure α) := by
  intro f hf
  exact absurd (Except.error.inj hf) (stopped_ne_fault stop f)

theorem Blames.bind {x : Except Failure α} {f : α → Except Failure β} (hx : Blames x)
    (hf : ∀ a, Blames (f a)) : Blames (x >>= f) := by
  rcases x with why | a
  · intro g hg
    cases hg
    exact hx g rfl
  · exact hf a

theorem blames_section? (table : List (String × Toml)) (name : String) :
    Blames (section? table name) := by
  unfold section?
  split
  · exact blames_ok _
  · exact blames_ok _
  · exact blames_failure rfl

theorem blames_checkResultVariable (v : Option Toml) : Blames (checkResultVariable limit v) := by
  unfold checkResultVariable
  split
  · exact blames_ok _
  · split
    · exact blames_ok _
    · exact blames_failure rfl
  · next w _ =>
    rw [shown]
    rcases w.obstacle? limit with _ | stop
    · exact blames_failure rfl
    · exact blames_stopped stop

theorem blames_checkLevel (s : String) : Blames (checkLevel s) := by
  unfold checkLevel
  split
  · exact blames_ok _
  · exact blames_failure rfl

theorem blames_levelOf (v : Option Toml) : Blames (levelOf limit v) := by
  unfold levelOf
  split
  · exact blames_ok _
  · next w =>
    rw [shown]
    rcases w.obstacle? limit with _ | stop
    · exact blames_checkLevel _
    · exact blames_stopped stop

theorem blames_checkFormat (v : Option Toml) : Blames (checkFormat v) := by
  unfold checkFormat
  split
  · exact blames_ok _
  · split
    · exact blames_ok _
    · exact blames_failure rfl
  · exact blames_failure rfl

theorem blames_ofTable (table : List (String × Toml)) : Blames (ofTable limit table) := by
  refine (blames_section? table _).bind fun interpreter => ?_
  refine (blames_section? table _).bind fun logging => ?_
  refine (blames_checkResultVariable _).bind fun r => ?_
  refine (blames_levelOf _).bind fun level => ?_
  exact (blames_checkFormat _).bind fun format => blames_ok _

theorem blames_withLevel (outside : Option String) (s : Settings) :
    Blames (withLevel outside s) := by
  have hbind : withLevel outside s = if (trimBlanks (outside.getD "")).toList.isEmpty then .ok s
      else checkLevel (trimBlanks (outside.getD "")) >>= fun l => .ok { s with level := l } := by
    unfold withLevel
    dsimp only
    rcases checkLevel (trimBlanks (outside.getD "")) with c | l <;> rfl
  rw [hbind]
  split
  · exact blames_ok _
  · exact (blames_checkLevel _).bind fun l => blames_ok _

end Blames

section Refusal

variable {platform : Platform} {disk : Disk} {path : Option Path} {outside : Option String}
  {table : List (String × Toml)} {why : Failure}

theorem fault_or_unshowable (h : HasTable platform disk path table)
    (hl : load platform disk path outside = .error why) :
    (∃ c, why = failure c ∧ c.family = .settings) ∨ Unshowable platform.quoting table why := by
  have haccounted :
      Accounted (Unshowable platform.quoting table) (load platform disk path outside) := by
    rw [load_of_hasTable h]
    exact (accounted_ofTable platform.quoting table).bind fun s _ => accounted_withLevel _ _
  have hblames : Blames (load platform disk path outside) := by
    rw [load_of_hasTable h]
    exact (blames_ofTable table).bind fun s => blames_withLevel _ _
  rw [hl] at haccounted hblames
  cases haccounted with
  | fault f =>
    obtain ⟨c, rfl, hc⟩ := hblames f rfl
    exact .inl ⟨c, rfl, hc⟩
  | silent hu => exact .inr hu

theorem Unshowable.load_eq (hu : Unshowable platform.quoting table why)
    (h : HasTable platform disk path table) :
    load platform disk path outside = .error why ∧ (why = .numeral ∨ why = .depth) := by
  have hstopped : ∀ stop, stopped stop = .numeral ∨ stopped stop = .depth := by
    intro stop
    cases stop <;> simp [stopped]
  refine ⟨?_, ?_⟩
  · rw [load_of_hasTable h, hu.ofTable_eq]
    rfl
  · cases hu <;> exact hstopped _

end Refusal

end Settings

/-! ### Programs for the result variable -/

/-- A program that assigns the value of an expression reports this value, unless the depth limit
does not leave it the two levels that it takes more. -/
theorem interpret_assigning_or {depth : Nat} {x : String} {e : List Char} {v : Binary64}
    (hx : isName x.toList = true) (hv : evaluateSource depth e .empty = .ok v) (depth' : Nat) :
    interpret depth' (assigning x e) x = .ok (some v) ∨ depth' < depth + 2 ∧
      (TooDeep (interpret depth' (assigning x e) x) ∨
        interpret depth' (assigning x e) x = .error (Fault.of .evaluationTooDeep)) := by
  obtain ⟨t, ht⟩ : ∃ t, parseExpression depth e = .ok t := by
    unfold evaluateSource at hv
    rcases hp : parseExpression depth e with f | t
    · rw [hp] at hv
      cases hv
    · exact ⟨t, rfl⟩
  have he : evaluateSource depth e .empty ≠ .error (Fault.of .evaluationTooDeep) := by
    rw [hv]
    nofun
  have hvalue : (evaluateSource depth e .empty).map some = .ok (some v) := by
    rw [hv]
    rfl
  by_cases hroom : depth + 2 ≤ depth'
  · left
    rw [← hvalue]
    exact interpret_assigning hx (.inl (by omega)) ht he (.inl hroom)
  by_cases hnest : TooDeep (interpret depth' (assigning x e) x)
  · exact .inr ⟨by omega, .inl hnest⟩
  by_cases hdeep : interpret depth' (assigning x e) x = .error (Fault.of .evaluationTooDeep)
  · exact .inr ⟨by omega, .inr hdeep⟩
  have hparse : ¬ TooDeep (parseProgram depth' (assigning x e) none) := by
    rintro ⟨l, hp⟩
    rw [interpret, Session.interpret, hp] at hnest
    exact hnest ⟨l, rfl⟩
  left
  rw [← hvalue]
  exact interpret_assigning hx (.inr hparse) ht he (.inr hdeep)

open Settings in
/-- **Validated settings.** Settings are loaded from a table just if everything in it is absent or
right, also a level that does not count because there is one from outside. They have a result
variable that the lexer reads as one name, one of the five levels, and what the table says or else
the default. Otherwise there is a fault of the settings, with one exception: a value that has to be
shown, and cannot be, ends the loading without a fault. A program that assigns the value of an
expression to the result variable reports this value. -/
theorem settings_validated (platform : Platform) (disk : Disk) (path : Option Path)
    (outside : Option String) (table : List (String × Toml))
    (h : HasTable platform disk path table) :
    ((∃ s, load platform disk path outside = .ok s) ↔ Valid table outside) ∧
    (∀ s, load platform disk path outside = .ok s →
      NamesItself s.resultVariable ∧
      s.level.label ∈ ["DEBUG", "INFO", "WARNING", "ERROR", "CRITICAL"] ∧
      Follows table path outside s ∧
      ∀ depth depth' e v, evaluateSource depth e .empty = .ok v →
        interpret depth' (assigning s.resultVariable e) s.resultVariable = .ok (some v) ∨
        depth' < depth + 2 ∧
          (TooDeep (interpret depth' (assigning s.resultVariable e) s.resultVariable) ∨
            interpret depth' (assigning s.resultVariable e) s.resultVariable =
              .error (Fault.of .evaluationTooDeep))) ∧
    (∀ why, load platform disk path outside = .error why →
      (∃ c, why = failure c ∧ c.family = .settings) ∨ Unshowable platform.quoting table why) ∧
    (∀ why, Unshowable platform.quoting table why →
      load platform disk path outside = .error why ∧ (why = .numeral ∨ why = .depth)) ∧
    ∀ limit r, checkResultVariable limit (some (.text r)) = .ok r ↔ NamesItself r := by
  refine ⟨exists_load_iff h, fun s hs => ?_, fun why hw => fault_or_unshowable h hw,
    fun why hu => hu.load_eq h, fun limit r => ?_⟩
  · obtain ⟨-, hf⟩ := (load_eq_ok_iff h).mp hs
    have hname : NamesItself s.resultVariable := hf.result.namesItself
    refine ⟨hname, ?_, hf, fun depth depth' e v hv => ?_⟩
    · cases s.level <;> decide
    · exact interpret_assigning_or (isName_iff_namesItself.mpr hname) hv depth'
  · rw [checkResultVariable_eq_ok_iff]
    constructor
    · exact Takes.namesItself
    · intro hr
      exact .said ⟨rfl, hr⟩

/-- A disk whose only file names the result variable and the level. -/
def totalDisk : Disk := ⟨Path.ofText "/home", fun _ =>
  .file "[interpreter]\nresult_variable = \"total\"\n[logging]\nlevel = \"info\"".toUTF8⟩

/-- A disk whose only file has a nested table for the result variable. -/
def nestedDisk : Disk := ⟨Path.ofText "/home", fun _ =>
  .file "[interpreter.result_variable.a.b.c]".toUTF8⟩

/-- The level from outside wins, and the result variable of the file is that of a program; but a
table that is nested beyond the limit ends the loading without a fault. -/
theorem settings_validated_total :
    (∃ s, Settings.load depthLimit totalDisk (some (Path.ofText "ember.toml")) (some " debug ") =
        .ok s ∧ s.resultVariable = "total" ∧ s.level = .debug ∧ NamesItself s.resultVariable ∧
      ∃ v, evaluateSource 10 "2 * 3".toList .empty = .ok v ∧
        interpret depthLimit (assigning "total" "2 * 3".toList) "total" = .ok (some v)) ∧
    ∃ table, Settings.HasTable (.uniform 2) nestedDisk (some (Path.ofText "ember.toml")) table ∧
      Settings.Unshowable 2 table .depth := by
  constructor
  · have hload : Settings.load depthLimit totalDisk (some (Path.ofText "ember.toml"))
        (some " debug ") = .ok ⟨"total", .debug, Settings.default.format,
          some (Path.ofText "ember.toml")⟩ := by decide +kernel
    obtain ⟨table, ht, -⟩ := exists_ok_of_map (b := true) (f := fun _ => true)
      (r := Settings.readTable depthLimit totalDisk (Path.ofText "ember.toml")) (by decide +kernel)
    obtain ⟨v, hv, -⟩ := exists_ok_of_map (b := true) (f := fun _ => true)
      (r := evaluateSource 10 "2 * 3".toList .empty) (by decide +kernel)
    obtain ⟨hname, -, -, hreport⟩ := (settings_validated depthLimit totalDisk
      (some (Path.ofText "ember.toml")) (some " debug ") table ht).2.1 _ hload
    refine ⟨_, hload, rfl, rfl, hname, v, hv, ?_⟩
    exact (hreport 10 depthLimit _ v hv).resolve_right fun h => absurd h.1 (by decide)
  · have hload : Settings.load (.uniform 2) nestedDisk (some (Path.ofText "ember.toml")) none =
        .error .depth := by decide +kernel
    obtain ⟨table, ht, -⟩ := exists_ok_of_map (b := true) (f := fun _ => true)
      (r := Settings.readTable 2 nestedDisk (Path.ofText "ember.toml")) (by decide +kernel)
    refine ⟨table, ht, ?_⟩
    rcases (settings_validated (.uniform 2) nestedDisk (some (Path.ofText "ember.toml")) none table
      ht).2.2.1 _ hload with ⟨c, hc, -⟩ | hu
    · cases hc
    · exact hu

end BlockCalc
