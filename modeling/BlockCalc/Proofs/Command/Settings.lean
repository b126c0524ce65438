import BlockCalc.Command
import Mathlib.Tactic.Common

/-! # The settings of a command

A command looks for its settings file at some places, one after the other, unless the file is named.
`Settings.Search` says what comes of this: a file, none, or the end of the search where the machine
does not say what stands at a path.

Most of what can be wrong with a settings file is a fault, which has a wording. The rest has none:
the search that is refused, bytes that are not text, values that are nested too deeply or have too
many digits. `Settings.Unusable` lists these, and `accounted_loadSettings` says that there is
nothing else: a command has settings, or a fault, or unusable ones.

Of two settings files that differ in their logging section only, and of two levels from outside, the
same is taken apart from the level and the format (`AlikeHosts.map_loadSettings`), provided that
both say something valid there. -/

namespace BlockCalc

namespace Settings

/-! ### Looking for a settings file -/

section Search

variable {disk : Disk} {p start : Path} {code : Nat} {reason : String}

/-- The machine refuses to say what stands at a path, for another reason than that nothing is
there. -/
def Refuses (disk : Disk) (p : Path) (code : Nat) (reason : String) : Prop :=
  disk.look p = .absent code reason ∧ code ∉ Entry.missingCodes

/-- The machine says what stands at a path, if only that nothing does. -/
def Tells (disk : Disk) (p : Path) : Prop := ∀ code reason, ¬ Refuses disk p code reason

theorem examine_of_refuses (h : Refuses disk p code reason) :
    examine disk p = .error (.refused code reason) := by
  obtain ⟨hlook, hcode⟩ := h
  unfold examine
  rw [hlook]
  exact if_neg hcode

theorem examine_of_tells (h : Tells disk p) : examine disk p = .ok (disk.look p) := by
  unfold examine
  split
  · next code reason hlook =>
    have hcode : code ∈ Entry.missingCodes := by
      by_contra hcode
      exact h code reason ⟨hlook, hcode⟩
    rw [if_pos hcode, hlook]
  · rfl

theorem tells_or_refuses (disk : Disk) (p : Path) :
    Tells disk p ∨ ∃ code reason, Refuses disk p code reason := by
  by_cases h : ∃ code reason, Refuses disk p code reason
  · exact .inr h
  · exact .inl fun code reason hr => h ⟨code, reason, hr⟩

/-- Where the settings file of a place stands: in a folder, or beside what is none. -/
def candidate (disk : Disk) (start : Path) : Path :=
  (if (disk.look start).isFolder then start else start.parent).child settingsName

/-- What comes of looking for a settings file at some places, one after the other. -/
inductive Search (disk : Disk) : List Path → Except Failure (Option Path) → Prop
  /-- There is none at any place. -/
  | nowhere : Search disk [] (.ok none)
  /-- The machine does not say whether the place is a folder. -/
  | barred {start rest code reason} : Refuses disk start code reason →
      Search disk (start :: rest) (.error (.refused code reason))
  /-- The machine does not say whether there is a settings file. -/
  | hidden {start rest code reason} : Tells disk start →
      Refuses disk (candidate disk start) code reason →
      Search disk (start :: rest) (.error (.refused code reason))
  /-- There is one at the first place. -/
  | found {start rest} : Tells disk start → (disk.look (candidate disk start)).isFile = true →
      Search disk (start :: rest) (.ok (some (candidate disk start)))
  /-- There is none at the first place. -/
  | onward {start rest r} : Tells disk start → Tells disk (candidate disk start) →
      (disk.look (candidate disk start)).isFile = false → Search disk rest r →
      Search disk (start :: rest) r

theorem tells_of_isFile (h : (disk.look p).isFile = true) : Tells disk p := by
  rintro code reason ⟨hlook, -⟩
  rw [hlook] at h
  cases h

theorem find?_of_barred (h : Refuses disk start code reason) :
    find? disk start = .error (.refused code reason) := by
  rw [find?, examine_of_refuses h]
  rfl

theorem find?_of_hidden (h : Tells disk start)
    (hc : Refuses disk (candidate disk start) code reason) :
    find? disk start = .error (.refused code reason) := by
  have he := examine_of_refuses hc
  unfold candidate at he
  simp only [find?, examine_of_tells h, bind, Except.bind, he]

theorem find?_of_tells (h : Tells disk start) (hc : Tells disk (candidate disk start)) :
    find? disk start = .ok (if (disk.look (candidate disk start)).isFile
      then some (candidate disk start) else none) := by
  have he := examine_of_tells hc
  unfold candidate at he ⊢
  simp only [find?, examine_of_tells h, bind, Except.bind, he]
  rfl

/-- Looking at one place after the other. -/
def searchAll (disk : Disk) : List Path → Except Failure (Option Path)
  | [] => .ok none
  | start :: rest =>
    match find? disk start with
    | .ok none => searchAll disk rest
    | found => found

theorem search_searchAll (disk : Disk) : ∀ places, Search disk places (searchAll disk places)
  | [] => .nowhere
  | start :: rest => by
    rw [searchAll]
    rcases tells_or_refuses disk start with hs | ⟨code, reason, hs⟩
    · rcases tells_or_refuses disk (candidate disk start) with hc | ⟨code, reason, hc⟩
      · rw [find?_of_tells hs hc]
        rcases hf : (disk.look (candidate disk start)).isFile with _ | _
        · exact .onward hs hc hf (search_searchAll disk rest)
        · exact .found hs hf
      · rw [find?_of_hidden hs hc]
        exact .hidden hs hc
    · rw [find?_of_barred hs]
      exact .barred hs

/-- There is one outcome of a search. -/
theorem Search.eq_searchAll {places : List Path} {r : Except Failure (Option Path)}
    (h : Search disk places r) : searchAll disk places = r := by
  induction h with
  | nowhere => rfl
  | barred hs => rw [searchAll, find?_of_barred hs]
  | hidden hs hc => rw [searchAll, find?_of_hidden hs hc]
  | found hs hf => rw [searchAll, find?_of_tells hs (tells_of_isFile hf), hf, if_pos rfl]
  | onward hs hc hf _ ih =>
    rw [searchAll, find?_of_tells hs hc, hf, if_neg Bool.false_ne_true]
    exact ih

/-- The search of a command: beside the program if there is one, then in the working folder. -/
theorem settingsPath_eq_searchAll (host : Host) (file : Option Path) :
    Command.settingsPath host none file = searchAll host.disk (file.toList ++ [host.disk.cwd]) := by
  rcases file with _ | f <;> simp only [Command.settingsPath, searchAll, Option.toList,
    List.nil_append, List.cons_append]
  · rcases find? host.disk host.disk.cwd with _ | _ | p <;> rfl
  · rcases find? host.disk f with _ | _ | p
    · rfl
    · rcases find? host.disk host.disk.cwd with _ | _ | p <;> rfl
    · rfl

end Search

end Settings

/-! ### Failures without a wording -/

/-- Bytes that are not text, or a path that is none. -/
inductive Entry.Illegible : Entry → Failure → Prop
  | bytes {content} : String.fromUTF8? content = none → Illegible (.file content) .undecodable
  | name : Illegible .unnameable .unnameable

theorem Entry.Illegible.read {e : Entry} {why : Failure} (h : e.Illegible why) :
    (why = .undecodable ∧ e.read = .error .undecodable) ∨
      (why = .unnameable ∧ e.read = .error .unnameable) := by
  cases h with
  | bytes h => exact .inl ⟨rfl, by rw [Entry.read, decodeText, h]; rfl⟩
  | name => exact .inr ⟨rfl, rfl⟩

theorem Entry.illegible_of_undecodable {e : Entry} (h : e.read = .error .undecodable) :
    e.Illegible .undecodable := by
  rcases e with content | _ | _ | _ | _
  · rcases hd : String.fromUTF8? content with _ | text
    · exact .bytes hd
    · rw [Entry.read, decodeText, hd] at h
      cases h
  all_goals cases h

theorem Entry.illegible_of_unnameable {e : Entry} (h : e.read = .error .unnameable) :
    e.Illegible .unnameable := by
  rcases e with content | _ | _ | _ | _
  · rw [Entry.read] at h
    split at h <;> cases h
  · cases h
  · cases h
  · cases h
  · exact .name

/-- A result, a fault, or a failure of a given sort. -/
inductive Accounted {α : Type} (B : Failure → Prop) : Except Failure α → Prop
  | ok (a) : Accounted B (.ok a)
  | fault (f) : Accounted B (.error (.fault f))
  | silent {why} : B why → Accounted B (.error why)

theorem Accounted.mono {α : Type} {B C : Failure → Prop} {r : Except Failure α}
    (h : Accounted B r) (hBC : ∀ why, B why → C why) : Accounted C r := by
  cases h with
  | ok a => exact .ok a
  | fault f => exact .fault f
  | silent h => exact .silent (hBC _ h)

theorem Accounted.bind {α β : Type} {B : Failure → Prop} {x : Except Failure α}
    {f : α → Except Failure β} (hx : Accounted B x) (hf : ∀ a, x = .ok a → Accounted B (f a)) :
    Accounted B (x >>= f) := by
  cases hx with
  | ok a => exact hf a rfl
  | fault g => exact .fault g
  | silent h => exact .silent h

namespace Settings

variable {limit : Nat} {platform : Platform}

/-- A value of a table that has to be shown to be checked, and that cannot be shown. -/
inductive Unshowable (limit : Nat) (table : List (String × Toml)) : Failure → Prop
  | result {interpreter logging v stop} :
      (section? table "interpreter" = .ok interpreter) → (section? table "logging" = .ok logging) →
      Toml.find? "result_variable" interpreter = some v → v.obstacle? limit = some stop →
      Unshowable limit table (stopped stop)
  | level {interpreter logging x v stop} :
      (section? table "interpreter" = .ok interpreter) → (section? table "logging" = .ok logging) →
      checkResultVariable limit (Toml.find? "result_variable" interpreter) = .ok x →
      Toml.find? "level" logging = some v → v.obstacle? limit = some stop →
      Unshowable limit table (stopped stop)

theorem accounted_section? {B : Failure → Prop} (table : List (String × Toml)) (name : String) :
    Accounted B (section? table name) := by
  unfold section?
  split
  · exact .ok _
  · exact .ok _
  · exact .fault _

theorem accounted_checkResultVariable {B : Failure → Prop} (v : Option Toml)
    (h : ∀ w stop, v = some w → w.obstacle? limit = some stop → B (stopped stop)) :
    Accounted B (checkResultVariable limit v) := by
  unfold checkResultVariable
  split
  · exact .ok _
  · split
    · exact .ok _
    · exact .fault _
  · next w _ =>
    rw [shown]
    rcases ho : w.obstacle? limit with _ | stop
    · exact .fault _
    · exact .silent (h w stop rfl ho)

theorem accounted_levelOf {B : Failure → Prop} (v : Option Toml)
    (h : ∀ w stop, v = some w → w.obstacle? limit = some stop → B (stopped stop)) :
    Accounted B (levelOf limit v) := by
  unfold levelOf
  split
  · exact .ok _
  · next w =>
    rw [shown]
    rcases ho : w.obstacle? limit with _ | stop
    · dsimp only [checkLevel]
      split
      · exact .ok _
      · exact .fault _
    · exact .silent (h w stop rfl ho)

theorem accounted_checkFormat {B : Failure → Prop} (v : Option Toml) :
    Accounted B (checkFormat v) := by
  unfold checkFormat
  split
  · exact .ok _
  · split
    · exact .ok _
    · exact .fault _
  · exact .fault _

/-- A table makes settings, or it is faulted, or one of its values cannot be shown. -/
theorem accounted_ofTable (limit : Nat) (table : List (String × Toml)) :
    Accounted (Unshowable limit table) (ofTable limit table) := by
  refine (accounted_section? table _).bind fun interpreter hi => ?_
  refine (accounted_section? table _).bind fun logging hl => ?_
  refine (accounted_checkResultVariable _ fun v stop hv ho => .result hi hl hv ho).bind
    fun x hx => ?_
  refine (accounted_levelOf _ fun v stop hv ho => .level hi hl hx hv ho).bind fun level _ => ?_
  exact (accounted_checkFormat _).bind fun format _ => .ok _

theorem shown_of_obstacle {text : Toml → String} {v : Toml} {stop : TomlStop}
    (h : v.obstacle? limit = some stop) : shown limit text v = .error (stopped stop) := by
  rw [shown, h]

theorem checkResultVariable_of_obstacle {v : Toml} {stop : TomlStop}
    (h : v.obstacle? limit = some stop) :
    checkResultVariable limit (some v) = .error (stopped stop) := by
  unfold checkResultVariable
  split
  · next hv => cases hv
  · next hv =>
    cases hv
    cases h
  · next hv =>
    cases hv
    rw [shown_of_obstacle h]

theorem Unshowable.ofTable_eq {table : List (String × Toml)} {why : Failure}
    (h : Unshowable limit table why) : ofTable limit table = .error why := by
  cases h with
  | result hi hl hv ho =>
    simp only [ofTable, hi, hl, hv, checkResultVariable_of_obstacle ho, bind, Except.bind]
  | level hi hl hx hv ho =>
    simp only [ofTable, hi, hl, hx, hv, levelOf, shown_of_obstacle ho, bind, Except.bind]

theorem accounted_withLevel {B : Failure → Prop} (outside : Option String) (s : Settings) :
    Accounted B (withLevel outside s) := by
  unfold withLevel checkLevel
  dsimp only
  split
  · exact .ok _
  · split
    · exact .ok _
    · next h =>
      split at h
      · cases h
      · cases h
        exact .fault _

/-- The settings file that a command uses: the one that is named, or the one that is found. -/
def Uses (host : Host) (config file : Option Path) (p : Path) : Prop :=
  config = some p ∨
    config = none ∧ Search host.disk (file.toList ++ [host.disk.cwd]) (.ok (some p))

/-- What keeps a command from having settings, or a fault in their place: the search for them is
refused, or they are in a file that is no text, in a text whose values are nested too deeply or have
too many digits to be read, or have such values where they are checked. -/
inductive Unusable (platform : Platform) (host : Host) (config file : Option Path) :
    Failure → Prop
  | refused {why} : config = none →
      Search host.disk (file.toList ++ [host.disk.cwd]) (.error why) →
      Unusable platform host config file why
  | illegible {p why} : Uses host config file p → (host.disk.look p).Illegible why →
      Unusable platform host config file why
  | unfinished {p text stop} : Uses host config file p → (host.disk.look p).read = .ok text →
      Toml.read platform.reading text = .error stop →
      (∀ problem left, stop ≠ .malformed problem left) →
      Unusable platform host config file (stopped stop)
  | unshowable {p text table why} : Uses host config file p → (host.disk.look p).read = .ok text →
      Toml.read platform.reading text = .ok table → Unshowable platform.quoting table why →
      Unusable platform host config file why

theorem uses_iff {host : Host} {config file : Option Path} {p : Path} :
    Uses host config file p ↔ Command.settingsPath host config file = .ok (some p) := by
  rcases config with _ | c
  · rw [settingsPath_eq_searchAll]
    constructor
    · rintro (h | ⟨-, h⟩)
      · cases h
      · exact h.eq_searchAll
    · intro h
      exact .inr ⟨rfl, h ▸ search_searchAll _ _⟩
  · simp [Uses, Command.settingsPath]

theorem accounted_readTable {B : Failure → Prop} (disk : Disk) (p : Path)
    (hi : ∀ why, (disk.look p).Illegible why → B why)
    (hs : ∀ text stop, (disk.look p).read = .ok text → Toml.read limit text = .error stop →
      (∀ problem left, stop ≠ .malformed problem left) → B (stopped stop)) :
    Accounted B (readTable limit disk p) := by
  unfold readTable
  split
  · next h => exact .silent (hi _ (Entry.illegible_of_undecodable h))
  · next h => exact .silent (hi _ (Entry.illegible_of_unnameable h))
  · exact .fault _
  · next text h =>
    split
    · exact .ok _
    · exact .fault _
    · next stop hne hstop => exact .silent (hs text stop h hstop hne)

theorem exists_text_of_readTable {disk : Disk} {p : Path} {table : List (String × Toml)}
    (h : readTable limit disk p = .ok table) :
    ∃ text, (disk.look p).read = .ok text ∧ Toml.read limit text = .ok table := by
  unfold readTable at h
  split at h
  · cases h
  · cases h
  · cases h
  · next text hread =>
    split at h
    · next htable =>
      cases h
      exact ⟨text, hread, htable⟩
    · cases h
    · cases h

theorem readTable_of_text {disk : Disk} {p : Path} {text : List Char}
    (h : (disk.look p).read = .ok text) : readTable limit disk p = match Toml.read limit text with
      | .ok table => .ok table
      | .error (.malformed problem left) =>
        .error (failure (.malformedSettings p.text (Toml.complaint text problem left)))
      | .error stop => .error (stopped stop) := by
  unfold readTable
  generalize (disk.look p).read = r at h
  subst h
  rfl

theorem loadSettings_eq_bind (platform : Platform) (host : Host) (config file : Option Path) :
    Command.loadSettings platform host config file =
      Command.settingsPath host config file >>= fun path =>
        load platform host.disk path host.outsideLevel := by
  unfold Command.loadSettings
  rcases Command.settingsPath host config file with why | path <;> rfl

theorem load_none (platform : Platform) (disk : Disk) (outside : Option String) :
    load platform disk none outside = withLevel outside default := by
  rw [load]

theorem load_eq_bind (platform : Platform) (disk : Disk) (p : Path) (outside : Option String) :
    load platform disk (some p) outside = readTable platform.reading disk p >>= fun table =>
      ofTable platform.quoting table >>= fun s => withLevel outside { s with path := some p } := by
  unfold load
  dsimp only
  rcases readTable platform.reading disk p with why | table
  · rfl
  · dsimp only [bind, Except.bind]
    rcases ofTable platform.quoting table with why | s <;> rfl

/-- **A command has settings, or a fault, or unusable ones.** -/
theorem accounted_loadSettings (platform : Platform) (host : Host) (config file : Option Path) :
    Accounted (Unusable platform host config file)
      (Command.loadSettings platform host config file) := by
  have hpath : Accounted (Unusable platform host config file)
      (Command.settingsPath host config file) := by
    rcases config with _ | p
    · rw [settingsPath_eq_searchAll]
      have hsearch := search_searchAll host.disk (file.toList ++ [host.disk.cwd])
      rcases hr : searchAll host.disk (file.toList ++ [host.disk.cwd]) with why | path
      · rw [hr] at hsearch
        exact .silent (.refused rfl hsearch)
      · exact .ok path
    · exact .ok (some p)
  rw [loadSettings_eq_bind]
  refine hpath.bind fun path hp => ?_
  rcases path with _ | p
  · rw [load_none]
    exact accounted_withLevel _ _
  · have huses := uses_iff.mpr hp
    rw [load_eq_bind]
    refine (accounted_readTable _ _ (fun why h => .illegible huses h)
      fun text stop h hstop hne => .unfinished huses h hstop hne).bind fun table ht => ?_
    obtain ⟨text, htext, htable⟩ := exists_text_of_readTable ht
    have hofTable := (accounted_ofTable platform.quoting table).mono fun why h =>
      Unusable.unshowable huses htext htable h
    exact hofTable.bind fun s _ => accounted_withLevel _ _

theorem Unusable.loadSettings_eq {host : Host} {config file : Option Path} {why : Failure}
    (h : Unusable platform host config file why) :
    Command.loadSettings platform host config file = .error why := by
  rw [loadSettings_eq_bind]
  cases h with
  | refused hc hs =>
    subst hc
    rw [settingsPath_eq_searchAll, hs.eq_searchAll]
    rfl
  | illegible hp hi =>
    rw [uses_iff.mp hp]
    rcases hi.read with ⟨rfl, hr⟩ | ⟨rfl, hr⟩ <;>
      simp only [load, readTable, hr, bind, Except.bind]
  | unfinished hp hr ht hne =>
    rw [uses_iff.mp hp]
    simp only [load, readTable_of_text hr, ht, bind, Except.bind]
  | unshowable hp hr ht hu =>
    rw [uses_iff.mp hp]
    simp only [load, readTable_of_text hr, ht, hu.ofTable_eq, bind, Except.bind]

theorem Search.ne_fault {disk : Disk} {places : List Path} {r : Except Failure (Option Path)}
    (h : Search disk places r) (f : Fault) : r ≠ .error (.fault f) := by
  induction h with
  | onward _ _ _ _ ih => exact ih
  | _ => nofun

theorem stopped_ne_fault (stop : TomlStop) (f : Fault) : stopped stop ≠ .fault f := by
  cases stop <;> nofun

theorem Unusable.ne_fault {host : Host} {config file : Option Path} {why : Failure}
    (h : Unusable platform host config file why) (f : Fault) : why ≠ .fault f := by
  cases h with
  | refused _ hs =>
    rintro rfl
    exact hs.ne_fault f rfl
  | illegible _ hi => rcases hi.read with ⟨rfl, -⟩ | ⟨rfl, -⟩ <;> nofun
  | unfinished _ _ _ _ => exact stopped_ne_fault _ f
  | unshowable _ _ _ hu => cases hu <;> exact stopped_ne_fault _ f

/-! ### Settings that differ in their logging section -/

/-- Whether the logging section of a table is in order. -/
def logsWell (limit : Nat) (table : List (String × Toml)) : Bool :=
  match section? table "logging" with
  | .ok logging => (levelOf limit (Toml.find? "level" logging)).isOk &&
    (checkFormat (Toml.find? "format" logging)).isOk
  | .error _ => false

/-- The same entry, or two settings files that say the same of the interpreter and both something
valid of logging. -/
inductive AlikeEntry (platform : Platform) : Entry → Entry → Prop
  | same (e) : AlikeEntry platform e e
  | logging {bytes bytes' text text' table table'} : decodeText bytes = some text →
      decodeText bytes' = some text' → Toml.read platform.reading text = .ok table →
      Toml.read platform.reading text' = .ok table' →
      Toml.find? "interpreter" table = Toml.find? "interpreter" table' →
      logsWell platform.quoting table = true → logsWell platform.quoting table' = true →
      AlikeEntry platform (.file bytes) (.file bytes')

/-- A level from outside that is blank or one of the five. -/
def UsableLevel (outside : Option String) : Prop :=
  (trimBlanks (outside.getD "")).toList.isEmpty = true ∨
    (Level.ofName? (trimBlanks (outside.getD ""))).isSome = true

/-- Machines that differ in the logging sections of files, in a usable level from outside, and in
the time. -/
structure AlikeHosts (platform : Platform) (host host' : Host) : Prop where
  cwd : host.disk.cwd = host'.disk.cwd
  entry : ∀ p, AlikeEntry platform (host.disk.look p) (host'.disk.look p)
  level : host.outsideLevel = host'.outsideLevel ∨
    UsableLevel host.outsideLevel ∧ UsableLevel host'.outsideLevel

section Alike

variable {host host' : Host}

theorem AlikeEntry.isFolder {e e' : Entry} (h : AlikeEntry platform e e') :
    e.isFolder = e'.isFolder := by
  cases h <;> rfl

theorem AlikeEntry.isFile {e e' : Entry} (h : AlikeEntry platform e e') : e.isFile = e'.isFile := by
  cases h <;> rfl

theorem AlikeHosts.refuses_iff (h : AlikeHosts platform host host') (p : Path) (code : Nat)
    (reason : String) : Refuses host.disk p code reason ↔ Refuses host'.disk p code reason := by
  have hp := h.entry p
  unfold Refuses
  generalize host.disk.look p = e, host'.disk.look p = e' at hp
  cases hp with
  | same => rfl
  | logging _ _ _ _ _ _ _ =>
    constructor
    all_goals
      rintro ⟨hlook, -⟩
      cases hlook

theorem AlikeHosts.candidate_eq (h : AlikeHosts platform host host') (start : Path) :
    candidate host.disk start = candidate host'.disk start := by
  rw [candidate, candidate, (h.entry start).isFolder]

theorem AlikeHosts.search (h : AlikeHosts platform host host') {places : List Path}
    {r : Except Failure (Option Path)} (hr : Search host.disk places r) :
    Search host'.disk places r := by
  have htells : ∀ {p}, Tells host.disk p → Tells host'.disk p :=
    fun hp code reason hr => hp code reason ((h.refuses_iff _ code reason).mpr hr)
  induction hr with
  | nowhere => exact .nowhere
  | barred hs => exact .barred ((h.refuses_iff _ _ _).mp hs)
  | hidden hs hc =>
    rw [h.candidate_eq] at hc
    exact .hidden (htells hs) ((h.refuses_iff _ _ _).mp hc)
  | found hs hf =>
    rw [h.candidate_eq] at hf ⊢
    rw [(h.entry _).isFile] at hf
    exact .found (htells hs) hf
  | onward hs hc hf _ ih =>
    rw [h.candidate_eq] at hc hf
    rw [(h.entry _).isFile] at hf
    exact .onward (htells hs) (htells hc) hf ih

theorem AlikeHosts.settingsPath_eq (h : AlikeHosts platform host host')
    (config file : Option Path) :
    Command.settingsPath host config file = Command.settingsPath host' config file := by
  rcases config with _ | p
  · have hsearch := h.search (search_searchAll host.disk (file.toList ++ [host.disk.cwd]))
    rw [settingsPath_eq_searchAll, settingsPath_eq_searchAll, ← h.cwd, hsearch.eq_searchAll]
  · rfl

theorem exists_ok_of_isOk {α : Type} {r : Except Failure α} (h : r.isOk = true) :
    ∃ a, r = .ok a := by
  rcases r with why | a
  · cases h
  · exact ⟨a, rfl⟩

/-- What a table with a logging section in order says of the result variable. -/
theorem map_ofTable {table : List (String × Toml)} (h : logsWell limit table = true) :
    (ofTable limit table).map resultVariable = section? table "interpreter" >>= fun interpreter =>
      checkResultVariable limit (Toml.find? "result_variable" interpreter) := by
  unfold logsWell at h
  unfold ofTable
  rcases hl : section? table "logging" with why | logging
  · rw [hl] at h
    cases h
  · rw [hl] at h
    dsimp only at h
    obtain ⟨hlevel, hformat⟩ := Bool.and_eq_true_iff.mp h
    obtain ⟨level, hlevel⟩ := exists_ok_of_isOk hlevel
    obtain ⟨format, hformat⟩ := exists_ok_of_isOk hformat
    rcases section? table "interpreter" with why | interpreter
    · rfl
    · dsimp only [bind, Except.bind]
      rw [hlevel, hformat]
      rcases checkResultVariable limit (Toml.find? "result_variable" interpreter) with why | x
      · rfl
      · rfl

theorem map_withLevel {outside : Option String} (h : UsableLevel outside) (s : Settings) :
    (withLevel outside s).map resultVariable = .ok s.resultVariable := by
  unfold withLevel checkLevel
  dsimp only
  rcases h with h | h
  · rw [if_pos h]
    rfl
  · split
    · rfl
    · obtain ⟨l, hl⟩ := Option.isSome_iff_exists.mp h
      rw [hl]
      rfl

theorem map_withLevel_eq {outside outside' : Option String} {s s' : Settings}
    (h : outside = outside' ∨ UsableLevel outside ∧ UsableLevel outside')
    (hs : s.resultVariable = s'.resultVariable) :
    (withLevel outside s).map resultVariable = (withLevel outside' s').map resultVariable := by
  rcases h with rfl | ⟨h, h'⟩
  · unfold withLevel checkLevel
    dsimp only
    split
    · exact congrArg Except.ok hs
    · split
      · exact congrArg Except.ok hs
      · rfl
  · rw [map_withLevel h, map_withLevel h', hs]

theorem map_bind_withLevel_eq {outside outside' : Option String} {r r' : Except Failure Settings}
    (h : outside = outside' ∨ UsableLevel outside ∧ UsableLevel outside')
    (hr : r.map resultVariable = r'.map resultVariable) (path : Option Path) :
    (r >>= fun s => withLevel outside { s with path := path }).map resultVariable =
      (r' >>= fun s => withLevel outside' { s with path := path }).map resultVariable := by
  rcases r with why | s <;> rcases r' with why' | s'
  · exact congrArg Except.error (Except.error.inj hr)
  · cases hr
  · cases hr
  · dsimp only [bind, Except.bind]
    exact map_withLevel_eq h (Except.ok.inj hr)

theorem readTable_of_decodeText {disk : Disk} {p : Path} {bytes : ByteArray} {text : List Char}
    {table : List (String × Toml)} (hp : disk.look p = .file bytes)
    (hd : decodeText bytes = some text) (ht : Toml.read limit text = .ok table) :
    readTable limit disk p = .ok table := by
  have hread : (disk.look p).read = .ok text := by rw [hp, Entry.read, hd]
  rw [readTable_of_text hread, ht]

theorem AlikeHosts.map_load (h : AlikeHosts platform host host') (path : Option Path) :
    (load platform host.disk path host.outsideLevel).map resultVariable =
      (load platform host'.disk path host'.outsideLevel).map resultVariable := by
  rcases path with _ | p
  · rw [load_none, load_none]
    exact map_withLevel_eq h.level rfl
  · rw [load_eq_bind, load_eq_bind]
    have hp := h.entry p
    generalize he : host.disk.look p = e, he' : host'.disk.look p = e' at hp
    cases hp with
    | same =>
      have htable : readTable platform.reading host.disk p =
          readTable platform.reading host'.disk p := by
        rw [readTable, readTable, he, he']
      rw [htable]
      rcases readTable platform.reading host'.disk p with why | table
      · dsimp only [bind, Except.bind]
      · exact map_bind_withLevel_eq h.level rfl (some p)
    | logging hd hd' ht ht' hi hw hw' =>
      -- Valid logging sections do not fail, so what is left of both tables is the interpreter's.
      rw [readTable_of_decodeText he hd ht, readTable_of_decodeText he' hd' ht']
      have hof : (ofTable platform.quoting _).map resultVariable =
          (ofTable platform.quoting _).map resultVariable :=
        (map_ofTable hw).trans (by rw [map_ofTable hw', section?, section?, hi])
      exact map_bind_withLevel_eq h.level hof (some p)

/-- **Logging aside, alike machines give a command the same settings**, or the same failure. -/
theorem AlikeHosts.map_loadSettings (h : AlikeHosts platform host host')
    (config file : Option Path) :
    (Command.loadSettings platform host config file).map resultVariable =
      (Command.loadSettings platform host' config file).map resultVariable := by
  rw [loadSettings_eq_bind, loadSettings_eq_bind, h.settingsPath_eq]
  rcases Command.settingsPath host' config file with why | path
  · dsimp only [bind, Except.bind]
  · exact h.map_load path

end Alike

end Settings

end BlockCalc
