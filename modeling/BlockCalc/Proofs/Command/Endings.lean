import BlockCalc.Proofs.Command.Settings
import BlockCalc.Proofs.Execution

/-! # How commands end

A command whose arguments make sense ends well with its answer (`Answers`), or with code one and a
message behind its log lines (`Complains`), or it breaks off. `Breaks` lists the reasons for this:
its settings are unusable, the program file is no text, the tree it is to show is too high, or the
title of a table cannot be rendered. All other failures have a message.

* `ends_perform`: a command ends in one of the three ways.
* `endings_exact`: it ends well exactly with its answers and breaks off exactly for these reasons;
  in all other cases it complains. -/

namespace BlockCalc

/-! ### Messages -/

theorem afterSequence?_eq_none {c : Char} (h : c ≠ escapeMark) (cs : List Char) :
    afterSequence? (c :: cs) = none := by
  unfold afterSequence?
  split
  · next e r heq =>
    cases heq
    split
    · rw [if_neg]
      simp [h]
    · rfl
  · rfl

/-- Text without the escape character holds no control sequence. -/
theorem withoutSequences_append {text : List Char} (h : escapeMark ∉ text) (rest : List Char) :
    withoutSequences (text ++ rest) = text ++ withoutSequences rest := by
  induction text with
  | nil => rfl
  | cons c text ih =>
    rw [List.mem_cons, not_or] at h
    obtain ⟨hc, ht⟩ := h
    rw [List.cons_append, withoutSequences]
    split
    · next rest' heq =>
      rw [afterSequence?_eq_none (Ne.symm hc)] at heq
      cases heq
    · rw [ih ht, List.cons_append]

namespace Command

/-! ### The three ways to end -/

/-- The command comes to open a program file: after its settings, if it has any. -/
inductive Opens (platform : Platform) (host : Host) : Command → Path → Prop
  | run {file config outline verbose settings} :
      loadSettings platform host (config.map Path.ofText) (some (Path.ofText file)) = .ok settings →
      Opens platform host (.run file config outline verbose) (Path.ofText file)
  | tokens {file} : Opens platform host (.tokens file) (Path.ofText file)
  | tree {file} : Opens platform host (.tree file) (Path.ofText file)

/-- Whether the command shows a tree. -/
def showsTree : Command → Bool
  | run _ _ outline _ => outline
  | tree _ => true
  | _ => false

/-- What a command prints if it ends well. -/
inductive Answers (platform : Platform) (host : Host) : Command → String → Prop
  | version : Answers platform host .version (versionText ++ "\n")
  | run {file config outline verbose settings source t v} :
      loadSettings platform host (config.map Path.ofText) (some (Path.ofText file)) = .ok settings →
      (host.disk.look (Path.ofText file)).read = .ok source →
      parseProgram platform.parsing source (some (Path.ofText file).text) = .ok t →
      (outline = true → t.height ≤ platform.showing) →
      (runProgram platform.running settings.resultVariable t).result = .ok v →
      Answers platform host (.run file config outline verbose)
        ((if outline then printed t else "") ++ settings.resultVariable ++ " = " ++ resultText v ++
          "\n")
  | eval {expression verbose settings t x} : loadSettings platform host none none = .ok settings →
      parseExpression platform.parsing expression.toList = .ok t →
      evaluate platform.running t .empty = .ok x →
      Answers platform host (.eval expression verbose) (x.text ++ "\n")
  | tokens {file source ts title} : (host.disk.look (Path.ofText file)).read = .ok source →
      tokenize source = .ok ts → platform.title (Path.ofText file).text.toList = .ok title →
      Answers platform host (.tokens file)
        (Table.render title tokenColumns (ts.zipIdx.map fun (t, i) => tokenRow t i))
  | tree {file source t} : (host.disk.look (Path.ofText file)).read = .ok source →
      parseProgram platform.parsing source (some (Path.ofText file).text) = .ok t →
      t.height ≤ platform.showing →
      Answers platform host (.tree file) (printed t)

/-- Why a command breaks off. -/
inductive Breaks (platform : Platform) (host : Host) : Command → Failure → Prop
  | settings {file config outline verbose why} :
      Settings.Unusable platform host (config.map Path.ofText) (some (Path.ofText file)) why →
      Breaks platform host (.run file config outline verbose) why
  | evalSettings {expression verbose why} : Settings.Unusable platform host none none why →
      Breaks platform host (.eval expression verbose) why
  | source {c p why} : Opens platform host c p → (host.disk.look p).Illegible why →
      Breaks platform host c why
  | height {c p source t} : c.showsTree = true → Opens platform host c p →
      (host.disk.look p).read = .ok source →
      parseProgram platform.parsing source (some p.text) = .ok t →
      platform.showing < t.height → Breaks platform host c .depth
  | title {file source ts why} : (host.disk.look (Path.ofText file)).read = .ok source →
      tokenize source = .ok ts → platform.title (Path.ofText file).text.toList = .error why →
      Breaks platform host (.tokens file) why

/-- The command ends with code one, and behind its log lines it has left a message that begins with
`Error: ` or `Cannot read `. -/
structure Complains (host : Host) (r : Report) : Prop where
  ending : r.ending = .code 1
  message : ∃ (remarks : List Remark) (threshold : Level) (format : String) (message : List Char),
    r.err = String.join (remarks.map (logLine host threshold format)) ++ String.ofList message ++
      "\n" ∧ ("Error: ".toList <+: message ∨ "Cannot read ".toList <+: message)

/-- How a command may end. -/
inductive Ends (platform : Platform) (host : Host) (c : Command) : Report → Prop
  | answered {out err} : Answers platform host c out → Ends platform host c ⟨out, err, .code 0⟩
  | complained {r} : Complains host r → Ends platform host c r
  | broken {out err why} : Breaks platform host c why → Ends platform host c ⟨out, err, .broken why⟩

variable {platform : Platform} {host : Host} {c : Command}

theorem complains_complain (threshold : Level) (format out : String)
    (remarks : List Remark) {start : List Char} (hs : escapeMark ∉ start)
    (hstart : start = "Error: ".toList ∨ start = "Cannot read ".toList) {message : String}
    (hm : start <+: message.toList) :
    Complains host (complain out (String.join (remarks.map (logLine host threshold format)))
      message) := by
  obtain ⟨rest, hrest⟩ := hm
  refine ⟨rfl, remarks, threshold, format, withoutSequences message.toList, rfl, ?_⟩
  rw [← hrest, withoutSequences_append hs]
  rcases hstart with rfl | rfl
  · exact .inl (List.prefix_append _ _)
  · exact .inr (List.prefix_append _ _)

theorem complains_faulty (threshold : Level) (format out : String) (remarks : List Remark)
    (f : Fault) : Complains host
      (faulty out (String.join (remarks.map (logLine host threshold format))) f) :=
  complains_complain threshold format out remarks (by decide) (.inl rfl) (by
    rw [String.toList_append]
    exact List.prefix_append _ _)

theorem complains_faulty_first (f : Fault) : Complains host (faulty "" "" f) :=
  complains_faulty .debug "" "" [] f

theorem ends_faulty_first (f : Fault) : Ends platform host c (faulty "" "" f) :=
  .complained (complains_faulty_first f)

/-! ### Ending in one of the three ways -/

theorem failed_of_ne_fault {why : Failure} (h : ∀ f, why ≠ .fault f) (out err : String) :
    failed out err why = ⟨out, err, .broken why⟩ := by
  unfold failed
  split
  · exact absurd rfl (h _)
  · rfl

theorem ends_failed {B : Failure → Prop} {why : Failure} {α : Type}
    (h : Accounted B (.error why : Except Failure α)) (hB : B why → Breaks platform host c why)
    (hne : B why → ∀ f, why ≠ .fault f) : Ends platform host c (failed "" "" why) := by
  cases h with
  | fault f => exact ends_faulty_first f
  | silent h =>
    rw [failed_of_ne_fault (hne h)]
    exact .broken (hB h)

/-- A command that does not get the text of its program says why, or breaks off. -/
theorem ends_readSource {p : Path} {r : Report} (hc : Opens platform host c p)
    (h : readSource host p = .error r) : Ends platform host c r := by
  unfold readSource at h
  split at h
  · cases h
  · next reason _ =>
    cases h
    have hm : "Cannot read ".toList <+: ("Cannot read " ++ p.text ++ ": " ++ reason).toList := by
      simp only [String.toList_append, List.append_assoc]
      exact List.prefix_append _ _
    exact .complained (complains_complain .debug "" "" [] (by decide) (.inr rfl) hm)
  · next hread =>
    cases h
    exact .broken (.source hc (Entry.illegible_of_undecodable hread))
  · next hread =>
    cases h
    exact .broken (.source hc (Entry.illegible_of_unnameable hread))

theorem readSource_eq_ok_iff {p : Path} {source : List Char} :
    readSource host p = .ok source ↔ (host.disk.look p).read = .ok source := by
  unfold readSource
  split <;> simp_all

theorem within_of_le {α : Type} {limit : Nat} {walk : Tree → α} {t : Tree} (h : t.height ≤ limit) :
    Tree.within limit walk t = .ok (walk t) :=
  if_pos h

theorem within_of_lt {α : Type} {limit : Nat} {walk : Tree → α} {t : Tree} (h : limit < t.height) :
    Tree.within limit walk t = .error .depth :=
  if_neg (Nat.not_le.mpr h)

section Files

variable {file : String} {source : List Char} {t : Tree} {ts : List Token} {f : Fault}
  {title : List Char} {why : Failure}

theorem perform_tree_of_fault (hread : (host.disk.look (Path.ofText file)).read = .ok source)
    (hp : parseProgram platform.parsing source (some (Path.ofText file).text) = .error f) :
    (Command.tree file).perform platform host = faulty "" "" f := by
  simp only [perform, performTree, readSource_eq_ok_iff.mpr hread, hp]

theorem perform_tree_of_le (hread : (host.disk.look (Path.ofText file)).read = .ok source)
    (hp : parseProgram platform.parsing source (some (Path.ofText file).text) = .ok t)
    (hle : t.height ≤ platform.showing) :
    (Command.tree file).perform platform host = done (printed t) "" := by
  simp only [perform, performTree, readSource_eq_ok_iff.mpr hread, hp, within_of_le hle]

theorem perform_tree_of_lt (hread : (host.disk.look (Path.ofText file)).read = .ok source)
    (hp : parseProgram platform.parsing source (some (Path.ofText file).text) = .ok t)
    (hlt : platform.showing < t.height) :
    (Command.tree file).perform platform host = ⟨"", "", .broken .depth⟩ := by
  simp only [perform, performTree, readSource_eq_ok_iff.mpr hread, hp, within_of_lt hlt, failed]

theorem perform_tokens_of_title (hread : (host.disk.look (Path.ofText file)).read = .ok source)
    (ht : tokenize source = .ok ts)
    (hm : platform.title (Path.ofText file).text.toList = .ok title) :
    (Command.tokens file).perform platform host =
      done (Table.render title tokenColumns (ts.zipIdx.map fun (t, i) => tokenRow t i)) "" := by
  simp only [perform, performTokens, readSource_eq_ok_iff.mpr hread, ht, hm]

theorem perform_tokens_of_untitled
    (hread : (host.disk.look (Path.ofText file)).read = .ok source) (ht : tokenize source = .ok ts)
    (hm : platform.title (Path.ofText file).text.toList = .error why) :
    (Command.tokens file).perform platform host = ⟨"", "", .broken why⟩ := by
  simp only [perform, performTokens, readSource_eq_ok_iff.mpr hread, ht, hm]

end Files

/-- A program file that can be read, under settings that can be loaded. -/
theorem perform_run_of_read {file : String} {config : Option String} {settings : Settings}
    {source : List Char} (outline verbose : Bool)
    (hs : loadSettings platform host (config.map Path.ofText) (some (Path.ofText file)) =
      .ok settings)
    (hread : (host.disk.look (Path.ofText file)).read = .ok source) :
    (Command.run file config outline verbose).perform platform host =
      runSource platform settings
        (logLine host (if verbose then .debug else settings.level) settings.format)
        (Path.ofText file) outline source := by
  rw [perform, performRun, hs]
  dsimp only
  rw [readSource_eq_ok_iff.mpr hread]

/-- The remarks of a program that was parsed, up to where it is run. -/
def parsedRemarks (file : Path) (source : List Char) (t : Tree) : List Remark :=
  readingRemarks file source ++ [parsedRemark t]

theorem runSource_of_parse {settings : Settings} {file : Path} {source : List Char} {t : Tree}
    {outline : Bool} (log : Remark → String)
    (hp : parseProgram platform.parsing source (some file.text) = .ok t)
    (hle : outline = true → t.height ≤ platform.showing) :
    runSource platform settings log file outline source =
      runTree platform settings log t (if outline then printed t else "")
        (String.join ((parsedRemarks file source t).map log)) := by
  have hlog : String.join ((parsedRemarks file source t).map log) =
      String.join ((readingRemarks file source).map log) ++ log (parsedRemark t) := by
    rw [parsedRemarks, List.map_append, String.join_append, List.map_singleton, String.join_cons,
      String.join_nil, String.append_empty]
  rw [runSource, hp, hlog]
  cases outline with
  | false => rfl
  | true =>
    dsimp only
    rw [if_pos rfl, if_pos rfl, within_of_le (hle rfl)]

theorem runSource_of_lt {s : Settings} {file : Path} {source : List Char} {t : Tree}
    (log : Remark → String) (hp : parseProgram platform.parsing source (some file.text) = .ok t)
    (hlt : platform.showing < t.height) :
    ∃ err, runSource platform s log file true source = ⟨"", err, .broken .depth⟩ := by
  rw [runSource, hp]
  dsimp only
  rw [if_pos rfl, within_of_lt hlt]
  exact ⟨_, rfl⟩

theorem runTree_of_ok {settings : Settings} {t : Tree} {v : Option Binary64}
    (log : Remark → String) (out err : String)
    (hv : (runProgram platform.running settings.resultVariable t).result = .ok v) :
    runTree platform settings log t out err =
      done (out ++ settings.resultVariable ++ " = " ++ resultText v ++ "\n")
        (err ++ String.join ((runRemarks settings.resultVariable
          (runProgram platform.running settings.resultVariable t)).map log)) := by
  rw [runTree, hv]

theorem runTree_of_error {settings : Settings} {t : Tree} {cause : Cause}
    (log : Remark → String) (out err : String)
    (hv : (runProgram platform.running settings.resultVariable t).result = .error cause) :
    runTree platform settings log t out err =
      faulty out (err ++ String.join ((runRemarks settings.resultVariable
        (runProgram platform.running settings.resultVariable t)).map log)) (Fault.of cause) := by
  rw [runTree, hv]

theorem ends_runTree {settings : Settings} {threshold : Level} {format : String} {t : Tree}
    (out : String) (remarks : List Remark)
    (h : ∀ v, (runProgram platform.running settings.resultVariable t).result = .ok v →
      Answers platform host c (out ++ settings.resultVariable ++ " = " ++ resultText v ++ "\n")) :
    Ends platform host c (runTree platform settings (logLine host threshold format) t out
      (String.join (remarks.map (logLine host threshold format)))) := by
  rcases hr : (runProgram platform.running settings.resultVariable t).result with cause | v
  · rw [runTree_of_error _ _ _ hr, ← String.join_append, ← List.map_append]
    exact .complained (complains_faulty threshold format out _ (Fault.of cause))
  · rw [runTree_of_ok _ _ _ hr]
    exact .answered (h v hr)

theorem ends_runSource {file : String} {config : Option String} {outline verbose : Bool}
    {settings : Settings} {source : List Char} (threshold : Level) (format : String)
    (hs : loadSettings platform host (config.map Path.ofText) (some (Path.ofText file)) =
      .ok settings)
    (hread : (host.disk.look (Path.ofText file)).read = .ok source) :
    Ends platform host (.run file config outline verbose)
      (runSource platform settings (logLine host threshold format) (Path.ofText file) outline
        source) := by
  rcases hp : parseProgram platform.parsing source (some (Path.ofText file).text) with f | t
  · rw [runSource, hp]
    exact .complained (complains_faulty threshold format "" _ f)
  -- Once there is a tree, only showing it can break the command off.
  · by_cases hle : outline = true → t.height ≤ platform.showing
    · rw [runSource_of_parse _ hp hle]
      exact ends_runTree _ _ fun v hv => .run hs hread hp hle hv
    · rw [Classical.not_imp, Nat.not_le] at hle
      obtain ⟨rfl, hlt⟩ := hle
      obtain ⟨err, hr⟩ := runSource_of_lt (logLine host threshold format) hp hlt
      rw [hr]
      exact .broken (.height rfl (.run hs) hread hp hlt)

theorem ends_performRun (file : String) (config : Option String) (outline verbose : Bool) :
    Ends platform host (.run file config outline verbose)
      (performRun platform host (Path.ofText file) (config.map Path.ofText) outline verbose) := by
  have hload := Settings.accounted_loadSettings platform host (config.map Path.ofText)
    (some (Path.ofText file))
  unfold performRun
  rcases hs : loadSettings platform host (config.map Path.ofText) (some (Path.ofText file))
    with why | settings
  · rw [hs] at hload
    exact ends_failed hload .settings Settings.Unusable.ne_fault
  · dsimp only
    rcases hr : readSource host (Path.ofText file) with r | source
    · exact ends_readSource (.run hs) hr
    · exact ends_runSource _ settings.format hs (readSource_eq_ok_iff.mp hr)

theorem ends_performEval (expression : String) (verbose : Bool) :
    Ends platform host (.eval expression verbose) (performEval platform host expression) := by
  have hload := Settings.accounted_loadSettings platform host none none
  unfold performEval
  rcases hs : loadSettings platform host none none with why | settings
  · rw [hs] at hload
    exact ends_failed hload .evalSettings Settings.Unusable.ne_fault
  · dsimp only
    rcases hp : parseExpression platform.parsing expression.toList with f | t
    · exact ends_faulty_first f
    · dsimp only
      rcases hx : evaluate platform.running t .empty with cause | x
      · exact ends_faulty_first (Fault.of cause)
      · exact .answered (.eval hs hp hx)

theorem ends_performTokens (file : String) :
    Ends platform host (.tokens file) ((Command.tokens file).perform platform host) := by
  rcases hr : readSource host (Path.ofText file) with r | source
  · rw [perform, performTokens, hr]
    exact ends_readSource .tokens hr
  · have hread := readSource_eq_ok_iff.mp hr
    rcases ht : tokenize source with e | ts
    · rw [perform, performTokens, hr]
      dsimp only
      rw [ht]
      exact ends_faulty_first _
    · rcases hm : platform.title (Path.ofText file).text.toList with why | title
      · rw [perform_tokens_of_untitled hread ht hm]
        exact .broken (.title hread ht hm)
      · rw [perform_tokens_of_title hread ht hm]
        exact .answered (.tokens hread ht hm)

theorem ends_performTree (file : String) :
    Ends platform host (.tree file) ((Command.tree file).perform platform host) := by
  rcases hr : readSource host (Path.ofText file) with r | source
  · rw [perform, performTree, hr]
    exact ends_readSource .tree hr
  · have hread := readSource_eq_ok_iff.mp hr
    rcases hp : parseProgram platform.parsing source (some (Path.ofText file).text) with f | t
    · rw [perform_tree_of_fault hread hp]
      exact ends_faulty_first f
    · rcases Nat.lt_or_ge platform.showing t.height with hlt | hle
      · rw [perform_tree_of_lt hread hp hlt]
        exact .broken (.height rfl .tree hread hp hlt)
      · rw [perform_tree_of_le hread hp hle]
        exact .answered (.tree hread hp hle)

/-- **Every command answers, complains or breaks off.** -/
theorem ends_perform (platform : Platform) (host : Host) : ∀ c : Command,
    Ends platform host c (c.perform platform host)
  | version => .answered .version
  | run file config outline verbose => ends_performRun file config outline verbose
  | eval expression verbose => ends_performEval expression verbose
  | tokens file => ends_performTokens file
  | tree file => ends_performTree file

/-! ### Answers are given, and what breaks a command does -/

theorem Answers.perform {out : String} (h : Answers platform host c out) :
    (c.perform platform host).ending = .code 0 ∧ (c.perform platform host).out = out := by
  cases h with
  | version => exact ⟨rfl, rfl⟩
  | run hs hread hp hle hv =>
    rw [perform_run_of_read _ _ hs hread, runSource_of_parse _ hp hle, runTree_of_ok _ _ _ hv]
    exact ⟨rfl, rfl⟩
  | eval hs hp hx =>
    rw [Command.perform, performEval, hs]
    dsimp only
    rw [hp]
    dsimp only
    rw [hx]
    exact ⟨rfl, rfl⟩
  | tokens hread ht hm =>
    rw [perform_tokens_of_title hread ht hm]
    exact ⟨rfl, rfl⟩
  | tree hread hp hle =>
    rw [perform_tree_of_le hread hp hle]
    exact ⟨rfl, rfl⟩

theorem readSource_of_illegible {p : Path} {why : Failure} (h : (host.disk.look p).Illegible why) :
    readSource host p = .error ⟨"", "", .broken why⟩ := by
  unfold readSource
  rcases h.read with ⟨rfl, hr⟩ | ⟨rfl, hr⟩ <;> rw [hr]

/-- Nothing is printed by a command that breaks off. -/
theorem Breaks.perform {why : Failure} (h : Breaks platform host c why) :
    (c.perform platform host).ending = .broken why ∧ (c.perform platform host).out = "" := by
  cases h with
  | settings hu =>
    rw [Command.perform, performRun, hu.loadSettings_eq]
    dsimp only
    rw [failed_of_ne_fault hu.ne_fault]
    exact ⟨rfl, rfl⟩
  | evalSettings hu =>
    rw [Command.perform, performEval, hu.loadSettings_eq]
    dsimp only
    rw [failed_of_ne_fault hu.ne_fault]
    exact ⟨rfl, rfl⟩
  | source ho hi =>
    have hr := readSource_of_illegible hi
    cases ho with
    | run hs =>
      rw [Command.perform, performRun, hs]
      dsimp only
      rw [hr]
      exact ⟨rfl, rfl⟩
    | tokens =>
      rw [Command.perform, performTokens, hr]
      exact ⟨rfl, rfl⟩
    | tree =>
      rw [Command.perform, performTree, hr]
      exact ⟨rfl, rfl⟩
  | height hshow ho hread hp hlt =>
    cases ho with
    | run hs =>
      obtain rfl : _ = true := hshow
      rw [perform_run_of_read _ _ hs hread]
      obtain ⟨err, hr⟩ := runSource_of_lt _ hp hlt
      rw [hr]
      exact ⟨rfl, rfl⟩
    | tokens => cases hshow
    | tree =>
      rw [perform_tree_of_lt hread hp hlt]
      exact ⟨rfl, rfl⟩
  | title hread ht hm =>
    rw [perform_tokens_of_untitled hread ht hm]
    exact ⟨rfl, rfl⟩

end Command

/-- **How commands end.** A command whose arguments make sense ends with code zero exactly with its
answers, and breaks off exactly for the reasons that are listed. Otherwise it ends with code one and
a message that begins with `Error: ` or `Cannot read `. -/
theorem endings_exact (platform : Platform) (host : Host) {args : List String} {c : Command}
    (h : Command.ofList args = some c) :
    (∀ out, ((performArguments platform host args).ending = .code 0 ∧
        (performArguments platform host args).out = out) ↔ Command.Answers platform host c out) ∧
    (∀ why, (performArguments platform host args).ending = .broken why ↔
      Command.Breaks platform host c why) ∧
    ((∀ out, ¬ Command.Answers platform host c out) →
      (∀ why, ¬ Command.Breaks platform host c why) →
      Command.Complains host (performArguments platform host args)) := by
  have hperform : performArguments platform host args = c.perform platform host := by
    rw [performArguments, h]
  rw [hperform]
  have hends := Command.ends_perform platform host c
  refine ⟨fun out => ⟨?_, Command.Answers.perform⟩, fun why => ⟨?_, fun hb => hb.perform.1⟩, ?_⟩
  · rintro ⟨hcode, rfl⟩
    generalize c.perform platform host = r at hends hcode
    cases hends with
    | answered ha => exact ha
    | complained hc =>
      rw [hc.ending] at hcode
      cases hcode
    | broken _ => cases hcode
  · intro hbroken
    generalize c.perform platform host = r at hends hbroken
    cases hends with
    | answered _ => cases hbroken
    | complained hc =>
      rw [hc.ending] at hbroken
      cases hbroken
    | broken hb =>
      cases hbroken
      exact hb
  · intro ha hb
    generalize c.perform platform host = r at hends
    cases hends with
    | answered h => exact absurd h (ha _)
    | complained hc => exact hc
    | broken h => exact absurd h (hb _)

/-- A machine with some files in its working folder, and a log level from outside. -/
def machineWith (files : List (String × ByteArray)) (level : Option String) : Host :=
  ⟨⟨Path.ofText "/home", fun p =>
    match files.find? fun f => Path.ofText f.1 = p with
    | some (_, content) => .file content
    | none => .notFound⟩, level, ""⟩

/-- A program with a byte that no text has. -/
def strayByte : Host := machineWith [("p.em", ⟨#[0x7b, 0x20, 0xff, 0x20, 0x7d]⟩)] none

/-- A program with a sum of three numbers. -/
def shortSum : Host := machineWith [("p.em", "\x7b x = 1+1+1 \x7d".toUTF8)] none

/-- A platform that shows no tree of more than three levels. -/
def lowPlatform : Platform := { Platform.uniform depthLimit with showing := 3 }

/-- A byte that no text has breaks a program off, and so does a sum that is higher than what can be
shown. -/
theorem endings_exact_broken :
    (performArguments depthLimit strayByte ["run", "p.em"]).ending = .broken .undecodable ∧
    (performArguments lowPlatform shortSum ["ast", "p.em"]).ending = .broken .depth := by
  constructor
  · have hargs : Command.ofList ["run", "p.em"] = some (.run "p.em" none false false) := by
      decide +kernel
    have hs : Command.loadSettings depthLimit strayByte none (some (Path.ofText "p.em")) =
      .ok Settings.default := by decide +kernel
    have hstray : (strayByte.disk.look (Path.ofText "p.em")).Illegible .undecodable :=
      Entry.illegible_of_undecodable (by decide +kernel)
    exact ((endings_exact _ _ hargs).2.1 _).mpr (.source (.run hs) hstray)
  · have hargs : Command.ofList ["ast", "p.em"] = some (.tree "p.em") := by decide +kernel
    have hread : (shortSum.disk.look (Path.ofText "p.em")).read =
      .ok "\x7b x = 1+1+1 \x7d".toList := by decide +kernel
    obtain ⟨t, hp, ht⟩ := exists_ok_of_map (f := Tree.height) (b := 5)
      (r := parseProgram depthLimit "\x7b x = 1+1+1 \x7d".toList (some "p.em")) (by decide +kernel)
    have hlt : lowPlatform.showing < t.height := by
      rw [ht]
      decide
    exact ((endings_exact _ _ hargs).2.1 _).mpr (.height rfl .tree hread hp hlt)

end BlockCalc
