import BlockCalc.Proofs.Command.Endings

/-! # Commands against the language, and against each other

For a program file that can be read and settings that can be loaded, the command that runs the file
does what interpreting its text in a new session does: it prints the value that this gives, or
reports its fault (`run_ok_iff`, `run_fault`). The message loses the control sequences of terminals,
which may stand in the line of the source that it shows (`message_loses_sequences`). Asked to show
the tree as well, the command prints what the command for trees prints, and then what it prints
anyhow (`run_outline`).

How talkative the log is has no influence on the first output and on the ending (`shown_alike`): not
the switch for it, nor a valid level or format in a settings file, nor a usable level from outside.

* `commands_agree`: all of this in one statement. -/

namespace BlockCalc

namespace Command

variable {platform : Platform} {host host' : Host} {file : String} {config : Option String}
  {settings : Settings} {source : List Char}

/-! ### Running a file and interpreting its text -/

/-- What a new session answers to the program that the text of a file parses to. -/
def interpreted (platform : Platform) (settings : Settings) (source : List Char) (file : Path) :
    Except Fault (Option Binary64) :=
  match parseProgram platform.parsing source (some file.text) with
  | .error f => .error f
  | .ok t => ((Session.start settings.resultVariable).run platform.running t).1.mapError Fault.of

theorem interpreted_of_parse {file : Path} {t : Tree}
    (hp : parseProgram platform.parsing source (some file.text) = .ok t) :
    interpreted platform settings source file =
      (runProgram platform.running settings.resultVariable t).result.mapError Fault.of := by
  unfold interpreted Session.run
  rw [hp]
  dsimp only [Session.start]
  rcases (runProgram platform.running settings.resultVariable t).result with c | v <;> rfl

theorem interpreted_of_fault {file : Path} {f : Fault}
    (hp : parseProgram platform.parsing source (some file.text) = .error f) :
    interpreted platform settings source file = .error f := by
  rw [interpreted, hp]

/-- With one depth for parsing and running, this is what a new session interprets. -/
theorem interpreted_uniform (depth : Nat) (settings : Settings) (source : List Char) (file : Path) :
    interpreted (Platform.uniform depth) settings source file =
      ((Session.start settings.resultVariable).interpret depth source (some file.text)).1 := by
  unfold interpreted Session.interpret
  dsimp only [Platform.uniform]
  rcases parseProgram depth source (some file.text) with f | t
  · rfl
  · dsimp only
    rcases (Session.start settings.resultVariable).run depth t with ⟨c | v, s⟩ <;> rfl

/-- The level of the log. -/
def threshold (settings : Settings) (verbose : Bool) : Level :=
  if verbose then .debug else settings.level

/-- Remarks that are made in the course of things: none of them is a warning. -/
def Casual (remarks : List Remark) : Prop := ∀ m ∈ remarks, m.level = .debug ∨ m.level = .info

theorem casual_append {ms ns : List Remark} (hm : Casual ms) (hn : Casual ns) :
    Casual (ms ++ ns) :=
  List.forall_mem_append.mpr ⟨hm, hn⟩

theorem casual_readingRemarks (file : Path) (source : List Char) :
    Casual (readingRemarks file source) := by
  intro m hm
  simp only [readingRemarks, List.mem_cons, List.not_mem_nil, or_false] at hm
  rcases hm with rfl | rfl
  · exact .inr rfl
  · exact .inl rfl

theorem casual_parsedRemarks (file : Path) (source : List Char) (t : Tree) :
    Casual (parsedRemarks file source t) := by
  refine casual_append (casual_readingRemarks _ _) fun m hm => ?_
  cases List.mem_singleton.mp hm
  exact .inl rfl

theorem casual_runRemarks (resultVariable : String) (r : Run) :
    Casual (runRemarks resultVariable r) := by
  refine casual_append ?_ ?_
  · intro m hm
    obtain ⟨a, -, rfl⟩ := List.mem_map.mp hm
    exact .inl rfl
  · intro m hm
    split at hm
    · cases List.mem_singleton.mp hm
      exact .inl rfl
    · cases hm

/-- The report of a fault: code one, nothing on the first output, and on the second the text of the
fault without control sequences, behind casual remarks. -/
structure Reports (host : Host) (threshold : Level) (format : String) (f : Fault) (r : Report) :
    Prop where
  ending : r.ending = .code 1
  out : r.out = ""
  err : ∃ remarks, Casual remarks ∧
    r.err = String.join (remarks.map (logLine host threshold format)) ++
      String.ofList (withoutSequences ("Error: " ++ f.message).toList) ++ "\n"

theorem reports_faulty {remarks : List Remark} (threshold : Level) (format : String) (f : Fault)
    (h : Casual remarks) : Reports host threshold format f
      (faulty "" (String.join (remarks.map (logLine host threshold format))) f) :=
  ⟨rfl, rfl, remarks, h, rfl⟩

theorem runSource_plain {file : Path} {t : Tree} (log : Remark → String)
    (hp : parseProgram platform.parsing source (some file.text) = .ok t) :
    runSource platform settings log file false source =
      runTree platform settings log t "" (String.join ((parsedRemarks file source t).map log)) := by
  have hout : false = true → t.height ≤ platform.showing := fun h => absurd h Bool.false_ne_true
  rw [runSource_of_parse log hp hout, if_neg Bool.false_ne_true]

theorem run_ok {v : Option Binary64} (verbose : Bool)
    (hs : loadSettings platform host (config.map Path.ofText) (some (Path.ofText file)) =
      .ok settings)
    (hread : (host.disk.look (Path.ofText file)).read = .ok source)
    (hv : interpreted platform settings source (Path.ofText file) = .ok v) :
    ((Command.run file config false verbose).perform platform host).ending = .code 0 ∧
      ((Command.run file config false verbose).perform platform host).out =
        settings.resultVariable ++ " = " ++ resultText v ++ "\n" := by
  rcases hp : parseProgram platform.parsing source (some (Path.ofText file).text) with f | t
  · rw [interpreted_of_fault hp] at hv
    cases hv
  · rw [interpreted_of_parse hp] at hv
    rcases hr : (runProgram platform.running settings.resultVariable t).result with c | w
    · rw [hr] at hv
      cases hv
    · rw [hr] at hv
      cases hv
      rw [perform_run_of_read _ _ hs hread, runSource_plain _ hp, runTree_of_ok _ _ _ hr,
        String.empty_append]
      exact ⟨rfl, rfl⟩

theorem run_fault {f : Fault} (verbose : Bool)
    (hs : loadSettings platform host (config.map Path.ofText) (some (Path.ofText file)) =
      .ok settings)
    (hread : (host.disk.look (Path.ofText file)).read = .ok source)
    (hf : interpreted platform settings source (Path.ofText file) = .error f) :
    Reports host (threshold settings verbose) settings.format f
      ((Command.run file config false verbose).perform platform host) := by
  rw [perform_run_of_read _ _ hs hread]
  rcases hp : parseProgram platform.parsing source (some (Path.ofText file).text) with g | t
  · rw [interpreted_of_fault hp] at hf
    cases hf
    rw [runSource, hp]
    exact reports_faulty _ _ _ (casual_readingRemarks _ _)
  · rw [interpreted_of_parse hp] at hf
    rcases hr : (runProgram platform.running settings.resultVariable t).result with c | w
    · rw [hr] at hf
      cases hf
      rw [runSource_plain _ hp, runTree_of_error _ _ _ hr, ← String.join_append,
        ← List.map_append]
      exact reports_faulty _ _ _
        (casual_append (casual_parsedRemarks _ _ _) (casual_runRemarks _ _))
    · rw [hr] at hf
      cases hf

/-- **A value is printed exactly if the text has it.** -/
theorem run_ok_iff (verbose : Bool) (text : String)
    (hs : loadSettings platform host (config.map Path.ofText) (some (Path.ofText file)) =
      .ok settings)
    (hread : (host.disk.look (Path.ofText file)).read = .ok source) :
    (((Command.run file config false verbose).perform platform host).ending = .code 0 ∧
      ((Command.run file config false verbose).perform platform host).out =
        settings.resultVariable ++ " = " ++ text ++ "\n") ↔
    ∃ v, interpreted platform settings source (Path.ofText file) = .ok v ∧ resultText v = text := by
  constructor
  · rintro ⟨hcode, hout⟩
    rcases hi : interpreted platform settings source (Path.ofText file) with f | v
    · rw [(run_fault verbose hs hread hi).ending] at hcode
      cases hcode
    · rw [(run_ok verbose hs hread hi).2, String.append_left_inj, String.append_right_inj] at hout
      exact ⟨v, rfl, hout⟩
  · rintro ⟨v, hv, rfl⟩
    exact run_ok verbose hs hread hv

/-! ### Showing the tree first -/

theorem runTree_after (log : Remark → String) (t : Tree) (out err : String) :
    (runTree platform settings log t out err).out =
        out ++ (runTree platform settings log t "" err).out ∧
      (runTree platform settings log t out err).ending =
        (runTree platform settings log t "" err).ending := by
  rcases hr : (runProgram platform.running settings.resultVariable t).result with c | v
  · rw [runTree_of_error _ _ _ hr, runTree_of_error _ _ _ hr]
    exact ⟨String.append_empty.symm, rfl⟩
  · rw [runTree_of_ok _ _ _ hr, runTree_of_ok _ _ _ hr]
    refine ⟨?_, rfl⟩
    simp only [done, String.empty_append, String.append_assoc]

/-- **The tree, and then the result.** -/
theorem run_outline (verbose : Bool)
    (hs : loadSettings platform host (config.map Path.ofText) (some (Path.ofText file)) =
      .ok settings)
    (hread : (host.disk.look (Path.ofText file)).read = .ok source)
    (hle : ∀ t, parseProgram platform.parsing source (some (Path.ofText file).text) = .ok t →
      t.height ≤ platform.showing) :
    ((Command.run file config true verbose).perform platform host).out =
        ((Command.tree file).perform platform host).out ++
          ((Command.run file config false verbose).perform platform host).out ∧
      ((Command.run file config true verbose).perform platform host).ending =
        ((Command.run file config false verbose).perform platform host).ending := by
  rw [perform_run_of_read _ _ hs hread, perform_run_of_read _ _ hs hread]
  rcases hp : parseProgram platform.parsing source (some (Path.ofText file).text) with f | t
  · rw [perform_tree_of_fault hread hp, runSource, runSource, hp]
    exact ⟨rfl, rfl⟩
  · rw [perform_tree_of_le hread hp (hle t hp), runSource_of_parse _ hp fun _ => hle t hp,
      runSource_plain _ hp]
    exact runTree_after _ t (printed t) _

/-! ### The log has no influence -/

/-- What is seen of a report without the second output. -/
def shown (r : Report) : String × Ending := (r.out, r.ending)

/-- The command without the switch for all log records. -/
def quiet : Command → Command
  | run file config outline _ => run file config outline false
  | eval expression _ => eval expression false
  | c => c

/-- The program file of a command. -/
def program? : Command → Option Path
  | run file _ _ _ => some (Path.ofText file)
  | tokens file => some (Path.ofText file)
  | tree file => some (Path.ofText file)
  | _ => none

theorem shown_runTree {settings' : Settings}
    (h : settings.resultVariable = settings'.resultVariable) (log log' : Remark → String) (t : Tree)
    (out err err' : String) :
    shown (runTree platform settings log t out err) =
      shown (runTree platform settings' log' t out err') := by
  rcases hr : (runProgram platform.running settings.resultVariable t).result with c | v
  · rw [runTree_of_error _ _ _ hr, runTree_of_error _ _ _ (h ▸ hr)]
    rfl
  · rw [runTree_of_ok _ _ _ hr, runTree_of_ok _ _ _ (h ▸ hr), h]
    rfl

theorem shown_runSource {settings' : Settings}
    (h : settings.resultVariable = settings'.resultVariable) (log log' : Remark → String)
    (p : Path) (outline : Bool) (source : List Char) :
    shown (runSource platform settings log p outline source) =
      shown (runSource platform settings' log' p outline source) := by
  rcases hp : parseProgram platform.parsing source (some p.text) with f | t
  · rw [runSource, runSource, hp]
    rfl
  · by_cases hle : outline = true → t.height ≤ platform.showing
    · rw [runSource_of_parse _ hp hle, runSource_of_parse _ hp hle]
      exact shown_runTree h log log' t _ _ _
    · rw [Classical.not_imp, Nat.not_le] at hle
      obtain ⟨rfl, hlt⟩ := hle
      have hbroken : ∀ (s : Settings) (log : Remark → String),
          shown (runSource platform s log p true source) = ("", .broken .depth) := by
        intro s log
        obtain ⟨err, hr⟩ := runSource_of_lt (s := s) log hp hlt
        rw [hr]
        rfl
      rw [hbroken, hbroken]

theorem readSource_congr {p : Path} (h : host.disk.look p = host'.disk.look p) :
    readSource host p = readSource host' p := by
  rw [readSource, readSource, h]

theorem shown_performRun (h : Settings.AlikeHosts platform host host') {p : Path}
    (hp : host.disk.look p = host'.disk.look p) (config : Option Path)
    (outline verbose verbose' : Bool) :
    shown (performRun platform host p config outline verbose) =
      shown (performRun platform host' p config outline verbose') := by
  have hload := h.map_loadSettings config (some p)
  unfold performRun
  rw [readSource_congr hp]
  generalize loadSettings platform host config (some p) = r,
    loadSettings platform host' config (some p) = r' at hload
  rcases r with why | settings <;> rcases r' with why' | settings'
  · rw [Except.error.inj hload]
  · cases hload
  · cases hload
  · dsimp only
    rcases readSource host' p with r | source
    · rfl
    · exact shown_runSource (Except.ok.inj hload) _ _ p outline source

theorem shown_performEval (h : Settings.AlikeHosts platform host host') (expression : String) :
    shown (performEval platform host expression) =
      shown (performEval platform host' expression) := by
  have hload := h.map_loadSettings none none
  unfold performEval
  generalize loadSettings platform host none none = r,
    loadSettings platform host' none none = r' at hload
  rcases r with why | settings <;> rcases r' with why' | settings'
  · rw [Except.error.inj hload]
  · cases hload
  · cases hload
  · rfl

/-- **The log has no influence** on the first output and on the ending. -/
theorem shown_alike (h : Settings.AlikeHosts platform host host') : ∀ {c c' : Command},
    c.quiet = c'.quiet → (∀ p, c.program? = some p → host.disk.look p = host'.disk.look p) →
    shown (c.perform platform host) = shown (c'.perform platform host')
  | version, c', hc, _ => by
    cases c' <;> cases hc
    rfl
  | run file config outline verbose, c', hc, hp => by
    cases c' <;> cases hc
    exact shown_performRun h (hp _ rfl) _ _ _ _
  | eval expression verbose, c', hc, _ => by
    cases c' <;> cases hc
    exact shown_performEval h expression
  | tokens file, c', hc, hp => by
    cases c' <;> cases hc
    rw [perform, perform, performTokens, performTokens, readSource_congr (hp _ rfl)]
  | tree file, c', hc, hp => by
    cases c' <;> cases hc
    rw [perform, perform, performTree, performTree, readSource_congr (hp _ rfl)]

end Command

open Command in
/-- **Commands agree with the language and with each other.** For a program file that can be read
and settings that can be loaded, running the file prints a value exactly if its text has that value,
and otherwise reports the fault of the text, less its control sequences. If its tree can be shown,
it is what comes first when it is asked for, and nothing else changes. And whatever the log is told,
by the switch, by valid settings or from outside, what is printed and how it ends stays the same. -/
theorem commands_agree (platform : Platform) :
    (∀ (host : Host) (file : String) (config : Option String) (settings : Settings)
        (source : List Char) (verbose : Bool),
      loadSettings platform host (config.map Path.ofText) (some (Path.ofText file)) = .ok settings →
      (host.disk.look (Path.ofText file)).read = .ok source →
      (∀ text, (((Command.run file config false verbose).perform platform host).ending = .code 0 ∧
          ((Command.run file config false verbose).perform platform host).out =
            settings.resultVariable ++ " = " ++ text ++ "\n") ↔
        ∃ v, interpreted platform settings source (Path.ofText file) = .ok v ∧
          resultText v = text) ∧
      (∀ f, interpreted platform settings source (Path.ofText file) = .error f →
        Reports host (threshold settings verbose) settings.format f
          ((Command.run file config false verbose).perform platform host)) ∧
      ((∀ t, parseProgram platform.parsing source (some (Path.ofText file).text) = .ok t →
          t.height ≤ platform.showing) →
        ((Command.run file config true verbose).perform platform host).out =
            ((Command.tree file).perform platform host).out ++
              ((Command.run file config false verbose).perform platform host).out ∧
          ((Command.run file config true verbose).perform platform host).ending =
            ((Command.run file config false verbose).perform platform host).ending)) ∧
    ∀ (host host' : Host) (c c' : Command), Settings.AlikeHosts platform host host' →
      c.quiet = c'.quiet → (∀ p, c.program? = some p → host.disk.look p = host'.disk.look p) →
      (c.perform platform host).out = (c'.perform platform host').out ∧
        (c.perform platform host).ending = (c'.perform platform host').ending := by
  refine ⟨fun host file config settings source verbose hs hread => ⟨fun text => ?_, fun f hf => ?_,
    fun hle => ?_⟩, fun host host' c c' h hc hp => ?_⟩
  · exact run_ok_iff verbose text hs hread
  · exact run_fault verbose hs hread hf
  · exact run_outline verbose hs hread hle
  · exact Prod.mk.inj (shown_alike h hc hp)

/-- A program, and a settings file beside it that says nothing. -/
def quietHost : Host :=
  machineWith [("p.em", "\x7bresult=2\x7d".toUTF8), ("ember.toml", "".toUTF8)] none

/-- The settings of that program: the usual ones, from the file beside it. -/
def quietSettings : Settings :=
  { Settings.default with path := some (Path.ofText "ember.toml") }

/-- The same program, with more to be logged. -/
def loudHost : Host :=
  machineWith [("p.em", "\x7bresult=2\x7d".toUTF8),
    ("ember.toml", "[logging]\nlevel = \"INFO\"".toUTF8)] (some " debug ")

theorem alike_quietHost_loudHost : Settings.AlikeHosts depthLimit quietHost loudHost := by
  have hread : ∀ text, (Toml.read depthLimit text).map (fun table =>
        (Settings.logsWell depthLimit table, (Toml.find? "interpreter" table).isNone)) =
          .ok (true, true) →
      ∃ table, Toml.read depthLimit text = .ok table ∧ Settings.logsWell depthLimit table = true ∧
        Toml.find? "interpreter" table = none := by
    intro text h
    obtain ⟨table, ht, hb⟩ := exists_ok_of_map h
    obtain ⟨hw, hn⟩ := Prod.mk.inj hb
    exact ⟨table, ht, hw, Option.isNone_iff_eq_none.mp hn⟩
  refine ⟨rfl, fun p => ?_, .inr ⟨.inl (by decide +kernel), .inr (by decide +kernel)⟩⟩
  by_cases hprogram : Path.ofText "p.em" = p
  · simp only [quietHost, loudHost, machineWith, List.find?, hprogram, decide_true]
    exact .same _
  · by_cases hsettings : Path.ofText "ember.toml" = p
    · simp only [quietHost, loudHost, machineWith, List.find?, hprogram, hsettings, decide_true,
        decide_false]
      obtain ⟨table, ht, hw, hn⟩ := hread [] (by decide +kernel)
      obtain ⟨table', ht', hw', hn'⟩ := hread "[logging]\nlevel = \"INFO\"".toList
        (by decide +kernel)
      exact .logging (by decide +kernel) (by decide +kernel) ht ht' (hn.trans hn'.symm) hw hw'
    · simp only [quietHost, loudHost, machineWith, List.find?, hprogram, hsettings, decide_false]
      exact .same _

open Command in
/-- A value is printed, behind the tree if that is wanted, and no less where more is logged. -/
theorem commands_agree_levels :
    (((Command.run "p.em" none false false).perform depthLimit quietHost).ending = .code 0 ∧
      ((Command.run "p.em" none false false).perform depthLimit quietHost).out = "result = 2\n") ∧
    ((Command.run "p.em" none true false).perform depthLimit quietHost).out =
      ((Command.tree "p.em").perform depthLimit quietHost).out ++
        ((Command.run "p.em" none false false).perform depthLimit quietHost).out ∧
    ((Command.run "p.em" none false false).perform depthLimit quietHost).out =
      ((Command.run "p.em" none false true).perform depthLimit loudHost).out := by
  have hs : loadSettings depthLimit quietHost none (some (Path.ofText "p.em")) =
    .ok quietSettings := by decide +kernel
  have hread : (quietHost.disk.look (Path.ofText "p.em")).read = .ok "\x7bresult=2\x7d".toList := by
    decide +kernel
  obtain ⟨hvalue, -, htree⟩ :=
    (commands_agree depthLimit).1 quietHost "p.em" none _ _ false hs hread
  refine ⟨(hvalue "2").mpr ?_, (htree fun t ht => ?_).1, ?_⟩
  · exact exists_ok_of_map (by decide +kernel)
  · have hheight : (parseProgram (Platform.uniform depthLimit).parsing "\x7bresult=2\x7d".toList
        (some (Path.ofText "p.em").text)).map Tree.height = .ok 3 := by decide +kernel
    rw [ht] at hheight
    have h3 : t.height = 3 := Except.ok.inj hheight
    rw [h3]
    decide
  · have hsame : quietHost.disk.look (Path.ofText "p.em") =
        loudHost.disk.look (Path.ofText "p.em") := by
      simp only [quietHost, loudHost, machineWith, List.find?, decide_true]
    refine ((commands_agree depthLimit).2 _ _ (.run "p.em" none false false)
      (.run "p.em" none false true) alike_quietHost_loudHost rfl ?_).1
    rintro p ⟨⟩
    exact hsame

/-- A program that is faulted for the escape character of a control sequence. -/
def colouredSource : String := "\x7b \x1b[31m \x7d"

/-- The machine with that program. -/
def colouredHost : Host := machineWith [("p.em", colouredSource.toUTF8)] none

open Command in
/-- The text of a fault is not reported as it is: the line of the source that it shows loses its
control sequences. -/
theorem message_loses_sequences : ∃ f,
    loadSettings depthLimit colouredHost none (some (Path.ofText "p.em")) = .ok Settings.default ∧
    (colouredHost.disk.look (Path.ofText "p.em")).read = .ok colouredSource.toList ∧
    interpreted depthLimit Settings.default colouredSource.toList (Path.ofText "p.em") = .error f ∧
    ¬ ("Error: " ++ f.message).toList <:+:
      ((Command.run "p.em" none false false).perform depthLimit colouredHost).err.toList := by
  refine ⟨⟨.unknownSymbol "\x1b", some ⟨1, 3, some colouredSource, some "p.em"⟩⟩, ?_, ?_, ?_, ?_⟩
  all_goals decide +kernel

end BlockCalc
