import BlockCalc.Proofs.Execution
import BlockCalc.Proofs.Layout

/-! # Expressions inside a program

An expression text can be evaluated by itself, or be written into a program that assigns its value
to a variable (`assigning`), such as the result variable (`enclosed`). In the program other tokens
come before it, and a closing brace comes where the end of the input was (`Closing`). The parses of
the expression go side by side all the same, since neither of these can go on with an expression;
what the program adds to them is said once, by `Parse.run_program_head` and `Parse.run_close`.

The program is nested more deeply than the expression: its block takes one level when it is parsed,
and its block and its assignment one each when it is run. So the program may reach a depth limit
that the expression does not reach, unless its own limit is higher.

* `value_of_le`: a depth limit that is not reached can be raised.
* `enclosed_agrees`: the program has the tree and the result of the expression, or its fault of the
  text. -/

namespace BlockCalc

/-- The program that assigns the value of an expression text to the result variable. -/
def enclosed (e : List Char) : List Char := "\x7b result = ".toList ++ (e ++ " \x7d".toList)

/-- The program that assigns the value of an expression text to a variable. -/
def assigning (x : String) (e : List Char) : List Char :=
  ("\x7b ".toList ++ (x.toList ++ " = ".toList)) ++ (e ++ " \x7d".toList)

theorem enclosed_eq (e : List Char) : enclosed e = assigning "result" e := by
  have h : "\x7b result = ".toList = "\x7b ".toList ++ ("result".toList ++ " = ".toList) := by
    decide
  exact congrArg (· ++ (e ++ " \x7d".toList)) h

/-- The end of the input on the left, and a closing brace before it on the right. -/
def Closing : Rests := fun ts e us f => ∃ p q q',
  ts = [⟨.endOfInput, p⟩] ∧ us = [⟨.closeBrace, q⟩, ⟨.endOfInput, q'⟩] ∧ e = none ∧ f = none

theorem outside_closing : Outside Closing := by
  rintro _ _ _ _ ⟨p, q, q', rfl, rfl, -, -⟩
  exact ⟨_, _, _, _, rfl, rfl, rfl, rfl⟩

/-! ### The tokens of the program -/

namespace Cursor

theorem goesOn_more {more : List Char} (h : ∀ y ∈ more.head?, isBlank y = true) :
    ∀ rest : List Char, GoesOn rest (rest ++ more)
  | [] => fun y hy => .inl (h y hy)
  | _ :: _ => fun _ hy => .inr hy

theorem feed_closing {gap : List Char} (hg : ∀ x ∈ gap, isBlank x = true) (o : Nat) :
    ∃ q q', feed ⟨o, gap ++ " \x7d".toList⟩ = ([⟨.closeBrace, q⟩, ⟨.endOfInput, q'⟩], none) := by
  have hreads : Reads " \x7d".toList [] [.closeBrace] :=
    reads_space (reads_symbol rfl (reads_nil []))
  obtain ⟨ts, hts, hf⟩ := hreads (o + gap.length)
  obtain ⟨⟨l, q⟩, rfl, rfl⟩ := List.map_eq_singleton_iff.mp hts
  have hend : ∀ o', feed ⟨o', []⟩ = ([⟨.endOfInput, o'⟩], none) :=
    fun _ => feed_of_end (next_of_rest_nil rfl) rfl
  rw [List.append_nil, hend] at hf
  exact ⟨q, _, (feed_after_gap hg o _).trans hf⟩

/-- Behind the head of the assignment, the tokens are those of the expression. -/
theorem matched_closing (e : List Char) (o : Nat) :
    Matched Closing (start e).feed.1 (start e).feed.2 (feed ⟨o, e ++ " \x7d".toList⟩).1
      (feed ⟨o, e ++ " \x7d".toList⟩).2 := by
  have hblank : ∀ y ∈ (" \x7d".toList).head?, isBlank y = true := by
    rintro y ⟨⟩
    rfl
  obtain ⟨ts, p, gap, rest, hseg, hg, hend⟩ := exists_segmented 0 e
  obtain ⟨before, rfl, hmoved⟩ := hseg.moved (goesOn_more hblank (gap ++ rest))
  obtain ⟨us, p', hus, hseg'⟩ := hmoved o
  rw [start, feed_segmented hseg, List.append_assoc, feed_segmented hseg']
  rcases hend with rfl | ⟨cause, passed, after, rfl, hs⟩
  · obtain ⟨q, q', hclose⟩ := feed_closing hg p'
    rw [List.append_nil, feed_gap p hg, hclose]
    exact Matched.append (.rest ⟨_, q, q', rfl, rfl, rfl, rfl⟩) hus.symm
  · rw [feed_spoiled p hg hs, List.append_assoc gap, List.append_assoc passed,
      feed_spoiled p' hg (hs.moved hblank)]
    have hfault : Matched Closing [] (some ⟨cause, (p + gap.length : Nat)⟩) []
      (some ⟨cause, (p' + gap.length : Nat)⟩) := .fault rfl
    exact hfault.append hus.symm

/-- The tokens of the program are a brace, the variable and an equals sign, and then those of the
expression. -/
theorem feed_assigning {x : String} (hx : isName x.toList = true) (e : List Char) :
    ∃ p q o us f, (start (assigning x e)).feed =
      (⟨.openBrace, p⟩ :: ⟨.name x, q⟩ :: ⟨.equals, o⟩ :: us, f) ∧
    Matched Closing (start e).feed.1 (start e).feed.2 us f := by
  have hname : Reads x.toList (" = ".toList ++ (e ++ " \x7d".toList))
      [.name (String.ofList x.toList)] := reads_name x.toList hx (stops_cons rfl)
  rw [String.ofList_toList] at hname
  have hequals : Reads " = ".toList (e ++ " \x7d".toList) [.equals] :=
    reads_space (reads_symbol rfl (reads_space (reads_nil _)))
  have hbrace : Reads "\x7b ".toList (x.toList ++ " = ".toList ++ (e ++ " \x7d".toList))
      [.openBrace] :=
    reads_symbol rfl (reads_space (reads_nil _))
  have hhead : Reads ("\x7b ".toList ++ (x.toList ++ " = ".toList)) (e ++ " \x7d".toList)
      [.openBrace, .name x, .equals] :=
    hbrace.append (hname.append hequals)
  obtain ⟨ts, hts, hf⟩ := hhead 0
  rcases ts with _ | ⟨⟨_, p⟩, _ | ⟨⟨_, q⟩, _ | ⟨⟨_, o⟩, _ | ⟨t, ts⟩⟩⟩⟩ <;> cases hts
  exact ⟨p, q, o, _, _, hf, matched_closing e _⟩

end Cursor

/-! ### The parse of the program -/

namespace Parse

variable {s s1 : TokenStream}

/-- What is left of a program once its first assignment is read. -/
def close (d : Nat) (p : Int) (first : Tree) : Parse Tree := do
  let children ← loop separator? (fun cs _ _ => do return cs ++ [← statement d]) [first]
  let _ ← eat .closeBrace
  let _ ← eat .endOfInput
  return .block p children

theorem program_succ (d : Nat) (s : TokenStream) : (program (d + 1)).run s =
    (eat .openBrace >>= fun t => statement d >>= fun first => close d t.offset first).run s := by
  unfold program block close statement
  simp only [run_bind]
  generalize (eat .openBrace).run s = r
  rcases r with ⟨_ | t, s1⟩
  · rfl
  · dsimp only
    generalize (statementOf (assignment d) (block d)).run s1 = r
    rcases r with ⟨_ | first, s2⟩
    · rfl
    · dsimp only
      generalize (loop _ _ _).run s2 = r
      rcases r with ⟨_ | cs, s3⟩
      · rfl
      · dsimp only
        generalize (eat .closeBrace).run s3 = r
        rcases r with ⟨_ | _, s4⟩ <;> rfl

theorem run_statement_head {d : Nat} {x : String} {q o : Int} {us : List Token}
    {f : Option SourceFault} (h : s.Holds (⟨.name x, q⟩ :: ⟨.equals, o⟩ :: us) f) :
    ∃ s1, s1.Holds (⟨.equals, o⟩ :: us) f ∧ (statement d).run s =
      (eat .equals >>= fun t => expression d >>= fun v =>
        pure (.assign x q t.offset v)).run s1 := by
  obtain ⟨s1, h1, hs1⟩ := run_current_cons h
  obtain ⟨s2, h2, hs2⟩ := run_current_cons hs1
  obtain ⟨s3, h3, hs3⟩ := run_eat_cons (k := .name) hs2 rfl
  have hname : eatName.run s1 = (.ok (x, q), s3) := by
    rw [eatName, run_bind_ok h2]
    exact run_bind_ok h3 _
  refine ⟨s3, hs3, ?_⟩
  rw [statement, statementOf, run_bind_ok h1]
  exact run_bind_ok hname _

/-- A program that begins with an assignment: what is left once the variable is read. -/
theorem run_program_head {d : Nat} {x : String} {p q o : Int} {us : List Token}
    {f : Option SourceFault}
    (h : s.Holds (⟨.openBrace, p⟩ :: ⟨.name x, q⟩ :: ⟨.equals, o⟩ :: us) f) :
    ∃ s1, s1.Holds (⟨.equals, o⟩ :: us) f ∧ (program (d + 1)).run s =
      (eat .equals >>= fun t => expression d >>= fun v =>
        close d p (.assign x q t.offset v)).run s1 := by
  obtain ⟨s1, h1, hs1⟩ := run_eat_cons (k := .openBrace) h rfl
  obtain ⟨s2, hs2, h2⟩ := run_statement_head (d := d) hs1
  refine ⟨s2, hs2, ?_⟩
  rw [program_succ, run_bind_ok h1, run_bind, h2]
  simp only [run_bind]
  rcases (eat .equals).run s2 with ⟨_ | t, s3⟩
  · rfl
  · dsimp only
    rcases (expression d).run s3 with ⟨_ | v, s4⟩ <;> rfl

theorem run_close {q q' : Int} (h : s.Holds [⟨.closeBrace, q⟩, ⟨.endOfInput, q'⟩] none) (d : Nat)
    (p : Int) (first : Tree) : ∃ s1, (close d p first).run s = (.ok (.block p [first]), s1) := by
  obtain ⟨s1, h1, hs1⟩ := run_current_cons h
  obtain ⟨s2, h2, hs2⟩ := run_eat_cons (k := .closeBrace) hs1 rfl
  obtain ⟨s3, h3⟩ := run_eat_end hs2
  have hloop : (loop separator? (fun cs _ _ => do return cs ++ [← statement d]) [first]).run s =
      (.ok [first], s1) := by
    rw [run_loop, run_bind_ok h1]
    rfl
  refine ⟨s3, ?_⟩
  rw [close, run_bind_ok hloop, run_bind_ok h2, run_bind_ok h3]
  rfl

theorem run_close_fault {f : SourceFault} (h : s.Holds [] (some f)) (d : Nat) (p : Int)
    (first : Tree) : ∃ s1, (close d p first).run s = (.error (.fault f), s1) := by
  obtain ⟨_, s1, hf, h1⟩ := run_current_nil h
  cases hf
  have hloop : (loop separator? (fun cs _ _ => do return cs ++ [← statement d]) [first]).run s =
      (.error (.fault f), s1) := by
    rw [run_loop, run_bind_error h1]
  exact ⟨s1, run_bind_error hloop _⟩

theorem run_eat_fault {f : SourceFault} (h : s.Holds [] (some f)) (k : Kind) :
    ∃ s1, (eat k).run s = (.error (.fault f), s1) := by
  obtain ⟨_, s1, hf, h1⟩ := run_current_nil h
  cases hf
  exact ⟨s1, run_bind_error h1 _⟩

theorem run_expression_fault {f : SourceFault} (h : s.Holds [] (some f)) (d : Nat) :
    ∃ s1, (expression (d + 1)).run s = (.error (.fault f), s1) := by
  obtain ⟨_, s1, hf, h1⟩ := run_current_nil h
  cases hf
  have hfactor : (factor (d + 1)).run s = (.error (.fault f), s1) := by
    rw [factor, run_bind_error h1]
  exact ⟨s1, run_bind_error (run_bind_error hfactor _) _⟩

/-- What an expression text gives by itself, and what it gives inside the program. Refusals of
tokens may differ: the brace may be refused where the end of the input was. `D` has to hold for a
depth limit that is reached by the program alone. -/
inductive Encloses (x : String) (D : Prop) :
    Except (Stop SourceFault) Tree → Except (Stop SourceFault) Tree → Prop
  | ok {t u p q o} : u.unplaced = t.unplaced →
      Encloses x D (.ok t) (.ok (.block p [.assign x q o u]))
  | fault {f g} : f.cause = g.cause → Encloses x D (.error (.fault f)) (.error (.fault g))
  | refused {f r} : f.cause.family = .syntactic → Encloses x D (.error (.fault f)) r
  | deep {r} : Encloses x D (.error .depth) r
  | deeper {r} : D → Encloses x D r (.error .depth)

theorem encloses_end {D : Prop} {s s' : TokenStream} (hs : TokenStream.Beside Closing s s')
    {t u : Tree} (htu : Likened t u) (x : String) (d : Nat) (p q o : Int) :
    Encloses x D ((eat .endOfInput >>= fun _ => pure t).run s).1
      ((close d p (.assign x q o u)).run s').1 := by
  obtain ⟨ts, e, us, f, hts, hus, hm⟩ := hs
  cases hm with
  | fault hc =>
    obtain ⟨s1, h1⟩ := run_eat_fault hts .endOfInput
    obtain ⟨s1', h1'⟩ := run_close_fault hus d p (.assign x q o u)
    rw [run_bind_error h1, h1']
    exact .fault hc
  | rest h =>
    obtain ⟨_, _, _, rfl, rfl, rfl, rfl⟩ := h
    obtain ⟨s1, h1⟩ := run_eat_end hts
    obtain ⟨s1', h1'⟩ := run_close hus d p (.assign x q o u)
    rw [run_bind_ok h1, h1']
    exact .ok htu.symm
  | @token a b _ _ _ _ hl hm =>
    have ha : a.kind ≠ .endOfInput := by
      intro ha
      obtain ⟨rfl, rfl⟩ := hts.eq_nil ha
      rcases hm with _ | ⟨_, _, _, hnil, -⟩
      cases hnil
    obtain ⟨s1, h1⟩ := run_eat_ne hts ha
    rw [run_bind_error h1]
    exact .refused rfl

/-- **The expression by itself and inside the program.** -/
theorem encloses_program {x : String} (hx : isName x.toList = true) (limit d : Nat)
    (e : List Char) :
    Encloses x (d < limit) ((soleExpression limit).run (TokenStream.start e)).1
      ((program (d + 1)).run (TokenStream.start (assigning x e))).1 := by
  obtain ⟨p, q, o, us, f, hfeed, hm⟩ := Cursor.feed_assigning hx e
  have hstart := TokenStream.holds_start e
  have hstart' : (TokenStream.start (assigning x e)).Holds _ _ := .unread hfeed
  obtain ⟨s1, hs1, h1⟩ := run_program_head (d := d) hstart'
  rw [h1, soleExpression]
  -- Taking the equals sign reads one token ahead: a fault of the text right behind it is met there,
  -- before the expression begins.
  rcases us with _ | ⟨u, us⟩
  · generalize (Cursor.start e).feed.1 = ts, (Cursor.start e).feed.2 = e' at hstart hm
    cases hm with
    | fault hc =>
      obtain ⟨s2, h2⟩ := run_eat_last (k := .equals) hs1 rfl
      rw [run_bind_error h2]
      rcases limit with _ | limit
      · exact .deep
      · obtain ⟨s3, h3⟩ := run_expression_fault hstart limit
        rw [run_bind_error h3]
        exact .fault hc
    | rest h =>
      obtain ⟨_, _, _, -, hnil, -⟩ := h
      cases hnil
  · obtain ⟨s2, h2, hs2⟩ := run_eat_cons (k := .equals) hs1 rfl
    have hbeside : TokenStream.Beside Closing (TokenStream.start e) s2 :=
      ⟨_, _, _, _, hstart, hs2, hm⟩
    have htallies := parallel_expression (L := True) outside_closing (fun _ => trivial)
      (fun hlt : d < limit => hlt) _ _ hbeside
    rw [run_bind_ok h2, run_bind, run_bind]
    generalize (expression limit).run (TokenStream.start e) = r,
      (expression d).run s2 = r' at htallies
    cases htallies with
    | ok htu hs => exact encloses_end hs htu x d p q o
    | fault hc => exact .fault hc
    | refused _ => exact .refused rfl
    | deep => exact .deep
    | deepLeft _ => exact .deep
    | deepRight hd => exact .deeper hd

end Parse

/-! ### The result of the program -/

theorem Tree.value_of_le (env : Environment) : ∀ {n m : Nat} (t : Tree), n ≤ m →
    value env n t ≠ .error .depth → value env m t = value env n t
  | 0, _, _, _, h => absurd rfl h
  | n + 1, 0, _, hle, _ => absurd hle (Nat.not_succ_le_zero n)
  | n + 1, m + 1, number _ _, _, _ => rfl
  | n + 1, m + 1, name _ _, _, _ => rfl
  | n + 1, m + 1, binary _ _ l r, hle, h => by
    have hle := Nat.le_of_succ_le_succ hle
    simp only [value] at h ⊢
    have hl : value env n l ≠ .error .depth := fun hl => h (by rw [hl])
    rw [value_of_le env l hle hl]
    rcases hx : value env n l with e | x
    · rfl
    · rw [hx] at h
      have hr : value env n r ≠ .error .depth := fun hr => h (by rw [hr])
      rw [value_of_le env r hle hr]
  | n + 1, m + 1, unary _ _ t, hle, h => by
    simp only [value] at h ⊢
    have ht : value env n t ≠ .error .depth := fun ht => h (by rw [ht])
    rw [value_of_le env t (Nat.le_of_succ_le_succ hle) ht]
  | n + 1, m + 1, assign _ _ _ _, _, _ => rfl
  | n + 1, m + 1, block _ _, _, _ => rfl
  | n + 1, m + 1, empty, _, _ => rfl

theorem evaluate_of_le {n m : Nat} {t : Tree} {env : Environment} (hle : n ≤ m)
    (h : evaluate n t env ≠ .error .evaluationTooDeep) : evaluate m t env = evaluate n t env := by
  have hv : t.value env n ≠ .error .depth := by
    intro hv
    rw [evaluate, hv] at h
    exact h rfl
  rw [evaluate, evaluate, t.value_of_le env hle hv]

theorem evaluate_eq {n m : Nat} {t u : Tree} {env : Environment} (hu : u.unplaced = t.unplaced)
    (hn : evaluate n t env ≠ .error .evaluationTooDeep)
    (hm : n ≤ m ∨ evaluate m u env ≠ .error .evaluationTooDeep) :
    evaluate m u env = evaluate n t env := by
  have hut : evaluate m u env = evaluate m t env := by
    rw [evaluate, evaluate, ← Tree.value_unplaced env m u, hu, Tree.value_unplaced]
  rw [hut] at hm ⊢
  rcases Nat.le_total n m with hle | hle
  · exact evaluate_of_le hle hn
  · rcases hm with hle' | hm
    · exact evaluate_of_le hle' hn
    · exact (evaluate_of_le hle hm).symm

theorem runProgram_assign (m : Nat) (p q o : Int) (x : String) (v : Tree) :
    (runProgram (m + 2) x (.block p [.assign x q o v])).result =
      (evaluate m v .empty).map some := by
  simp only [runProgram, Tree.execute, Tree.executeEach, Progress.start, evaluate]
  rcases v.value .empty m with e | y
  · rfl
  · dsimp only [Except.map, Progress.assign]
    rw [Environment.get?_assign, if_pos rfl]

/-! ### Both entry points -/

section

variable {limit limit' : Nat} {x : String} {e : List Char}

theorem encloses_within (hx : isName x.toList = true) (hd : limit < limit' ∨
      ¬ TooDeep (parseProgram limit' (assigning x e) none)) :
    Parse.Encloses x False ((Parse.soleExpression limit).run (TokenStream.start e)).1
      ((Parse.program limit').run (TokenStream.start (assigning x e))).1 := by
  rcases limit' with _ | d
  · rcases hd with hd | hd
    · exact absurd hd (Nat.not_lt_zero limit)
    · exact absurd ⟨_, rfl⟩ hd
  · have h := Parse.encloses_program hx limit d e
    unfold parseProgram Parse.onSource at hd
    generalize ((Parse.soleExpression limit).run (TokenStream.start e)).1 = r,
      (Parse.program (d + 1)).run (TokenStream.start (assigning x e)) = r' at h hd
    obtain ⟨r', s'⟩ := r'
    dsimp only at h
    cases h with
    | ok hu => exact .ok hu
    | fault hc => exact .fault hc
    | refused hf => exact .refused hf
    | deep => exact .deep
    | deeper hlt =>
      rcases hd with hd | hd
      · omega
      · exact absurd ⟨_, rfl⟩ hd

theorem parseProgram_assigning (hx : isName x.toList = true) (hd : limit < limit' ∨
      ¬ TooDeep (parseProgram limit' (assigning x e) none)) {t : Tree}
    (ht : parseExpression limit e = .ok t) : ∃ p q o u,
      parseProgram limit' (assigning x e) none = .ok (.block p [.assign x q o u]) ∧
      u.unplaced = t.unplaced := by
  have h := encloses_within hx hd
  unfold parseExpression Parse.onSource at ht
  unfold parseProgram Parse.onSource
  generalize (Parse.soleExpression limit).run (TokenStream.start e) = r,
    (Parse.program limit').run (TokenStream.start (assigning x e)) = r' at h ht
  obtain ⟨r, s⟩ := r
  obtain ⟨r', s'⟩ := r'
  dsimp only at h
  cases h with
  | ok hu =>
    cases ht
    exact ⟨_, _, _, _, rfl, hu⟩
  | deeper h => exact h.elim
  | _ => cases ht

theorem parseProgram_enclosed (hd : limit < limit' ∨
      ¬ TooDeep (parseProgram limit' (enclosed e) none)) {t : Tree}
    (ht : parseExpression limit e = .ok t) : ∃ p q o u,
      parseProgram limit' (enclosed e) none = .ok (.block p [.assign "result" q o u]) ∧
      u.unplaced = t.unplaced := by
  rw [enclosed_eq] at hd ⊢
  exact parseProgram_assigning rfl hd ht

theorem parseProgram_enclosed_fault (hd : limit < limit' ∨
      ¬ TooDeep (parseProgram limit' (enclosed e) none)) {f : Fault}
    (hf : parseExpression limit e = .error f) (hlex : f.cause.family = .lexical) :
    ∃ g, parseProgram limit' (enclosed e) none = .error g ∧ g.cause = f.cause := by
  rw [enclosed_eq] at hd ⊢
  have h := encloses_within rfl hd
  unfold parseExpression Parse.onSource at hf
  unfold parseProgram Parse.onSource
  generalize (Parse.soleExpression limit).run (TokenStream.start e) = r,
    (Parse.program limit').run (TokenStream.start (assigning "result" e)) = r' at h hf
  obtain ⟨r, s⟩ := r
  obtain ⟨r', s'⟩ := r'
  dsimp only at h
  cases h with
  | ok _ => cases hf
  | fault hc =>
    cases hf
    exact ⟨_, rfl, hc.symm⟩
  | refused hs =>
    cases hf
    exact absurd (hs.symm.trans hlex) nofun
  | deep =>
    cases hf
    cases hlex
  | deeper h => exact h.elim

theorem same_of_unplaced {t u : Tree} (ht : parseExpression limit e = .ok t)
    (hu : u.unplaced = t.unplaced) : u.same t = true := by
  have hlit := Tree.literal_of_spelled t (placed_of_parseExpression ht).2.spelled
  have hnumbers : u.numbers = t.numbers := by
    rw [← Tree.numbers_unplaced u, hu, Tree.numbers_unplaced]
  exact (Tree.same_iff_unplaced u t (hnumbers ▸ hlit) hlit).mpr hu

theorem evaluateSource_of_parse {t : Tree} (ht : parseExpression limit e = .ok t)
    (env : Environment) :
    evaluateSource limit e env = (evaluate limit t env).mapError Fault.of := by
  rw [evaluateSource, ht]
  dsimp only
  rcases evaluate limit t env with c | x <;> rfl

/-- The result of the program is the value of the expression, if neither reaches its limit. -/
theorem interpret_assigning (hx : isName x.toList = true) (hd : limit < limit' ∨
      ¬ TooDeep (parseProgram limit' (assigning x e) none)) {t : Tree}
    (ht : parseExpression limit e = .ok t)
    (he : evaluateSource limit e .empty ≠ .error (Fault.of .evaluationTooDeep))
    (hi : limit + 2 ≤ limit' ∨
      interpret limit' (assigning x e) x ≠ .error (Fault.of .evaluationTooDeep)) :
    interpret limit' (assigning x e) x = (evaluateSource limit e .empty).map some := by
  obtain ⟨p, q, o, u, hp, hu⟩ := parseProgram_assigning hx hd ht
  rw [evaluateSource_of_parse ht] at he ⊢
  rw [interpret_of_parse hp] at hi ⊢
  have hevaluate : evaluate limit t .empty ≠ .error .evaluationTooDeep := by
    intro h
    rw [h] at he
    exact he rfl
  -- A block and an assignment take two levels before anything is evaluated.
  rcases limit' with _ | _ | m
  · exact (hi.resolve_left (by omega) rfl).elim
  · exact (hi.resolve_left (by omega) rfl).elim
  · rw [runProgram_assign] at hi ⊢
    have hdeep : limit ≤ m ∨ evaluate m u .empty ≠ .error .evaluationTooDeep := by
      refine hi.imp (by omega) fun h hu => h ?_
      rw [hu]
      rfl
    rw [evaluate_eq hu hevaluate hdeep]
    rcases evaluate limit t .empty with c | y <;> rfl

theorem interpret_enclosed (hd : limit < limit' ∨
      ¬ TooDeep (parseProgram limit' (enclosed e) none)) {t : Tree}
    (ht : parseExpression limit e = .ok t)
    (he : evaluateSource limit e .empty ≠ .error (Fault.of .evaluationTooDeep))
    (hi : limit + 2 ≤ limit' ∨
      interpret limit' (enclosed e) "result" ≠ .error (Fault.of .evaluationTooDeep)) :
    interpret limit' (enclosed e) "result" = (evaluateSource limit e .empty).map some := by
  rw [enclosed_eq] at hd hi ⊢
  exact interpret_assigning rfl hd ht he hi

end

/-- **The two entry points agree.** A text that parses as an expression is parsed inside the program
to the same tree, as the value of the only assignment, and the program has the value of the
expression for its result or fails as the expression does. A text with a fault before the parse of
the expression ends makes the program fail for the same cause. The program's own depth limits are
not to be reached, which they are not if they are high enough. -/
theorem enclosed_agrees (limit limit' : Nat) (e : List Char)
    (hd : limit < limit' ∨
      ¬ TooDeep (parseProgram limit' (enclosed e) none)) :
    (∀ t, parseExpression limit e = .ok t →
      (∃ p q o u, parseProgram limit' (enclosed e) none = .ok (.block p [.assign "result" q o u]) ∧
        u.same t = true ∧ u.unplaced = t.unplaced) ∧
      (evaluateSource limit e .empty ≠ .error (Fault.of .evaluationTooDeep) →
        (limit + 2 ≤ limit' ∨
          interpret limit' (enclosed e) "result" ≠ .error (Fault.of .evaluationTooDeep)) →
        interpret limit' (enclosed e) "result" = (evaluateSource limit e .empty).map some)) ∧
    ∀ f, parseExpression limit e = .error f → f.cause.family = .lexical →
      ∀ r, ∃ g, interpret limit' (enclosed e) r = .error g ∧ g.cause = f.cause := by
  refine ⟨fun t ht => ⟨?_, interpret_enclosed hd ht⟩, fun f hf hlex r => ?_⟩
  · obtain ⟨p, q, o, u, hp, hu⟩ := parseProgram_enclosed hd ht
    exact ⟨p, q, o, u, hp, same_of_unplaced ht hu, hu⟩
  · obtain ⟨g, hg, hc⟩ := parseProgram_enclosed_fault hd hf hlex
    refine ⟨g, ?_, hc⟩
    rw [interpret, Session.interpret, hg]

/-- A value, an unbound variable and a fault of the text, within the limit of the language. -/
theorem enclosed_agrees_cases :
    interpret depthLimit (enclosed "-(6 - 8) * .5".toList) "result" =
      (evaluateSource depthLimit "-(6 - 8) * .5".toList .empty).map some ∧
    interpret depthLimit (enclosed "1 / 0 + rate".toList) "result" =
      .error (Fault.of (.unbound "rate")) ∧
    ∃ g, interpret depthLimit (enclosed "1 + 2.5.1)".toList) "result" = .error g ∧
      g.cause = .malformedNumber "2.5.1" := by
  refine ⟨?_, ?_, ?_⟩
  · have hd := not_tooDeep_of_withinLimit
      (r := parseProgram depthLimit (enclosed "-(6 - 8) * .5".toList) none) (by decide +kernel)
    obtain ⟨t, ht, -⟩ := exists_ok_of_map
      (r := parseExpression depthLimit "-(6 - 8) * .5".toList) (f := Tree.height) (b := 4)
      (by decide +kernel)
    exact ((enclosed_agrees depthLimit depthLimit _ (.inr hd)).1 t ht).2 (by decide +kernel)
      (.inr (by decide +kernel))
  · have hd := not_tooDeep_of_withinLimit
      (r := parseProgram depthLimit (enclosed "1 / 0 + rate".toList) none) (by decide +kernel)
    have hv : evaluateSource depthLimit "1 / 0 + rate".toList .empty =
        .error (Fault.of (.unbound "rate")) := by decide +kernel
    obtain ⟨t, ht, -⟩ := exists_ok_of_map (r := parseExpression depthLimit "1 / 0 + rate".toList)
      (f := Tree.height) (b := 3) (by decide +kernel)
    rw [((enclosed_agrees depthLimit depthLimit _ (.inr hd)).1 t ht).2 (by decide +kernel)
      (.inr (by decide +kernel)), hv]
    rfl
  · have hd := not_tooDeep_of_withinLimit
      (r := parseProgram depthLimit (enclosed "1 + 2.5.1)".toList) none) (by decide +kernel)
    have hf : ((parseExpression depthLimit "1 + 2.5.1)".toList).map fun _ => ()).mapError
        Fault.cause = .error (.malformedNumber "2.5.1") := by decide +kernel
    rcases hp : parseExpression depthLimit "1 + 2.5.1)".toList with f | t
    · rw [hp] at hf
      have hc : f.cause = .malformedNumber "2.5.1" := Except.error.inj hf
      rw [← hc]
      exact (enclosed_agrees depthLimit depthLimit _ (.inr hd)).2 f hp (by rw [hc]; rfl) _
    · rw [hp] at hf
      cases hf

end BlockCalc
