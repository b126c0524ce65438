import BlockCalc.Proofs.Parsing

/-! # What parsing accepts and where it refuses

Three things may come of parsing within the depth limit, and `Verdict` lists them: a tree of all the
tokens, a refused token, or the first fault of the text. Which one it is depends on the tokens and on
the grammar alone, although tokens are read one by one and a fault of the text may come after a token
that is refused.

* `parse_accepts_grammar`: parsing gives a tree exactly if the text has tokens and the grammar gives
  them that tree; it is the only one.
* `parse_reports_first`: a refused token is the first that no sentence has in its place, every kind
  that was expected could stand there, and a fault of the text is reported exactly if all tokens
  before it start a sentence. -/

namespace BlockCalc

open Grammar

/-- What may come of parsing a source text, apart from the depth limit. -/
inductive Verdict (sentence : List Token → Tree → Prop) (source : List Char)
    (file : Option String) : Except Fault Tree → Prop
  | accepted {ts t} : tokenize source = .ok ts → sentence ts t →
      Verdict sentence source file (.ok t)
  | refused (us) {t rest x} : (Cursor.start source).feed.1 = us ++ t :: rest → x.kinds ≠ [] →
      ¬ Viable sentence (kinds us ++ [t.kind]) →
      (∀ k ∈ x.kinds, Viable sentence (kinds us ++ [k])) →
      Verdict sentence source file
        (.error ⟨.unexpectedToken x t.kind, some (Location.ofOffset source t.offset file)⟩)
  | faulty {e} : (Cursor.start source).feed.2 = some e →
      Viable sentence (kinds (Cursor.start source).feed.1) →
      Verdict sentence source file (.error (e.locate source file))

/-- Whether parsing ended within the depth limit. -/
def withinLimit : Except Fault Tree → Bool
  | .ok _ => true
  | .error f => f.cause != .nestingTooDeep

theorem not_tooDeep_of_withinLimit {r : Except Fault Tree} (h : withinLimit r = true) :
    ¬ TooDeep r := by
  rintro ⟨l, rfl⟩
  cases h

theorem not_tooDeep_of_cause {r : Except Fault Tree} {f : Fault} (hr : r = .error f)
    (hf : f.cause ≠ .nestingTooDeep) : ¬ TooDeep r := by
  rintro ⟨l, h⟩
  cases hr.symm.trans h
  exact hf rfl

/-- An action that ends as the sentences of a grammar say has a verdict on every source text. -/
theorem Parse.verdict {x : Parse Tree} {σ : List Part} {sentence : List Token → Tree → Prop}
    {source : List Char} {file : Option String} (hc : Covers σ sentence)
    (he : Parse.Ends σ sentence (Cursor.start source).feed.1 (Cursor.start source).feed.2
      (x.run (TokenStream.start source)).1)
    (hd : ¬ TooDeep (x.onSource source file)) :
    Verdict sentence source file (x.onSource source file) := by
  unfold Parse.onSource at hd ⊢
  generalize x.run (TokenStream.start source) = r at he hd ⊢
  obtain ⟨r, s⟩ := r
  dsimp only at he
  cases he with
  | ok hn hs => exact .accepted (Cursor.tokenize_eq_ok_iff.mpr (Prod.ext rfl hn)) hs
  | refused us h1 h2 h3 h4 =>
    refine .refused us h1 h2 (fun hv => ?_) fun k hk => hc.viable_iff.mpr (h4 k hk)
    have := hc.viable_iff.mp hv
    rw [h3] at this
    cases this
  | faulty h1 h2 => exact .faulty h1 (hc.viable_iff.mpr h2)
  | deep => exact absurd ⟨_, rfl⟩ hd

theorem verdict_program {limit : Nat} {source : List Char} {file : Option String}
    (h : ¬ TooDeep (parseProgram limit source file)) :
    Verdict Program source file (parseProgram limit source file) :=
  Parse.verdict covers_program (ends_program limit source) h

theorem verdict_soleExpression {limit : Nat} {source : List Char}
    (h : ¬ TooDeep (parseExpression limit source)) :
    Verdict SoleExpression source none (parseExpression limit source) :=
  Parse.verdict covers_soleExpression (ends_soleExpression limit source) h

/-! ### Acceptance -/

section Verdict

variable {sentence : List Token → Tree → Prop} {source : List Char} {file : Option String}
  {r : Except Fault Tree}

theorem viable_token {us ts vs : List Token} {t : Token} (h : Viable sentence (kinds ts))
    (hts : ts = us ++ t :: vs) : Viable sentence (kinds us ++ [t.kind]) := by
  rw [hts, show us ++ t :: vs = us ++ [t] ++ vs by simp, kinds_append, kinds_append] at h
  exact h.of_append

theorem Verdict.ok_iff (h : Verdict sentence source file r)
    (hu : ∀ {ts t u}, sentence ts t → sentence ts u → t = u) {t : Tree} :
    r = .ok t ↔ ∃ ts, tokenize source = .ok ts ∧ sentence ts t := by
  constructor
  · rintro rfl
    cases h with
    | accepted ht hs => exact ⟨_, ht, hs⟩
  · rintro ⟨ts, ht, hs⟩
    have hf := Cursor.tokenize_eq_ok_iff.mp ht
    cases h with
    | accepted ht' hs' =>
      obtain rfl := Except.ok.inj (ht.symm.trans ht')
      rw [hu hs hs']
    | @refused us v rest x h1 _ h3 _ =>
      -- The tokens are a sentence, so each beginning of them starts one.
      rw [hf] at h1
      exact absurd (viable_token ⟨ts, t, hs, List.prefix_rfl⟩ h1) h3
    | faulty h1 _ =>
      rw [hf] at h1
      cases h1

theorem Verdict.exists_ok_same_iff (h : Verdict sentence source file r)
    (hu : ∀ {ts t u}, sentence ts t → sentence ts u → t = u) (t : Tree) :
    (∃ u, r = .ok u ∧ u.same t = true) ↔
      ∃ ts u, tokenize source = .ok ts ∧ sentence ts u ∧ u.same t = true := by
  constructor
  · rintro ⟨u, hr, hs⟩
    obtain ⟨ts, ht, hd⟩ := (h.ok_iff hu).mp hr
    exact ⟨ts, u, ht, hd, hs⟩
  · rintro ⟨ts, u, ht, hd, hs⟩
    exact ⟨u, (h.ok_iff hu).mpr ⟨ts, ht, hd⟩, hs⟩

theorem Verdict.ne_ok_of_fault (h : Verdict sentence source file r) {e : SourceFault}
    (he : tokenize source = .error e) (t : Tree) : r ≠ .ok t := by
  rintro rfl
  cases h with
  | accepted ht _ =>
    rw [he] at ht
    cases ht

end Verdict

/-- **The parser accepts the sentences of the grammar and nothing else.** Within the depth limit a
text is parsed to a tree equal to `t` exactly if its tokens are a sentence whose tree is equal to
`t`. A list of tokens has one tree at most, and no text with a fault is accepted. -/
theorem parse_accepts_grammar (limit : Nat) (source : List Char) (file : Option String) :
    (¬ TooDeep (parseProgram limit source file) →
      (∀ t, (∃ u, parseProgram limit source file = .ok u ∧ u.same t = true) ↔
        ∃ ts u, tokenize source = .ok ts ∧ Program ts u ∧ u.same t = true) ∧
      ∀ t, parseProgram limit source file = .ok t ↔
        ∃ ts, tokenize source = .ok ts ∧ Program ts t) ∧
    (¬ TooDeep (parseExpression limit source) →
      (∀ t, (∃ u, parseExpression limit source = .ok u ∧ u.same t = true) ↔
        ∃ ts u, tokenize source = .ok ts ∧ SoleExpression ts u ∧ u.same t = true) ∧
      ∀ t, parseExpression limit source = .ok t ↔
        ∃ ts, tokenize source = .ok ts ∧ SoleExpression ts t) ∧
    (∀ ts t u, Program ts t → Program ts u → t = u) ∧
    (∀ ts t u, SoleExpression ts t → SoleExpression ts u → t = u) ∧
    ∀ e, tokenize source = .error e →
      ∀ t, parseProgram limit source file ≠ .ok t ∧ parseExpression limit source ≠ .ok t := by
  refine ⟨fun h => ?_, fun h => ?_, fun _ _ _ => Program.unique, fun _ _ _ => SoleExpression.unique,
    fun e he t => ⟨fun ht => ?_, fun ht => ?_⟩⟩
  · have hv := verdict_program h
    exact ⟨hv.exists_ok_same_iff Program.unique, fun t => hv.ok_iff Program.unique⟩
  · have hv := verdict_soleExpression h
    exact ⟨hv.exists_ok_same_iff SoleExpression.unique, fun t => hv.ok_iff SoleExpression.unique⟩
  · exact (verdict_program (by rw [ht]; nofun)).ne_ok_of_fault he t ht
  · exact (verdict_soleExpression (by rw [ht]; nofun)).ne_ok_of_fault he t ht

/-- An assignment in braces is a program and no expression. -/
theorem parse_accepts_grammar_braces :
    (∃ t, parseProgram 9 "{x = 1 - 2 - y}".toList none = .ok t) ∧
    (∃ ts t, tokenize "{x = 1 - 2 - y}".toList = .ok ts ∧ Program ts t) ∧
    ¬ ∃ ts t, tokenize "{x = 1 - 2 - y}".toList = .ok ts ∧ SoleExpression ts t := by
  have h := parse_accepts_grammar 9 "{x = 1 - 2 - y}".toList none
  have hp : (parseProgram 9 "{x = 1 - 2 - y}".toList none).toOption.isSome = true := by
    decide +kernel
  have he : (parseExpression 9 "{x = 1 - 2 - y}".toList).toOption.isSome = false := by
    decide +kernel
  rcases hr : parseProgram 9 "{x = 1 - 2 - y}".toList none with f | t
  · rw [hr] at hp
    cases hp
  · obtain ⟨ts, hts, ht⟩ := ((h.1 (by rw [hr]; nofun)).2 t).mp hr
    refine ⟨⟨t, rfl⟩, ⟨ts, t, hts, ht⟩, ?_⟩
    rintro ⟨us, u, hus, hu⟩
    have hd : withinLimit (parseExpression 9 "{x = 1 - 2 - y}".toList) = true := by decide +kernel
    have := ((h.2.1 (not_tooDeep_of_withinLimit hd)).2 u).mpr ⟨us, hus, hu⟩
    rw [this] at he
    cases he

/-! ### Refusal -/

/-- Faults are reported at the first possible place. -/
structure ReportsFirst (sentence : List Token → Tree → Prop) (source : List Char)
    (file : Option String) (r : Except Fault Tree) : Prop where
  /-- A refused token is the first that no sentence has in its place, and each kind that was
  expected could stand there. -/
  token : ∀ x k l, r = .error ⟨.unexpectedToken x k, l⟩ →
    ∃ i t, (Cursor.start source).feed.1[i]? = some t ∧
      Viable sentence (kinds ((Cursor.start source).feed.1.take i)) ∧
      ¬ Viable sentence (kinds ((Cursor.start source).feed.1.take (i + 1))) ∧
      k = t.kind ∧ l = some (Location.ofOffset source t.offset file) ∧
      ∀ j ∈ x.kinds, Viable sentence (kinds ((Cursor.start source).feed.1.take i) ++ [j])
  /-- The first fault of the text is reported exactly if the tokens before it start a sentence;
  otherwise one of these is refused. -/
  fault : ∀ ts e, (Cursor.start source).feed = (ts, some e) →
    (r = .error (e.locate source file) ↔ Viable sentence (kinds ts)) ∧
    (¬ Viable sentence (kinds ts) → ∃ (i : Nat) (t : Token) (x : Expected), ts[i]? = some t ∧
      r = .error ⟨.unexpectedToken x t.kind, some (Location.ofOffset source t.offset file)⟩)

section Verdict

variable {sentence : List Token → Tree → Prop} {source : List Char} {file : Option String}
  {r : Except Fault Tree}

theorem locate_ne_refused {e : SourceFault} (h : e.cause.family = .lexical) (x : Expected)
    (k : Kind) (l : Option Location) : e.locate source file ≠ ⟨.unexpectedToken x k, l⟩ := by
  intro he
  have hc : e.cause = .unexpectedToken x k := congrArg Fault.cause he
  rw [hc] at h
  cases h

/-- **A verdict is reported at the first possible place.** -/
theorem Verdict.reportsFirst (h : Verdict sentence source file r) :
    ReportsFirst sentence source file r where
  token x k l hr := by
    cases h with
    | accepted _ _ => cases hr
    | faulty he _ =>
      exact absurd (Except.error.inj hr) (locate_ne_refused (Cursor.family_of_feed he) x k l)
    | @refused us t rest x' h1 h2 h3 h4 =>
      cases hr
      obtain ⟨k, hk⟩ := List.exists_mem_of_ne_nil _ h2
      have hi : (us ++ t :: rest).take us.length = us := List.take_left
      have hj : (us ++ t :: rest).take (us.length + 1) = us ++ [t] := List.take_length_add_append 1
      refine ⟨us.length, t, ?_⟩
      rw [h1, hi, hj, kinds_append]
      exact ⟨by simp, (h4 k hk).of_append, h3, rfl, rfl, h4⟩
  fault ts e hf := by
    have hl := Cursor.family_of_feed (c := Cursor.start source) (e := e) (by rw [hf])
    cases h with
    | accepted ht _ =>
      rw [Cursor.tokenize_eq_ok_iff, hf] at ht
      cases ht
    | faulty he hv =>
      rw [hf] at he hv
      cases he
      exact ⟨⟨fun _ => hv, fun _ => rfl⟩, fun hn => absurd hv hn⟩
    | @refused us t rest x h1 h2 h3 h4 =>
      rw [hf] at h1
      have hn : ¬ Viable sentence (kinds ts) := fun hv => h3 (viable_token hv h1)
      refine ⟨⟨fun hr => ?_, fun hv => absurd hv hn⟩, fun _ => ⟨us.length, t, x, ?_, rfl⟩⟩
      · exact absurd (Except.error.inj hr).symm (locate_ne_refused hl _ _ _)
      · rw [show ts = us ++ t :: rest from h1]
        simp

theorem Verdict.refused_at (h : Verdict sentence source file r) {us rest : List Token} {t : Token}
    (hf : (Cursor.start source).feed.1 = us ++ t :: rest) (hv : Viable sentence (kinds us))
    (hn : ¬ Viable sentence (kinds us ++ [t.kind])) :
    ∃ x, r = .error ⟨.unexpectedToken x t.kind, some (Location.ofOffset source t.offset file)⟩ := by
  have hall : ¬ Viable sentence (kinds (us ++ t :: rest)) := fun hw => hn (viable_token hw rfl)
  cases h with
  | @accepted ts u ht hs =>
    have hts : ts = us ++ t :: rest := by rw [← hf, Cursor.tokenize_eq_ok_iff.mp ht]
    exact absurd ⟨ts, u, hs, List.prefix_rfl⟩ (hts ▸ hall)
  | faulty _ hw => exact absurd hw (hf ▸ hall)
  | @refused us' t' rest' x h1 h2 h3 h4 =>
    rw [h1] at hf
    obtain ⟨k, hk⟩ := List.exists_mem_of_ne_nil _ h2
    have hv' : Viable sentence (kinds us') := (h4 k hk).of_append
    rcases List.append_eq_append_iff.mp hf with ⟨_ | ⟨a, as⟩, h5, h6⟩ | ⟨_ | ⟨a, as⟩, h5, h6⟩
    · cases h6
      exact ⟨x, rfl⟩
    · -- The other token comes earlier, in a beginning that is viable.
      cases h6
      exact absurd (viable_token hv h5) h3
    · cases h6
      exact ⟨x, rfl⟩
    · cases h6
      exact absurd (viable_token hv' h5) hn

end Verdict

/-- **Faults are reported at the first possible place**, and what was expected there could stand
there. -/
theorem parse_reports_first (limit : Nat) (source : List Char) (file : Option String) :
    (¬ TooDeep (parseProgram limit source file) →
      ReportsFirst Program source file (parseProgram limit source file)) ∧
    (¬ TooDeep (parseExpression limit source) →
      ReportsFirst SoleExpression source none (parseExpression limit source)) :=
  ⟨fun h => (verdict_program h).reportsFirst, fun h => (verdict_soleExpression h).reportsFirst⟩

/-- The kind of the token that was refused. -/
def refusedKind? : Except Fault Tree → Option Kind
  | .error ⟨.unexpectedToken _ k, _⟩ => some k
  | _ => none

theorem eq_error_of_refusedKind? {r : Except Fault Tree} {k : Kind} (h : refusedKind? r = some k) :
    ∃ x l, r = .error ⟨.unexpectedToken x k, l⟩ := by
  unfold refusedKind? at h
  split at h
  · cases h
    exact ⟨_, _, rfl⟩
  · cases h

/-- With an operand missing before an unknown symbol, it is the brace in the place of the operand
that is reported. -/
theorem parse_reports_first_operand :
    (∃ i t, (Cursor.start "{x = } $".toList).feed.1[i]? = some t ∧ t.kind = .closeBrace ∧
      Viable Program (kinds ((Cursor.start "{x = } $".toList).feed.1.take i)) ∧
      ¬ Viable Program (kinds ((Cursor.start "{x = } $".toList).feed.1.take (i + 1)))) ∧
    ∃ i t, (Cursor.start "{x = } $".toList).feed.1[i]? = some t ∧ t.kind = .openBrace ∧
      Viable SoleExpression (kinds ((Cursor.start "{x = } $".toList).feed.1.take i)) := by
  have h := parse_reports_first 9 "{x = } $".toList none
  obtain ⟨x, l, hp⟩ := eq_error_of_refusedKind? (k := .closeBrace)
    (r := parseProgram 9 "{x = } $".toList none) (by decide +kernel)
  obtain ⟨y, m, he⟩ := eq_error_of_refusedKind? (k := .openBrace)
    (r := parseExpression 9 "{x = } $".toList) (by decide +kernel)
  obtain ⟨i, t, hi, hv, hn, hk, -⟩ := (h.1 (not_tooDeep_of_cause hp nofun)).token _ _ _ hp
  obtain ⟨j, u, hj, hw, -, hk', -⟩ := (h.2 (not_tooDeep_of_cause he nofun)).token _ _ _ he
  exact ⟨⟨i, t, hi, hk.symm, hv, hn⟩, j, u, hj, hk'.symm, hw⟩

end BlockCalc
