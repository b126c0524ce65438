import BlockCalc.Proofs.Number.Numeral
import BlockCalc.Proofs.Token.Feed

/-! # Texts and their tokens

`Cursor.Reads text rest ls` says that a text, read before `rest`, gives tokens with the lexemes `ls`
wherever it stands, and that reading then goes on with `rest`. Symbols and blanks do so whatever
follows; names and numerals need something after them that does not go on with them.

* `Cursor.Reads.append`: one text after another.
* `Binary64.spelling`, `Cursor.reads_chars`: the lexemes as which the text of a number is read. -/

namespace BlockCalc

namespace Cursor

/-- Read before `rest`, the text gives tokens with these lexemes, and then what `rest` gives. -/
def Reads (text rest : List Char) (ls : List Lexeme) : Prop :=
  ∀ o, ∃ ts : List Token, ts.map Token.lexeme = ls ∧
    feed ⟨o, text ++ rest⟩ =
      (ts ++ (feed ⟨o + text.length, rest⟩).1, (feed ⟨o + text.length, rest⟩).2)

/-- A feed depends on the next step only. -/
theorem feed_congr {c d : Cursor} (h : c.next = d.next) : c.feed = d.feed := by
  rcases hd : d.next with ⟨e | t, d'⟩
  · rw [feed_of_error (h.trans hd), feed_of_error hd]
  · by_cases ht : t.kind = .endOfInput
    · rw [feed_of_end (h.trans hd) ht, feed_of_end hd ht]
    · rw [feed_of_token (h.trans hd) ht, feed_of_token hd ht]

variable {rest a b : List Char} {ls ms : List Lexeme} {x : Char} {l : Lexeme}

theorem reads_nil (rest : List Char) : Reads [] rest [] :=
  fun _ => ⟨[], rfl, rfl⟩

theorem Reads.append (ha : Reads a (b ++ rest) ls) (hb : Reads b rest ms) :
    Reads (a ++ b) rest (ls ++ ms) := by
  intro o
  obtain ⟨ts, hts, hf⟩ := ha o
  obtain ⟨us, hus, hg⟩ := hb (o + a.length)
  refine ⟨ts ++ us, by rw [List.map_append, hts, hus], ?_⟩
  rw [List.append_assoc, hf, hg, List.length_append, Nat.add_assoc, List.append_assoc]

/-- A text that is read in one step. -/
theorem reads_of_next (text : List Char) (hl : l.kind ≠ .endOfInput)
    (h : ∀ o, next ⟨o, text ++ rest⟩ = (.ok ⟨l, o⟩, ⟨o + text.length, rest⟩)) :
    Reads text rest [l] :=
  fun o => ⟨[⟨l, o⟩], rfl, feed_of_token (h o) hl⟩

theorem reads_symbol (hx : Lexeme.ofSymbol? x = some l) (hb : Reads b rest ms) :
    Reads (x :: b) rest (l :: ms) :=
  (reads_of_next [x] (kind_of_ofSymbol? hx).1 fun o => next_symbol hx o _).append hb

theorem reads_blank (hx : isBlank x = true) (hb : Reads b rest ms) : Reads (x :: b) rest ms := by
  intro o
  obtain ⟨us, hus, hg⟩ := hb (o + 1)
  refine ⟨us, hus, ?_⟩
  rw [List.cons_append, feed_congr (next_blank hx), hg, List.length_cons,
    show o + 1 + b.length = o + (b.length + 1) by omega]

theorem reads_space (hb : Reads b rest ms) : Reads (' ' :: b) rest ms := reads_blank rfl hb

/-- A character that could go on with a name or a numeral. -/
def isWordlike (c : Char) : Bool := isNameChar c || isNumberChar c

theorem Stops.name (h : Stops isWordlike rest) : Stops isNameChar rest := by
  intro c hc
  exact (Bool.or_eq_false_iff.mp (h c hc)).1

theorem Stops.numeral (h : Stops isWordlike rest) : Stops isNumberChar rest := by
  intro c hc
  exact (Bool.or_eq_false_iff.mp (h c hc)).2

theorem reads_name (name : List Char) (hn : isName name = true) (hr : Stops isNameChar rest) :
    Reads name rest [.name (String.ofList name)] :=
  reads_of_next name nofun fun o => next_name hn hr o

theorem reads_numeral {run : List Char} (hn : Numeral run) (hr : Stops isNumberChar rest) :
    Reads run rest [.number (numeralValue run)] :=
  reads_of_next run nofun fun o => next_numeral hn.nonempty hn.chars hn.spells hr o

end Cursor

/-! ### Numbers -/

namespace Binary64

/-- A value that a numeral can have. -/
def isLiteral : Binary64 → Bool
  | infinity s => !s
  | finite s _ => !s
  | nan => false

theorem isLiteral_numeralValue (run : List Char) : (numeralValue run).isLiteral = true := by
  rw [numeralValue, Decimal.toBinary64, nearest]
  split <;> rfl

/-- The lexemes as which the text of a number is read. -/
def spelling (x : Binary64) : List Lexeme :=
  if x.isInfinite then [.name "inf"]
  else if x.isTiny then
    [.number (numeralValue (x.chars.takeWhile isNumberChar)), .name "e", .minus,
      .number (numeralValue ((x.chars.dropWhile isNumberChar).drop 2))]
  else [.number x]

theorem spelling_tiny {x : Binary64} (hi : x.isInfinite = false) (h : x.isTiny = true) :
    x.spelling = [.number (numeralValue (x.chars.takeWhile isNumberChar)), .name "e", .minus,
      .number (numeralValue ((x.chars.dropWhile isNumberChar).drop 2))] := by
  rw [spelling, hi, if_neg Bool.false_ne_true, if_pos h]

theorem spelling_plain {x : Binary64} (hi : x.isInfinite = false) (h : x.isTiny = false) :
    x.spelling = [.number x] := by
  rw [spelling, hi, if_neg Bool.false_ne_true, h, if_neg Bool.false_ne_true]

theorem isPlain_finite (r : Fin rankCount) :
    (finite false r).isPlain = !(finite false r).isTiny := by
  have h : decide (one ≤ units r * 10000) = !decide (units r * 10000 < one) := by
    rw [← decide_not]
    exact decide_eq_decide.mpr Nat.not_lt.symm
  rw [isPlain, isTiny, h, bne, Bool.not_and, Bool.not_not, Bool.not_false, Bool.true_and]

/-- A literal is plain unless it is tiny or infinite. -/
theorem isPlain_iff {x : Binary64} (h : x.isLiteral = true) :
    x.isPlain = true ↔ x.isTiny = false ∧ x.isInfinite = false := by
  rcases x with _ | (_ | _) | ⟨_ | _, r⟩
  · cases h
  · exact ⟨nofun, nofun⟩
  · cases h
  · rw [isPlain_finite, Bool.not_eq_true']
    exact ⟨fun ht => ⟨ht, rfl⟩, fun ht => ht.1⟩
  · cases h

end Binary64

namespace Cursor

open Binary64

theorem reads_tiny {rest : List Char} {r : Fin rankCount} (h : (finite false r).isTiny = true)
    (hr : Stops isWordlike rest) :
    Reads (finite false r).chars rest (finite false r).spelling := by
  obtain ⟨mantissa, power, hc, hm, hp, -⟩ := numeral_chars_tiny h
  have hstop : Stops isNumberChar ('e' :: '-' :: power) := stops_cons rfl
  have h1 : (finite false r).chars.takeWhile isNumberChar = mantissa := by
    rw [hc, takeWhile_append_stops hm.chars hstop]
  have h2 : ((finite false r).chars.dropWhile isNumberChar).drop 2 = power := by
    have := skip_append_stops 0 mantissa hm.chars hstop
    rw [hc]
    exact congrArg (fun c => c.rest.drop 2) this
  have he : Reads ['e'] ('-' :: power ++ rest) [.name "e"] :=
    reads_name ['e'] rfl (stops_cons rfl)
  rw [spelling_tiny rfl h, h1, h2, hc]
  exact (reads_numeral hm (stops_cons rfl)).append (he.append
    (reads_symbol rfl (reads_numeral hp hr.numeral)))

/-- **The text of a literal is read as its spelling.** -/
theorem reads_chars {rest : List Char} (hr : Stops isWordlike rest) :
    ∀ x : Binary64, x.isLiteral = true → Reads x.chars rest x.spelling
  | infinity false, _ => reads_name ['i', 'n', 'f'] rfl hr.name
  | finite false r, _ => by
    rcases ht : (finite false r).isTiny with _ | _
    · obtain ⟨hn, hv⟩ := numeral_chars (r := r) (by rw [isPlain_finite, ht]; rfl)
      have h := reads_numeral hn hr.numeral
      rw [hv] at h
      rw [spelling_plain rfl ht]
      exact h
    · exact reads_tiny ht hr

end Cursor

end BlockCalc
