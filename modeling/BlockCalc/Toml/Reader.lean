import BlockCalc.Location
import BlockCalc.Toml.Scalar

/-! # Reading TOML

A document is a sequence of statements, one on a line: a key with its value, a header that opens a
table, or a header that opens one more table of an array. Keys may be dotted. No value is ever
replaced: a key gets a value once, a table has one header, and what an inline table or an array
holds is closed. `Toml.read` gives the table of a document; it fails if the text is malformed, if
its values are nested beyond a depth limit, or if a number has too many digits. What is wrong with a
malformed text, and where, is said by `Toml.complaint`. -/

namespace BlockCalc

/-- An action on what is left of a document. -/
abbrev TomlReader := StateT (List Char) (Except TomlStop)

namespace Toml

/-! ### Layout -/

/-- Space within a line. -/
def isSpace (c : Char) : Bool := c == ' ' || c == '\t'

/-- Control characters, which stand nowhere; the tab is none of them. -/
def isControl (c : Char) : Bool := (c.toNat < 32 && c != '\t') || c.toNat == 127

/-- Refuses the document at a place, by what is left of it there. -/
def wrong (problem : String) (rest : List Char) : Except TomlStop α :=
  .error (.malformed problem rest.length)

/-- Refuses the document where it stands. -/
def refuse (problem : String) : TomlReader α := fun cs => wrong problem cs

/-- The value that comes next, if there is one. -/
def require (problem : String) (found : Option (α × List Char)) : TomlReader α :=
  match found with
  | some (a, rest) => do
    set rest
    return a
  | none => refuse problem

/-- Passes over space. -/
def skipSpace : TomlReader Unit := modify (·.dropWhile isSpace)

/-- Takes a given character, if it comes next. -/
def accept (c : Char) : TomlReader Bool := do
  match ← get with
  | x :: rest =>
    if x = c then
      set rest
      return true
    else return false
  | [] => return false

/-- Takes a given character, which has to come next. -/
def expect (c : Char) (problem : String) : TomlReader Unit := do
  if ← accept c then return () else refuse problem

/-- Refuses a part of what is left if there is a character in it that stands nowhere. -/
def clean (isBad : Char → Bool) (part cs : List Char) : Except TomlStop Unit :=
  if part.any isBad then
    let rest := cs.dropWhile (!isBad ·)
    wrong ("Found invalid character " ++ quoted (String.ofList (rest.take 1))) rest
  else .ok ()

/-- What follows a comment, if one comes next. -/
def afterComment : List Char → Except TomlStop (List Char)
  | '#' :: r => do
    clean isControl (r.takeWhile (· != '\n')) r
    return r.dropWhile (· != '\n')
  | cs => .ok cs

/-- What follows spaces, ends of lines and comments. -/
def afterLayout (comment : Bool) : List Char → Except TomlStop (List Char)
  | [] => .ok []
  | c :: r =>
    if c == '\n' then afterLayout false r
    else if comment then do
      clean isControl [c] (c :: r)
      afterLayout true r
    else if isSpace c then afterLayout false r
    else if c == '#' then afterLayout true r
    else .ok (c :: r)

/-- Passes over a comment. -/
def skipComment : TomlReader Unit := fun cs => return ((), ← afterComment cs)

/-- Passes over spaces, ends of lines and comments. -/
def skipLayout : TomlReader Unit := fun cs => return ((), ← afterLayout false cs)

/-! ### Texts -/

/-- The character of an escape of one letter. -/
def escape? : Char → Option Char
  | 'b' => some (Char.ofNat 8)
  | 't' => some '\t'
  | 'n' => some '\n'
  | 'f' => some (Char.ofNat 12)
  | 'r' => some '\r'
  | '"' => some '"'
  | '\\' => some '\\'
  | _ => none

/-- The character with a given code point, which is spelled right before the rest. -/
def codePoint (digits rest : List Char) : Except TomlStop Char :=
  let n := ofDigits 16 digits
  if !digits.all isHex then wrong "Invalid hex value" (digits ++ rest)
  else if n < 0xd800 || (0xdfff < n && n < 0x110000) then .ok (Char.ofNat n)
  else wrong "Escaped character is not a Unicode scalar value" rest

/-- What is wrong with a backslash before a character that it does not go with. -/
def strayBackslash : String := "Unescaped '\\' in a string"

/-- The character of an escape of one letter, which stands right before the rest. -/
def escaped (letter : Char) (rest : List Char) : Except TomlStop Char :=
  match escape? letter with
  | some x => .ok x
  | none => wrong strayBackslash rest

/-- What is wrong with a character that stands in no text. -/
def illegalCharacter (c : Char) : String := "Illegal character " ++ quoted (String.singleton c)

/-- What follows the opening quote of a text on one line, up to its closing quote. -/
def basicText (acc : List Char) : List Char → Except TomlStop (List Char × List Char)
  | '"' :: r => .ok (acc.reverse, r)
  | '\\' :: 'u' :: a :: b :: c :: d :: r => do
    let x ← codePoint [a, b, c, d] r
    basicText (x :: acc) r
  | '\\' :: 'U' :: a :: b :: c :: d :: e :: f :: g :: h :: r => do
    let x ← codePoint [a, b, c, d, e, f, g, h] r
    basicText (x :: acc) r
  | '\\' :: 'u' :: r => wrong "Invalid hex value" r
  | '\\' :: 'U' :: r => wrong "Invalid hex value" r
  | '\\' :: c :: r => do
    let x ← escaped c r
    basicText (x :: acc) r
  | ['\\'] => wrong strayBackslash []
  | c :: r => if isControl c then wrong (illegalCharacter c) (c :: r) else basicText (c :: acc) r
  | [] => wrong "Unterminated string" []

/-- Where the reader of a text of many lines stands: in the text, behind a backslash that ends a
line, or before the next line that is not blank. -/
inductive Gap
  | none
  | line
  | blank
deriving DecidableEq, Repr

/-- What follows the opening quotes of a text of many lines, up to its closing quotes. -/
def basicLines (acc : List Char) : Gap → List Char → Except TomlStop (List Char × List Char)
  | _, [] => wrong "Unterminated string" []
  | .line, ' ' :: r => basicLines acc .line r
  | .line, '\t' :: r => basicLines acc .line r
  | .line, '\n' :: r => basicLines acc .blank r
  | .line, cs => wrong strayBackslash cs
  | .blank, ' ' :: r => basicLines acc .blank r
  | .blank, '\t' :: r => basicLines acc .blank r
  | .blank, '\n' :: r => basicLines acc .blank r
  | _, '"' :: '"' :: '"' :: r => .ok (acc.reverse, r)
  | _, '\\' :: ' ' :: r => basicLines acc .line r
  | _, '\\' :: '\t' :: r => basicLines acc .line r
  | _, '\\' :: '\n' :: r => basicLines acc .blank r
  | _, '\\' :: 'u' :: a :: b :: c :: d :: r => do
    let x ← codePoint [a, b, c, d] r
    basicLines (x :: acc) .none r
  | _, '\\' :: 'U' :: a :: b :: c :: d :: e :: f :: g :: h :: r => do
    let x ← codePoint [a, b, c, d, e, f, g, h] r
    basicLines (x :: acc) .none r
  | _, '\\' :: 'u' :: r => wrong "Invalid hex value" r
  | _, '\\' :: 'U' :: r => wrong "Invalid hex value" r
  | _, '\\' :: c :: r => do
    let x ← escaped c r
    basicLines (x :: acc) .none r
  | _, ['\\'] => wrong strayBackslash []
  | _, c :: r =>
    if isControl c && c != '\n' then wrong (illegalCharacter c) (c :: r)
    else basicLines (c :: acc) .none r

/-- The single quote. -/
abbrev tick : Char := Char.ofNat 39

/-- What is wrong with a literal text that does not end. -/
def missingTicks (count : Nat) : String :=
  "Expected " ++ quoted (String.ofList (List.replicate count tick))

/-- What follows the opening quote of a literal text, up to its closing quote. -/
def literalText (cs : List Char) : Except TomlStop (List Char × List Char) :=
  let body := cs.takeWhile (· != tick)
  match cs.dropWhile (· != tick) with
  | _ :: r => do
    clean isControl body cs
    return (body, r)
  | [] => wrong (missingTicks 1) []

/-- What stands before three single quotes, and what follows them. -/
def cutAtTicks? (acc : List Char) : List Char → Option (List Char × List Char)
  | c :: r =>
    if c = tick && r.take 2 == [tick, tick] then some (acc.reverse, r.drop 2)
    else cutAtTicks? (c :: acc) r
  | [] => none

/-- What follows the opening quotes of a literal text of many lines, up to its closing quotes. -/
def literalLines (cs : List Char) : Except TomlStop (List Char × List Char) :=
  match cutAtTicks? [] cs with
  | some (body, r) => do
    clean (fun c => isControl c && c != '\n') body cs
    return (body, r)
  | none => wrong (missingTicks 3) []

/-- Up to two quotes before the closing ones belong to the text. -/
def withExtraQuotes (quote : Char) : List Char × List Char → List Char × List Char
  | (body, c :: d :: r) =>
    if c = quote then
      if d = quote then (body ++ [quote, quote], r) else (body ++ [quote], d :: r)
    else (body, c :: d :: r)
  | (body, [c]) => if c = quote then (body ++ [quote], []) else (body, [c])
  | (body, []) => (body, [])

/-- A line feed right after the opening quotes is not part of the text. -/
def dropFirstLine : List Char → List Char
  | '\n' :: r => r
  | r => r

/-- A text in quotes of any of the four forms; the first quote comes next. -/
def quotedText : TomlReader String
  | '"' :: r => do
    let (body, rest) ←
      if r.take 2 == ['"', '"'] then
        (basicLines [] .none (dropFirstLine (r.drop 2))).map (withExtraQuotes '"')
      else basicText [] r
    return (String.ofList body, rest)
  | cs => do
    let r := cs.drop 1
    let (body, rest) ←
      if r.take 2 == [tick, tick] then
        (literalLines (dropFirstLine (r.drop 2))).map (withExtraQuotes tick)
      else literalText r
    return (String.ofList body, rest)

/-! ### Keys -/

/-- Characters of a key that is not in quotes. -/
def isBare (c : Char) : Bool :=
  isDecimal c || ('a' ≤ c && c ≤ 'z') || ('A' ≤ c && c ≤ 'Z') || c == '-' || c == '_'

/-- Characters with which a key starts. -/
def isKeyStart (c : Char) : Bool := isBare c || c == '"' || c == tick

/-- One part of a key: bare, or a text on one line. -/
def keyPart : TomlReader String := fun cs =>
  match cs with
  | [] => wrong "Invalid initial character for a key part" cs
  | c :: r =>
    if isBare c then .ok (String.ofList (cs.takeWhile isBare), cs.dropWhile isBare)
    else if c = tick then (literalText r).map fun (s, rest) => (String.ofList s, rest)
    else if c = '"' then (basicText [] r).map fun (s, rest) => (String.ofList s, rest)
    else wrong "Invalid initial character for a key part" cs

/-- The parts of a key that follow the first; there are no more of them than characters. -/
def keyTail : Nat → TomlReader (List String)
  | 0 => return []
  | n + 1 => do
    skipSpace
    if ← accept '.' then
      skipSpace
      let part ← keyPart
      return part :: (← keyTail n)
    else return []

/-- A key of one or more parts. -/
def key : TomlReader (List String) := do
  let first ← keyPart
  return first :: (← keyTail (← get).length)

/-- A key with its value. -/
def pair (value : TomlReader Toml) : TomlReader (List String × Toml) := do
  let k ← key
  expect '=' "Expected '=' after a key in a key/value pair"
  skipSpace
  return (k, ← value)

/-! ### Tables -/

/-- What is wrong with a key that already has a value. -/
def overwriting : String := "Cannot overwrite a value"

/-- Changes the table that a path of keys leads to; tables on the way are made where there are none.
If `lists` is set, the path goes through the last table of an array. -/
def modifyAt (lists : Bool) (f : List (String × Toml) → Except String (List (String × Toml))) :
    List String → List (String × Toml) → Except String (List (String × Toml))
  | [], entries => f entries
  | k :: ks, entries =>
    match find? k entries with
    | none => (modifyAt lists f ks []).map fun t => put k (.table t) entries
    | some (.table t) => (modifyAt lists f ks t).map fun t => put k (.table t) entries
    | some (.array items) =>
      match lists, items.getLast? with
      | true, some (.table t) =>
        (modifyAt lists f ks t).map fun t => put k (.array (items.dropLast ++ [.table t])) entries
      | _, _ => .error overwriting
    | some _ => .error overwriting

/-- Gives a new key its value. -/
def putNew (problem : String) (k : String) (v : Toml) (entries : List (String × Toml)) :
    Except String (List (String × Toml)) :=
  match find? k entries with
  | some _ => .error problem
  | none => .ok (put k v entries)

/-- Opens one more table of an array. -/
def pushTable (k : String) (entries : List (String × Toml)) :
    Except String (List (String × Toml)) :=
  match find? k entries with
  | none => .ok (put k (.array [.table []]) entries)
  | some (.array items) => .ok (put k (.array (items ++ [.table []])) entries)
  | some _ => .error overwriting

/-- An array or a table written as a value. -/
def isCompound : Toml → Bool
  | array _ => true
  | table _ => true
  | _ => false

/-- Some closed path is the path itself or leads to it. -/
def isClosed (closed : List (List String)) (path : List String) : Bool :=
  closed.any fun c => c.isPrefixOf path

/-- A path of keys as complaints show it. -/
def pathText : List String → String
  | [k] => "(" ++ quoted k ++ ",)"
  | ks => "(" ++ ", ".intercalate (ks.map quoted) ++ ")"

/-- What is wrong with a key in a closed table. -/
def frozen (path : List String) : String := "Cannot mutate immutable namespace " ++ pathText path

/-- Goes on with a change, which has to be possible. -/
def proceed (changed : Except String α) : TomlReader α :=
  match changed with
  | .ok a => return a
  | .error problem => refuse problem

/-! ### Values -/

/-- The items of an array and its closing bracket. -/
def arrayItems (item : TomlReader Toml) : Nat → TomlReader (List Toml)
  | 0 => refuse "Unclosed array"
  | n + 1 => do
    skipLayout
    if ← accept ']' then return []
    let v ← item
    skipLayout
    if ← accept ']' then return [v]
    expect ',' "Unclosed array"
    return v :: (← arrayItems item n)

/-- The entries of an inline table and its closing brace, after those that were read. -/
def inlineEntries (entry : TomlReader (List String × Toml)) :
    Nat → List (List String) → List (String × Toml) → TomlReader (List (String × Toml))
  | 0, _, _ => refuse "Unclosed inline table"
  | n + 1, closed, entries => do
    let (path, v) ← entry
    if isClosed closed path then refuse (frozen path)
    let last := path.getLastD ""
    let put := putNew ("Duplicate inline table key " ++ quoted last) last v
    let entries ← proceed (modifyAt false put path.dropLast entries)
    skipSpace
    if ← accept '\x7d' then return entries
    expect ',' "Unclosed inline table"
    skipSpace
    inlineEntries entry n (if v.isCompound then path :: closed else closed) entries

/-- Takes a fixed word. -/
def word? (w : String) (cs : List Char) : Option (List Char) :=
  if w.toList.isPrefixOf cs then some (cs.drop w.length) else none

/-- What is wrong where a value should be. -/
def noValue : String := "Invalid value"

/-- A number; in base ten it may not have too many digits. -/
def number (cs : List Char) : TomlReader Toml :=
  match readNumber? cs, readRadix? cs with
  | some (.integer n, r), none =>
    if isOversized n then throw .oversized else require noValue (some (.integer n, r))
  | found, _ => require noValue found

/-- A value without parts: a truth value, a date, a time or a number. -/
def simpleValue : TomlReader Toml := do
  let cs ← get
  match word? "true" cs, word? "false" cs, readMoment? cs, readTime? cs with
  | some r, _, _, _ => require noValue (some (.boolean true, r))
  | _, some r, _, _ => require noValue (some (.boolean false, r))
  | _, _, some (d, v, r), _ =>
    require "Invalid date or datetime" (if d.isValid then some (v, r) else none)
  | _, _, _, some (t, r) => require noValue (some (.time t, r))
  | _, _, _, _ => number cs

/-- A value nested at most as deep as the limit allows. -/
def value : Nat → TomlReader Toml
  | 0 => throw .depth
  | d + 1 => do
    let cs ← get
    match cs with
    | [] => refuse noValue
    | c :: r =>
      if c == '"' || c == tick then return .text (← quotedText)
      else if c == '[' then
        set r
        return .array (← arrayItems (value d) cs.length)
      else if c == '\x7b' then
        set r
        skipSpace
        if ← accept '\x7d' then return .table []
        return .table (← inlineEntries (pair (value d)) cs.length [] [])
      else simpleValue

/-! ### Documents -/

/-- A document as far as it was read: its entries, the path of the last header, the tables that may
not be opened again, those that may not be from the next header on, and the values that are
closed. -/
structure Document where
  entries : List (String × Toml)
  header : List String
  opened : List (List String)
  pending : List (List String)
  closed : List (List String)

namespace Document

/-- The document before its first statement. -/
def start : Document := ⟨[], [], [], [], []⟩

/-- The proper beginnings of a path, the empty one left out. -/
def beginnings (path : List String) : List (List String) :=
  (List.range (path.length - 1)).map fun i => path.take (i + 1)

/-- Gives a key its value in the table of the last header. -/
def assign (doc : Document) (path : List String) (v : Toml) : Except String Document :=
  let onTheWay := (beginnings path).map (doc.header ++ ·)
  let parent := doc.header ++ path.dropLast
  match onTheWay.find? doc.opened.contains with
  | some opened => .error ("Cannot redefine namespace " ++ pathText opened)
  | none =>
    if isClosed doc.closed parent then .error (frozen parent)
    else
      (modifyAt true (putNew overwriting (path.getLastD "") v) parent doc.entries).map
        fun entries =>
          { doc with
            entries := entries
            pending := onTheWay ++ doc.pending
            closed := if v.isCompound then (doc.header ++ path) :: doc.closed else doc.closed }

/-- Opens a table. -/
def openTable (doc : Document) (path : List String) : Except String Document :=
  let opened := doc.pending ++ doc.opened
  if opened.contains path || isClosed doc.closed path then
    .error ("Cannot declare " ++ pathText path ++ " twice")
  else
    (modifyAt true .ok path doc.entries).map fun entries =>
      { doc with entries := entries, header := path, opened := path :: opened, pending := [] }

/-- Opens one more table of an array; what was said of the tables before it does not hold for the
new one. -/
def openItem (doc : Document) (path : List String) : Except String Document :=
  let elsewhere := fun (p : List String) => !path.isPrefixOf p
  let opened := (doc.pending ++ doc.opened).filter elsewhere
  if isClosed doc.closed path then .error (frozen path)
  else
    (modifyAt true (pushTable (path.getLastD "")) path.dropLast doc.entries).map fun entries =>
      { doc with
        entries := entries
        header := path
        opened := path :: opened
        pending := []
        closed := doc.closed.filter elsewhere }

end Document

/-- A header; its opening bracket comes next. -/
def header (doc : Document) : TomlReader Document := do
  modify (·.drop 1)
  if ← accept '[' then
    skipSpace
    let doc ← proceed (doc.openItem (← key))
    require "Expected ']]' at the end of an array declaration" ((word? "]]" (← get)).map (doc, ·))
  else
    skipSpace
    let doc ← proceed (doc.openTable (← key))
    expect ']' "Expected ']' at the end of a table declaration"
    return doc

/-- One statement, of which the first character is given. -/
def statement (limit : Nat) (first : Char) (doc : Document) : TomlReader Document :=
  if isKeyStart first then do
    let (path, v) ← pair (value limit)
    proceed (doc.assign path v)
  else if first == '[' then header doc
  else if first == '#' || first == '\n' then return doc
  else refuse "Invalid statement"

/-- The statements of a document; there are no more of them than characters. -/
def statements (limit : Nat) : Nat → Document → TomlReader Document
  | 0, doc => return doc
  | n + 1, doc => do
    skipSpace
    match ← get with
    | [] => return doc
    | c :: _ =>
      let doc ← statement limit c doc
      skipSpace
      skipComment
      match ← get with
      | [] => return doc
      | '\n' :: r =>
        set r
        statements limit n doc
      | _ => refuse "Expected newline or end of document after a statement"

/-- The table of a document. -/
def read (limit : Nat) (text : List Char) : Except TomlStop (List (String × Toml)) :=
  match (statements limit (text.length + 1) Document.start).run text with
  | .ok (doc, _) => .ok doc.entries
  | .error e => .error e

/-- What is wrong with a text, and where. -/
def complaint (text : List Char) (problem : String) (left : Nat) : String :=
  let l := Location.ofOffset text (text.length - left) none
  let place := if left = 0 then "end of document"
    else "line " ++ toString l.line ++ ", column " ++ toString l.column
  problem ++ " (at " ++ place ++ ")"

end Toml

end BlockCalc
