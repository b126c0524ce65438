/-! # Log levels

The five levels of a log record, from the most talkative on. A record is written if its level is at
least that of the log. -/

namespace BlockCalc

/-- The level of a log record. -/
inductive Level
  | debug
  | info
  | warning
  | error
  | critical
deriving DecidableEq, Repr

namespace Level

/-- All levels. -/
def all : List Level := [debug, info, warning, error, critical]

/-- The name of a level. -/
def label : Level → String
  | debug => "DEBUG"
  | info => "INFO"
  | warning => "WARNING"
  | error => "ERROR"
  | critical => "CRITICAL"

/-- The weight of a level. -/
def weight : Level → Nat
  | debug => 10
  | info => 20
  | warning => 30
  | error => 40
  | critical => 50

/-- The upper case of a character where that is ASCII; others are left alone. -/
def upperChar (c : Char) : List Char :=
  if 'a' ≤ c ∧ c ≤ 'z' then [Char.ofNat (c.toNat - 32)]
  else if c = 'ß' then ['S', 'S']
  else if c = 'ı' then ['I']
  else if c = 'ſ' then ['S']
  else if c = 'ﬀ' then ['F', 'F']
  else if c = 'ﬁ' then ['F', 'I']
  else if c = 'ﬂ' then ['F', 'L']
  else if c = 'ﬃ' then ['F', 'F', 'I']
  else if c = 'ﬄ' then ['F', 'F', 'L']
  else if c = 'ﬅ' ∨ c = 'ﬆ' then ['S', 'T']
  else [c]

/-- The level of a name, in which upper and lower case do not matter. -/
def ofName? (s : String) : Option Level :=
  all.find? fun l => l.label.toList == s.toList.flatMap upperChar

theorem ofName?_label (l : Level) : ofName? l.label = some l := by cases l <;> decide

end Level

end BlockCalc
