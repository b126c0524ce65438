import BlockCalc.Number.Text
import BlockCalc.Text.Quoted

/-! # TOML values

The values of a settings file, tables with their keys in the order of the file, and the two texts in
which messages show a value: `Toml.detail` quotes texts and names the parts of a date, `Toml.plain`
writes texts as they are and dates as they are usually written. -/

namespace BlockCalc

/-- A day of the calendar. -/
structure Date where
  year : Nat
  month : Nat
  day : Nat
deriving DecidableEq, Repr

/-- A time of the day. -/
structure Time where
  hour : Nat
  minute : Nat
  second : Nat
  micros : Nat
deriving DecidableEq, Repr

/-- A value. -/
inductive Toml
  | text (s : String)
  | integer (n : Int)
  | float (x : Binary64)
  | boolean (b : Bool)
  | date (d : Date)
  | time (t : Time)
  /-- A day and a time, and the distance from the zero meridian in minutes if it is known. -/
  | moment (d : Date) (t : Time) (offset : Option Int)
  | array (items : List Toml)
  | table (entries : List (String × Toml))

/-- Why a document cannot be read, or a value not be shown. -/
inductive TomlStop
  /-- The text is no document: what is wrong, and how many characters are left from there on. -/
  | malformed (problem : String) (left : Nat)
  /-- Values are nested beyond a limit. -/
  | depth
  /-- A whole number has too many decimal digits. -/
  | oversized
deriving DecidableEq, Repr

/-! ### Calendar -/

namespace Date

/-- The length of a month. -/
def monthLength (year month : Nat) : Nat :=
  if month = 2 then
    if year % 4 = 0 ∧ (year % 100 ≠ 0 ∨ year % 400 = 0) then 29 else 28
  else if month = 4 ∨ month = 6 ∨ month = 9 ∨ month = 11 then 30
  else 31

/-- A day that exists; there is no year zero. -/
def isValid (d : Date) : Bool :=
  1 ≤ d.year && 1 ≤ d.month && d.month ≤ 12 && 1 ≤ d.day && d.day ≤ monthLength d.year d.month

end Date

/-- A number with zeros in front of it up to a width. -/
def zeroPadded (width n : Nat) : String :=
  let ds := Nat.toDigits 10 n
  String.ofList (zeros (width - ds.length) ++ ds)

namespace Date

/-- A day as it is usually written. -/
def plain (d : Date) : String :=
  zeroPadded 4 d.year ++ "-" ++ zeroPadded 2 d.month ++ "-" ++ zeroPadded 2 d.day

/-- The parts of a day. -/
def parts (d : Date) : List String := [toString d.year, toString d.month, toString d.day]

end Date

namespace Time

/-- A time as it is usually written. -/
def plain (t : Time) : String :=
  zeroPadded 2 t.hour ++ ":" ++ zeroPadded 2 t.minute ++ ":" ++ zeroPadded 2 t.second ++
    (if t.micros = 0 then "" else "." ++ zeroPadded 6 t.micros)

/-- The parts of a time; seconds and microseconds are left out when nothing but zeros would
follow. -/
def parts (t : Time) : List String :=
  [toString t.hour, toString t.minute] ++
    (if t.micros ≠ 0 then [toString t.second, toString t.micros]
      else if t.second ≠ 0 then [toString t.second] else [])

end Time

/-- A distance from the zero meridian as it is usually written. -/
def offsetPlain (minutes : Int) : String :=
  (if minutes < 0 then "-" else "+") ++ zeroPadded 2 (minutes.natAbs / 60) ++ ":" ++
    zeroPadded 2 (minutes.natAbs % 60)

/-- The parts of a distance from the zero meridian; a negative one counts from the day before. -/
def offsetDetail (minutes : Int) : String :=
  if minutes = 0 then "tzinfo=datetime.timezone.utc"
  else if minutes < 0 then
    "tzinfo=datetime.timezone(datetime.timedelta(days=-1, seconds=" ++
      toString (86400 + 60 * minutes) ++ "))"
  else "tzinfo=datetime.timezone(datetime.timedelta(seconds=" ++ toString (60 * minutes) ++ "))"

namespace Toml

/-- The word that messages use for the type of a value. -/
def typeLabel : Toml → String
  | text _ => "str"
  | integer _ => "int"
  | float _ => "float"
  | boolean _ => "bool"
  | date _ => "date"
  | time _ => "time"
  | moment _ _ _ => "datetime"
  | array _ => "list"
  | table _ => "dict"

/-- A call with its arguments. -/
def call (name : String) (args : List String) : String :=
  name ++ "(" ++ ", ".intercalate args ++ ")"

mutual

/-- A value with its texts quoted. -/
def detail : Toml → String
  | text s => quoted s
  | integer n => toString n
  | float x => x.pointText
  | boolean b => if b then "True" else "False"
  | date d => call "datetime.date" d.parts
  | time t => call "datetime.time" t.parts
  | moment d t o =>
    call "datetime.datetime" (d.parts ++ t.parts ++ (o.map offsetDetail).toList)
  | array items => "[" ++ ", ".intercalate (details items) ++ "]"
  | table entries => "\x7b" ++ ", ".intercalate (entryDetails entries) ++ "\x7d"

/-- The texts of the items of an array. -/
def details : List Toml → List String
  | [] => []
  | v :: vs => v.detail :: details vs

/-- The texts of the entries of a table. -/
def entryDetails : List (String × Toml) → List String
  | [] => []
  | (k, v) :: rest => (quoted k ++ ": " ++ v.detail) :: entryDetails rest

end

/-! ### Values without a text -/

/-- The least whole number that has too many digits to be read or shown in base ten. -/
def oversizeBound : Nat := Nat.pow 10 4300

/-- A number with too many digits. -/
def isOversized (n : Int) : Bool := oversizeBound ≤ n.natAbs

mutual

/-- The first reason for which a value cannot be shown: an array or a table nested beyond the limit,
or a number with too many digits. -/
def obstacle? : Toml → Nat → Option TomlStop
  | integer n, _ => if isOversized n then some .oversized else none
  | array items, limit => if limit = 0 then some .depth else obstacles? items (limit - 1)
  | table entries, limit => if limit = 0 then some .depth else entryObstacles? entries (limit - 1)
  | _, _ => none

/-- The first obstacle among the items of an array. -/
def obstacles? : List Toml → Nat → Option TomlStop
  | [], _ => none
  | v :: vs, limit => (v.obstacle? limit).orElse fun _ => obstacles? vs limit

/-- The first obstacle among the entries of a table. -/
def entryObstacles? : List (String × Toml) → Nat → Option TomlStop
  | [], _ => none
  | (_, v) :: rest, limit => (v.obstacle? limit).orElse fun _ => entryObstacles? rest limit

end

/-- A value on its own as text. -/
def plain : Toml → String
  | text s => s
  | date d => d.plain
  | time t => t.plain
  | moment d t o => d.plain ++ " " ++ t.plain ++ ((o.map offsetPlain).getD "")
  | v => v.detail

/-- The value of a key. -/
def find? (key : String) : List (String × Toml) → Option Toml
  | [] => none
  | (k, v) :: rest => if k = key then some v else find? key rest

/-- Gives a key a value; a new key comes last. -/
def put (key : String) (value : Toml) : List (String × Toml) → List (String × Toml)
  | [] => [(key, value)]
  | (k, v) :: rest => if k = key then (k, value) :: rest else (k, v) :: put key value rest

end Toml

end BlockCalc
