import BlockCalc.Number.Text
import BlockCalc.Text.Quoted

/-! # Environments

The values of variables, each under its name, in the order in which the names first got a value. A
new value for a name keeps the place of the old one. -/

namespace BlockCalc

/-- Names with their values, in the order of their first assignment. -/
structure Environment where
  entries : List (String × Binary64)
deriving DecidableEq

namespace Environment

/-- The environment without names. -/
def empty : Environment := ⟨[]⟩

/-- The value of the first entry of a name. -/
def lookupIn (name : String) : List (String × Binary64) → Option Binary64
  | [] => none
  | (x, v) :: rest => if x = name then some v else lookupIn name rest

/-- The value of a name, if it has one. -/
def get? (env : Environment) (name : String) : Option Binary64 := lookupIn name env.entries

/-- Whether a name has a value. -/
def contains (env : Environment) (name : String) : Bool := (env.get? name).isSome

/-- How many names have a value. -/
def size (env : Environment) : Nat := env.entries.length

/-- Replaces the value of the first entry of a name, or adds an entry at the end. -/
def assignIn (name : String) (value : Binary64) :
    List (String × Binary64) → List (String × Binary64)
  | [] => [(name, value)]
  | (x, v) :: rest => if x = name then (x, value) :: rest else (x, v) :: assignIn name value rest

/-- Gives a name a value. -/
def assign (env : Environment) (name : String) (value : Binary64) : Environment :=
  ⟨assignIn name value env.entries⟩

/-- Gives many names their values, one after the other. -/
def assignAll (env : Environment) (values : List (String × Binary64)) : Environment :=
  values.foldl (fun e (x, v) => e.assign x v) env

/-- An environment as text. -/
def text (env : Environment) : String :=
  "Environment(\x7b" ++
    ", ".intercalate (env.entries.map fun (x, v) => quoted x ++ ": " ++ v.pointText) ++ "\x7d)"

/-! ### The view through `get?` -/

theorem lookupIn_assignIn (x y : String) (v : Binary64) :
    ∀ l : List (String × Binary64),
      lookupIn y (assignIn x v l) = if x = y then some v else lookupIn y l
  | [] => rfl
  | (z, w) :: rest => by
    by_cases h : z = x
    · subst h
      by_cases hy : z = y <;> simp [assignIn, lookupIn, hy]
    · by_cases hy : z = y
      · subst hy
        simp [assignIn, lookupIn, h, Ne.symm h]
      · simp [assignIn, lookupIn, h, hy, lookupIn_assignIn x y v rest]

/-- An assignment changes one name and no other. -/
@[simp] theorem get?_assign (env : Environment) (x y : String) (v : Binary64) :
    (env.assign x v).get? y = if x = y then some v else env.get? y :=
  lookupIn_assignIn x y v env.entries

end Environment

end BlockCalc
