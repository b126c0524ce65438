import BlockCalc.Environment
import Mathlib.Data.List.Basic
import Mathlib.Data.List.Induction

/-! # What assignments leave behind

An environment keeps its names in the order in which they first got a value. So after any number of
assignments the names that were there before stand where they stood, and behind them the others in the
order of their first assignment; every name has the value of its last one (`Updated`). -/

namespace BlockCalc

namespace Environment

/-- The names that have a value, in order. -/
def names (env : Environment) : List String := env.entries.map Prod.fst

theorem map_fst_assignIn (x : String) (v : Binary64) : ∀ l : List (String × Binary64),
    (assignIn x v l).map Prod.fst =
      if x ∈ l.map Prod.fst then l.map Prod.fst else l.map Prod.fst ++ [x]
  | [] => rfl
  | (z, w) :: rest => by
    have ih := map_fst_assignIn x v rest
    by_cases hz : z = x
    · simp [assignIn, hz]
    · rw [assignIn, if_neg hz, List.map_cons, ih]
      by_cases hx : x ∈ rest.map Prod.fst
      · simp [hx]
      · simp [hx, Ne.symm hz]

/-- A name that has a value keeps its place; another one comes last. -/
theorem names_assign (env : Environment) (x : String) (v : Binary64) :
    (env.assign x v).names = if x ∈ env.names then env.names else env.names ++ [x] :=
  map_fst_assignIn x v env.entries

@[simp]
theorem assignAll_append (env : Environment) (xs ys : List (String × Binary64)) :
    env.assignAll (xs ++ ys) = (env.assignAll xs).assignAll ys :=
  List.foldl_append

theorem assignAll_snoc (env : Environment) (vs : List (String × Binary64)) (x : String)
    (v : Binary64) : env.assignAll (vs ++ [(x, v)]) = (env.assignAll vs).assign x v :=
  assignAll_append env vs [(x, v)]

/-- What assignments make of an environment. -/
structure Updated (env : Environment) (vs : List (String × Binary64)) (env' : Environment) :
    Prop where
  names : env'.names = env.names ++ ((vs.map Prod.fst).eraseDups.filter (· ∉ env.names))
  nodup : env.names.Nodup → env'.names.Nodup
  last : ∀ earlier x y later, vs = earlier ++ (x, y) :: later → x ∉ later.map Prod.fst →
    env'.get? x = some y
  kept : ∀ x, x ∉ vs.map Prod.fst → env'.get? x = env.get? x

/-- The names after assignments: those before, and the others in the order of first assignment. -/
theorem names_assignAll (env : Environment) (vs : List (String × Binary64)) :
    (env.assignAll vs).names =
      env.names ++ ((vs.map Prod.fst).eraseDups.filter (· ∉ env.names)) := by
  -- From the right, since it is the last assignment that may add a name to all others.
  induction vs using List.reverseRecOn with
  | nil => simp [assignAll]
  | append_singleton vs a ih =>
    obtain ⟨x, v⟩ := a
    have hnew : ([x].removeAll (vs.map Prod.fst)).eraseDups =
        if x ∈ vs.map Prod.fst then [] else [x] := by
      by_cases hx : x ∈ vs.map Prod.fst
      · simp_all [List.removeAll]
      · simp_all [List.removeAll, List.eraseDups_cons]
    have hmem : x ∈ env.names ++ ((vs.map Prod.fst).eraseDups.filter (· ∉ env.names)) ↔
        x ∈ env.names ∨ x ∈ vs.map Prod.fst := by
      by_cases hx : x ∈ env.names <;> simp [hx]
    rw [assignAll_snoc, names_assign, ih, List.map_append, List.map_singleton,
      List.eraseDups_append, hnew, List.filter_append, ← List.append_assoc]
    simp only [hmem]
    by_cases hvs : x ∈ vs.map Prod.fst
    · rw [if_pos (.inr hvs), if_pos hvs, List.filter_nil, List.append_nil]
    · by_cases henv : x ∈ env.names
      · rw [if_pos (.inl henv), if_neg hvs]
        simp [henv]
      · rw [if_neg (not_or.mpr ⟨henv, hvs⟩), if_neg hvs]
        simp [henv]

theorem nodup_assignAll : ∀ (vs : List (String × Binary64)) {env : Environment},
    env.names.Nodup → (env.assignAll vs).names.Nodup
  | [], _, h => h
  | (x, v) :: vs, env, h => by
    refine nodup_assignAll vs ?_
    rw [names_assign]
    by_cases hx : x ∈ env.names
    · rwa [if_pos hx]
    · rw [if_neg hx]
      refine List.nodup_append.mpr ⟨h, by simp, ?_⟩
      intro a ha b hb hab
      rw [List.mem_singleton] at hb
      exact hx (hb ▸ hab ▸ ha)

theorem get?_assignAll : ∀ (vs : List (String × Binary64)) (env : Environment) {x : String},
    x ∉ vs.map Prod.fst → (env.assignAll vs).get? x = env.get? x
  | [], _, _, _ => rfl
  | (y, v) :: vs, env, x, h => by
    rw [List.map_cons, List.mem_cons, not_or] at h
    have ih := get?_assignAll vs (env.assign y v) h.2
    rw [get?_assign, if_neg (Ne.symm h.1)] at ih
    exact ih

/-- **Assignments one after the other.** -/
theorem updated_assignAll (env : Environment) (vs : List (String × Binary64)) :
    env.Updated vs (env.assignAll vs) := by
  refine ⟨names_assignAll env vs, nodup_assignAll vs, ?_, fun x hx => get?_assignAll vs env hx⟩
  rintro earlier x y later rfl hlater
  have hassign : env.assignAll (earlier ++ (x, y) :: later) =
      ((env.assignAll earlier).assign x y).assignAll later :=
    assignAll_append env earlier ((x, y) :: later)
  rw [hassign, get?_assignAll later _ hlater, get?_assign, if_pos rfl]

end Environment

end BlockCalc
