import FieldMapping.Filter.Basic

/-! Conditions on storage columns, joined by conjunction and disjunction. The
meaning of a predicate is fixed by that of its single tests. -/

namespace FieldMapping

inductive Predicate where
  | test (field : String) (test : Filter.Test) (operand : Filter.Operand)
  | all (parts : List Predicate)
  | any (parts : List Predicate)

namespace Predicate

structure Atom where
  field : String
  test : Filter.Test
  operand : Filter.Operand
deriving DecidableEq

mutual

/-- An empty conjunction holds and an empty disjunction does not. -/
def eval (holds : Atom → Bool) : Predicate → Bool
  | test f t o => holds ⟨f, t, o⟩
  | all ps => evalAll holds ps
  | any ps => evalAny holds ps

def evalAll (holds : Atom → Bool) : List Predicate → Bool
  | [] => true
  | p :: ps => eval holds p && evalAll holds ps

def evalAny (holds : Atom → Bool) : List Predicate → Bool
  | [] => false
  | p :: ps => eval holds p || evalAny holds ps

end

mutual

def atoms : Predicate → List Atom
  | test f t o => [⟨f, t, o⟩]
  | all ps => atomsOf ps
  | any ps => atomsOf ps

def atomsOf : List Predicate → List Atom
  | [] => []
  | p :: ps => atoms p ++ atomsOf ps

end

theorem evalAll_eq_all (holds : Atom → Bool) (ps : List Predicate) :
    evalAll holds ps = ps.all (eval holds) := by
  induction ps with
  | nil => rfl
  | cons p ps ih => simp [evalAll, ih]

theorem evalAny_eq_any (holds : Atom → Bool) (ps : List Predicate) :
    evalAny holds ps = ps.any (eval holds) := by
  induction ps with
  | nil => rfl
  | cons p ps ih => simp [evalAny, ih]

theorem atomsOf_eq_flatMap (ps : List Predicate) : atomsOf ps = ps.flatMap atoms := by
  induction ps with
  | nil => rfl
  | cons p ps ih => simp [atomsOf, ih]

def join : List Predicate → Option Predicate
  | [] => none
  | [p] => some p
  | ps => some (all ps)

theorem eval_join (holds : Atom → Bool) (ps : List Predicate) :
    ((join ps).map (eval holds)).getD true = ps.all (eval holds) := by
  match ps with
  | [] => rfl
  | [p] => simp [join]
  | p :: q :: ps => simp [join, eval, evalAll_eq_all]

theorem atoms_join (ps : List Predicate) :
    ((join ps).map atoms).getD [] = ps.flatMap atoms := by
  match ps with
  | [] => rfl
  | [p] => simp [join]
  | p :: q :: ps => simp [join, atoms, atomsOf_eq_flatMap]

end Predicate

end FieldMapping
