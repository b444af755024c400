import FieldMapping.Catalog

/-! Who extends whom. A type has a line of types above it, nearest first, that ends where
one would come twice; it may be cut short at its first member among some given types. A
loop is a set of several types that extend each other. -/

namespace FieldMapping.Hierarchy
variable {ρ : Type} {n : Nat}

inductive Ancestor (h : Hierarchy ρ n) (a : Fin n) : Fin n → Prop
  | parent {e : Fin n} (direct : h.parent e = some a) : h.Ancestor a e
  | beyond {e p : Fin n} (direct : h.parent e = some p) (above : h.Ancestor a p) : h.Ancestor a e

theorem Ancestor.trans {h : Hierarchy ρ n} {a b e : Fin n} (upper : h.Ancestor a b)
    (lower : h.Ancestor b e) : h.Ancestor a e := by
  induction lower with
  | parent direct => exact .beyond direct upper
  | beyond direct _ ih => exact .beyond direct ih

def Acyclic (h : Hierarchy ρ n) : Prop := ∀ e, ¬ h.Ancestor e e

theorem lt_of_ancestor {h : Hierarchy ρ n} {rank : Fin n → Nat}
    (falls : ∀ e p, h.parent e = some p → rank p < rank e) {a e : Fin n}
    (above : h.Ancestor a e) : rank a < rank e := by
  induction above with
  | parent direct => exact falls _ _ direct
  | beyond direct _ ih => exact Nat.lt_trans ih (falls _ _ direct)

theorem acyclic_of_rank {h : Hierarchy ρ n} (rank : Fin n → Nat)
    (falls : ∀ e p, h.parent e = some p → rank p < rank e) : h.Acyclic :=
  fun e above => Nat.lt_irrefl (rank e) (lt_of_ancestor falls above)

/-- The types from `e` upwards, up to the first that was seen before. -/
def lineFrom (h : Hierarchy ρ n) (e : Fin n) (seen : List (Fin n)) : List (Fin n) :=
  if _old : e ∈ seen then []
  else
    match h.parent e with
    | none => [e]
    | some p => e :: lineFrom h p (e :: seen)
termination_by Catalog.unvisited seen
decreasing_by exact Catalog.unvisited_cons_lt ‹_›

def lineage (h : Hierarchy ρ n) (e : Fin n) : List (Fin n) := h.lineFrom e []

def Looped (h : Hierarchy ρ n) (e : Fin n) : Prop := h.Ancestor e e ∧ h.parent e ≠ some e

def SameLoop (h : Hierarchy ρ n) (a b : Fin n) : Prop := h.Ancestor a b ∧ h.Ancestor b a

theorem SameLoop.symm {h : Hierarchy ρ n} {a b : Fin n} (same : h.SameLoop a b) :
    h.SameLoop b a := ⟨same.2, same.1⟩

theorem SameLoop.trans {h : Hierarchy ρ n} {a b d : Fin n} (upper : h.SameLoop a b)
    (lower : h.SameLoop b d) : h.SameLoop a d :=
  ⟨upper.1.trans lower.1, lower.2.trans upper.2⟩

theorem Looped.sameLoop {h : Hierarchy ρ n} {e : Fin n} (looped : h.Looped e) : h.SameLoop e e :=
  ⟨looped.1, looped.1⟩

theorem Ancestor.eq_of_self {h : Hierarchy ρ n} {a e : Fin n} (above : h.Ancestor a e)
    (self : h.parent e = some e) : a = e := by
  induction above with
  | parent direct => exact Option.some.inj (direct.symm.trans self)
  | beyond direct _ ih =>
    cases direct.symm.trans self
    exact ih self

variable {h : Hierarchy ρ n} {e p : Fin n} {seen : List (Fin n)}

theorem Ancestor.exists_parent {a : Fin n} (above : h.Ancestor a e) : ∃ p, h.parent e = some p := by
  cases above with
  | parent direct => exact ⟨_, direct⟩
  | beyond direct _ => exact ⟨_, direct⟩

theorem Looped.parent (looped : h.Looped e) (child : h.parent e = some p) :
    h.Looped p ∧ h.SameLoop p e := by
  have around : h.Ancestor e p := by
    cases looped.1 with
    | parent self => exact absurd self looped.2
    | beyond direct above =>
      cases direct.symm.trans child
      exact above
  have loop : h.SameLoop p e := ⟨.parent child, around⟩
  refine ⟨⟨loop.1.trans loop.2, fun self => ?_⟩, loop⟩
  cases around.eq_of_self self
  exact looped.2 self

theorem lineFrom_of_seen (old : e ∈ seen) : h.lineFrom e seen = [] := by
  rw [lineFrom, dif_pos old]

theorem lineFrom_root (new : e ∉ seen) (root : h.parent e = none) : h.lineFrom e seen = [e] := by
  rw [lineFrom, dif_neg new, root]

theorem lineFrom_child (new : e ∉ seen) (child : h.parent e = some p) :
    h.lineFrom e seen = e :: h.lineFrom p (e :: seen) := by
  rw [lineFrom, dif_neg new, child]

theorem exists_lineage (h : Hierarchy ρ n) (e : Fin n) : ∃ line, h.lineage e = e :: line := by
  cases found : h.parent e with
  | none => exact ⟨[], lineFrom_root List.not_mem_nil found⟩
  | some p => exact ⟨_, lineFrom_child List.not_mem_nil found⟩

def upTo (cuts : List (Fin n)) : List (Fin n) → List (Fin n)
  | [] => []
  | e :: line => if e ∈ cuts then [e] else e :: upTo cuts line

theorem upTo_eq_self {cuts line : List (Fin n)} (clear : ∀ d ∈ line, d ∉ cuts) :
    upTo cuts line = line := by
  induction line with
  | nil => rfl
  | cons e line ih =>
    rw [upTo, if_neg (clear e List.mem_cons_self),
      ih fun d hd => clear d (List.mem_cons_of_mem e hd)]

theorem upTo_cons_of_not_mem {cuts line : List (Fin n)} (new : e ∉ upTo cuts line) :
    upTo (e :: cuts) line = upTo cuts line := by
  induction line with
  | nil => rfl
  | cons d line ih =>
    by_cases cut : d ∈ cuts
    · simp [upTo, cut]
    · have parts : e ≠ d ∧ e ∉ upTo cuts line := by simpa [upTo, cut] using new
      simp [upTo, cut, Ne.symm parts.1, ih parts.2]

theorem mem_upTo_cons_self (cuts line : List (Fin n)) : e ∈ upTo cuts (e :: line) := by
  by_cases cut : e ∈ cuts <;> simp [upTo, cut]

theorem upTo_lineFrom (cuts wider : List (Fin n)) (more : ∀ d ∈ seen, d ∈ wider)
    (clear : ∀ d ∈ upTo cuts (h.lineFrom e seen), d ∈ wider → d ∈ seen) :
    upTo cuts (h.lineFrom e wider) = upTo cuts (h.lineFrom e seen) := by
  fun_induction lineFrom h e seen generalizing wider with
  | case1 e seen old => rw [lineFrom_of_seen (more e old)]
  | case2 e seen new root =>
    have fresh : e ∉ wider := fun he => new (clear e (mem_upTo_cons_self cuts []) he)
    rw [lineFrom_root fresh root]
  | case3 e seen new p child ih =>
    have fresh : e ∉ wider := fun he => new (clear e (mem_upTo_cons_self cuts _) he)
    rw [lineFrom_child fresh child]
    by_cases cut : e ∈ cuts
    · simp [upTo, cut]
    · have sub : ∀ d ∈ e :: seen, d ∈ e :: wider := by
        intro d hd
        rcases List.mem_cons.1 hd with rfl | hd
        · exact List.mem_cons_self
        · exact List.mem_cons_of_mem e (more d hd)
      have above : ∀ d ∈ upTo cuts (h.lineFrom p (e :: seen)), d ∈ e :: wider → d ∈ e :: seen := by
        intro d hd hw
        rcases List.mem_cons.1 hw with rfl | hw
        · exact List.mem_cons_self
        · exact List.mem_cons_of_mem e (clear d (by simp [upTo, cut, hd]) hw)
      simp only [upTo, cut, if_false, ih (e :: wider) sub above]

end FieldMapping.Hierarchy
