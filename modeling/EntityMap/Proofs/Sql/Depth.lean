import EntityMap.Sql.Definition

/-!
The names in the declaration of a column by their depth. A column without a name of its own is
called by the first of the outermost names, so it matters where the constraints stand as far as
there are names in them; `ColumnDeclaration.label_eq_of_filter_named` says that no other constraint
matters.
-/

namespace EntityMap.Sql

/-! ### Levels -/

def namesAt (levels : List (List String)) (depth : Nat) : List String := levels.getD depth []

@[simp] theorem namesAt_nil (depth : Nat) : namesAt [] depth = [] := rfl

@[simp] theorem namesAt_cons_zero (level : List String) (levels : List (List String)) :
    namesAt (level :: levels) 0 = level := rfl

@[simp] theorem namesAt_cons_succ (level : List String) (levels : List (List String))
    (depth : Nat) : namesAt (level :: levels) (depth + 1) = namesAt levels depth := rfl

@[simp] theorem namesAt_mergeLevels (xs ys : List (List String)) (depth : Nat) :
    namesAt (mergeLevels xs ys) depth = namesAt xs depth ++ namesAt ys depth := by
  induction xs, ys using mergeLevels.induct generalizing depth with
  | case1 ys => simp [mergeLevels]
  | case2 xs h => cases xs <;> simp [mergeLevels]
  | case3 x xs y ys ih =>
      rw [mergeLevels]
      cases depth with
      | zero => rfl
      | succ depth => exact ih depth

theorem flatten_eq_nil_of_namesAt {levels : List (List String)}
    (h : ∀ depth, namesAt levels depth = []) : levels.flatten = [] := by
  induction levels with
  | nil => rfl
  | cons level levels ih =>
      have hlevel : level = [] := h 0
      rw [List.flatten_cons, hlevel, ih fun depth => h (depth + 1), List.nil_append]

/-- Only the names at each depth matter, not how many levels are empty at the end. -/
theorem flatten_eq_of_namesAt {xs ys : List (List String)}
    (h : ∀ depth, namesAt xs depth = namesAt ys depth) : xs.flatten = ys.flatten := by
  induction xs generalizing ys with
  | nil => exact (flatten_eq_nil_of_namesAt fun depth => (h depth).symm).symm
  | cons x xs ih =>
      cases ys with
      | nil => exact flatten_eq_nil_of_namesAt h
      | cons y ys =>
          have hhead : x = y := h 0
          rw [List.flatten_cons, List.flatten_cons, hhead, ih fun depth => h (depth + 1)]

theorem namesAt_eq_nil_of_flatten {levels : List (List String)} (h : levels.flatten = [])
    (depth : Nat) : namesAt levels depth = [] := by
  rw [namesAt, List.getD_eq_getElem?_getD]
  cases hlevel : levels[depth]? with
  | none => rfl
  | some level => exact List.flatten_eq_nil_iff.mp h level (List.mem_of_getElem? hlevel)

/-! ### Constraints -/

/-- Whether there is a name in the constraint, be it the name of the constraint itself. -/
def ColumnConstraint.named (c : ColumnConstraint) : Bool := !c.namesByDepth.flatten.isEmpty

namespace ColumnDeclaration

theorem namesAt_constraintNames (constraints : List ColumnConstraint) (depth : Nat) :
    namesAt (constraintNames constraints) depth =
      constraints.flatMap fun c => namesAt c.namesByDepth depth := by
  induction constraints with
  | nil => rfl
  | cons c constraints ih =>
      rw [constraintNames, List.foldr_cons, namesAt_mergeLevels, List.flatMap_cons]
      exact congrArg _ ih

theorem flatMap_filter_named (constraints : List ColumnConstraint) (depth : Nat) :
    ((constraints.filter (·.named)).flatMap fun c => namesAt c.namesByDepth depth) =
      constraints.flatMap fun c => namesAt c.namesByDepth depth := by
  induction constraints with
  | nil => rfl
  | cons c constraints ih =>
      by_cases h : c.named
      · rw [List.filter_cons_of_pos h, List.flatMap_cons, List.flatMap_cons, ih]
      · have hempty : c.namesByDepth.flatten = [] := by simpa [ColumnConstraint.named] using h
        rw [List.filter_cons_of_neg h, ih, List.flatMap_cons,
          namesAt_eq_nil_of_flatten hempty, List.nil_append]

theorem label_eq_of_ownName {c : ColumnDeclaration} (h : c.ownName ≠ "")
    (constraints : List ColumnConstraint) : { c with constraints }.label = c.label := by
  have hown : ({ c with constraints } : ColumnDeclaration).ownName = c.ownName := rfl
  rw [label, label, hown, if_neg h, if_neg h]

/-- The name of a column is the same wherever the constraints without names stand. -/
theorem label_eq_of_filter_named {c : ColumnDeclaration} {constraints : List ColumnConstraint}
    (h : c.constraints.filter (·.named) = constraints.filter (·.named)) :
    { c with constraints }.label = c.label := by
  have hnames (depth : Nat) :
      namesAt { c with constraints }.namesByDepth depth = namesAt c.namesByDepth depth := by
    cases depth with
    | zero => rfl
    | succ depth =>
        simp only [namesByDepth, namesAt_cons_succ, namesAt_mergeLevels, namesAt_constraintNames]
        rw [← flatMap_filter_named, ← h, flatMap_filter_named]
  have hown : ({ c with constraints } : ColumnDeclaration).ownName = c.ownName := rfl
  rw [label, label, hown, firstName, firstName, flatten_eq_of_namesAt hnames]

end ColumnDeclaration

end EntityMap.Sql
