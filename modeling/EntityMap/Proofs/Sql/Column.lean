import Mathlib.Data.List.Induction
import EntityMap.Proofs.Identifier
import EntityMap.Proofs.Sql.Depth
import EntityMap.Sql.Interpretation

/-!
Columns as they are declared. The constraints of a column are taken one after another, but most of
them only set a mark, so all that matters is which of them are there. Where one takes the place of
another, the last one counts: `ColumnDeclaration.definition_eq` reads the whole column off the list
of its constraints. `ColumnDeclaration.definition_perm` says how they may be moved, and what becomes
of the name of a column that is called by one of them.
-/

namespace EntityMap.Sql

theorem getLast?_filterMap_concat {α β : Type} (f : α → Option β) (as : List α) (a : α) :
    ((as ++ [a]).filterMap f).getLast? = (f a).or (as.filterMap f).getLast? := by
  rw [List.filterMap_append, List.getLast?_append]
  cases h : f a <;> simp [h]

namespace Constraint

/-! ### What one constraint tells -/

@[simp] def marksKey : Constraint → Bool
  | primaryKey _ => true
  | _ => false

@[simp] def marksUnique : Constraint → Bool
  | unique _ => true
  | _ => false

@[simp] def countsUp : Constraint → Bool
  | autoIncrement _ | generated _ none => true
  | _ => false

@[simp] def nullable? : Constraint → Option Bool
  | nullable allowed => some allowed
  | _ => none

@[simp] def default? : Constraint → Option Expr
  | default value => value
  | _ => none

@[simp] def reference? : Constraint → Option Reference
  | references reference => some reference
  | _ => none

variable (dialect : Dialect)

theorem apply_eq (column : ColumnDefinition) (c : Constraint) :
    c.apply dialect column =
      { column with
        primaryKey := column.primaryKey || c.marksKey
        autoIncrement := column.autoIncrement || c.countsUp
        notNull := (c.nullable?.map (!·)).getD column.notNull
        unique := column.unique || c.marksUnique
        defaultValue := (c.default?.map (·.render dialect)).or column.defaultValue
        reference := (c.reference?.map (·.clause? [column.name])).getD column.reference } := by
  cases c with
  | generated parts expression => cases expression <;> simp [apply]
  | default value => cases value <;> simp [apply]
  | _ => simp [apply]

/-! ### What a list of constraints tells -/

/-- Marks are set by any of the constraints; otherwise the last one that tells something counts. -/
theorem foldl_apply (column : ColumnDefinition) (cs : List Constraint) :
    cs.foldl (apply dialect) column =
      { column with
        primaryKey := column.primaryKey || cs.any (·.marksKey)
        autoIncrement := column.autoIncrement || cs.any (·.countsUp)
        notNull := ((cs.filterMap (·.nullable?)).getLast?.map (!·)).getD column.notNull
        unique := column.unique || cs.any (·.marksUnique)
        defaultValue :=
          ((cs.filterMap (·.default?)).getLast?.map (·.render dialect)).or column.defaultValue
        reference := ((cs.filterMap (·.reference?)).getLast?.map
          (·.clause? [column.name])).getD column.reference } := by
  induction cs using List.reverseRecOn with
  | nil => simp
  | append_singleton cs c ih =>
      rw [List.foldl_append, List.foldl_cons, List.foldl_nil, ih, apply_eq]
      simp only [List.any_append, List.any_cons, List.any_nil, Bool.or_false, Bool.or_assoc,
        getLast?_filterMap_concat, ColumnDefinition.mk.injEq, true_and]
      refine ⟨?_, ?_, ?_⟩
      · cases c.nullable? <;> rfl
      · cases c.default? <;> rfl
      · cases c.reference? <;> rfl

end Constraint

namespace ColumnDeclaration

def unwrapped (constraints : List ColumnConstraint) : List Constraint :=
  constraints.filterMap (·.constraint?)

theorem definition_eq (dialect : Dialect) (c : ColumnDeclaration) :
    let name := Identifier.clean c.label
    let constraints := unwrapped c.constraints
    c.definition dialect =
      { name := name
        type := (c.type.map (·.render dialect)).getD defaultType
        primaryKey := constraints.any (·.marksKey)
        autoIncrement := constraints.any (·.countsUp)
        notNull := ((constraints.filterMap (·.nullable?)).getLast?.map (!·)).getD false
        unique := constraints.any (·.marksUnique)
        defaultValue := (constraints.filterMap (·.default?)).getLast?.map (·.render dialect)
        reference := (constraints.filterMap (·.reference?)).getLast?.bind (·.clause? [name]) } := by
  intro name constraints
  rw [definition, Constraint.foldl_apply]
  simp only [Bool.false_or, Option.or_none, ColumnDefinition.mk.injEq, true_and]
  refine ⟨rfl, rfl, rfl, rfl, rfl, rfl, ?_⟩
  change ((constraints.filterMap (·.reference?)).getLast?.map _).getD none = _
  cases (constraints.filterMap (·.reference?)).getLast? <;> rfl

/-! ### Moving constraints -/

/-- The column by another name, which its reference takes over. -/
def renamed (d : ColumnDefinition) (name : String) : ColumnDefinition :=
  { d with name, reference := d.reference.map fun clause => { clause with columns := [name] } }

theorem clause?_renamed (r : Reference) (columns : List String) (name : String) :
    (r.clause? columns).map (fun clause => { clause with columns := [name] }) =
      r.clause? [name] := by
  rw [Reference.clause?, Reference.clause?, Option.map_map]
  rfl

theorem renamed_name (dialect : Dialect) (c : ColumnDeclaration) :
    renamed (c.definition dialect) (c.definition dialect).name = c.definition dialect := by
  simp only [definition_eq, renamed, Option.map_bind, Function.comp_def, clause?_renamed]

/-- The constraints of a column may be moved past each other, except for those that take each
other's place: whether it may be null, its default, and its reference are told by the last
constraint of the kind, a default without a value aside. A last reference to a table without a name
is none. All other constraints only count by being there.

A column that has no name of its own may be called by a name in a constraint, and then the order of
the constraints that have names in them decides on what it is called. Nothing else depends on it. -/
theorem definition_perm (dialect : Dialect) {c : ColumnDeclaration}
    {constraints : List ColumnConstraint} (h : c.constraints.Perm constraints)
    (hnullable : (unwrapped c.constraints).filterMap (·.nullable?) =
      (unwrapped constraints).filterMap (·.nullable?))
    (hdefault : (unwrapped c.constraints).filterMap (·.default?) =
      (unwrapped constraints).filterMap (·.default?))
    (hreference : (unwrapped c.constraints).filterMap (·.reference?) =
      (unwrapped constraints).filterMap (·.reference?)) :
    let moved : ColumnDeclaration := { c with constraints }
    moved.definition dialect = renamed (c.definition dialect) (Identifier.clean moved.label) ∧
      (moved.definition dialect = c.definition dialect ↔
        Identifier.clean moved.label = Identifier.clean c.label) ∧
      (c.ownName ≠ "" ∨ c.constraints.filter (·.named) = constraints.filter (·.named) →
        moved.label = c.label) ∧
      c.definition dialect =
        { name := Identifier.clean c.label
          type := (c.type.map (·.render dialect)).getD defaultType
          primaryKey := (unwrapped c.constraints).any (·.marksKey)
          autoIncrement := (unwrapped c.constraints).any (·.countsUp)
          notNull := (((unwrapped c.constraints).filterMap (·.nullable?)).getLast?.map
            (!·)).getD false
          unique := (unwrapped c.constraints).any (·.marksUnique)
          defaultValue := ((unwrapped c.constraints).filterMap (·.default?)).getLast?.map
            (·.render dialect)
          reference := ((unwrapped c.constraints).filterMap (·.reference?)).getLast?.bind
            (·.clause? [Identifier.clean c.label]) } := by
  intro moved
  have hperm : (unwrapped c.constraints).Perm (unwrapped constraints) := h.filterMap _
  have hmoved : moved.definition dialect =
      renamed (c.definition dialect) (Identifier.clean moved.label) := by
    simp only [definition_eq, renamed, Option.map_bind, Function.comp_def, clause?_renamed]
    rw [hnullable, hdefault, hreference, hperm.any_eq, hperm.any_eq, hperm.any_eq]
  have hname : (c.definition dialect).name = Identifier.clean c.label := by rw [definition_eq]
  refine ⟨hmoved, ⟨fun heq => ?_, fun hlabel => ?_⟩, fun hnames => ?_, definition_eq dialect c⟩
  · rw [← hname, ← heq, hmoved]
    rfl
  · rw [hmoved, hlabel, ← hname, renamed_name]
  · exact hnames.elim (fun hown => label_eq_of_ownName hown constraints) label_eq_of_filter_named

/-- What is said of the owner of something, in two parts: constraints that may be moved anywhere,
and constraints of which the last one counts. -/
def ownerMarks : List ColumnConstraint :=
  [.bare (.primaryKey []), .wrapped (some ⟨"owner_id", false⟩) (.generated [] none),
    .bare (.other []), .wrapped none (.unique []),
    .wrapped none (.generated [] (some (.literal .number "7")))]

def ownerFacts : List ColumnConstraint :=
  [.bare (.references ⟨⟨[⟨"users", false⟩]⟩, [.name ⟨"id", false⟩]⟩),
    .wrapped none (.nullable false), .wrapped none (.default (some (.literal .number "1"))),
    .bare (.nullable true), .wrapped (some ⟨"no_default", false⟩) (.default none),
    .wrapped none (.references ⟨⟨[⟨"[]", true⟩]⟩, []⟩)]

theorem definition_perm_owner :
    let c : ColumnDeclaration := ⟨.name ⟨"owner", true⟩, none, ownerMarks ++ ownerFacts, none⟩
    let constraints := ownerFacts ++ ownerMarks
    c.constraints.Perm constraints ∧
      (unwrapped c.constraints).filterMap (·.nullable?) =
        (unwrapped constraints).filterMap (·.nullable?) ∧
      (unwrapped c.constraints).filterMap (·.default?) =
        (unwrapped constraints).filterMap (·.default?) ∧
      (unwrapped c.constraints).filterMap (·.reference?) =
        (unwrapped constraints).filterMap (·.reference?) ∧
      c.ownName ≠ "" ∧
      { c with constraints }.definition .postgres = c.definition .postgres ∧
      c.definition .postgres =
        { name := "owner"
          type := "VARCHAR"
          primaryKey := true
          autoIncrement := true
          notNull := false
          unique := true
          defaultValue := some "1"
          reference := none } := by
  intro c constraints
  have h : c.constraints.Perm constraints := List.perm_append_comm
  have hown : c.ownName ≠ "" := by decide +kernel
  obtain ⟨-, hequal, hlabel, hdefinition⟩ := definition_perm .postgres h rfl rfl rfl
  refine ⟨h, rfl, rfl, rfl, hown, hequal.mpr (congrArg _ (hlabel (.inl hown))), ?_⟩
  rw [hdefinition]
  decide +kernel

/-- What is declared by the word `true`, which is no name, takes its name from a constraint. -/
theorem definition_trueColumn_ne :
    let notNull : ColumnConstraint := .wrapped (some ⟨"a", false⟩) (.nullable false)
    let unique : ColumnConstraint := .wrapped (some ⟨"b", false⟩) (.unique [])
    let c : ColumnDeclaration :=
      ⟨.boolean true, some (.builtin .int []), [notNull, unique], none⟩
    let constraints := [unique, notNull]
    let moved : ColumnDeclaration := { c with constraints }
    c.constraints.Perm constraints ∧
      (unwrapped c.constraints).filterMap (·.nullable?) =
        (unwrapped constraints).filterMap (·.nullable?) ∧
      (unwrapped c.constraints).filterMap (·.default?) =
        (unwrapped constraints).filterMap (·.default?) ∧
      (unwrapped c.constraints).filterMap (·.reference?) =
        (unwrapped constraints).filterMap (·.reference?) ∧
      (c.definition .postgres).name = "a" ∧ (moved.definition .postgres).name = "b" ∧
      moved.definition .postgres ≠ c.definition .postgres := by
  refine ⟨List.Perm.swap _ _ _, rfl, rfl, rfl, ?_, ?_, ?_⟩ <;> decide +kernel

end ColumnDeclaration

end EntityMap.Sql
