import Mathlib.Data.List.Basic
import EntityMap.Proofs.Schema.Link

/-!
What adding links comes to. A link is dropped if its id is there already, be it from the schema or
from an earlier link; a link that is added marks the column at its positions. Since positions do not
move, all marks can be read off the list of added links: `Schema.foldl_addLink_closed` gives the
schema after a whole list of links at once, whatever names its tables and columns have.
-/

namespace EntityMap

open Relationship

/-! ### Marked columns -/

namespace Column

/-- The column as a link with this reference leaves it, if there is one: a foreign key that refers
to what it referred to or to what the link says, whichever is preferred and there. -/
def linked (overwrite : Bool) (reference : Option ColumnReference) (c : Column) : Column :=
  { c with
    isForeignKey := c.isForeignKey || reference.isSome
    references := if overwrite then reference.or c.references else c.references.or reference }

theorem linked_none (overwrite : Bool) (c : Column) : c.linked overwrite none = c := by
  simp [linked]

theorem markForeignKey_eq_linked (overwrite : Bool) (reference : ColumnReference) (c : Column) :
    c.markForeignKey reference overwrite = c.linked overwrite (some reference) := by
  cases overwrite <;> cases h : c.references <;> simp [markForeignKey, linked, h]

/-- A reference that is there is kept, so later links change nothing. -/
theorem linked_linked (first : ColumnReference) (later : Option ColumnReference) (c : Column) :
    (c.linked false (some first)).linked false later = c.linked false (some first) := by
  cases h : c.references <;> simp [linked, h]

end Column

namespace Schema

namespace Link

/-- The first link of each id, in their order. -/
def firsts : List Link → List Link
  | [] => []
  | l :: ls => l :: (firsts ls).filter (·.relationship.id ≠ l.relationship.id)

def startsAt (i j : Nat) (l : Link) : Bool := l.table == i && l.column == j

theorem startsAt_iff {i j : Nat} {l : Link} : l.startsAt i j = true ↔ l.table = i ∧ l.column = j := by
  simp [startsAt]

def position (l : Link) : Nat × Nat := (l.table, l.column)

theorem mem_of_mem_firsts {l : Link} {ls : List Link} (h : l ∈ firsts ls) : l ∈ ls := by
  induction ls with
  | nil => exact h
  | cons l' ls ih =>
      rcases List.mem_cons.mp h with rfl | h
      · exact List.mem_cons_self
      · exact List.mem_cons_of_mem l' (ih (List.mem_filter.mp h).1)

end Link

/-- The links that a schema takes up from a list: the first of each id that it does not have. -/
def newLinks (s : Schema) (ls : List Link) : List Link :=
  (Link.firsts ls).filter (·.relationship.id ∉ ids s.relationships)

/-- What the first of the links that start from the column at these positions refers to. -/
def referenceFrom? (ls : List Link) (i j : Nat) : Option ColumnReference :=
  (ls.find? (·.startsAt i j)).map (·.reference)

/-- The tables with every column as the first link that starts from it leaves it. -/
def marked (overwrite : Bool) (ls : List Link) (tables : List Table) : List Table :=
  tables.mapIdx fun i t =>
    { t with columns := t.columns.mapIdx fun j c => c.linked overwrite (referenceFrom? ls i j) }

variable {s : Schema} {overwrite : Bool} {l : Link} {ls : List Link}

/-! ### One link -/

theorem newLinks_cons_of_mem (h : l.relationship.id ∈ ids s.relationships) :
    s.newLinks (l :: ls) = s.newLinks ls := by
  rw [newLinks, Link.firsts, List.filter_cons, if_neg (by simpa using h), List.filter_filter]
  refine List.filter_congr fun l' _ => ?_
  have hne : l'.relationship.id ∉ ids s.relationships →
      l'.relationship.id ≠ l.relationship.id := fun hl' he => hl' (he ▸ h)
  simpa using hne

theorem newLinks_cons_of_notMem (overwrite : Bool) (h : l.relationship.id ∉ ids s.relationships) :
    s.newLinks (l :: ls) = l :: (s.addLink overwrite l).newLinks ls := by
  rw [newLinks, Link.firsts, List.filter_cons, if_pos (by simpa using h), List.filter_filter]
  congr 1
  refine List.filter_congr fun l' _ => ?_
  rw [relationships_addLink, appendUnique_of_notMem h]
  simp [ids, eq_comm]

theorem marked_nil (tables : List Table) : marked overwrite [] tables = tables := by
  have hcolumns (i : Nat) (t : Table) :
      t.columns.mapIdx (fun j c => c.linked overwrite (referenceFrom? [] i j)) = t.columns := by
    refine List.ext_getElem? fun j => ?_
    simp [referenceFrom?, Column.linked_none]
  refine List.ext_getElem? fun i => ?_
  rw [marked, List.getElem?_mapIdx]
  cases tables[i]? with
  | none => rfl
  | some t => exact congrArg some (congrArg (Table.mk t.id t.name) (hcolumns i t))

/-- The first link may mark its column before all others, unless a later one would overwrite it. -/
theorem marked_cons (h : overwrite → ∀ l' ∈ ls, l'.position ≠ l.position) :
    marked overwrite (l :: ls) s.tables = marked overwrite ls
      (s.modifyColumn l.table l.column (·.markForeignKey l.reference overwrite)).tables := by
  -- the column of the link is left alone by all later ones
  have hlater (c : Column) : (c.linked overwrite (some l.reference)).linked overwrite
      (referenceFrom? ls l.table l.column) = c.linked overwrite (some l.reference) := by
    cases overwrite with
    | false => exact Column.linked_linked l.reference _ c
    | true =>
        have hnone : ls.find? (·.startsAt l.table l.column) = none := by
          refine List.find?_eq_none.mpr fun l' hl' hstarts => h rfl l' hl' ?_
          obtain ⟨hi, hj⟩ := Link.startsAt_iff.mp hstarts
          simp only [Link.position, hi, hj]
        rw [referenceFrom?, hnone, Option.map_none, Column.linked_none]
  have hother {i j : Nat} (hne : ¬(l.table = i ∧ l.column = j)) :
      referenceFrom? (l :: ls) i j = referenceFrom? ls i j := by
    rw [referenceFrom?, List.find?_cons_of_neg (mt Link.startsAt_iff.mp hne),
      referenceFrom?]
  have hself : referenceFrom? (l :: ls) l.table l.column = some l.reference := by
    rw [referenceFrom?, List.find?_cons_of_pos (Link.startsAt_iff.mpr ⟨rfl, rfl⟩), Option.map_some]
  refine List.ext_getElem? fun i => ?_
  simp only [marked, modifyColumn, List.getElem?_mapIdx, List.getElem?_modify, Option.map_eq_map,
    Option.map_map]
  refine congrArg (Option.map · s.tables[i]?) (funext fun t => ?_)
  simp only [Function.comp_def]
  by_cases hi : l.table = i
  · subst hi
    simp only [if_true, Table.mk.injEq, true_and]
    refine List.ext_getElem? fun j => ?_
    simp only [List.getElem?_mapIdx, List.getElem?_modify, Option.map_eq_map, Option.map_map]
    refine congrArg (Option.map · t.columns[j]?) (funext fun c => ?_)
    by_cases hj : l.column = j
    · subst hj
      simp only [Function.comp_def, if_true, Column.markForeignKey_eq_linked, hself, hlater]
    · simp only [Function.comp_def, if_neg hj, hother fun hne => hj hne.2]
  · simp only [if_neg hi, hother fun hne => hi hne.1]

/-! ### A list of links -/

/-- Adding links in closed form. Links that overwrite references have to start from different
columns. -/
theorem foldl_addLink_closed (h : overwrite → (ls.map Link.position).Nodup) :
    ls.foldl (addLink overwrite) s =
      ⟨marked overwrite (s.newLinks ls) s.tables,
        s.relationships ++ (s.newLinks ls).map (·.relationship)⟩ := by
  induction ls generalizing s with
  | nil => simp [newLinks, Link.firsts, marked_nil]
  | cons l ls ih =>
      have htail : overwrite → (ls.map Link.position).Nodup := fun ho => (h ho).of_cons
      rw [List.foldl_cons, ih htail]
      by_cases hid : l.relationship.id ∈ ids s.relationships
      · rw [addLink_of_mem hid, newLinks_cons_of_mem hid]
      · have hadd : s.addLink overwrite l = (s.addRelationship l.relationship).modifyColumn l.table
            l.column (·.markForeignKey l.reference overwrite) :=
          if_neg (mt hasRelationship_iff.mp hid)
        rw [newLinks_cons_of_notMem overwrite hid, marked_cons, relationships_addLink,
          appendUnique_of_notMem hid, List.map_cons, List.append_assoc, List.singleton_append, hadd]
        · rfl
        · intro ho l' hl' he
          have hmem : l' ∈ ls := Link.mem_of_mem_firsts (List.mem_filter.mp hl').1
          exact (List.nodup_cons.mp (h ho)).1 (he ▸ List.mem_map_of_mem hmem)

end Schema

end EntityMap
