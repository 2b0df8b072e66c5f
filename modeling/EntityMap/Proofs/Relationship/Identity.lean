import Mathlib.Data.List.Infix
import EntityMap.Proofs.Identifier
import EntityMap.Schema.Basic

/-!
What an id tells about a relationship. The id is made of the four names with separators between
them that are not escaped. As long as the names in front of a separator do not contain it, the id
can be read from the left, so no two relationships share one.
-/

namespace EntityMap

namespace Identifier

/-- The name does not contain the separator that follows a table name in an id. -/
def Dotless (name : String) : Prop := '.' ∉ name.toList

instance (name : String) : Decidable (Dotless name) := inferInstanceAs (Decidable (¬_))

/-- The name does not contain the separator that follows a source column in an id. -/
def Arrowless (name : String) : Prop := ¬['-', '>'] <:+: name.toList

instance (name : String) : Decidable (Arrowless name) := inferInstanceAs (Decidable (¬_))

end Identifier

open Identifier

/-! ### Reading an id from the left -/

/-- A text without an arrow ends where the first arrow stands. A name may end in the first
character of the arrow, but then the arrow does not start there. -/
theorem arrow_append_inj {c c' x y : List Char} (hc : ¬['-', '>'] <:+: c)
    (hc' : ¬['-', '>'] <:+: c') (h : c ++ '-' :: '>' :: x = c' ++ '-' :: '>' :: y) :
    c = c' ∧ x = y := by
  induction c generalizing c' with
  | nil =>
      match c' with
      | [] => exact ⟨rfl, by simpa using h⟩
      | [b] => simp at h
      | b :: b' :: rest =>
          -- the arrow at the front of the left side stands inside `c'`
          simp only [List.nil_append, List.cons_append, List.cons.injEq] at h
          obtain ⟨rfl, rfl, -⟩ := h
          exact absurd ⟨[], rest, rfl⟩ hc'
  | cons a c ih =>
      match c' with
      | [] =>
          match c with
          | [] => simp at h
          | a' :: rest =>
              simp only [List.nil_append, List.cons_append, List.cons.injEq] at h
              obtain ⟨rfl, rfl, -⟩ := h
              exact absurd ⟨[], rest, rfl⟩ hc
      | b :: c' =>
          simp only [List.cons_append, List.cons.injEq] at h
          obtain ⟨rfl, h⟩ := h
          obtain ⟨rfl, hx⟩ := ih (fun hin => hc (hin.trans (List.suffix_cons _ _).isInfix))
            (fun hin => hc' (hin.trans (List.suffix_cons _ _).isInfix)) h
          exact ⟨rfl, hx⟩

theorem dot_append_inj {s s' x y : List Char} (hs : '.' ∉ s) (hs' : '.' ∉ s')
    (h : s ++ '.' :: x = s' ++ '.' :: y) : s = s' ∧ x = y := by
  induction s generalizing s' with
  | nil =>
      match s' with
      | [] => exact ⟨rfl, by simpa using h⟩
      | b :: rest =>
          simp only [List.nil_append, List.cons_append, List.cons.injEq] at h
          obtain ⟨rfl, -⟩ := h
          exact absurd List.mem_cons_self hs'
  | cons a s ih =>
      match s' with
      | [] =>
          simp only [List.nil_append, List.cons_append, List.cons.injEq] at h
          obtain ⟨rfl, -⟩ := h
          exact absurd List.mem_cons_self hs
      | b :: s' =>
          simp only [List.cons_append, List.cons.injEq] at h
          obtain ⟨rfl, h⟩ := h
          obtain ⟨rfl, hx⟩ := ih (fun hin => hs (List.mem_cons_of_mem _ hin))
            (fun hin => hs' (List.mem_cons_of_mem _ hin)) h
          exact ⟨rfl, hx⟩

namespace Relationship

theorem toList_idOf (s c t d : String) :
    (idOf s c t d).toList =
      s.toList ++ '.' :: (c.toList ++ '-' :: '>' :: (t.toList ++ '.' :: d.toList)) := by
  simp [idOf]

theorem idOf_ne_empty (s c t d : String) : idOf s c t d ≠ "" := by
  intro h
  have hl := congrArg String.toList h
  rw [toList_idOf] at hl
  simp at hl

/-- The id determines the four names. -/
theorem idOf_inj {s c t d s' c' t' d' : String} (hs : Dotless s) (hs' : Dotless s')
    (hc : Arrowless c) (hc' : Arrowless c') (ht : Dotless t) (ht' : Dotless t') :
    idOf s c t d = idOf s' c' t' d' ↔ s = s' ∧ c = c' ∧ t = t' ∧ d = d' := by
  constructor
  · intro h
    have hl := congrArg String.toList h
    rw [toList_idOf, toList_idOf] at hl
    obtain ⟨h₁, hl⟩ := dot_append_inj hs hs' hl
    obtain ⟨h₂, hl⟩ := arrow_append_inj hc hc' hl
    obtain ⟨h₃, h₄⟩ := dot_append_inj ht ht' hl
    exact ⟨String.toList_inj.mp h₁, String.toList_inj.mp h₂, String.toList_inj.mp h₃,
      String.toList_inj.mp h₄⟩
  · rintro ⟨rfl, rfl, rfl, rfl⟩
    rfl

/-! ### Relationships as they are declared and inferred -/

/-- The relationship has the type and the id that its names give. -/
def Canonical (r : Relationship) : Prop :=
  r = between r.sourceTable r.sourceColumn r.targetTable r.targetColumn

theorem Canonical.id_eq {r : Relationship} (h : r.Canonical) :
    r.id = idOf r.sourceTable r.sourceColumn r.targetTable r.targetColumn :=
  congrArg Relationship.id h

/-- The relationship is canonical and its four names are clean and not empty. -/
structure WellFormed (r : Relationship) : Prop where
  canonical : r.Canonical
  sourceTable : IsName r.sourceTable
  sourceColumn : IsName r.sourceColumn
  targetTable : IsName r.targetTable
  targetColumn : IsName r.targetColumn

theorem WellFormed.id_ne_empty {r : Relationship} (hr : r.WellFormed) : r.id ≠ "" := by
  rw [hr.canonical.id_eq]
  exact idOf_ne_empty _ _ _ _

/-- The names of the relationship can be read from its id. -/
structure Legible (r : Relationship) : Prop where
  sourceTable : Dotless r.sourceTable
  sourceColumn : Arrowless r.sourceColumn
  targetTable : Dotless r.targetTable

theorem eq_of_id_eq {r r' : Relationship} (hr : r.Canonical) (hr' : r'.Canonical)
    (hl : r.Legible) (hl' : r'.Legible) (h : r.id = r'.id) : r = r' := by
  rw [hr.id_eq, hr'.id_eq] at h
  obtain ⟨h₁, h₂, h₃, h₄⟩ := (idOf_inj hl.sourceTable hl'.sourceTable hl.sourceColumn
    hl'.sourceColumn hl.targetTable hl'.targetTable).mp h
  rw [hr, hr', h₁, h₂, h₃, h₄]

/-- The source table can be read from the id alone, whatever the other names are. -/
theorem sourceTable_eq_of_id_eq {r r' : Relationship} (hr : r.Canonical) (hr' : r'.Canonical)
    (hs : Dotless r.sourceTable) (hs' : Dotless r'.sourceTable) (h : r.id = r'.id) :
    r.sourceTable = r'.sourceTable := by
  rw [hr.id_eq, hr'.id_eq] at h
  have hl := congrArg String.toList h
  rw [toList_idOf, toList_idOf] at hl
  exact String.toList_inj.mp (dot_append_inj hs hs' hl).1

theorem ofNames?_eq_some_iff {s c t d : String} {r : Relationship} :
    ofNames? s c t d = some r ↔
      (clean s ≠ "" ∧ clean c ≠ "" ∧ clean t ≠ "" ∧ clean d ≠ "") ∧
        between (clean s) (clean c) (clean t) (clean d) = r := by
  change (if _ then some _ else none) = some r ↔ _
  rw [Option.ite_none_right_eq_some, Option.some.injEq]
  rfl

theorem ofNames?_of_isName {s c t d : String} (hs : IsName s) (hc : IsName c) (ht : IsName t)
    (hd : IsName d) : ofNames? s c t d = some (between s c t d) := by
  rw [ofNames?_eq_some_iff, hs.clean_eq, hc.clean_eq, ht.clean_eq, hd.clean_eq]
  exact ⟨⟨hs.ne_empty, hc.ne_empty, ht.ne_empty, hd.ne_empty⟩, rfl⟩

theorem wellFormed_of_ofNames? {s c t d : String} {r : Relationship}
    (h : ofNames? s c t d = some r) : r.WellFormed := by
  obtain ⟨⟨hs, hc, ht, hd⟩, rfl⟩ := ofNames?_eq_some_iff.mp h
  exact ⟨rfl, isName_clean hs, isName_clean hc, isName_clean ht, isName_clean hd⟩

theorem WellFormed.ofNames?_eq {r : Relationship} (h : r.WellFormed) :
    ofNames? r.sourceTable r.sourceColumn r.targetTable r.targetColumn = some r := by
  rw [ofNames?_of_isName h.sourceTable h.sourceColumn h.targetTable h.targetColumn]
  exact congrArg some h.canonical.symm

end Relationship

end EntityMap
