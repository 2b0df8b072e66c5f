import EntityMap.Proofs.Inference.Order

/-!
The table that a base refers to. It is searched twice: by the names that the base may stand for,
and, if no table has one of them, by the singular forms of the tables. Both searches together look
for one list of names, `Naming.spellings`: the second search adds a single name to those of the
first, the base with `ies` in the place of its last `y`.
-/

namespace EntityMap

namespace Text

/-- An ending that is not a line feed is replaced where it stands. -/
theorem replaceEnding_append {ending other : List Char} (stem : List Char) (hne : ending ≠ [])
    (hnewline : '\n' ∉ ending) :
    replaceEnding ending other (stem ++ ending) = stem ++ other := by
  have hsplit : splitFinalNewline (stem ++ ending) = (stem ++ ending, []) := by
    refine (splitFinalNewline_eq_or _).resolve_right ?_
    rintro ⟨body, hbody, -⟩
    have hlast := congrArg List.getLast? hbody
    rw [List.getLast?_append_of_ne_nil _ hne, List.getLast?_concat] at hlast
    exact hnewline (List.mem_of_getLast? hlast)
  have hending : ending.isSuffixOf (stem ++ ending) = true :=
    List.isSuffixOf_iff_suffix.mpr (List.suffix_append stem ending)
  simp [replaceEnding, hsplit, hending]

end Text

namespace Naming

/-- The name that ends in `ies` where the base ends in `y`. -/
def pluralsInIes (base : String) : List String :=
  match base.toList.reverse with
  | 'y' :: stem => [String.ofList stem.reverse ++ "ies"]
  | _ => []

/-- All names by which a base finds a table, the most wanted first. -/
def spellings (base : String) : List String := candidates base ++ pluralsInIes base

theorem mem_pluralsInIes {base name : String} :
    name ∈ pluralsInIes base ↔ ∃ stem, base = stem ++ "y" ∧ name = stem ++ "ies" := by
  rw [pluralsInIes]
  constructor
  · intro h
    split at h
    · next stem hy =>
        have hbase : base.toList = stem.reverse ++ ['y'] := by
          rw [← List.reverse_cons, ← hy, List.reverse_reverse]
        refine ⟨String.ofList stem.reverse, ?_, List.mem_singleton.mp h⟩
        rw [← String.toList_inj, String.toList_append, String.toList_ofList, hbase]
        rfl
    · contradiction
  · rintro ⟨stem, rfl, rfl⟩
    simp

/-- The base is a singular form of the name that ends in `ies` instead of `y`. -/
theorem mem_singularForms_of_mem_pluralsInIes {base table : String}
    (h : Text.lower table ∈ pluralsInIes base) : base ∈ singularForms table := by
  obtain ⟨stem, rfl, hname⟩ := mem_pluralsInIes.mp h
  have hending : replaceEnding "ies" "y" (Text.lower table) = stem ++ "y" := by
    rw [replaceEnding, hname, String.toList_append,
      Text.replaceEnding_append _ (by decide) (by decide), ← String.toList_inj,
      String.toList_ofList, String.toList_append]
  simp [singularForms, hending]

end Naming

namespace Schema

variable {others : List Table} {base : String}

/-- The first table with this name in lower case. -/
def called? (tables : List Table) (name : String) : Option Table :=
  tables.find? fun t => Text.lower t.name == name

/-- Where the first search fails, the second one looks for the name in `ies`. -/
theorem reverseMatch?_eq (h : forwardMatch? others base = none) (hbase : '\n' ∉ base.toList) :
    reverseMatch? others base = (Naming.pluralsInIes base).findSome? (called? others) := by
  have hform : ∀ t ∈ others, (Naming.singularForms t.name).contains base =
      (Naming.pluralsInIes base).contains (Text.lower t.name) := by
    intro t ht
    rw [Bool.eq_iff_iff, List.contains_iff_mem, List.contains_iff_mem]
    refine ⟨fun hmem => ?_, Naming.mem_singularForms_of_mem_pluralsInIes⟩
    have hcandidate := lower_notMem_candidates_of_forwardMatch? h ht
    obtain ⟨stem, hname, hstem⟩ :=
      (Naming.mem_candidates_or_of_mem_singularForms hmem hbase).resolve_left hcandidate
    exact Naming.mem_pluralsInIes.mpr ⟨stem, hstem, hname⟩
  rw [reverseMatch?, ← List.head?_filter, List.filter_congr hform, List.head?_filter,
    Naming.pluralsInIes]
  split
  · simp only [List.contains_cons, List.contains_nil, Bool.or_false, List.findSome?_cons,
      List.findSome?_nil, called?]
    cases others.find? _ <;> rfl
  · simp

/-- The first table under the first of some names that any table has. -/
theorem findSome?_called? (tables : List Table) (names : List String) :
    names.findSome? (called? tables) =
      (names.find? fun name => tables.any fun t => Text.lower t.name == name).bind
        (called? tables) := by
  induction names with
  | nil => rfl
  | cons name names ih =>
      rw [List.findSome?_cons, List.find?_cons]
      cases h : called? tables name with
      | none =>
          have hnone : (tables.any fun t => Text.lower t.name == name) = false := by
            simpa [called?] using h
          rw [hnone, ih]
      | some t =>
          have hname := List.find?_some h
          have hsome : (tables.any fun t => Text.lower t.name == name) = true :=
            List.any_eq_true.mpr ⟨t, List.mem_of_find?_eq_some h, hname⟩
          rw [hsome, Option.bind_some, h]

theorem match?_eq_findSome? (hbase : '\n' ∉ base.toList) :
    match? others base = (Naming.spellings base).findSome? (called? others) := by
  have hforward : forwardMatch? others base =
      (Naming.candidates base).findSome? (called? others) := rfl
  rw [match?, Naming.spellings, List.findSome?_append, ← hforward]
  cases h : forwardMatch? others base with
  | none => rw [Option.none_or, Option.none_or, reverseMatch?_eq h hbase]
  | some t => rw [Option.some_or, Option.some_or]

/-- Both searches for the table that a base refers to are one search by priority: of the names that
the base may stand for, the first one that another table has wins, and of these tables the first
one. Nothing is found just if no other table has any of the names. What the second search finds
after the first one failed has the name that ends in `ies` where the base ends in `y`. -/
theorem match?_eq_first_spelling {column base : String} (hbase : Naming.base? column = some base)
    (tables : List Table) (own : Nat) :
    let others := otherTables tables own
    match? others base =
        ((Naming.spellings base).find? fun name =>
          others.any fun t => Text.lower t.name == name).bind
            (fun name => others.find? fun t => Text.lower t.name == name) ∧
      (match? others base = none ↔ ∀ t ∈ others, Text.lower t.name ∉ Naming.spellings base) ∧
      (forwardMatch? others base = none → ∀ t, reverseMatch? others base = some t →
        ∃ stem, base = stem ++ "y" ∧ Text.lower t.name = stem ++ "ies") := by
  intro others
  have hline := Naming.newline_notMem_of_base? hbase
  refine ⟨?_, ?_, fun hforward t ht => ?_⟩
  · rw [match?_eq_findSome? hline, findSome?_called?]
    rfl
  · rw [match?_eq_findSome? hline, List.findSome?_eq_none_iff]
    simp only [called?, List.find?_eq_none, beq_iff_eq]
    exact ⟨fun h t ht hname => h _ hname t ht rfl, fun h name hname t ht he => h t ht (he ▸ hname)⟩
  · rw [reverseMatch?_eq hforward hline] at ht
    obtain ⟨name, hname, hfound⟩ := List.exists_of_findSome?_eq_some ht
    obtain ⟨stem, hstem, rfl⟩ := Naming.mem_pluralsInIes.mp hname
    exact ⟨stem, hstem, by simpa using List.find?_some hfound⟩

def catalogue : List Table :=
  [⟨"books", "books", []⟩, ⟨"Categories", "Categories", []⟩, ⟨"categories", "categories", []⟩]

theorem match?_eq_first_spelling_catalogue :
    Naming.base? "Category_ID" = some "category" ∧
      Naming.spellings "category" =
        ["category", "categorys", "categoryes", "category", "categories"] ∧
      match? (otherTables catalogue 0) "category" = some ⟨"Categories", "Categories", []⟩ := by
  have hbase : Naming.base? "Category_ID" = some "category" := by decide +kernel
  refine ⟨hbase, by decide +kernel, ?_⟩
  rw [(match?_eq_first_spelling hbase catalogue 0).1]
  decide +kernel

end Schema

end EntityMap
