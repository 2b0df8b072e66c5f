import EntityMap.Dialect
import Mathlib.Data.List.Nodup

/-!
Lists of names of dialects. Every name has to stand for a dialect. A list is read from left to
right, so each dialect has the place of its first name: `Dialect.FirstsOf`, which one more name
keeps and so a whole list does.
-/

namespace EntityMap.Dialect

variable {given found dialects : List Dialect} {names : List (Option String)}

@[simp] theorem ofName?_name (d : Dialect) : ofName? d.name = some d := by
  cases d <;> decide +kernel

/-- The dialects that names stand for, with repetitions. -/
def named (names : List (Option String)) : List Dialect := names.filterMap (·.bind ofName?)

/-- The dialects in a list, each once, in the order in which they are first given. -/
structure FirstsOf (given dialects : List Dialect) : Prop where
  mem_iff (d : Dialect) : d ∈ dialects ↔ d ∈ given
  sorted : dialects.Pairwise fun d d' => given.idxOf d < given.idxOf d'

theorem FirstsOf.nodup (h : FirstsOf given dialects) : dialects.Nodup := by
  refine h.sorted.imp fun {d d'} hlt => ?_
  rintro rfl
  exact Nat.lt_irrefl _ hlt

theorem FirstsOf.nil : FirstsOf [] [] := ⟨fun _ => Iff.rfl, .nil⟩

/-- One more name: its dialect goes to the end, unless it was given before. -/
theorem FirstsOf.concat (h : FirstsOf given found) (d : Dialect) :
    FirstsOf (given ++ [d]) (if d ∈ found then found else found ++ [d]) := by
  have hindex {x : Dialect} (hx : x ∈ found) : (given ++ [d]).idxOf x = given.idxOf x :=
    List.idxOf_append_of_mem ((h.mem_iff x).mp hx)
  have hsorted : found.Pairwise fun x y => (given ++ [d]).idxOf x < (given ++ [d]).idxOf y := by
    refine h.sorted.imp_of_mem fun hx hy hlt => ?_
    rwa [hindex hx, hindex hy]
  split
  · next hd =>
      refine ⟨fun x => ?_, hsorted⟩
      rw [h.mem_iff, List.mem_append, List.mem_singleton]
      constructor
      · exact .inl
      · rintro (hx | rfl)
        · exact hx
        · exact (h.mem_iff x).mp hd
  · next hd =>
      refine ⟨fun x => by simp [h.mem_iff], ?_⟩
      rw [List.pairwise_append]
      refine ⟨hsorted, List.pairwise_singleton _ d, fun x hx y hy => ?_⟩
      obtain rfl := List.mem_singleton.mp hy
      have hlast : (given ++ [y]).idxOf y = given.length := by
        rw [List.idxOf_append_of_notMem (mt (h.mem_iff y).mpr hd)]
        simp
      rw [hindex hx, hlast]
      exact List.idxOf_lt_length_of_mem ((h.mem_iff x).mp hx)

theorem FirstsOf.ofNamesFrom (h : FirstsOf given found)
    (hnames : ofNamesFrom found names = .ok dialects) :
    FirstsOf (given ++ named names) dialects := by
  induction names generalizing given found with
  | nil =>
      obtain rfl := Except.ok.inj hnames
      simpa [named] using h
  | cons name names ih =>
      rw [Dialect.ofNamesFrom] at hnames
      cases hname : name.bind ofName? with
      | none => simp [hname] at hnames
      | some d =>
          simp only [hname] at hnames
          have hrest := ih (h.concat d) hnames
          rwa [List.append_assoc, List.singleton_append,
            show d :: named names = named (name :: names) by simp [named, hname]] at hrest

theorem exists_ofNamesFrom_eq_error_iff : (∃ cause, ofNamesFrom found names = .error cause) ↔
    ∃ name ∈ names, name.bind ofName? = none := by
  induction names generalizing found with
  | nil => simp [ofNamesFrom]
  | cons name names ih =>
      rw [ofNamesFrom, List.exists_mem_cons_iff]
      cases hname : name.bind ofName? with
      | none => exact iff_of_true ⟨_, rfl⟩ (.inl rfl)
      | some d => exact ih.trans (or_iff_right (Option.some_ne_none d)).symm

theorem ofNames_eq_ok_iff :
    ofNames names = .ok dialects ↔ ofNamesFrom [] names = .ok dialects ∧ dialects ≠ [] := by
  rw [ofNames]
  cases ofNamesFrom [] names with
  | error cause => exact iff_of_false nofun fun h => nomatch h.1
  | ok found =>
      cases found with
      | nil =>
          refine iff_of_false nofun fun h => h.2 ?_
          exact (Except.ok.inj h.1).symm
      | cons d found =>
          constructor
          · intro h
            obtain rfl := Except.ok.inj h
            exact ⟨rfl, List.cons_ne_nil d found⟩
          · intro h
            obtain rfl := Except.ok.inj h.1
            rfl

/-- A list of names is refused just if it is empty or one of them stands for no dialect. -/
theorem exists_ofNames_eq_error_iff : (∃ cause, ofNames names = .error cause) ↔
    names = [] ∨ ∃ name ∈ names, name.bind ofName? = none := by
  constructor
  · rintro ⟨cause, herror⟩
    by_contra! hgood
    obtain ⟨hne, hknown⟩ := hgood
    cases hfrom : ofNamesFrom [] names with
    | error cause' =>
        obtain ⟨name, hname, hnone⟩ := exists_ofNamesFrom_eq_error_iff.mp ⟨cause', hfrom⟩
        exact hknown name hname hnone
    | ok dialects =>
        -- the dialect of the first name is in the list, so the list is not empty
        obtain ⟨name, hname⟩ := List.exists_mem_of_ne_nil names hne
        obtain ⟨d, hd⟩ := Option.ne_none_iff_exists'.mp (hknown name hname)
        have hmem : d ∈ named names := List.mem_filterMap.mpr ⟨name, hname, hd⟩
        have hfound := ((FirstsOf.nil.ofNamesFrom hfrom).mem_iff d).mpr hmem
        have hok := ofNames_eq_ok_iff.mpr ⟨hfrom, List.ne_nil_of_mem hfound⟩
        rw [herror] at hok
        exact nomatch hok
  · rintro (rfl | hbad)
    · exact ⟨.noneGiven, rfl⟩
    · obtain ⟨cause, hfrom⟩ := exists_ofNamesFrom_eq_error_iff.mpr hbad
      refine ⟨cause, ?_⟩
      rw [ofNames, hfrom]
      rfl

theorem FirstsOf.ofNames (h : ofNames names = .ok dialects) : FirstsOf (named names) dialects :=
  FirstsOf.nil.ofNamesFrom (ofNames_eq_ok_iff.mp h).1

theorem ofNamesFrom_map_name (h : (found ++ dialects).Nodup) :
    ofNamesFrom found (dialects.map (some ·.name)) = .ok (found ++ dialects) := by
  induction dialects generalizing found with
  | nil => simp [ofNamesFrom]
  | cons d dialects ih =>
      have hd : d ∉ found := by
        intro hmem
        exact (List.nodup_append.mp h).2.2 d hmem d List.mem_cons_self rfl
      rw [List.append_cons] at h
      rw [List.map_cons, ofNamesFrom, Option.bind_some, ofName?_name]
      simp only [if_neg hd]
      rw [ih h, ← List.append_cons]

theorem ofNames_map_name (hne : dialects ≠ []) (h : dialects.Nodup) :
    ofNames (dialects.map (some ·.name)) = .ok dialects := by
  have hall : ([] ++ dialects).Nodup := h
  exact ofNames_eq_ok_iff.mpr ⟨ofNamesFrom_map_name hall, hne⟩

end EntityMap.Dialect
