import EntityMap.Text.Case

/-!
Case mappings. A character may become several but never none, so only the empty text has an empty
lower case. If the entries of a mapping keep away from some ranges of characters, the mapping leads
neither into them nor out of them.
-/

namespace EntityMap.Text

theorem lowerChar_ne_nil (c : Char) : lowerChar c ≠ [] := by
  have hexpansions : ∀ entry ∈ lowerExpansions, entry.2 ≠ [] := by decide
  rw [lowerChar]
  split
  · exact List.cons_ne_nil _ _
  · rw [mapChar]
    split
    · next code image h =>
        rw [ne_eq, List.map_eq_nil_iff]
        exact hexpansions _ (List.mem_of_find?_eq_some h)
    · exact List.cons_ne_nil _ _

theorem lowerFrom_eq_nil_iff {afterCased : Bool} {s : List Char} :
    lowerFrom afterCased s = [] ↔ s = [] := by
  cases s with
  | nil => exact ⟨fun _ => rfl, fun _ => rfl⟩
  | cons c rest =>
      refine iff_of_false (fun h => ?_) (List.cons_ne_nil c rest)
      have himage := (List.append_eq_nil_iff.mp h).1
      split at himage
      · exact List.cons_ne_nil _ _ himage
      · exact lowerChar_ne_nil c himage

theorem lower_eq_empty_iff {s : String} : lower s = "" ↔ s = "" := by
  rw [lower, ← String.toList_inj, String.toList_ofList, String.toList_empty, lowerFrom_eq_nil_iff,
    String.toList_eq_nil_iff]

/-! ### Ranges that a mapping keeps away from -/

variable {ranges : List (Nat × Nat)} {expansions : List (Nat × List Nat)} {runs : List CaseRun}

theorem inRanges_eq_false {n : Nat} :
    inRanges ranges n = false ↔ ∀ range ∈ ranges, n < range.1 ∨ range.2 < n := by
  simp only [inRanges, List.any_eq_false, Bool.and_eq_true, decide_eq_true_eq]
  refine forall₂_congr fun range _ => ?_
  omega

/-- A number that is no character stands for the character zero. -/
theorem inRanges_ofNat (hzero : inRanges ranges 0 = false) {n : Nat}
    (h : inRanges ranges n = false) : inRanges ranges (Char.ofNat n).toNat = false := by
  by_cases hvalid : n.isValidChar
  · have hchar : Char.ofNat n = Char.ofNatAux n hvalid := dif_pos hvalid
    rw [hchar]
    exact h
  · have hchar : Char.ofNat n = '\x00' := dif_neg hvalid
    rw [hchar]
    exact hzero

/-- What a run maps, and what it maps to, lies in none of the ranges. -/
def CaseRun.Avoids (ranges : List (Nat × Nat)) (r : CaseRun) : Prop :=
  0 ≤ r.first + r.shift ∧ ∀ range ∈ ranges, (r.last < range.1 ∨ range.2 < r.first) ∧
    (r.last + r.shift < range.1 ∨ range.2 < r.first + r.shift)

instance (ranges : List (Nat × Nat)) (r : CaseRun) : Decidable (r.Avoids ranges) :=
  inferInstanceAs (Decidable (_ ∧ _))

theorem CaseRun.Avoids.image? {r : CaseRun} (h : r.Avoids ranges) {n m : Nat}
    (hm : r.image? n = some m) : inRanges ranges n = false ∧ inRanges ranges m = false := by
  rw [CaseRun.image?, Option.ite_none_right_eq_some, Option.some.injEq] at hm
  obtain ⟨⟨hfirst, hlast, -⟩, rfl⟩ := hm
  obtain ⟨hnonneg, hranges⟩ := h
  constructor
  · refine inRanges_eq_false.mpr fun range hrange => ?_
    obtain ⟨hsource, -⟩ := hranges range hrange
    omega
  · refine inRanges_eq_false.mpr fun range hrange => ?_
    obtain ⟨-, himage⟩ := hranges range hrange
    omega

/-- No entry of the mapping, neither a character nor its image, lies in one of the ranges. -/
def MappingAvoids (ranges : List (Nat × Nat)) (expansions : List (Nat × List Nat))
    (runs : List CaseRun) : Prop :=
  inRanges ranges 0 = false ∧
    (∀ entry ∈ expansions, ∀ n ∈ entry.1 :: entry.2, inRanges ranges n = false) ∧
    ∀ r ∈ runs, r.Avoids ranges

instance (ranges : List (Nat × Nat)) (expansions : List (Nat × List Nat)) (runs : List CaseRun) :
    Decidable (MappingAvoids ranges expansions runs) := inferInstanceAs (Decidable (_ ∧ _))

theorem MappingAvoids.inRanges_eq (h : MappingAvoids ranges expansions runs) {c d : Char}
    (hd : d ∈ mapChar expansions runs c) : inRanges ranges d.toNat = inRanges ranges c.toNat := by
  obtain ⟨hzero, hexpansions, hruns⟩ := h
  rw [mapChar] at hd
  split at hd
  · next code image hfind =>
      obtain ⟨n, hn, rfl⟩ := List.mem_map.mp hd
      have hcode : code = c.toNat := by simpa using List.find?_some hfind
      have hentry := hexpansions _ (List.mem_of_find?_eq_some hfind)
      rw [← hcode, hentry code List.mem_cons_self,
        inRanges_ofNat hzero (hentry n (List.mem_cons_of_mem code hn))]
  · rw [List.mem_singleton.mp hd, mapByRuns]
    cases hrun : runs.findSome? (·.image? c.toNat) with
    | none => rw [Option.getD_none, Char.ofNat_toNat]
    | some m =>
        obtain ⟨r, hr, himage⟩ := List.exists_of_findSome?_eq_some hrun
        obtain ⟨hsource, htarget⟩ := (hruns r hr).image? himage
        rw [Option.getD_some, inRanges_ofNat hzero htarget, hsource]

/-- A mapping with a part for ASCII keeps every character in its ranges or out of them, if both
parts do. -/
theorem inRanges_eq_of_mem_image {f : Char → Char}
    (hascii : ∀ n < 128, inRanges ranges (f (Char.ofNat n)).toNat = inRanges ranges n)
    (havoids : MappingAvoids ranges expansions runs) {c d : Char}
    (hd : d ∈ if c.toNat < 128 then [f c] else mapChar expansions runs c) :
    inRanges ranges d.toNat = inRanges ranges c.toNat := by
  split at hd
  · next hlt =>
      have h := hascii c.toNat hlt
      rw [Char.ofNat_toNat] at h
      rw [List.mem_singleton.mp hd, h]
  · exact havoids.inRanges_eq hd

/-- Upper case makes a space of nothing else. -/
theorem space_notMem_upperChar {c : Char} (h : c ≠ ' ') : ' ' ∉ upperChar c := by
  have hrange (d : Char) : inRanges [(0x20, 0x20)] d.toNat = true ↔ d = ' ' := by
    simp only [inRanges, List.any_cons, List.any_nil, Bool.or_false, Bool.and_eq_true,
      decide_eq_true_eq, ← Char.toNat_inj, Char.reduceToNat]
    omega
  have havoids : MappingAvoids [(0x20, 0x20)] upperExpansions upperRuns := by decide +kernel
  intro hmem
  have himage := inRanges_eq_of_mem_image (f := Char.toUpper) (by decide +kernel) havoids hmem
  rw [(hrange ' ').mpr rfl] at himage
  exact h ((hrange c).mp himage.symm)

end EntityMap.Text
