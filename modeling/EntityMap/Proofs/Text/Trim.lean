import Mathlib.Data.List.DropRight
import EntityMap.Text.Blank

/-!
Trimming a text twice trims it once, and nothing but what was there is left. How far it goes is
decided by the first and the last character outside the class.
-/

namespace EntityMap.Text

theorem dropEndWhile_eq_rdropWhile (p : Char → Bool) (s : List Char) :
    dropEndWhile p s = s.rdropWhile p := rfl

theorem trimWhile_prefix_dropWhile (p : Char → Bool) (s : List Char) :
    trimWhile p s <+: s.dropWhile p := List.rdropWhile_prefix p _

theorem trimWhile_sublist (p : Char → Bool) (s : List Char) : (trimWhile p s).Sublist s :=
  (trimWhile_prefix_dropWhile p s).sublist.trans (List.dropWhile_sublist p)

theorem mem_of_mem_trim {c : Char} {s : List Char} (h : c ∈ trim s) : c ∈ s :=
  (trimWhile_sublist isBlank s).subset h

/-- What is trimmed starts with no character of the class. Dropping at the end leaves the first
character alone, unless it drops everything. -/
theorem dropWhile_trimWhile (p : Char → Bool) (s : List Char) :
    (trimWhile p s).dropWhile p = trimWhile p s := by
  cases h : trimWhile p s with
  | nil => rfl
  | cons c rest =>
      obtain ⟨tail, htail⟩ := trimWhile_prefix_dropWhile p s
      have hhead := List.head?_dropWhile_not p s
      rw [← htail, h] at hhead
      have hc : p c = false := hhead
      simp [hc]

theorem trimWhile_eq_nil_iff {p : Char → Bool} {s : List Char} :
    trimWhile p s = [] ↔ ∀ c ∈ s, p c = true := by
  rw [← List.dropWhile_eq_nil_iff]
  constructor
  · intro h
    -- what is left after dropping at the front starts with a character outside the class
    have hall : ∀ c ∈ s.dropWhile p, p c = true := List.rdropWhile_eq_nil_iff.mp h
    have hhead := List.head?_dropWhile_not p s
    cases hdrop : s.dropWhile p with
    | nil => rfl
    | cons c rest =>
        rw [hdrop] at hall hhead
        have hc : p c = false := hhead
        simp [hall c List.mem_cons_self] at hc
  · intro h
    rw [trimWhile, h]
    rfl

theorem trimWhile_trimWhile (p : Char → Bool) (s : List Char) :
    trimWhile p (trimWhile p s) = trimWhile p s := by
  have h := dropWhile_trimWhile p s
  rw [trimWhile, h, dropEndWhile_eq_rdropWhile, trimWhile, dropEndWhile_eq_rdropWhile]
  exact List.rdropWhile_idempotent ..

@[simp] theorem trim_trim (s : List Char) : trim (trim s) = trim s := trimWhile_trimWhile isBlank s

/-! ### Where trimming stops -/

section

variable {p : Char → Bool} {s t : List Char} {c : Char}

theorem mem_of_mem_dropEndWhile (h : c ∈ dropEndWhile p s) : c ∈ s :=
  (List.rdropWhile_prefix p s).subset h

theorem dropEndWhile_eq_nil_iff : dropEndWhile p s = [] ↔ ∀ c ∈ s, p c = true :=
  List.rdropWhile_eq_nil_iff

theorem dropEndWhile_append_of_pos (h : ∀ c ∈ t, p c = true) :
    dropEndWhile p (s ++ t) = dropEndWhile p s := by
  rw [dropEndWhile, List.reverse_append, List.dropWhile_append_of_pos, dropEndWhile]
  exact fun c hc => h c (List.mem_reverse.mp hc)

theorem dropEndWhile_append (h : ∃ c ∈ t, p c = false) :
    dropEndWhile p (s ++ t) = s ++ dropEndWhile p t := by
  have hne : (t.reverse.dropWhile p).isEmpty = false := by
    obtain ⟨c, hc, hp⟩ := h
    rw [← Bool.not_eq_true, List.isEmpty_iff, List.dropWhile_eq_nil_iff]
    intro hall
    exact Bool.false_ne_true (hp.symm.trans (hall c (List.mem_reverse.mpr hc)))
  rw [dropEndWhile, List.reverse_append, List.dropWhile_append, if_neg (by simp [hne]),
    List.reverse_append, List.reverse_reverse, dropEndWhile]

theorem dropEndWhile_append_cons (h : p c = false) :
    dropEndWhile p (s ++ c :: t) = s ++ c :: dropEndWhile p t := by
  have hc : dropEndWhile p (c :: t) = c :: dropEndWhile p t := by
    by_cases ht : ∀ d ∈ t, p d = true
    · have hnil : dropEndWhile p t = [] := dropEndWhile_eq_nil_iff.mpr ht
      rw [← List.singleton_append, dropEndWhile_append_of_pos ht, hnil]
      exact List.rdropWhile_concat_neg p [] c (by simp [h])
    · have hd : ∃ d ∈ t, p d = false := by simpa using ht
      rw [← List.singleton_append, dropEndWhile_append hd]
      rfl
  rw [dropEndWhile_append ⟨c, List.mem_cons_self, h⟩, hc]

/-- What is dropped at the end is dropped by trimming anyway. -/
theorem trimWhile_append_of_pos (h : ∀ c ∈ t, p c = true) :
    trimWhile p (s ++ t) = trimWhile p s := by
  rw [trimWhile, List.dropWhile_append]
  split
  · next hempty =>
      have hs : s.dropWhile p = [] := List.isEmpty_iff.mp hempty
      rw [List.dropWhile_eq_nil_iff.mpr h, trimWhile, hs]
  · rw [dropEndWhile_append_of_pos h, trimWhile]

theorem trimWhile_dropEndWhile (p : Char → Bool) (s : List Char) :
    trimWhile p (dropEndWhile p s) = trimWhile p s := by
  have hdropped : ∀ c ∈ s.rtakeWhile p, p c = true := fun c => List.mem_rtakeWhile_imp
  have hs : dropEndWhile p s ++ s.rtakeWhile p = s := List.rdropWhile_append_rtakeWhile ..
  rw [← trimWhile_append_of_pos (s := dropEndWhile p s) hdropped, hs]

/-- A text that starts outside the class is trimmed at its other end only. -/
theorem trimWhile_append (hs : ∀ d ∈ s, p d = false) (hne : s ≠ []) :
    trimWhile p (s ++ t) = s ++ dropEndWhile p t := by
  obtain ⟨front, last, rfl⟩ := List.eq_nil_or_concat s |>.resolve_left hne
  have hlast : p last = false := hs last (by simp)
  have hfront : (front ++ last :: t).dropWhile p = front ++ last :: t := by
    cases front with
    | nil => rw [List.nil_append, List.dropWhile_cons_of_neg (by simp [hlast])]
    | cons d front =>
        rw [List.cons_append, List.dropWhile_cons_of_neg (by simp [hs d (by simp)])]
  rw [trimWhile, List.concat_eq_append, List.append_assoc, List.singleton_append, hfront,
    dropEndWhile_append_cons hlast]
  simp

end

end EntityMap.Text
