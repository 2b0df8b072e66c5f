import Mathlib.Data.List.Nodup

/-!
Lists whose entries are told apart by a key.
-/

namespace EntityMap

variable {α β : Type} {l l' : List α}

theorem find?_eq_some_of_unique {p : α → Bool} {a : α} (ha : a ∈ l) (hp : p a = true)
    (hunique : ∀ b ∈ l, p b = true → b = a) : l.find? p = some a := by
  cases h : l.find? p with
  | none => exact absurd hp (List.find?_eq_none.mp h a ha)
  | some b => rw [hunique b (List.mem_of_find?_eq_some h) (List.find?_some h)]

theorem eq_of_map_eq {f : α → β} (h : l.map f = l'.map f)
    (hinj : ∀ a ∈ l, ∀ b ∈ l', f a = f b → a = b) : l = l' := by
  have hlength : l.length = l'.length := by simpa using congrArg List.length h
  refine List.ext_getElem hlength fun i hi hi' => ?_
  refine hinj _ (List.getElem_mem hi) _ (List.getElem_mem hi') ?_
  simpa [hi, hi'] using congrArg (·[i]?) h

theorem mem_or_eq_of_mem_modify {i : Nat} {f : α → α} {a : α} (h : a ∈ l.modify i f) :
    a ∈ l ∨ ∃ b ∈ l, a = f b := by
  obtain ⟨k, hk⟩ := List.mem_iff_getElem?.mp h
  simp only [List.getElem?_modify, Option.map_eq_map, Option.map_eq_some_iff] at hk
  obtain ⟨b, hb, he⟩ := hk
  by_cases hik : i = k
  · rw [if_pos hik] at he
    exact Or.inr ⟨b, List.mem_of_getElem? hb, he.symm⟩
  · rw [if_neg hik] at he
    exact Or.inl (he ▸ List.mem_of_getElem? hb)

theorem map_set_of_findIdx?_eq_some [BEq β] [LawfulBEq β] {key : α → β} {a : α} {i : Nat}
    (h : l.findIdx? (fun x => key x == key a) = some i) : (l.set i a).map key = l.map key := by
  obtain ⟨hi, hkey, -⟩ := List.findIdx?_eq_some_iff_getElem.mp h
  have hlength : i < (l.map key).length := by rwa [List.length_map]
  have hset := List.set_getElem_self hlength
  rwa [List.getElem_map, eq_of_beq hkey, ← List.map_set] at hset

theorem map_modify_comm {f : α → β} {g : α → α} {g' : β → β} (h : ∀ a, f (g a) = g' (f a))
    (l : List α) (i : Nat) : (l.modify i g).map f = (l.map f).modify i g' := by
  refine List.ext_getElem? fun k => ?_
  simp only [List.getElem?_map, List.getElem?_modify, Option.map_eq_map, Option.map_map]
  refine congrArg (Option.map · _) (funext fun a => ?_)
  by_cases hk : i = k <;> simp [hk, h]

theorem nodup_map_of_comp {γ : Type} {f : α → β} {g : β → γ}
    (h : (l.map fun a => g (f a)).Nodup) : (l.map f).Nodup := by
  refine List.Nodup.of_map g ?_
  rwa [List.map_map]

/-- Where keys are distinct, changing the entry at a position is changing the entry with its
key. -/
theorem modify_eq_map_of_nodup [DecidableEq β] {key : α → β} (hl : (l.map key).Nodup) {i : Nat}
    {a : α} (ha : l[i]? = some a) (f : α → α) :
    l.modify i f = l.map fun x => if key x = key a then f x else x := by
  induction l generalizing i with
  | nil => simp at ha
  | cons x xs ih =>
      rw [List.map_cons, List.nodup_cons] at hl
      cases i with
      | zero =>
          obtain rfl : x = a := by simpa using ha
          have hrest : ∀ y ∈ xs, (if key y = key x then f y else y) = y := fun y hy =>
            if_neg fun he : key y = key x => hl.1 (he ▸ List.mem_map_of_mem hy)
          rw [List.modify_zero_cons, List.map_cons, if_pos rfl, List.map_congr_left hrest]
          simp
      | succ i =>
          have hmem : a ∈ xs := List.mem_of_getElem? (by simpa using ha)
          have hx : key x ≠ key a := fun he => hl.1 (he.symm ▸ List.mem_map_of_mem hmem)
          rw [List.modify_succ_cons, List.map_cons, if_neg hx, ih hl.2 (by simpa using ha)]

/-- Lists are the same up to order if they have the same entries, in the same order, for each
key. -/
theorem perm_of_filter_key_eq [DecidableEq α] [DecidableEq β] {key : α → β}
    (h : ∀ k, (l.filter fun a => key a == k) = l'.filter fun a => key a == k) : l.Perm l' := by
  rw [List.perm_iff_count]
  intro a
  have hcount := congrArg (List.count a) (h (key a))
  rwa [List.count_filter (by simp), List.count_filter (by simp)] at hcount

/-- What is searched for is found wherever it stands, if there is only one. -/
theorem find?_eq_of_perm {p : α → Bool} (h : l.Perm l')
    (hunique : ∀ a ∈ l, ∀ b ∈ l, p a = true → p b = true → a = b) : l.find? p = l'.find? p := by
  cases hfind : l'.find? p with
  | none =>
      rw [List.find?_eq_none] at hfind ⊢
      exact fun a ha => hfind a (h.mem_iff.mp ha)
  | some a =>
      have ha : a ∈ l := h.mem_iff.mpr (List.mem_of_find?_eq_some hfind)
      have hp := List.find?_some hfind
      exact find?_eq_some_of_unique ha hp fun b hb hpb => hunique b hb a ha hpb hp

theorem find?_key_eq_of_perm [DecidableEq β] {key : α → β} (h : l.Perm l')
    (hl : (l.map key).Nodup) (k : β) :
    (l.find? fun a => key a == k) = l'.find? fun a => key a == k := by
  refine find?_eq_of_perm h fun a ha b hb hak hbk => ?_
  rw [beq_iff_eq] at hak hbk
  exact List.inj_on_of_nodup_map hl ha hb (hak.trans hbk.symm)

theorem filter_key_eq_toList_find? [DecidableEq β] {key : α → β} (hl : (l.map key).Nodup) (k : β) :
    (l.filter fun a => key a == k) = (l.find? fun a => key a == k).toList := by
  induction l with
  | nil => rfl
  | cons a l ih =>
      rw [List.map_cons, List.nodup_cons] at hl
      rw [List.filter_cons, List.find?_cons]
      by_cases ha : key a = k
      · have hrest : (l.filter fun b => key b == k) = [] := by
          refine List.filter_eq_nil_iff.mpr fun b hb hbk => hl.1 ?_
          rw [ha, ← beq_iff_eq.mp hbk]
          exact List.mem_map_of_mem hb
        simp [ha, hrest]
      · rw [beq_false_of_ne ha, ih hl.2]
        rfl

theorem filter_key_eq_of_perm [DecidableEq β] {key : α → β} (h : l.Perm l')
    (hl : (l.map key).Nodup) (k : β) :
    (l.filter fun a => key a == k) = l'.filter fun a => key a == k := by
  rw [filter_key_eq_toList_find? hl, find?_key_eq_of_perm h hl,
    filter_key_eq_toList_find? ((h.map key).nodup_iff.mp hl)]

/-- Where keys are distinct, leaving out the entry at a position is leaving out the entry with its
key. -/
theorem eraseIdx_eq_filter_of_nodup [DecidableEq β] {key : α → β} (hl : (l.map key).Nodup) {i : Nat}
    {a : α} (ha : l[i]? = some a) : l.eraseIdx i = l.filter fun x => key x != key a := by
  induction l generalizing i with
  | nil => simp at ha
  | cons x xs ih =>
      rw [List.map_cons, List.nodup_cons] at hl
      cases i with
      | zero =>
          obtain rfl : x = a := by simpa using ha
          have hrest : ∀ y ∈ xs, (key y != key x) = true := by
            intro y hy
            rw [bne_iff_ne]
            exact fun he => hl.1 (he ▸ List.mem_map_of_mem hy)
          rw [List.eraseIdx_zero, List.tail_cons, List.filter_cons_of_neg (by simp),
            List.filter_eq_self.mpr hrest]
      | succ i =>
          have hmem : a ∈ xs := List.mem_of_getElem? (by simpa using ha)
          have hx : key x ≠ key a := fun he => hl.1 (he ▸ List.mem_map_of_mem hmem)
          rw [List.eraseIdx_cons_succ, ih hl.2 (by simpa using ha),
            List.filter_cons_of_pos (by simpa using hx)]

theorem eraseDups_append_singleton [DecidableEq α] (l : List α) (a : α) :
    (l ++ [a]).eraseDups = if a ∈ l then l.eraseDups else l.eraseDups ++ [a] := by
  rw [List.eraseDups_append]
  by_cases ha : a ∈ l
  · have hnone : [a].removeAll l = [] := by simpa [List.removeAll] using ha
    rw [if_pos ha, hnone, List.eraseDups_nil, List.append_nil]
  · have hnew : [a].removeAll l = [a] := by simpa [List.removeAll] using ha
    rw [if_neg ha, hnew, List.eraseDups_cons, List.filter_nil, List.eraseDups_nil]

/-- Where all that an entry expands to has the key of the entry, choosing by key and expanding may
be done in either order. -/
theorem filter_flatMap_of_key {γ : Type} {key : α → γ} {key' : β → γ} {g : α → List β}
    (hg : ∀ a ∈ l, ∀ b ∈ g a, key' b = key a) (p : γ → Bool) :
    (l.flatMap g).filter (fun b => p (key' b)) = (l.filter fun a => p (key a)).flatMap g := by
  induction l with
  | nil => rfl
  | cons a l ih =>
      have ha : ∀ b ∈ g a, p (key' b) = p (key a) := by
        intro b hb
        rw [hg a List.mem_cons_self b hb]
      rw [List.flatMap_cons, List.filter_append, ih fun x hx => hg x (List.mem_cons_of_mem a hx),
        List.filter_cons]
      by_cases hp : p (key a)
      · rw [if_pos hp, List.filter_eq_self.mpr fun b hb => (ha b hb).trans hp, List.flatMap_cons]
      · have hnone : (g a).filter (fun b => p (key' b)) = [] := by
          refine List.filter_eq_nil_iff.mpr fun b hb => ?_
          rwa [ha b hb]
        rw [if_neg hp, hnone, List.nil_append]

end EntityMap
