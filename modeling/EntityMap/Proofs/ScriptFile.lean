import EntityMap.ScriptFile

/-!
Scripts in files. A script without a byte order mark in front and without carriage returns is what
is read from a file that holds its UTF-8.
-/

namespace EntityMap.ScriptFile

theorem withoutMark_eq_self {text : String} (h : text.toList.head? ≠ some '\uFEFF') :
    withoutMark text = text := by
  rw [withoutMark]
  split
  · next rest htext => exact absurd (htext ▸ rfl) h
  · rfl

theorem unifyLineEnds_cons {c : Char} (hc : c ≠ '\r') (text : List Char) :
    unifyLineEnds (c :: text) = c :: unifyLineEnds text := by
  rw [unifyLineEnds, if_neg hc]
  rintro - rfl
  exact absurd rfl hc

theorem unifyLineEnds_eq_self {text : List Char} (h : '\r' ∉ text) : unifyLineEnds text = text := by
  induction text with
  | nil => rfl
  | cons c rest ih =>
      have hc : c ≠ '\r' := fun hc => h (hc ▸ List.mem_cons_self)
      rw [unifyLineEnds_cons hc, ih fun hmem => h (List.mem_cons_of_mem c hmem)]

theorem fromUTF8?_toUTF8 (text : String) : String.fromUTF8? text.toUTF8 = some text := by
  simp only [String.fromUTF8?, String.toUTF8_eq_toByteArray, dif_pos text.isValidUTF8]
  rfl

theorem decode?_toUTF8 {text : String} (h : text.toList.head? ≠ some '\uFEFF') :
    decode? text.toUTF8 = some text := by
  rw [decode?, fromUTF8?_toUTF8, Option.map_some, withoutMark_eq_self h]

theorem read?_toUTF8 {text : String} (hmark : text.toList.head? ≠ some '\uFEFF')
    (hreturn : '\r' ∉ text.toList) : read? text.toUTF8 = some text := by
  rw [read?, decode?_toUTF8 hmark, Option.map_some, unifyLineEnds_eq_self hreturn,
    String.ofList_toList]

end EntityMap.ScriptFile
