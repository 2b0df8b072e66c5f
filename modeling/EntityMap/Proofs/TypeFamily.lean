import EntityMap.TypeFamily
import EntityMap.Proofs.Text.Case
import EntityMap.Proofs.Text.Trim

/-!
Parameters of types. Parameters at the end of a type are dropped before its first word is looked at.
Parameters in front of a modifier are not, and then stand in the first word themselves:
`TypeFamily.isInteger_parameters` says which types are still told to hold integers.
-/

namespace EntityMap.TypeFamily

open Text (isBlank)

/-! ### Which parameters are dropped -/

/-- A text that ends in a closing parenthesis, white space aside, is cut at its first opening one.
-/
theorem dropParameters_of_close {s body : List Char}
    (h : Text.dropEndWhile isBlank s = body ++ [')']) :
    dropParameters s =
      if '(' ∈ body then Text.dropEndWhile isBlank (body.takeWhile (· ≠ '(')) else s := by
  simp [dropParameters, h]

theorem dropParameters_of_not_close {s : List Char}
    (h : ∀ body, Text.dropEndWhile isBlank s ≠ body ++ [')']) : dropParameters s = s := by
  rw [dropParameters]
  split
  · next body hreverse => exact absurd (by simpa using congrArg List.reverse hreverse) (h body.reverse)
  · rfl

theorem dropParameters_of_notMem {s : List Char} (h : '(' ∉ s) : dropParameters s = s := by
  by_cases hclose : ∃ body, Text.dropEndWhile isBlank s = body ++ [')']
  · obtain ⟨body, hbody⟩ := hclose
    have hmem : '(' ∉ body := fun hmem =>
      h (Text.mem_of_mem_dropEndWhile (hbody ▸ List.mem_append_left _ hmem))
    rw [dropParameters_of_close hbody, if_neg hmem]
  · exact dropParameters_of_not_close fun body hbody => hclose ⟨body, hbody⟩

theorem dropParameters_append {word parameters blanks : List Char} (hword : '(' ∉ word)
    (hblanks : ∀ c ∈ blanks, isBlank c = true) :
    dropParameters (word ++ '(' :: (parameters ++ ')' :: blanks)) =
      Text.dropEndWhile isBlank word := by
  have hend : Text.dropEndWhile isBlank (word ++ '(' :: (parameters ++ ')' :: blanks)) =
      (word ++ '(' :: parameters) ++ [')'] := by
    have hnil : Text.dropEndWhile isBlank blanks = [] := Text.dropEndWhile_eq_nil_iff.mpr hblanks
    rw [← List.cons_append, ← List.append_assoc, Text.dropEndWhile_append_cons (by decide), hnil]
  have hfront : (word ++ '(' :: parameters).takeWhile (· ≠ '(') = word := by
    rw [List.takeWhile_append_of_pos fun c hc => by simpa using ne_of_mem_of_not_mem hc hword,
      List.takeWhile_cons_of_neg (by simp), List.append_nil]
  rw [dropParameters_of_close hend, if_pos (by simp), hfront]

/-- What follows the parameters keeps them. -/
theorem dropParameters_append_of_modifier {s modifier : List Char}
    (hmodifier : ∃ c ∈ modifier, isBlank c = false) (hclose : ')' ∉ modifier) :
    dropParameters (s ++ modifier) = s ++ modifier := by
  -- the last character that is not white space is one of the modifier, so it closes nothing
  refine dropParameters_of_not_close fun body hbody => ?_
  have hne : Text.dropEndWhile isBlank modifier ≠ [] := fun hnil => by
    obtain ⟨c, hc, hblank⟩ := hmodifier
    exact Bool.false_ne_true (hblank.symm.trans (Text.dropEndWhile_eq_nil_iff.mp hnil c hc))
  rw [Text.dropEndWhile_append hmodifier] at hbody
  have hlast := congrArg List.getLast? hbody
  rw [List.getLast?_append_of_ne_nil _ hne, List.getLast?_concat] at hlast
  exact hclose (Text.mem_of_mem_dropEndWhile (List.mem_of_getLast? hlast))

/-! ### The family of a type with parameters -/

theorem toList_ofType (type : String) :
    (ofType type).toList = (Text.trim (dropParameters type.toList)).flatMap Text.upperChar := by
  simp [ofType, Text.upper, Text.strip]

/-- White space in front of a family and after it does not count. -/
theorem ofType_eq_of_trim_eq {type type' : String}
    (h : Text.trim (dropParameters type.toList) = Text.trim (dropParameters type'.toList)) :
    ofType type = ofType type' := by
  rw [← String.toList_inj, toList_ofType, toList_ofType, h]

theorem toList_parameters (w n m : String) : (w ++ "(" ++ n ++ ")" ++ m).toList =
    w.toList ++ '(' :: (n.toList ++ ')' :: m.toList) := by
  simp

theorem ofType_parameters {w n m : String} (hw : '(' ∉ w.toList) (hm : Text.isAllBlank m = true) :
    ofType (w ++ "(" ++ n ++ ")" ++ m) = ofType w := by
  refine ofType_eq_of_trim_eq ?_
  rw [toList_parameters, dropParameters_append hw (List.all_eq_true.mp hm),
    dropParameters_of_notMem hw]
  exact Text.trimWhile_dropEndWhile isBlank w.toList

theorem ofType_append_blank {w m : String} (hw : '(' ∉ w.toList) (hm : Text.isAllBlank m = true) :
    ofType (w ++ m) = ofType w := by
  have hblank : ∀ c ∈ m.toList, isBlank c = true := List.all_eq_true.mp hm
  have hnone : '(' ∉ m.toList := fun hmem => absurd (hblank '(' hmem) (by decide)
  refine ofType_eq_of_trim_eq ?_
  rw [String.toList_append, dropParameters_of_notMem (by simp [hw, hnone]),
    dropParameters_of_notMem hw]
  exact Text.trimWhile_append_of_pos hblank

/-! ### Types of integers -/

/-- A type is no integer type if its first word has a parenthesis in it. -/
theorem isInteger_eq_false {type : String} (h : '(' ∈ (ofType type).toList.takeWhile (· ≠ ' ')) :
    isInteger type = false := by
  have hfamilies : ∀ family ∈ integerFamilies, '(' ∉ family.toList := by decide
  rw [isInteger, ← Bool.not_eq_true, List.contains_iff_mem]
  intro hmem
  exact hfamilies _ hmem (by rwa [String.toList_ofList])

/-- A word of a type: no white space and no parentheses. -/
def IsWord (w : String) : Prop := ∀ c ∈ w.toList, isBlank c = false ∧ c ≠ '(' ∧ c ≠ ')'

instance (w : String) : Decidable (IsWord w) := List.decidableBAll _ w.toList

def Unbracketed (m : String) : Prop := '(' ∉ m.toList ∧ ')' ∉ m.toList

instance (m : String) : Decidable (Unbracketed m) := inferInstanceAs (Decidable (_ ∧ _))

theorem IsWord.notMem {w : String} (hw : IsWord w) : '(' ∉ w.toList :=
  fun hmem => (hw '(' hmem).2.1 rfl

theorem IsWord.not_isBlank {w : String} (hw : IsWord w) : ∀ c ∈ w.toList, isBlank c = false :=
  fun c hc => (hw c hc).1

/-- The first word of a family starts with the upper case of the first word of the type. -/
theorem IsWord.takeWhile_append {w : String} (hw : IsWord w) (s : List Char) :
    (w.toList.flatMap Text.upperChar ++ s).takeWhile (· ≠ ' ') =
      w.toList.flatMap Text.upperChar ++ s.takeWhile (· ≠ ' ') := by
  refine List.takeWhile_append_of_pos fun c hc => ?_
  obtain ⟨d, hd, hcd⟩ := List.mem_flatMap.mp hc
  have hne : d ≠ ' ' := fun he => absurd (hw.not_isBlank d hd) (by rw [he]; decide)
  exact decide_eq_true fun he => Text.space_notMem_upperChar hne (he ▸ hcd)

/-- Parameters that are kept stand in the first word of the family. -/
theorem isInteger_parameters_of_modifier {w n m : String} (hw : IsWord w) (hm : Unbracketed m)
    (hmodifier : Text.isAllBlank m = false) : isInteger (w ++ "(" ++ n ++ ")" ++ m) = false := by
  have hkept : dropParameters (w ++ "(" ++ n ++ ")" ++ m).toList =
      (w.toList ++ ['(']) ++ (n.toList ++ ')' :: m.toList) := by
    rw [List.append_assoc, List.singleton_append, ← toList_parameters, String.toList_append]
    refine dropParameters_append_of_modifier ?_ hm.2
    simpa using List.all_eq_false.mp hmodifier
  have hfront : ∀ c ∈ w.toList ++ ['('], isBlank c = false :=
    List.forall_mem_append.mpr ⟨hw.not_isBlank, List.forall_mem_singleton.mpr (by decide)⟩
  have hparenthesis : Text.upperChar '(' = ['('] := by decide
  refine isInteger_eq_false ?_
  rw [toList_ofType, hkept, Text.trim, Text.trimWhile_append hfront (by simp),
    List.append_assoc, List.flatMap_append, hw.takeWhile_append]
  simp [hparenthesis]

/-- Only the first word counts: what follows a space changes nothing. -/
theorem IsWord.takeWhile_ofType_append {w m : String} (hw : IsWord w) (hne : w ≠ "")
    (hm : '(' ∉ m.toList) (hspace : ∀ c ∈ m.toList.head?, c = ' ') :
    (ofType (w ++ m)).toList.takeWhile (· ≠ ' ') = w.toList.flatMap Text.upperChar := by
  have hkept : dropParameters (w ++ m).toList = w.toList ++ m.toList := by
    rw [dropParameters_of_notMem (by simp [hw.notMem, hm]), String.toList_append]
  have hword : w.toList ≠ [] := by simpa using hne
  have hupper : Text.upperChar ' ' = [' '] := by decide
  have hrest : ((Text.dropEndWhile isBlank m.toList).flatMap Text.upperChar).takeWhile (· ≠ ' ') =
      [] := by
    obtain ⟨tail, htail⟩ : Text.dropEndWhile isBlank m.toList <+: m.toList :=
      List.rdropWhile_prefix isBlank m.toList
    cases hend : Text.dropEndWhile isBlank m.toList with
    | nil => rfl
    | cons c rest =>
        have hc : c = ' ' := hspace c (by rw [← htail, hend]; rfl)
        simp [hc, hupper]
  rw [toList_ofType, hkept, Text.trim, Text.trimWhile_append hw.not_isBlank hword,
    List.flatMap_append, hw.takeWhile_append, hrest, List.append_nil]

theorem isInteger_append_modifier {w m : String} (hw : IsWord w) (hne : w ≠ "")
    (hm : Unbracketed m) (hspace : m.toList.head? = some ' ') :
    isInteger (w ++ m) = isInteger w := by
  have hword := hw.takeWhile_ofType_append (m := "") hne (by simp) (by simp)
  rw [String.append_empty] at hword
  have hmodified := hw.takeWhile_ofType_append hne hm.1 fun c hc =>
    (Option.some.inj (hspace.symm.trans hc)).symm
  rw [isInteger, isInteger, hmodified, hword]

/-- What the parameters of a type change. At the end of the type they change nothing; with a
modifier behind them, the type is no integer type any more. So they change the answer exactly for
the integer types with a modifier, which are those that are integer types without it. -/
theorem isInteger_parameters {w n m : String} (hw : IsWord w) (hm : Unbracketed m) :
    isInteger (w ++ "(" ++ n ++ ")" ++ m) = (Text.isAllBlank m && isInteger w) ∧
      (isInteger (w ++ "(" ++ n ++ ")" ++ m) = isInteger (w ++ m) ↔
        Text.isAllBlank m = true ∨ isInteger (w ++ m) = false) ∧
      (w ≠ "" → m.toList.head? = some ' ' → isInteger (w ++ m) = isInteger w) := by
  have hlaw : isInteger (w ++ "(" ++ n ++ ")" ++ m) = (Text.isAllBlank m && isInteger w) := by
    cases hblank : Text.isAllBlank m with
    | true => rw [Bool.true_and, isInteger, isInteger, ofType_parameters hw.notMem hblank]
    | false => rw [Bool.false_and, isInteger_parameters_of_modifier hw hm hblank]
  refine ⟨hlaw, ?_, fun hne hspace => isInteger_append_modifier hw hne hm hspace⟩
  rw [hlaw]
  cases hblank : Text.isAllBlank m with
  | true =>
      refine iff_of_true ?_ (Or.inl rfl)
      rw [Bool.true_and, isInteger, isInteger, ofType_append_blank hw.notMem hblank]
  | false =>
      rw [Bool.false_and, eq_comm]
      exact ⟨Or.inr, fun h => h.resolve_left Bool.false_ne_true⟩

theorem isInteger_parameters_bigint :
    IsWord "bigint" ∧ Unbracketed " unsigned" ∧
      isInteger ("bigint" ++ "(" ++ "20" ++ ")" ++ " unsigned") =
        (Text.isAllBlank " unsigned" && isInteger "bigint") ∧
      (isInteger ("bigint" ++ "(" ++ "20" ++ ")" ++ " unsigned") =
          isInteger ("bigint" ++ " unsigned") ↔
        Text.isAllBlank " unsigned" = true ∨ isInteger ("bigint" ++ " unsigned") = false) ∧
      isInteger ("bigint" ++ " unsigned") = isInteger "bigint" := by
  have hw : IsWord "bigint" := by decide +kernel
  have hm : Unbracketed " unsigned" := by decide
  obtain ⟨hlaw, hiff, hmodifier⟩ := isInteger_parameters (n := "20") hw hm
  exact ⟨hw, hm, hlaw, hiff, hmodifier (by decide) (by decide)⟩

/-- A length is ignored at the end of a type, and a modifier is, but not a length before a
modifier. -/
theorem isInteger_parameters_unsigned_ne :
    IsWord "INT" ∧ "11".toList.all Char.isDigit = true ∧ Unbracketed " UNSIGNED" ∧
      isInteger "INT UNSIGNED" = true ∧ isInteger "INT(11)" = true ∧
      isInteger ("INT" ++ "(" ++ "11" ++ ")" ++ " UNSIGNED") = false ∧
      isInteger ("INT" ++ "(" ++ "11" ++ ")" ++ " UNSIGNED") ≠ isInteger ("INT" ++ " UNSIGNED") := by
  decide +kernel

end EntityMap.TypeFamily
