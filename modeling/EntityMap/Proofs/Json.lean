import EntityMap.Json

/-!
Every text has a form in JSON from which it is read back: quotes, backslashes and control characters
are escaped, and all other characters stand for themselves.
-/

namespace EntityMap.Json

def escape (c : Char) : List Char :=
  if c = '"' ∨ c = '\\' then ['\\', c]
  else if c < ' ' then
    ['\\', 'u', '0', '0', Nat.digitChar (c.toNat / 16), Nat.digitChar (c.toNat % 16)]
  else [c]

def quote (s : List Char) : List Char := '"' :: (s.flatMap escape ++ ['"'])

def quoteField (name s : String) : String :=
  String.ofList ('\x7b' :: (quote name.toList ++ ':' :: (quote s.toList ++ ['\x7d'])))

/-! ### Reading what is between the quotes -/

theorem textAfter_quote (read rest : List Char) :
    textAfter read ('"' :: rest) = .ok (String.ofList read.reverse, rest) := by
  rw [textAfter]

theorem textAfter_plain {c : Char} (hquote : c ≠ '"') (hslash : c ≠ '\\') (hspace : ¬c < ' ')
    (read rest : List Char) : textAfter read (c :: rest) = textAfter (c :: read) rest := by
  rw [textAfter, if_neg hspace] <;> simp_all

/-- The letter that announces the number of a character is no letter for a character. -/
theorem textAfter_escape {e c : Char} (he : escape? e = some c) (read rest : List Char) :
    textAfter read ('\\' :: e :: rest) = textAfter (c :: read) rest := by
  have hu : e ≠ 'u' := by
    rintro rfl
    simp [escape?] at he
  rw [textAfter]
  · simp only [he]
  · simp_all

theorem single_of_lt {n : Nat} (h : n < 0xD800) : single n = Char.ofNat n := by
  simp [single, Nat.not_le.mpr h]

theorem joinHalves?_of_lt {n : Nat} (h : n < 0xD800) (low : Nat) : joinHalves? n low = none := by
  simp [joinHalves?, Nat.not_le.mpr h]

/-- A number below those of the halves is a character by itself, whatever follows. -/
theorem textAfter_number {a b c d : Char} {n : Nat} (hn : Text.hexNumber? [a, b, c, d] = some n)
    (hlow : n < 0xD800) (read rest : List Char) :
    textAfter read ('\\' :: 'u' :: a :: b :: c :: d :: rest) =
      textAfter (Char.ofNat n :: read) rest := by
  rw [← single_of_lt hlow]
  -- a second number may follow and is read together with this one, but this one is no half
  by_cases hrest : ∃ e f g h after, rest = '\\' :: 'u' :: e :: f :: g :: h :: after
  · obtain ⟨e, f, g, h, after, rfl⟩ := hrest
    have hjoin : (Text.hexNumber? [e, f, g, h]).bind (joinHalves? n) = none :=
      Option.bind_eq_none_iff.mpr fun low _ => joinHalves?_of_lt hlow low
    rw [textAfter.eq_3 _ _ _ _ _ _ _ _ _ _ _ hn, hjoin]
  · exact textAfter.eq_4 _ _ _ _ _ _ _ hn fun e f g h after heq => hrest ⟨e, f, g, h, after, heq⟩

/-- The digits of the number of a control character. -/
theorem hexNumber?_digits : ∀ n < 32,
    Text.hexNumber? ['0', '0', Nat.digitChar (n / 16), Nat.digitChar (n % 16)] = some n := by
  decide

theorem textAfter_escaped (c : Char) (read rest : List Char) :
    textAfter read (escape c ++ rest) = textAfter (c :: read) rest := by
  rw [escape]
  split
  · next hc =>
      have he : escape? c = some c := by rcases hc with rfl | rfl <;> rfl
      exact textAfter_escape he read rest
  · next hc =>
      rw [not_or] at hc
      split
      · next hspace =>
          have hlow : c.toNat < 32 := hspace
          have h := textAfter_number (hexNumber?_digits _ hlow) (by omega) read rest
          rwa [Char.ofNat_toNat] at h
      · next hspace => exact textAfter_plain hc.1 hc.2 hspace read rest

theorem textAfter_quoted (s read rest : List Char) :
    textAfter read (s.flatMap escape ++ '"' :: rest) =
      .ok (String.ofList (read.reverse ++ s), rest) := by
  induction s generalizing read with
  | nil => rw [List.flatMap_nil, List.nil_append, textAfter_quote, List.append_nil]
  | cons c s ih =>
      rw [List.flatMap_cons, List.append_assoc, textAfter_escaped, ih, List.reverse_cons,
        List.append_assoc, List.singleton_append]

/-! ### Reading a record with one text -/

theorem quote_append (s rest : List Char) :
    quote s ++ rest = '"' :: (s.flatMap escape ++ '"' :: rest) := by
  simp only [quote, List.cons_append, List.append_assoc, List.nil_append]

theorem dropBlanks_quote (s rest : List Char) :
    dropBlanks (quote s ++ rest) = quote s ++ rest := rfl

theorem textAfter_nil_quoted (s rest : List Char) :
    textAfter [] (s.flatMap escape ++ '"' :: rest) = .ok (String.ofList s, rest) :=
  textAfter_quoted s [] rest

theorem value_quote (fuel depth : Nat) (s rest : List Char) :
    value (fuel + 1) depth (quote s ++ rest) = .ok (.text (String.ofList s), rest) := by
  rw [quote_append]
  have hvalue (t : List Char) : value (fuel + 1) depth ('"' :: t) = simple ('"' :: t) := by
    cases depth <;> rfl
  have hnamed (t : List Char) : named? ('"' :: t) = none := rfl
  simp only [hvalue, simple, hnamed, textAfter_nil_quoted]
  rfl

theorem fields_quote (fuel depth : Nat) (name s : List Char) :
    fields (fuel + 2) depth (quote name ++ ':' :: (quote s ++ ['\x7d'])) =
      .ok ([(String.ofList name, .text (String.ofList s))], []) := by
  have hcolon (t : List Char) : dropBlanks (':' :: t) = ':' :: t := rfl
  have hend : dropBlanks ['\x7d'] = ['\x7d'] := rfl
  rw [quote_append name, fields]
  simp only [textAfter_nil_quoted, bind, Except.bind, hcolon, dropBlanks_quote, value_quote,
    hend]
  rfl

theorem value_quoteField (fuel depth : Nat) (name s : String) :
    value (fuel + 3) (depth + 1) (quoteField name s).toList =
      .ok (.record [(name, .text s)], []) := by
  have hfields := fields_quote fuel depth name.toList s.toList
  rw [String.ofList_toList, String.ofList_toList] at hfields
  rw [quoteField, String.toList_ofList, value, dropBlanks_quote]
  -- what stands after the brace is no brace, so fields are read
  change (fields (fuel + 2) depth (quote name.toList ++ ':' :: (quote s.toList ++ ['\x7d'])) >>=
    _) = _
  rw [hfields]
  rfl

theorem read_quoteField (name s : String) :
    read (quoteField name s) = .ok (.record [(name, .text s)]) := by
  obtain ⟨fuel, hfuel⟩ : ∃ fuel, (quoteField name s).toList.length + 1 = fuel + 3 := by
    refine ⟨(quoteField name s).toList.length - 2, ?_⟩
    have hlength : 2 ≤ (quoteField name s).toList.length := by
      simp [quoteField, quote]
    omega
  have hblanks : dropBlanks (quoteField name s).toList = (quoteField name s).toList := by
    rw [quoteField, String.toList_ofList]
    rfl
  have hvalue := value_quoteField fuel 999 name s
  rw [read, hblanks, hfuel, maxDepth]
  simp only [hvalue, bind, Except.bind]
  rfl

end EntityMap.Json
