import ColumnTypes.Text.CodePoints

/-!
# Texts without surrogates

The code points of a text are those of characters and surrogates, whatever the text is made of.
Where no surrogate is among them, writing them as characters gives the same text as writing them as
code points, so nothing is lost on a stream that takes characters only.
-/

namespace ColumnTypes.Text

/-- A character is a code point. -/
theorem toNat_lt (c : Char) : c.toNat < 0x110000 := by
  rcases c.valid with h | h
  · exact Nat.lt_trans h (by decide)
  · exact h.2

/-- A character behind a guard stands for a code point. -/
theorem guarded_lt (c : Char) : guarded c < 0x110000 := by
  have hc := toNat_lt c
  unfold guarded standInStart surrogateStart
  split <;> omega

/-- A written form stands for code points. -/
theorem codesOf_lt {cs : List Char} : ∀ n ∈ codesOf cs, n < 0x110000 := by
  fun_induction codesOf cs with
  | case1 => simp
  | case2 c => simpa using toNat_lt c
  | case3 d rest ih => exact List.forall_mem_cons.2 ⟨guarded_lt d, ih⟩
  | case4 c d rest hc ih => exact List.forall_mem_cons.2 ⟨toNat_lt c, ih⟩

/-- The code points of a text are below the last. -/
theorem codes_lt {s : String} : ∀ n ∈ codes s, n < 0x110000 :=
  codesOf_lt

/-- A written form is read up to any place if no guard is before it. -/
theorem codesOf_append {cs rest : List Char} (h : ∀ c ∈ cs, c ≠ guardMark) :
    codesOf (cs ++ rest) = codesOf cs ++ codesOf rest := by
  induction cs with
  | nil => rfl
  | cons c cs ih =>
      obtain ⟨hc, hcs⟩ := List.forall_mem_cons.1 h
      rw [List.cons_append, codesOf_cons hc, codesOf_cons hc, ih hcs, List.cons_append]

/-- Characters are written one after another. -/
theorem ofChars_append (cs ds : List Char) : ofChars (cs ++ ds) = ofChars cs ++ ofChars ds := by
  unfold ofChars
  rw [List.flatMap_append, String.ofList_append]

/-- So are code points. -/
theorem ofCodes_append (codes more : List Nat) :
    ofCodes (codes ++ more) = ofCodes codes ++ ofCodes more := by
  unfold ofCodes
  rw [List.flatMap_append, String.ofList_append]

/-- The text that characters spell has their code points. -/
theorem codes_ofChars (cs : List Char) : codes (ofChars cs) = cs.map Char.toNat := by
  simp only [codes, ofChars, String.toList_ofList]
  induction cs with
  | nil => rfl
  | cons c cs ih => rw [List.flatMap_cons, codesOf_ofChar_append, ih, List.map_cons]

/-- Characters that are no guards are written as they are. -/
theorem ofChars_of_ne {cs : List Char} (h : ∀ c ∈ cs, c ≠ guardMark) :
    ofChars cs = String.ofList cs := by
  have hself : ∀ c ∈ cs, ofChar c = [c] := fun c hc => if_neg (h c hc)
  rw [ofChars, List.flatMap_def, List.map_congr_left hself, ← List.flatMap_def]
  simp

/-- A text that is not empty has a code point. -/
theorem codes_ne_nil {s : String} (h : s ≠ "") : codes s ≠ [] := by
  unfold codes
  cases hlist : s.toList with
  | nil => exact absurd (String.toList_eq_nil_iff.1 hlist) h
  | cons c rest =>
      cases rest with
      | nil => exact List.cons_ne_nil _ _
      | cons d rest =>
          rw [codesOf]
          split
          · exact List.cons_ne_nil _ _
          · exact List.cons_ne_nil _ _

/-- A text in which no surrogate stands. -/
theorem hasSurrogate_eq_false_iff {s : String} :
    hasSurrogate s = false ↔ ∀ n ∈ codes s, isSurrogate n = false := by
  rw [hasSurrogate, List.any_eq_false]
  simp

/-- Characters that are no guards stand for themselves. -/
theorem codesOf_of_ne {cs : List Char} (h : ∀ c ∈ cs, c ≠ guardMark) :
    codesOf cs = cs.map Char.toNat := by
  induction cs with
  | nil => rfl
  | cons c cs ih =>
      obtain ⟨hc, hcs⟩ := List.forall_mem_cons.1 h
      rw [codesOf_cons hc, ih hcs, List.map_cons]

/-- Characters before the surrogates, or most of them, are no guards. -/
theorem ne_guardMark_of_lt {c : Char} (h : c.toNat < guardMark.toNat) : c ≠ guardMark := by
  rintro rfl
  exact Nat.lt_irrefl _ h

/-- Each ASCII character takes a byte. -/
theorem byteSize_of_ascii {s : String} (h : ∀ c ∈ s.toList, c.toNat < 0x80) :
    byteSize s = s.toList.length := by
  have hfold : ∀ (ns : List Nat) (size : Nat), (∀ n ∈ ns, n < 0x80) →
      ns.foldl (fun size n => size + codeSize n) size = size + ns.length := by
    intro ns
    induction ns with
    | nil => exact fun _ _ => rfl
    | cons n ns ih =>
        intro size hns
        obtain ⟨hn, hns⟩ := List.forall_mem_cons.1 hns
        rw [List.foldl_cons, ih _ hns, codeSize, if_pos (.inl hn), List.length_cons]
        omega
  have hcodes : codes s = s.toList.map Char.toNat :=
    codesOf_of_ne fun c hc => ne_guardMark_of_lt (Nat.lt_trans (h c hc) (by decide))
  unfold byteSize
  rw [hcodes, hfold _ _ (List.forall_mem_map.2 h), List.length_map, Nat.zero_add]

/-- A character is no surrogate. -/
theorem isSurrogate_toNat (c : Char) : isSurrogate c.toNat = false := by
  rw [Bool.eq_false_iff, ne_eq, isSurrogate_iff]
  rcases c.valid with h | h
  · exact fun hrange => Nat.not_le.2 h hrange.1
  · exact fun hrange => Nat.not_le.2 hrange.2 h.1

/-- No surrogate stands in the text that characters spell. -/
theorem hasSurrogate_ofChars (cs : List Char) : hasSurrogate (ofChars cs) = false := by
  rw [hasSurrogate_eq_false_iff, codes_ofChars]
  exact List.forall_mem_map.2 fun c _ => isSurrogate_toNat c

/-- Whether a character stands for itself wherever it is: it is neither a guard nor a stand-in. -/
def IsOrdinary (c : Char) : Prop :=
  c ≠ guardMark ∧ c.toNat < standInStart

instance (c : Char) : Decidable (IsOrdinary c) :=
  inferInstanceAs (Decidable (_ ∧ _))

/-- Characters before the surrogates, or most of them, are ordinary. -/
theorem isOrdinary_of_lt {c : Char} (h : c.toNat < guardMark.toNat) : IsOrdinary c :=
  ⟨ne_guardMark_of_lt h, Nat.lt_trans h (by decide)⟩

/-- An ordinary character parts a text: a surrogate stands on one side of it or on the other.  A
guard that goes before it guards nothing. -/
theorem any_isSurrogate_codesOf_append_cons {cs ds : List Char} {c : Char} (hc : IsOrdinary c) :
    (codesOf (cs ++ c :: ds)).any isSurrogate =
      ((codesOf cs).any isSurrogate || (codesOf ds).any isSurrogate) := by
  have hself : guarded c = c.toNat := if_neg (Nat.not_le.2 hc.2)
  fun_induction codesOf cs with
  | case1 => simp [codesOf_cons hc.1, isSurrogate_toNat]
  | case2 d =>
      by_cases hd : d = guardMark
      · simp [hd, codesOf_guardMark_cons, hself, isSurrogate_toNat]
      · simp [codesOf_cons hd, codesOf_cons hc.1, isSurrogate_toNat]
  | case3 d rest ih =>
      rw [List.cons_append, List.cons_append, codesOf_guardMark_cons, List.any_cons, List.any_cons,
        ih, Bool.or_assoc]
  | case4 e d rest he ih =>
      rw [List.cons_append] at ih
      rw [List.cons_append, List.cons_append, codesOf_cons he, List.any_cons, List.any_cons, ih,
        Bool.or_assoc]

/-- Ordinary characters, of which there is one at least, part a text as one does. -/
theorem hasSurrogate_append_append {cs ds es : List Char} (hne : ds ≠ [])
    (h : ∀ d ∈ ds, IsOrdinary d) :
    hasSurrogate (String.ofList (cs ++ (ds ++ es))) =
      (hasSurrogate (String.ofList cs) || hasSurrogate (String.ofList es)) := by
  have hparts : (codesOf (cs ++ (ds ++ es))).any isSurrogate =
      ((codesOf cs).any isSurrogate || (codesOf es).any isSurrogate) := by
    induction ds generalizing cs with
    | nil => exact absurd rfl hne
    | cons d ds ih =>
        obtain ⟨hd, hds⟩ := List.forall_mem_cons.1 h
        rw [List.cons_append, any_isSurrogate_codesOf_append_cons hd]
        cases ds with
        | nil => rfl
        | cons d' ds =>
            have hrest : (codesOf ([] ++ (d' :: ds ++ es))).any isSurrogate =
                ((codesOf []).any isSurrogate || (codesOf es).any isSurrogate) :=
              ih (List.cons_ne_nil d' ds) hds
            rw [List.nil_append] at hrest
            rw [hrest]
            rfl
  unfold hasSurrogate codes
  simpa only [String.toList_ofList] using hparts

/-- The code points of characters are written as the characters. -/
theorem ofCodes_map_toNat (cs : List Char) : ofCodes (cs.map Char.toNat) = ofChars cs := by
  have hcode : ∀ c : Char, ofCode c.toNat = ofChar c := by
    intro c
    rw [ofCode, isSurrogate_toNat, if_neg Bool.false_ne_true, Char.ofNat_toNat]
  unfold ofCodes ofChars
  rw [List.flatMap_map]
  simp only [hcode]

/-- A surrogate stands in a text if one is among the code points that it was made of. -/
theorem hasSurrogate_ofCodes {codes : List Nat} (h : ∀ n ∈ codes, n < 0x110000) :
    hasSurrogate (ofCodes codes) = codes.any isSurrogate := by
  rw [hasSurrogate, codes_ofCodes h]

/-- The code points of characters are those below the last that are no surrogates. -/
theorem isValidChar_iff {n : Nat} : n.isValidChar ↔ n < 0x110000 ∧ isSurrogate n = false := by
  rw [Bool.eq_false_iff, ne_eq, isSurrogate_iff]
  simp only [Nat.isValidChar]
  omega

/-- The code points of a text without surrogates are those of characters. -/
theorem isValidChar_of_mem_codes {s : String} (h : hasSurrogate s = false) :
    ∀ n ∈ codes s, n.isValidChar :=
  fun n hn => isValidChar_iff.2 ⟨codes_lt n hn, hasSurrogate_eq_false_iff.1 h n hn⟩

/-- The other way round, no surrogate stands in a text that is made of such. -/
theorem hasSurrogate_ofCodes_of_isValidChar {codes : List Nat} (h : ∀ n ∈ codes, n.isValidChar) :
    hasSurrogate (ofCodes codes) = false := by
  rw [hasSurrogate_ofCodes fun n hn => (isValidChar_iff.1 (h n hn)).1, List.any_eq_false]
  intro n hn
  rw [(isValidChar_iff.1 (h n hn)).2]
  exact Bool.false_ne_true

end ColumnTypes.Text
