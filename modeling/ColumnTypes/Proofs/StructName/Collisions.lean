import ColumnTypes.Proofs.Text.Splitting
import ColumnTypes.StructName
import ColumnTypes.Text.CodePoints

/-!
# Which names share a struct name

A name in **snake case** is made of words, each a lower-case letter with letters and digits after
it, joined by single underscores.  Its struct name has no separators: what tells its words apart is
the capital letter that each begins with, and the word `id`, which is capital altogether, blurs
this in one way: the words `i`, `d` read the same as the word `id`.

Main statement (`derived_eq_iff`): two names in snake case have one struct name exactly if their
words agree once every `i` before a `d` is merged with it (`mergedIds`).  The struct name of merged
words decides them (`eq_of_flatMap_ofPart_eq`), word by word (`ofPart_append_inj`), because a
capital `D` right after a capital `I` can then only come from the word `id` (`ofPart_id_ne`).  So
two names without a word `i` right before a word `d` have one struct name only if they are the same
(`structName_eq_iff_withIdsMerged`).
-/

namespace ColumnTypes.StructName

/-! ## Words -/

/-- A lower-case letter or a digit. -/
def isSmall (c : Char) : Bool :=
  c.isLower || c.isDigit

/-- A lower-case letter with lower-case letters and digits after it. -/
def isWord : List Char → Bool
  | [] => false
  | c :: cs => c.isLower && cs.all isSmall

/-- The words of a name: its parts between underscores. -/
def words (name : String) : List (List Char) :=
  Text.splitAt '_' name.toList

/-- A name made of words with single underscores between them. -/
def IsSnakeCase (name : String) : Prop :=
  ∀ word ∈ words name, isWord word = true

instance (name : String) : Decidable (IsSnakeCase name) :=
  inferInstanceAs (Decidable (∀ word ∈ words name, isWord word = true))

/-- Words in which every `i` before a `d` has become one word with it. -/
def mergedIds : List (List Char) → List (List Char)
  | ['i'] :: ['d'] :: rest => ['i', 'd'] :: mergedIds rest
  | word :: rest => word :: mergedIds rest
  | [] => []

/-- Words among which no `i` stands before a `d`. -/
def IsMerged : List (List Char) → Prop
  | [] => True
  | word :: rest => ¬(word = ['i'] ∧ rest.head? = some ['d']) ∧ IsMerged rest

/-! ## Letters -/

/-- The range of the lower-case letters. -/
theorem isLower_iff {c : Char} : c.isLower = true ↔ 97 ≤ c.toNat ∧ c.toNat ≤ 122 := by
  show (decide ('a'.val ≤ c.val) && decide (c.val ≤ 'z'.val)) = true ↔ _
  simp [UInt32.le_iff_toNat_le]

/-- The range of the digits. -/
theorem isDigit_iff {c : Char} : c.isDigit = true ↔ 48 ≤ c.toNat ∧ c.toNat ≤ 57 := by
  simp [Char.isDigit, UInt32.le_iff_toNat_le]

/-- The capital of a lower-case letter. -/
def capital (c : Char) : Char :=
  Char.ofNat (c.toNat - 32)

/-- The upper case of a lower-case letter is its capital. -/
theorem upper_of_isLower {c : Char} (h : c.isLower = true) : Text.upper c = [capital c] := by
  obtain ⟨hlow, hhigh⟩ := isLower_iff.1 h
  have hrange : 'a' ≤ c ∧ c ≤ 'z' := by
    simp only [Char.le_def, UInt32.le_iff_toNat_le]
    exact ⟨hlow, hhigh⟩
  rw [Text.upper, if_pos (by omega), if_pos hrange, capital]

/-- The code point of a capital. -/
theorem toNat_capital {c : Char} (h : c.isLower = true) : (capital c).toNat = c.toNat - 32 := by
  obtain ⟨-, hhigh⟩ := isLower_iff.1 h
  exact Text.toNat_ofNat (.inl (by omega))

/-- A capital is not small. -/
theorem isSmall_capital {c : Char} (h : c.isLower = true) : isSmall (capital c) = false := by
  obtain ⟨hlow, hhigh⟩ := isLower_iff.1 h
  have hvalue := toNat_capital h
  rw [isSmall, Bool.or_eq_false_iff, Bool.eq_false_iff, Bool.eq_false_iff, Ne, isLower_iff, Ne,
    isDigit_iff]
  omega

/-- A letter is known by its capital. -/
theorem capital_inj {c d : Char} (hc : c.isLower = true) (hd : d.isLower = true)
    (h : capital c = capital d) : c = d := by
  have hvalue : c.toNat - 32 = d.toNat - 32 := by
    rw [← toNat_capital hc, ← toNat_capital hd, h]
  have := isLower_iff.1 hc
  have := isLower_iff.1 hd
  exact Char.toNat_inj.1 (by omega)

/-! ## Exported words -/

/-- The word `id` is capital altogether. -/
theorem ofPart_id : ofPart ['i', 'd'] = ['I', 'D'] := rfl

/-- Every other word begins with its only capital. -/
theorem ofPart_of_ne {c : Char} {cs : List Char} (h : isWord (c :: cs) = true)
    (hne : c :: cs ≠ ['i', 'd']) : ofPart (c :: cs) = capital c :: cs := by
  have hc : c.isLower = true := (Bool.and_eq_true_iff.1 h).1
  rw [ofPart, if_neg hne, capitalized, upper_of_isLower hc, List.singleton_append]

/-- An exported word begins with a character that is not small. -/
theorem exists_ofPart_eq {word : List Char} (h : isWord word = true) :
    ∃ c cs, ofPart word = c :: cs ∧ isSmall c = false := by
  by_cases hid : word = ['i', 'd']
  · exact ⟨'I', ['D'], by rw [hid, ofPart_id], by decide⟩
  · cases word with
    | nil => exact absurd h (by simp [isWord])
    | cons c cs =>
        exact ⟨capital c, cs, ofPart_of_ne h hid,
          isSmall_capital (Bool.and_eq_true_iff.1 h).1⟩

/-- Exported words begin with a character that is not small, if there are any. -/
theorem isSmall_head_flatMap {ws : List (List Char)} (h : ∀ w ∈ ws, isWord w = true) :
    ∀ c ∈ (ws.flatMap ofPart).head?, isSmall c = false := by
  cases ws with
  | nil => simp
  | cons w ws =>
      obtain ⟨c, cs, hw, hc⟩ := exists_ofPart_eq (h w List.mem_cons_self)
      simp [hw, hc]

/-- The small characters at the start of a text are known where no small one follows. -/
theorem append_inj_of_isSmall {as bs us vs : List Char} (ha : as.all isSmall = true)
    (hb : bs.all isSmall = true) (hu : ∀ c ∈ us.head?, isSmall c = false)
    (hv : ∀ c ∈ vs.head?, isSmall c = false) (h : as ++ us = bs ++ vs) : as = bs ∧ us = vs := by
  induction as generalizing bs with
  | nil =>
      cases bs with
      | nil => exact ⟨rfl, h⟩
      | cons b bs =>
          have hb' : isSmall b = true := (Bool.and_eq_true_iff.1 hb).1
          have : us.head? = some b := by rw [← List.nil_append us, h]; rfl
          exact absurd (hu b this) (by simp [hb'])
  | cons a as ih =>
      obtain ⟨ha', has⟩ := Bool.and_eq_true_iff.1 ha
      cases bs with
      | nil =>
          have : vs.head? = some a := by rw [← List.nil_append vs, ← h]; rfl
          exact absurd (hv a this) (by simp [ha'])
      | cons b bs =>
          obtain ⟨hab, htail⟩ := List.cons_eq_cons.1 h
          obtain ⟨heads, htails⟩ := ih has (Bool.and_eq_true_iff.1 hb).2 htail
          exact ⟨by rw [hab, heads], htails⟩

/-! ## Merging -/

/-- Merging does not change the struct name. -/
theorem flatMap_ofPart_mergedIds (ws : List (List Char)) :
    (mergedIds ws).flatMap ofPart = ws.flatMap ofPart := by
  fun_induction mergedIds ws with
  | case1 rest ih => simp only [List.flatMap_cons, ih]; rfl
  | case2 word rest _ ih => simp only [List.flatMap_cons, ih]
  | case3 => rfl

/-- Merged words are words. -/
theorem isWord_of_mem_mergedIds {ws : List (List Char)} (h : ∀ w ∈ ws, isWord w = true) :
    ∀ w ∈ mergedIds ws, isWord w = true := by
  fun_induction mergedIds ws with
  | case1 rest ih =>
      intro w hw
      rcases List.mem_cons.1 hw with rfl | hw
      · decide
      · exact ih (fun w hw => h w (by simp [hw])) w hw
  | case2 word rest _ ih =>
      intro w hw
      rcases List.mem_cons.1 hw with rfl | hw
      · exact h w List.mem_cons_self
      · exact ih (fun w hw => h w (List.mem_cons_of_mem _ hw)) w hw
  | case3 => exact h

/-- The first merged word is a `d` only if it was one before. -/
theorem head?_mergedIds {ws : List (List Char)} (h : (mergedIds ws).head? = some ['d']) :
    ws.head? = some ['d'] := by
  fun_induction mergedIds ws with
  | case1 rest ih => simp at h
  | case2 word rest _ ih => simpa using h
  | case3 => exact h

/-- After merging no `i` stands before a `d`. -/
theorem isMerged_mergedIds (ws : List (List Char)) : IsMerged (mergedIds ws) := by
  fun_induction mergedIds ws with
  | case1 rest ih => exact ⟨by simp, ih⟩
  | case2 word rest hnot ih =>
      refine ⟨?_, ih⟩
      rintro ⟨rfl, hd⟩
      obtain ⟨rest', rfl⟩ := List.head?_eq_some_iff.1 (head?_mergedIds hd)
      exact hnot rest' rfl rfl
  | case3 => exact trivial

/-! ## Reading words back -/

/-- An exported word other than `id` is known where no small character follows it. -/
theorem ofPart_append_inj {w v us vs : List Char} (hw : isWord w = true) (hv : isWord v = true)
    (hwid : w ≠ ['i', 'd']) (hvid : v ≠ ['i', 'd']) (hus : ∀ c ∈ us.head?, isSmall c = false)
    (hvs : ∀ c ∈ vs.head?, isSmall c = false) (h : ofPart w ++ us = ofPart v ++ vs) :
    w = v ∧ us = vs := by
  cases w with
  | nil => exact absurd hw (by simp [isWord])
  | cons c cs =>
      cases v with
      | nil => exact absurd hv (by simp [isWord])
      | cons d ds =>
          obtain ⟨hc, hcs⟩ := Bool.and_eq_true_iff.1 hw
          obtain ⟨hd, hds⟩ := Bool.and_eq_true_iff.1 hv
          rw [ofPart_of_ne hw hwid, ofPart_of_ne hv hvid] at h
          obtain ⟨hcd, h⟩ := List.cons_eq_cons.1 h
          obtain ⟨htails, hrest⟩ := append_inj_of_isSmall hcs hds hus hvs h
          exact ⟨by rw [capital_inj hc hd hcd, htails], hrest⟩

/-- No other merged words read like the word `id`, which reads like the words `i`, `d`: the `I`
would be a word `i`, and the `D` a word `d` right after it. -/
theorem ofPart_id_ne {w : List Char} {ws us : List (List Char)} (hw : isWord w = true)
    (hws : ∀ w ∈ ws, isWord w = true) (hus : ∀ w ∈ us, isWord w = true)
    (hmerged : IsMerged (w :: ws)) (hne : w ≠ ['i', 'd']) :
    ofPart w ++ ws.flatMap ofPart ≠ ofPart ['i', 'd'] ++ us.flatMap ofPart := by
  intro h
  have hsplit : ofPart ['i', 'd'] = ofPart ['i'] ++ ofPart ['d'] := rfl
  have hD : ∀ c ∈ (ofPart ['d'] ++ us.flatMap ofPart).head?, isSmall c = false := by
    intro c hc
    obtain rfl : 'D' = c := Option.some.inj hc
    decide
  rw [hsplit, List.append_assoc] at h
  obtain ⟨hi, h⟩ := ofPart_append_inj hw (by decide) hne (by decide) (isSmall_head_flatMap hws) hD h
  cases ws with
  | nil => exact nomatch h
  | cons v vs =>
      rw [List.flatMap_cons] at h
      have hvid : v ≠ ['i', 'd'] := by
        rintro rfl
        exact absurd (List.cons_eq_cons.1 h).1 (by decide)
      obtain ⟨hd, -⟩ := ofPart_append_inj (hws v List.mem_cons_self) (by decide) hvid (by decide)
        (isSmall_head_flatMap fun w hw => hws w (List.mem_cons_of_mem _ hw))
        (isSmall_head_flatMap hus) h
      exact hmerged.1 ⟨hi, by rw [hd, List.head?_cons]⟩

/-- Merged words are known by their struct name. -/
theorem eq_of_flatMap_ofPart_eq {ws us : List (List Char)} (hws : ∀ w ∈ ws, isWord w = true)
    (hus : ∀ u ∈ us, isWord u = true) (hwm : IsMerged ws) (hum : IsMerged us)
    (h : ws.flatMap ofPart = us.flatMap ofPart) : ws = us := by
  induction ws generalizing us with
  | nil =>
      cases us with
      | nil => rfl
      | cons u us =>
          obtain ⟨c, cs, hu, -⟩ := exists_ofPart_eq (hus u List.mem_cons_self)
          simp [hu] at h
  | cons w ws ih =>
      have hw := hws w List.mem_cons_self
      have hws' : ∀ w ∈ ws, isWord w = true := fun w hw => hws w (List.mem_cons_of_mem _ hw)
      cases us with
      | nil =>
          obtain ⟨c, cs, hw, -⟩ := exists_ofPart_eq hw
          simp [hw] at h
      | cons u us =>
          have hu := hus u List.mem_cons_self
          have hus' : ∀ u ∈ us, isWord u = true := fun u hu => hus u (List.mem_cons_of_mem _ hu)
          rw [List.flatMap_cons, List.flatMap_cons] at h
          by_cases hwid : w = ['i', 'd'] <;> by_cases huid : u = ['i', 'd']
          · rw [hwid, huid, List.append_cancel_left_eq] at h
            rw [hwid, huid, ih hws' hus' hwm.2 hum.2 h]
          · rw [hwid] at h
            exact absurd h.symm (ofPart_id_ne hu hus' hws' hum huid)
          · rw [huid] at h
            exact absurd h (ofPart_id_ne hw hws' hus' hwm hwid)
          · obtain ⟨hwu, hrest⟩ := ofPart_append_inj hw hu hwid huid (isSmall_head_flatMap hws')
              (isSmall_head_flatMap hus') h
            rw [hwu, ih hws' hus' hwm.2 hum.2 hrest]

/-- The struct names of two lists of words agree exactly if the merged words do. -/
theorem flatMap_ofPart_eq_iff {ws us : List (List Char)} (hws : ∀ w ∈ ws, isWord w = true)
    (hus : ∀ u ∈ us, isWord u = true) :
    ws.flatMap ofPart = us.flatMap ofPart ↔ mergedIds ws = mergedIds us := by
  constructor
  · intro h
    refine eq_of_flatMap_ofPart_eq (isWord_of_mem_mergedIds hws) (isWord_of_mem_mergedIds hus)
      (isMerged_mergedIds ws) (isMerged_mergedIds us) ?_
    rw [flatMap_ofPart_mergedIds, flatMap_ofPart_mergedIds, h]
  · intro h
    rw [← flatMap_ofPart_mergedIds ws, h, flatMap_ofPart_mergedIds]

/-! ## Names -/

/-- Two names in snake case have one struct name exactly if their merged words agree. -/
theorem derived_eq_iff {a b : String} (ha : IsSnakeCase a) (hb : IsSnakeCase b) :
    derived a = derived b ↔ mergedIds (words a) = mergedIds (words b) := by
  rw [← flatMap_ofPart_eq_iff ha hb, derived, derived, String.ofList_inj]
  rfl

/-- The words of two names joined by an underscore are those of the one, then those of the other. -/
theorem words_joined (a b : String) : words (a ++ "_" ++ b) = words a ++ words b := by
  rw [words, String.toList_append, String.toList_append, List.append_assoc]
  exact Text.splitAt_append_cons '_' a.toList b.toList

/-- Names in snake case joined by an underscore are one in snake case. -/
theorem isSnakeCase_joined {a b : String} (ha : IsSnakeCase a) (hb : IsSnakeCase b) :
    IsSnakeCase (a ++ "_" ++ b) := by
  intro word h
  rw [words_joined, List.mem_append] at h
  exact h.elim (ha word) (hb word)

/-! ## Names that become one -/

/-- A name in which every word `i` before a word `d` has become one word with it. -/
def withIdsMerged (name : String) : String :=
  "_".intercalate ((mergedIds (words name)).map String.ofList)

/-- A name with a word `i` right before a word `d`. -/
def SplitsId (name : String) : Prop :=
  [['i'], ['d']] <:+: words name

instance (name : String) : Decidable (SplitsId name) :=
  inferInstanceAs (Decidable ([['i'], ['d']] <:+: words name))

/-- There are words left after merging. -/
theorem mergedIds_ne_nil {ws : List (List Char)} (h : ws ≠ []) : mergedIds ws ≠ [] := by
  fun_cases mergedIds ws with
  | case1 rest => simp
  | case2 word rest => simp
  | case3 => exact absurd rfl h

/-- Where no `i` stands before a `d`, there is nothing to merge. -/
theorem mergedIds_of_not_infix {ws : List (List Char)} (h : ¬[['i'], ['d']] <:+: ws) :
    mergedIds ws = ws := by
  fun_induction mergedIds ws with
  | case1 rest => exact absurd (List.prefix_append [['i'], ['d']] rest).isInfix h
  | case2 word rest _ ih =>
      have hrest : ¬[['i'], ['d']] <:+: rest := by
        intro hinfix
        apply h
        exact hinfix.trans (List.suffix_cons word rest).isInfix
      rw [ih hrest]
  | case3 => rfl

/-- There is no underscore in a word. -/
theorem not_mem_of_isWord {word : List Char} (h : isWord word = true) : '_' ∉ word := by
  cases word with
  | nil => simp
  | cons c cs =>
      obtain ⟨hc, hcs⟩ := Bool.and_eq_true_iff.1 h
      intro hmem
      rcases List.mem_cons.1 hmem with rfl | hmem
      · exact absurd hc (by decide)
      · exact absurd (List.all_eq_true.1 hcs _ hmem) (by decide)

/-- The words of a merged name are the merged words. -/
theorem words_withIdsMerged {name : String} (h : IsSnakeCase name) :
    words (withIdsMerged name) = mergedIds (words name) := by
  have hwords := isWord_of_mem_mergedIds h
  have htexts : ((mergedIds (words name)).map String.ofList).map String.toList =
      mergedIds (words name) := by
    simp [Function.comp_def]
  rw [words, withIdsMerged, String.toList_intercalate, htexts]
  apply Text.splitAt_intercalate
  · exact mergedIds_ne_nil (Text.splitAt_ne_nil '_' name.toList)
  · intro word hword
    exact not_mem_of_isWord (hwords word hword)

/-- A name is known by its words. -/
theorem words_inj {a b : String} (h : words a = words b) : a = b := by
  rw [← String.toList_inj, ← Text.intercalate_splitAt '_' a.toList]
  unfold words at h
  rw [h, Text.intercalate_splitAt]

/-- Two merged names are the same exactly if their words are. -/
theorem withIdsMerged_eq_iff {a b : String} (ha : IsSnakeCase a) (hb : IsSnakeCase b) :
    withIdsMerged a = withIdsMerged b ↔ mergedIds (words a) = mergedIds (words b) := by
  constructor
  · intro h
    rw [← words_withIdsMerged ha, h, words_withIdsMerged hb]
  · intro h
    rw [withIdsMerged, withIdsMerged, h]

/-- **Two names in snake case share their struct name exactly if they become equal** once every
word `i` before a word `d` is merged with it.  So a name in snake case is known by its struct name
among those in which no `i` stands before a `d`. -/
theorem structName_eq_iff_withIdsMerged {a b : String} (ha : IsSnakeCase a) (hb : IsSnakeCase b) :
    (structName [] a = structName [] b ↔ withIdsMerged a = withIdsMerged b) ∧
      (¬SplitsId a → ¬SplitsId b → structName [] a = structName [] b → a = b) := by
  have hderived (name : String) : structName [] name = derived name := rfl
  have hmerged : structName [] a = structName [] b ↔
      mergedIds (words a) = mergedIds (words b) := by
    rw [hderived, hderived]
    exact derived_eq_iff ha hb
  constructor
  · rw [hmerged, withIdsMerged_eq_iff ha hb]
  · intro ha' hb' h
    rw [hmerged, mergedIds_of_not_infix ha', mergedIds_of_not_infix hb'] at h
    exact words_inj h

/-- Two names that become one, and a name that becomes neither. -/
theorem structName_card_id :
    IsSnakeCase "card_i_d" ∧ IsSnakeCase "card_id" ∧ IsSnakeCase "cardi_d" ∧
      ¬SplitsId "cardi_d" ∧ ¬SplitsId "card_id" ∧
      structName [] "card_i_d" = structName [] "card_id" ∧
      structName [] "cardi_d" ≠ structName [] "card_id" := by
  have hsplit := @structName_eq_iff_withIdsMerged "card_i_d" "card_id" (by decide) (by decide)
  have hother := @structName_eq_iff_withIdsMerged "cardi_d" "card_id" (by decide) (by decide)
  have hcardi : ¬SplitsId "cardi_d" := by decide +kernel
  have hcard : ¬SplitsId "card_id" := by decide +kernel
  refine ⟨by decide, by decide, by decide, hcardi, hcard, hsplit.1.2 (by decide), ?_⟩
  intro h
  exact absurd (hother.2 hcardi hcard h) (by decide)

end ColumnTypes.StructName
