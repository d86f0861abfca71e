import ColumnTypes.Proofs.StructName.Collisions

/-!
# Which struct names are exported

A name of SQL that needs no quotes is made of lower-case letters, digits and underscores and begins
with no digit; a name that Go exports begins with an upper-case letter and goes on with letters and
digits.  Struct names come close to leading from the one to the other: they hold letters and digits
only (`all_isAlphanum_ofChars`), and their first character is in upper case.  But underscores are
left out, also at the beginning, so a digit may come first, or there may be nothing left.

Main statement (`isExported_ofChars_iff`): a struct name is exported exactly if the first character
of the SQL name that is no underscore is a letter.
-/

namespace ColumnTypes.StructName

/-! ## Legal and exported names -/

/-- A character of a name without quotes. -/
def isNameChar (c : Char) : Bool :=
  isSmall c || c == '_'

/-- A name without quotes: no digit comes first. -/
def isLegal : List Char → Bool
  | [] => false
  | c :: cs => (c.isLower || c == '_') && cs.all isNameChar

/-- A name that Go exports. -/
def isExported : List Char → Bool
  | [] => false
  | c :: cs => c.isUpper && cs.all Char.isAlphanum

/-- A name of SQL that needs no quotes. -/
def IsLegalName (name : String) : Prop :=
  isLegal name.toList = true

/-- A Go identifier that is exported. -/
def IsExportedName (name : String) : Prop :=
  isExported name.toList = true

instance (name : String) : Decidable (IsLegalName name) :=
  inferInstanceAs (Decidable (isLegal name.toList = true))

instance (name : String) : Decidable (IsExportedName name) :=
  inferInstanceAs (Decidable (isExported name.toList = true))

/-- The first character that is no underscore. -/
def lead? (name : List Char) : Option Char :=
  name.find? (· != '_')

/-- A legal name holds only the characters of names. -/
theorem all_isNameChar_of_isLegal {name : List Char} (h : isLegal name = true) :
    name.all isNameChar = true := by
  cases name with
  | nil => rfl
  | cons c cs =>
      obtain ⟨hc, hcs⟩ := Bool.and_eq_true_iff.1 h
      have hfirst : isNameChar c = true := by
        rcases Bool.or_eq_true_iff.1 hc with hlower | hmark
        · simp [isNameChar, isSmall, hlower]
        · simp [isNameChar, hmark]
      exact Bool.and_eq_true_iff.2 ⟨hfirst, hcs⟩

/-! ## Letters -/

/-- The range of the upper-case letters. -/
theorem isUpper_iff {c : Char} : c.isUpper = true ↔ 65 ≤ c.toNat ∧ c.toNat ≤ 90 := by
  show decide (c.val ≥ 'A'.val ∧ c.val ≤ 'Z'.val) = true ↔ _
  rw [decide_eq_true_iff, ge_iff_le, UInt32.le_iff_toNat_le, UInt32.le_iff_toNat_le]
  rfl

/-- Letters of either case and digits. -/
theorem isAlphanum_iff {c : Char} :
    c.isAlphanum = true ↔ (c.isUpper = true ∨ c.isLower = true) ∨ c.isDigit = true := by
  show ((c.isUpper || c.isLower) || c.isDigit) = true ↔ _
  rw [Bool.or_eq_true, Bool.or_eq_true]

/-- The capital of a letter is an upper-case letter. -/
theorem isUpper_capital {c : Char} (h : c.isLower = true) : (capital c).isUpper = true := by
  have := isLower_iff.1 h
  rw [isUpper_iff, toNat_capital h]
  omega

/-- A digit has no other upper case than itself. -/
theorem upper_of_isDigit {c : Char} (h : c.isDigit = true) : Text.upper c = [c] := by
  obtain ⟨-, hhigh⟩ := isDigit_iff.1 h
  have hrange : ¬('a' ≤ c ∧ c ≤ 'z') := by
    simp only [Char.le_def, UInt32.le_iff_toNat_le]
    rintro ⟨hlow, -⟩
    have : 97 ≤ c.toNat := hlow
    omega
  rw [Text.upper, if_pos (by omega), if_neg hrange]

/-- A digit is no letter. -/
theorem not_letter_of_isDigit {c : Char} (h : c.isDigit = true) :
    c.isUpper = false ∧ c.isLower = false := by
  have := isDigit_iff.1 h
  rw [Bool.eq_false_iff, Bool.eq_false_iff, Ne, isUpper_iff, Ne, isLower_iff]
  omega

/-- A small character is a letter or a digit. -/
theorem isAlphanum_of_isSmall {c : Char} (h : isSmall c = true) : c.isAlphanum = true := by
  rcases Bool.or_eq_true_iff.1 h with hlower | hdigit
  · exact isAlphanum_iff.2 (.inl (.inr hlower))
  · exact isAlphanum_iff.2 (.inr hdigit)

/-! ## Parts -/

/-- The exported form of a part begins with its first character in upper case, and holds letters and
digits only. -/
theorem exists_ofPart_cons {c : Char} {cs : List Char} (h : (c :: cs).all isSmall = true) :
    ∃ d ds, ofPart (c :: cs) = d :: ds ∧ d.isUpper = c.isLower ∧
      (d :: ds).all Char.isAlphanum = true := by
  obtain ⟨hc, hcs⟩ := Bool.and_eq_true_iff.1 h
  have hrest : cs.all Char.isAlphanum = true :=
    List.all_eq_true.2 fun x hx => isAlphanum_of_isSmall (List.all_eq_true.1 hcs x hx)
  by_cases hid : c :: cs = ['i', 'd']
  · obtain ⟨rfl, rfl⟩ := List.cons_eq_cons.1 hid
    exact ⟨'I', ['D'], rfl, by decide, by decide⟩
  · have hpart : ofPart (c :: cs) = Text.upper c ++ cs := by
      rw [ofPart, if_neg hid, capitalized]
    rcases Bool.or_eq_true_iff.1 hc with hlower | hdigit
    · have hupper := isUpper_capital hlower
      refine ⟨capital c, cs, ?_, hupper.trans hlower.symm, ?_⟩
      · rw [hpart, upper_of_isLower hlower, List.singleton_append]
      · exact Bool.and_eq_true_iff.2 ⟨isAlphanum_iff.2 (.inl (.inl hupper)), hrest⟩
    · obtain ⟨hupper, hlower⟩ := not_letter_of_isDigit hdigit
      refine ⟨c, cs, ?_, hupper.trans hlower.symm, ?_⟩
      · rw [hpart, upper_of_isDigit hdigit, List.singleton_append]
      · exact Bool.and_eq_true_iff.2 ⟨isAlphanum_of_isSmall hc, hrest⟩

/-- The exported form of a part holds letters and digits only. -/
theorem all_isAlphanum_ofPart {part : List Char} (h : part.all isSmall = true) :
    (ofPart part).all Char.isAlphanum = true := by
  cases part with
  | nil => rfl
  | cons c cs =>
      obtain ⟨d, ds, hpart, -, hall⟩ := exists_ofPart_cons h
      rw [hpart]
      exact hall

/-- Between the underscores of a name stand letters and digits. -/
theorem all_isSmall_of_mem_splitAt {name part : List Char} (h : name.all isNameChar = true)
    (hpart : part ∈ Text.splitAt '_' name) : part.all isSmall = true := by
  refine List.all_eq_true.2 fun c hc => ?_
  have hmark : c ≠ '_' := fun heq => Text.not_mem_of_mem_splitAt hpart (heq ▸ hc)
  have hname := List.all_eq_true.1 h c (Text.mem_of_mem_splitAt hpart hc)
  simpa [isNameChar, hmark] using hname

/-! ## Names -/

/-- An underscore in front is left out. -/
theorem ofChars_underscore (name : List Char) : ofChars ('_' :: name) = ofChars name := by
  simp [ofChars, Text.splitAt, ofPart, capitalized]

/-- Another character in front begins the first part. -/
theorem exists_splitAt_cons {c : Char} (name : List Char) (h : c ≠ '_') :
    ∃ part parts, Text.splitAt '_' (c :: name) = (c :: part) :: parts := by
  unfold Text.splitAt
  rw [if_neg h]
  cases Text.splitAt '_' name with
  | nil => exact ⟨[], [], rfl⟩
  | cons part parts => exact ⟨part, parts, rfl⟩

/-- The exported form of a name holds letters and digits only. -/
theorem all_isAlphanum_ofChars {name : List Char} (h : name.all isNameChar = true) :
    (ofChars name).all Char.isAlphanum = true := by
  rw [ofChars, List.all_flatMap]
  exact List.all_eq_true.2 fun part hpart =>
    all_isAlphanum_ofPart (all_isSmall_of_mem_splitAt h hpart)

/-- **The exported form of a name is exported exactly if its first character that is no underscore
is a letter.** -/
theorem isExported_ofChars_iff {name : List Char} (h : name.all isNameChar = true) :
    isExported (ofChars name) = true ↔ ∃ c, lead? name = some c ∧ c.isLower = true := by
  induction name with
  | nil => simp [ofChars, Text.splitAt, ofPart, capitalized, isExported, lead?]
  | cons c name ih =>
      obtain ⟨-, hname⟩ := Bool.and_eq_true_iff.1 h
      by_cases hmark : c = '_'
      · subst hmark
        rw [ofChars_underscore, ih hname]
        simp [lead?]
      · have hlead : lead? (c :: name) = some c := by simp [lead?, hmark]
        obtain ⟨part, parts, hparts⟩ := exists_splitAt_cons name hmark
        have hpart : (c :: part).all isSmall = true :=
          all_isSmall_of_mem_splitAt h (hparts ▸ List.mem_cons_self)
        obtain ⟨d, ds, hfirst, hupper, -⟩ := exists_ofPart_cons hpart
        have hchars : ofChars (c :: name) = d :: (ds ++ parts.flatMap ofPart) := by
          rw [ofChars, hparts, List.flatMap_cons, hfirst, List.cons_append]
        have hall := all_isAlphanum_ofChars h
        rw [hchars] at hall ⊢
        rw [isExported, (Bool.and_eq_true_iff.1 hall).2, Bool.and_true, hupper, hlead]
        simp

end ColumnTypes.StructName
