import ColumnTypes.Proofs.Text.CodePoints
import ColumnTypes.Text.SystemNames
import Mathlib.Data.List.Basic

/-!
# Names and their bytes

What the system knows of a name are its bytes.  A character that is read off the front of bytes
takes exactly those that it is written with (`Text.utf8EncodeChar_append_of_decodeNext`), and any
other byte is one of its own, so bytes can be read as code points and written again without loss
(`Text.flatMap_systemBytes_systemCodes`).

Hence the spelling in which the system lists a name has the bytes of the name
(`Text.nameBytes_listed`), and is as long and as far from being a dot.
-/

namespace ColumnTypes.Text

/-! ## Characters -/

section sequences

variable {b b₁ b₂ b₃ : UInt8}

/-- A sequence of two bytes is how its character is written. -/
theorem utf8EncodeChar_two (hb : 0xC2 ≤ b.toNat) (hb' : b.toNat < 0xE0) (h₁ : 0x80 ≤ b₁.toNat)
    (h₁' : b₁.toNat < 0xC0) :
    String.utf8EncodeChar (Char.ofNat (b.toNat % 32 * 64 + b₁.toNat % 64)) = [b, b₁] := by
  have hvalue : (Char.ofNat (b.toNat % 32 * 64 + b₁.toNat % 64)).val.toNat =
      b.toNat % 32 * 64 + b₁.toNat % 64 :=
    toNat_ofNat (.inl (by omega))
  unfold String.utf8EncodeChar
  dsimp only
  rw [hvalue, if_neg (by omega), if_pos (by omega)]
  simp only [List.cons.injEq, ← UInt8.toNat_inj, UInt8.toNat_ofNat', and_true]
  omega

/-- So is a sequence of three bytes. -/
theorem utf8EncodeChar_three (hb : 0xE0 ≤ b.toNat) (hb' : b.toNat < 0xF0) (h₁ : 0x80 ≤ b₁.toNat)
    (h₁' : b₁.toNat < 0xC0) (h₂ : 0x80 ≤ b₂.toNat) (h₂' : b₂.toNat < 0xC0)
    (hlow : b.toNat = 0xE0 → 0xA0 ≤ b₁.toNat) (hhigh : b.toNat = 0xED → b₁.toNat < 0xA0) :
    String.utf8EncodeChar
      (Char.ofNat ((b.toNat % 16 * 64 + b₁.toNat % 64) * 64 + b₂.toNat % 64)) = [b, b₁, b₂] := by
  have hvalue : (Char.ofNat ((b.toNat % 16 * 64 + b₁.toNat % 64) * 64 + b₂.toNat % 64)).val.toNat =
      (b.toNat % 16 * 64 + b₁.toNat % 64) * 64 + b₂.toNat % 64 :=
    toNat_ofNat (by simp only [Nat.isValidChar]; omega)
  unfold String.utf8EncodeChar
  dsimp only
  rw [hvalue, if_neg (by omega), if_neg (by omega), if_pos (by omega)]
  simp only [List.cons.injEq, ← UInt8.toNat_inj, UInt8.toNat_ofNat', and_true]
  omega

/-- So is a sequence of four bytes. -/
theorem utf8EncodeChar_four (hb : 0xF0 ≤ b.toNat) (hb' : b.toNat < 0xF5) (h₁ : 0x80 ≤ b₁.toNat)
    (h₁' : b₁.toNat < 0xC0) (h₂ : 0x80 ≤ b₂.toNat) (h₂' : b₂.toNat < 0xC0) (h₃ : 0x80 ≤ b₃.toNat)
    (h₃' : b₃.toNat < 0xC0) (hlow : b.toNat = 0xF0 → 0x90 ≤ b₁.toNat)
    (hhigh : b.toNat = 0xF4 → b₁.toNat < 0x90) :
    String.utf8EncodeChar
      (Char.ofNat (((b.toNat % 8 * 64 + b₁.toNat % 64) * 64 + b₂.toNat % 64) * 64 +
        b₃.toNat % 64)) = [b, b₁, b₂, b₃] := by
  have hvalue : (Char.ofNat (((b.toNat % 8 * 64 + b₁.toNat % 64) * 64 + b₂.toNat % 64) * 64 +
      b₃.toNat % 64)).val.toNat =
      ((b.toNat % 8 * 64 + b₁.toNat % 64) * 64 + b₂.toNat % 64) * 64 + b₃.toNat % 64 :=
    toNat_ofNat (by simp only [Nat.isValidChar]; omega)
  unfold String.utf8EncodeChar
  dsimp only
  rw [hvalue, if_neg (by omega), if_neg (by omega), if_neg (by omega)]
  simp only [List.cons.injEq, ← UInt8.toNat_inj, UInt8.toNat_ofNat', and_true]
  omega

end sequences

/-- Wanted bytes that are all there are a first one in its range and wanted ones after it. -/
theorem exists_of_matched {low high : UInt8} {wanted : Nat} {rest : List UInt8} {ended : Bool}
    (h : matched low high (wanted + 1) rest = (wanted + 1, ended)) :
    ∃ b tail, rest = b :: tail ∧ low.toNat ≤ b.toNat ∧ b.toNat < high.toNat ∧
      matched 0x80 0xC0 wanted tail = (wanted, ended) := by
  cases rest with
  | nil => simp [matched] at h
  | cons b tail =>
      rw [matched] at h
      split_ifs at h with hb
      · rw [Bool.and_eq_true, decide_eq_true_iff, decide_eq_true_iff, UInt8.le_iff_toNat_le,
          UInt8.lt_iff_toNat_lt] at hb
        obtain ⟨hcount, hended⟩ := Prod.mk.inj h
        exact ⟨b, tail, rfl, hb.1, hb.2, Prod.ext (Nat.succ.inj hcount) hended⟩
      · exact absurd (Prod.mk.inj h).1 (by omega)

/-- The first byte of a sequence tells how long it is and what comes next. -/
theorem of_sequenceShape? {b low high : UInt8} {wanted : Nat}
    (h : sequenceShape? b = some (wanted, low, high)) :
    0x80 ≤ low.toNat ∧ high.toNat ≤ 0xC0 ∧
      ((wanted = 1 ∧ 0xC2 ≤ b.toNat ∧ b.toNat < 0xE0) ∨
      (wanted = 2 ∧ 0xE0 ≤ b.toNat ∧ b.toNat < 0xF0 ∧ (b.toNat = 0xE0 → low.toNat = 0xA0) ∧
        (b.toNat = 0xED → high.toNat = 0xA0)) ∨
      (wanted = 3 ∧ 0xF0 ≤ b.toNat ∧ b.toNat < 0xF5 ∧ (b.toNat = 0xF0 → low.toNat = 0x90) ∧
        (b.toNat = 0xF4 → high.toNat = 0x90))) := by
  simp only [sequenceShape?, UInt8.lt_iff_toNat_lt, ← UInt8.toNat_inj, UInt8.reduceToNat] at h
  split_ifs at h
  all_goals
    obtain ⟨rfl, rfl, rfl⟩ : _ ∧ _ ∧ _ := by simpa only [Option.some.injEq, Prod.mk.injEq] using h
    grind

/-- **A character that is read off the front of bytes** takes those that it is written with. -/
theorem utf8EncodeChar_append_of_decodeNext {b : UInt8} {rest : List UInt8} {c : Char} {n : Nat}
    (h : decodeNext b rest = .ok (c, n)) :
    String.utf8EncodeChar c ++ rest.drop (n - 1) = b :: rest := by
  unfold decodeNext at h
  split_ifs at h with hlow
  · obtain ⟨rfl, rfl⟩ := Prod.mk.inj (Except.ok.inj h)
    have hb : b.toNat < 0x80 := UInt8.lt_iff_toNat_lt.1 hlow
    have hvalue : (Char.ofNat b.toNat).val.toNat = b.toNat := toNat_ofNat (.inl (by omega))
    unfold String.utf8EncodeChar
    dsimp only
    rw [hvalue, if_pos (by omega), UInt8.ofNat_toNat]
    rfl
  · split at h
    · exact nomatch h
    · next wanted low high hshape =>
      dsimp only at h
      split_ifs at h with hcount
      obtain ⟨rfl, rfl⟩ := Prod.mk.inj (Except.ok.inj h)
      -- The number of bytes that follow decides which of the three sequences it is.
      obtain ⟨hlow, hhigh, ⟨rfl, hb⟩ | ⟨rfl, hb⟩ | ⟨rfl, hb⟩⟩ := of_sequenceShape? hshape
      all_goals obtain ⟨b₁, tail, rfl, h₁, h₁', hcount⟩ := exists_of_matched (Prod.ext hcount rfl)
      · exact congrArg (· ++ tail) (utf8EncodeChar_two (by omega) (by omega) (by omega) (by omega))
      · obtain ⟨b₂, tail, rfl, h₂, h₂', hcount⟩ := exists_of_matched hcount
        exact congrArg (· ++ tail) (utf8EncodeChar_three (by omega) (by omega) (by omega) (by omega)
          h₂ h₂' (by omega) (by omega))
      · obtain ⟨b₂, tail, rfl, h₂, h₂', hcount⟩ := exists_of_matched hcount
        obtain ⟨b₃, tail, rfl, h₃, h₃', -⟩ := exists_of_matched hcount
        exact congrArg (· ++ tail) (utf8EncodeChar_four (by omega) (by omega) (by omega) (by omega)
          h₂ h₂' h₃ h₃' (by omega) (by omega))

/-! ## Names -/

/-- The range of the bytes that stand alone. -/
theorem isEscapedByte_iff {n : Nat} : isEscapedByte n = true ↔ 0xDC80 ≤ n ∧ n < 0xDD00 := by
  unfold isEscapedByte
  rw [Bool.and_eq_true, decide_eq_true_iff, decide_eq_true_iff]

/-- They are surrogates. -/
theorem isSurrogate_of_isEscapedByte {n : Nat} (h : isEscapedByte n = true) :
    isSurrogate n = true := by
  rw [isEscapedByte_iff] at h
  rw [isSurrogate_iff]
  omega

/-- So no character is one. -/
theorem isEscapedByte_toNat (c : Char) : isEscapedByte c.toNat = false := by
  rw [Bool.eq_false_iff]
  intro h
  exact Bool.false_ne_true ((isSurrogate_toNat c).symm.trans (isSurrogate_of_isEscapedByte h))

/-- A byte that begins no character is no ASCII character, so it can stand alone. -/
theorem isEscapedByte_of_decodeNext_eq_error {b : UInt8} {rest : List UInt8}
    {fault : Utf8Fault × Nat} (h : decodeNext b rest = .error fault) :
    isEscapedByte (b.toNat + escapeStart) = true := by
  unfold decodeNext at h
  split_ifs at h with hlow
  have hle : 0x80 ≤ b.toNat := Nat.not_lt.1 fun hlt => hlow (UInt8.lt_iff_toNat_lt.2 hlt)
  have hlt : b.toNat < 0x100 := b.toNat_lt
  rw [isEscapedByte_iff, escapeStart]
  omega

/-- The bytes of a name. -/
def nameBytes (name : String) : List UInt8 :=
  (codes name).flatMap systemBytes

/-- **Bytes can be read as code points** and written again without loss. -/
theorem flatMap_systemBytes_systemCodes {fuel : Nat} {bytes : List UInt8}
    (h : bytes.length ≤ fuel) : (systemCodes fuel bytes).flatMap systemBytes = bytes := by
  fun_induction systemCodes fuel bytes with
  | case1 => exact (List.length_eq_zero_iff.1 (Nat.le_zero.1 h)).symm
  | case2 => rfl
  | case3 fuel b rest c n hnext ih =>
      have hrest : (rest.drop (n - 1)).length ≤ fuel := by
        rw [List.length_drop]
        rw [List.length_cons] at h
        omega
      have hc : systemBytes c.toNat = String.utf8EncodeChar c := by
        rw [systemBytes, isEscapedByte_toNat, if_neg Bool.false_ne_true, Char.ofNat_toNat]
      rw [List.flatMap_cons, hc, ih hrest, utf8EncodeChar_append_of_decodeNext hnext]
  | case4 fuel b rest fault hnext ih =>
      have hbyte : systemBytes (b.toNat + escapeStart) = [b] := by
        rw [systemBytes, if_pos (isEscapedByte_of_decodeNext_eq_error hnext), Nat.add_sub_cancel,
          UInt8.ofNat_toNat]
      rw [List.flatMap_cons, hbyte, ih (Nat.le_of_succ_le_succ h), List.singleton_append]

/-- What bytes are read as are code points. -/
theorem systemCodes_lt {fuel : Nat} {bytes : List UInt8} :
    ∀ n ∈ systemCodes fuel bytes, n < 0x110000 := by
  fun_induction systemCodes fuel bytes with
  | case1 => exact fun _ hn => nomatch hn
  | case2 => exact fun _ hn => nomatch hn
  | case3 fuel b rest c n hnext ih => exact List.forall_mem_cons.2 ⟨toNat_lt c, ih⟩
  | case4 fuel b rest fault hnext ih =>
      have hlt : b.toNat < 0x100 := b.toNat_lt
      exact List.forall_mem_cons.2 ⟨by simp only [escapeStart]; omega, ih⟩

/-- No surrogate among them stands for nothing. -/
theorem isUnencodable_of_mem_systemCodes {fuel : Nat} {bytes : List UInt8} :
    ∀ n ∈ systemCodes fuel bytes, isUnencodable n = false := by
  fun_induction systemCodes fuel bytes with
  | case1 => exact fun _ hn => nomatch hn
  | case2 => exact fun _ hn => nomatch hn
  | case3 fuel b rest c n hnext ih =>
      exact List.forall_mem_cons.2 ⟨by rw [isUnencodable, isSurrogate_toNat, Bool.false_and], ih⟩
  | case4 fuel b rest fault hnext ih =>
      refine List.forall_mem_cons.2 ⟨?_, ih⟩
      rw [isUnencodable, isEscapedByte_of_decodeNext_eq_error hnext, Bool.not_true, Bool.and_false]

/-- **The listed spelling of a name** has the bytes of the name. -/
theorem nameBytes_listed (name : String) : nameBytes (listed name) = nameBytes name := by
  unfold listed
  split_ifs
  · rw [nameBytes, codes_ofCodes systemCodes_lt]
    exact flatMap_systemBytes_systemCodes (Nat.le_refl _)
  · rfl

/-- A code point takes the bytes that it is written with. -/
theorem length_systemBytes {n : Nat} (hlt : n < 0x110000) (h : isUnencodable n = false) :
    (systemBytes n).length = codeSize n := by
  cases hescaped : isEscapedByte n with
  | true =>
      rw [systemBytes, codeSize, if_pos hescaped, if_pos (.inr hescaped), List.length_singleton]
  | false =>
      have hsurrogate : isSurrogate n = false := by
        rwa [isUnencodable, hescaped, Bool.not_false, Bool.and_true] at h
      have hvalid : n.isValidChar := by
        rw [Bool.eq_false_iff, ne_eq, isSurrogate_iff] at hsurrogate
        simp only [Nat.isValidChar]
        omega
      have hvalue : (Char.ofNat n).val.toNat = n := toNat_ofNat hvalid
      unfold systemBytes codeSize String.utf8EncodeChar
      dsimp only
      rw [hvalue, hescaped, if_neg Bool.false_ne_true]
      simp only [Bool.false_eq_true, or_false]
      split_ifs <;> first | rfl | omega

/-- The size of a name that the system can take is the number of its bytes. -/
theorem byteSize_eq_length {name : String} (h : ∀ n ∈ codes name, isUnencodable n = false) :
    byteSize name = (nameBytes name).length := by
  have hfold : ∀ (ns : List Nat) (size : Nat), (∀ n ∈ ns, n < 0x110000) →
      (∀ n ∈ ns, isUnencodable n = false) →
      ns.foldl (fun size n => size + codeSize n) size = size + (ns.flatMap systemBytes).length := by
    intro ns
    induction ns with
    | nil => exact fun _ _ _ => rfl
    | cons n ns ih =>
        intro size hlt hns
        obtain ⟨hn, hlt⟩ := List.forall_mem_cons.1 hlt
        obtain ⟨hcode, hns⟩ := List.forall_mem_cons.1 hns
        rw [List.foldl_cons, ih _ hlt hns, List.flatMap_cons, List.length_append,
          length_systemBytes hn hcode, Nat.add_assoc]
  rw [byteSize, hfold _ _ codes_lt h, Nat.zero_add]
  rfl

/-- The bytes of ASCII characters are ASCII. -/
theorem lt_of_mem_nameBytes {name : String} (h : ∀ c ∈ name.toList, c.toNat < 0x80) :
    ∀ b ∈ nameBytes name, b.toNat < 0x80 := by
  have hcodes : codes name = name.toList.map Char.toNat :=
    codesOf_of_ne fun c hc => ne_guardMark_of_lt (Nat.lt_trans (h c hc) (by decide))
  intro b hb
  rw [nameBytes, hcodes, List.flatMap_map, List.mem_flatMap] at hb
  obtain ⟨c, hc, hb⟩ := hb
  have hlow : c.val.toNat < 0x80 := h c hc
  rw [systemBytes, isEscapedByte_toNat, if_neg Bool.false_ne_true, Char.ofNat_toNat,
    String.utf8EncodeChar, if_pos (by omega), List.mem_singleton] at hb
  rw [hb, UInt8.toNat_ofNat']
  omega

/-- No other name is listed as one of ASCII characters. -/
theorem listed_ne_of_ascii {name other : String}
    (h : other.toList.all (fun c => c.toNat < 0x80) = true) (hne : name ≠ other) :
    listed name ≠ other := by
  have hascii : ∀ c ∈ other.toList, c.toNat < 0x80 :=
    fun c hc => of_decide_eq_true (List.all_eq_true.1 h c hc)
  cases hescaped : (codes name).any isEscapedByte with
  | false => rwa [listed_of_not_escaped hescaped]
  | true =>
      rintro rfl
      obtain ⟨n, hn, hcode⟩ := List.any_eq_true.1 hescaped
      have hmem : UInt8.ofNat (n - escapeStart) ∈ nameBytes (listed name) := by
        rw [nameBytes_listed]
        exact List.mem_flatMap.2 ⟨n, hn, by rw [systemBytes, if_pos hcode]; exact .head _⟩
      have hlow := lt_of_mem_nameBytes hascii _ hmem
      rw [isEscapedByte_iff] at hcode
      rw [UInt8.toNat_ofNat', escapeStart] at hlow
      omega

/-- The listed spelling of a name that the system can take is one, too. -/
theorem isUnencodable_of_mem_listed {name : String}
    (h : ∀ n ∈ codes name, isUnencodable n = false) :
    ∀ n ∈ codes (listed name), isUnencodable n = false := by
  unfold listed
  split_ifs
  · rw [codes_ofCodes systemCodes_lt]
    exact isUnencodable_of_mem_systemCodes
  · exact h

/-- It has the size of the name. -/
theorem byteSize_listed {name : String} (h : ∀ n ∈ codes name, isUnencodable n = false) :
    byteSize (listed name) = byteSize name := by
  rw [byteSize_eq_length h, byteSize_eq_length (isUnencodable_of_mem_listed h), nameBytes_listed]

end ColumnTypes.Text
