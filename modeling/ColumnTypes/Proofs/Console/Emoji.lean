import ColumnTypes.Console.Emoji
import ColumnTypes.Proofs.Text.CodePoints
import Mathlib.Data.List.Basic

/-!
# Pictographs and surrogates

Pictographs are ordinary characters: neither guards nor stand-ins of the written form of texts.  So
they bring no surrogate into a text (`hasSurrogate_shown`): a text that can be written can be
written with its pictographs.

The table of pictographs is looked at through the bytes of its texts, which are cheaper to have than
their characters.
-/

namespace ColumnTypes

namespace Text

/-- The bytes of a text in UTF-8. -/
def utf8Bytes (s : String) : List UInt8 :=
  s.toByteArray.data.toList

/-- The bytes of a text are those of its characters. -/
theorem utf8Bytes_eq (s : String) : utf8Bytes s = s.toList.flatMap String.utf8EncodeChar := by
  unfold utf8Bytes
  rw [← String.utf8Encode_toList, List.utf8Encode, List.data_toByteArray]

/-- A character from the last plane begins with the greatest byte that any character begins
with. -/
theorem mem_utf8EncodeChar_of_le {c : Char} (h : 0x100000 ≤ c.toNat) :
    (0xF4 : UInt8) ∈ String.utf8EncodeChar c := by
  have hlt := toNat_lt c
  have hvalue : c.val.toNat = c.toNat := rfl
  have hfirst : c.toNat / 262144 % 8 + 240 = 0xF4 := by omega
  unfold String.utf8EncodeChar
  dsimp only
  rw [hvalue, if_neg (by omega), if_neg (by omega), if_neg (by omega), hfirst]
  exact List.mem_cons_self

/-- The guard begins with a byte that no other character near it has. -/
theorem mem_utf8EncodeChar_guardMark : (0xED : UInt8) ∈ String.utf8EncodeChar guardMark := by
  decide

end Text

namespace Emoji

open Text

variable {before cs code rest : List Char}

/-- A text that has a character, and none from the last plane or with the first byte of the
guard. -/
def hasOrdinaryBytes (s : String) : Bool :=
  !(utf8Bytes s).isEmpty && (utf8Bytes s).all fun b => b < 0xF4 && b != 0xED

theorem all_hasOrdinaryBytes_emojiTable :
    (emojiTable.all fun entry => hasOrdinaryBytes entry.2) = true := by
  decide +kernel

/-- Such a text has ordinary characters. -/
theorem of_hasOrdinaryBytes {s : String} (h : hasOrdinaryBytes s = true) :
    s.toList ≠ [] ∧ ∀ c ∈ s.toList, IsOrdinary c := by
  rw [hasOrdinaryBytes, utf8Bytes_eq, Bool.and_eq_true, Bool.not_eq_true',
    List.isEmpty_eq_false_iff, List.all_eq_true] at h
  obtain ⟨hne, hall⟩ := h
  constructor
  · intro hnil
    exact hne (by rw [hnil]; rfl)
  · intro c hc
    have hbytes : ∀ b ∈ String.utf8EncodeChar c, (b < 0xF4 && b != 0xED) = true :=
      fun b hb => hall b (List.mem_flatMap.2 ⟨c, hc, hb⟩)
    refine ⟨?_, Nat.lt_of_lt_of_le (Nat.lt_of_not_le fun hle => ?_) (by decide : 0x100000 ≤ _)⟩
    · rintro rfl
      exact absurd (hbytes _ mem_utf8EncodeChar_guardMark) (by decide)
    · exact absurd (hbytes _ (mem_utf8EncodeChar_of_le hle)) (by decide)

/-- A pictograph has ordinary characters. -/
theorem of_pictograph?_eq_some {name pictograph : List Char}
    (h : pictograph? name = some pictograph) :
    pictograph ≠ [] ∧ ∀ c ∈ pictograph, IsOrdinary c := by
  obtain ⟨s, hs, rfl⟩ := Option.map_eq_some_iff.1 h
  obtain ⟨above, below, htable, -⟩ := List.lookup_eq_some_iff.1 hs
  have hmem : (String.ofList (lowered name), s) ∈ emojiTable := by
    rw [htable]
    exact List.mem_append_right _ List.mem_cons_self
  exact of_hasOrdinaryBytes (List.all_eq_true.1 all_hasOrdinaryBytes_emojiTable _ hmem)

/-- What a code shows: ordinary characters, or the code itself. -/
theorem ofCode_cases (code : List Char) :
    (ofCode code ≠ [] ∧ ∀ c ∈ ofCode code, IsOrdinary c) ∨
      ofCode code = ':' :: code ++ [':'] := by
  have hforms : ∀ form ∈ forms, IsOrdinary form.2 := by decide
  have hmark : ∀ c ∈ (named code).2, IsOrdinary c := by
    unfold named
    split
    · next suffix mark hfind =>
      exact List.forall_mem_singleton.2 (hforms _ (List.mem_of_find?_eq_some hfind))
    · exact fun c hc => nomatch hc
  unfold ofCode
  dsimp only
  split
  · next pictograph hpictograph =>
    obtain ⟨hne, hordinary⟩ := of_pictograph?_eq_some hpictograph
    have hall := List.forall_mem_append.2 ⟨hordinary, hmark⟩
    exact .inl ⟨List.append_ne_nil_of_left_ne_nil hne _, hall⟩
  · exact .inr rfl

/-- A code ends with a colon. -/
theorem eq_of_code?_eq_some (h : code? cs = some (code, rest)) : cs = code ++ ':' :: rest := by
  induction cs generalizing code with
  | nil => exact nomatch h
  | cons c cs ih =>
      rw [code?] at h
      split_ifs at h with hcolon
      · obtain ⟨rfl, rfl⟩ := Prod.mk.inj (Option.some.inj h)
        rw [hcolon, List.nil_append]
      · obtain ⟨⟨code', rest'⟩, hcode, heq⟩ := Option.map_eq_some_iff.1 h
        obtain ⟨rfl, rfl⟩ := Prod.mk.inj heq
        rw [ih hcode, List.cons_append]

/-- Pictographs bring no surrogate into a text, whatever is before their codes. -/
theorem hasSurrogate_append_shownFrom (fuel : Nat)
    (h : hasSurrogate (String.ofList (before ++ cs)) = false) :
    hasSurrogate (String.ofList (before ++ shownFrom fuel cs)) = false := by
  have hcolon : ∀ c ∈ [':'], IsOrdinary c := List.forall_mem_singleton.2 (by decide)
  -- The text before `cs` grows by what has been shown, since a guard at its end takes part in the
  -- reading of what follows.
  fun_induction shownFrom fuel cs generalizing before with
  | case1 => exact h
  | case2 => exact h
  | case3 fuel cs code rest hcode ih =>
      obtain rfl := eq_of_code?_eq_some hcode
      rw [← List.append_assoc]
      refine ih ?_
      rcases ofCode_cases code with ⟨hne, hordinary⟩ | heq
      · have hbefore : hasSurrogate (String.ofList (before ++ ([':'] ++ (code ++ ':' :: rest)))) =
            (hasSurrogate (String.ofList before) ||
              hasSurrogate (String.ofList (code ++ ':' :: rest))) :=
          hasSurrogate_append_append (List.cons_ne_nil ':' []) hcolon
        have hcode : hasSurrogate (String.ofList (code ++ ([':'] ++ rest))) =
            (hasSurrogate (String.ofList code) || hasSurrogate (String.ofList rest)) :=
          hasSurrogate_append_append (List.cons_ne_nil ':' []) hcolon
        rw [List.singleton_append] at hbefore hcode
        rw [hbefore, hcode, Bool.or_eq_false_iff, Bool.or_eq_false_iff] at h
        rw [List.append_assoc, hasSurrogate_append_append hne hordinary, h.1, h.2.2]
        rfl
      · rw [heq]
        simpa using h
  | case4 fuel cs hcode ih =>
      rw [List.append_cons] at h ⊢
      exact ih h
  | case5 fuel c cs hc ih =>
      rw [List.append_cons] at h ⊢
      exact ih h

/-- **Pictographs bring no surrogate into a text.** -/
theorem hasSurrogate_shown (h : hasSurrogate (String.ofList cs) = false) :
    hasSurrogate (String.ofList (shown cs)) = false := by
  have hbehind : hasSurrogate (String.ofList ([] ++ shownFrom cs.length cs)) = false :=
    hasSurrogate_append_shownFrom cs.length (by rwa [List.nil_append])
  rwa [List.nil_append] at hbehind

/-- A colon before a blank begins no code, so a text without other colons is shown as it is. -/
theorem shown_colon_blank {c : Char} (hblank : isBlank c = true) (hcolon : c ≠ ':')
    (hcs : ∀ d ∈ cs, d ≠ ':') : shown (':' :: c :: cs) = ':' :: c :: cs := by
  have hnone : code? (c :: cs) = none := by
    rw [code?, if_neg hcolon, if_pos hblank]
  unfold shown
  rw [List.length_cons, shownFrom, if_pos rfl, hnone]
  dsimp only
  rw [shownFrom_of_no_colon _ _ (List.forall_mem_cons.2 ⟨hcolon, hcs⟩)]

end Emoji

end ColumnTypes
