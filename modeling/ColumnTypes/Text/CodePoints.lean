/-!
# Texts as code points

A text of a data file is a sequence of code points, and with escapes a surrogate may stand in it
alone, which no `Char` can be.  Texts are nevertheless kept as `String`s, all of them in one written
form:

* for each surrogate two characters are written: a **guard**, which is the last character before the
  surrogates, and a **stand-in**, one of the last 2048 characters there are;
* a guard is written for every character that is itself a guard, before it;
* every other character is written as it is.

`Text.ofCodes` writes a sequence of code points and `Text.codes` reads it back
(`codes_ofCodes`), so two texts are equal exactly when their code points are.  Guards and what they
guard keep the place of the surrogates in the order of the characters, so texts are in the order of
their code points.
-/

namespace ColumnTypes.Text

/-- The first surrogate. -/
def surrogateStart : Nat := 0xD800

/-- Whether a code point is a surrogate, one half of a pair. -/
def isSurrogate (n : Nat) : Bool :=
  surrogateStart ≤ n && n < 0xE000

/-- Whether a code point is a surrogate that stands for a byte of the system: one that is part of no
character. -/
def isEscapedByte (n : Nat) : Bool :=
  0xDC80 ≤ n && n < 0xDD00

/-- Whether a code point is a surrogate that stands for nothing. -/
def isUnencodable (n : Nat) : Bool :=
  isSurrogate n && !isEscapedByte n

/-- The stand-in of the first surrogate; those of the others follow in order. -/
def standInStart : Nat := 0x10F800

/-- The character that goes before stand-ins and before itself. -/
def guardMark : Char := Char.ofNat 0xD7FF

/-- The written form of a character. -/
def ofChar (c : Char) : List Char :=
  if c = guardMark then [guardMark, guardMark] else [c]

/-- The written form of a code point. -/
def ofCode (n : Nat) : List Char :=
  if isSurrogate n then [guardMark, Char.ofNat (n - surrogateStart + standInStart)]
  else ofChar (Char.ofNat n)

/-- The text that code points spell. -/
def ofCodes (codes : List Nat) : String :=
  String.ofList (codes.flatMap ofCode)

/-- The text that characters spell. -/
def ofChars (cs : List Char) : String :=
  String.ofList (cs.flatMap ofChar)

/-- The code point that a character stands for behind a guard. -/
def guarded (c : Char) : Nat :=
  if standInStart ≤ c.toNat then c.toNat - standInStart + surrogateStart else c.toNat

/-- The code points of a written form. -/
def codesOf : List Char → List Nat
  | [] => []
  | [c] => [c.toNat]
  | c :: d :: rest =>
    if c = guardMark then guarded d :: codesOf rest else c.toNat :: codesOf (d :: rest)

/-- The code points of a text. -/
def codes (s : String) : List Nat :=
  codesOf s.toList

/-- Whether a surrogate stands in a text. -/
def hasSurrogate (s : String) : Bool :=
  (codes s).any isSurrogate

/-- A surrogate as an escape of six characters, and any other code point as it is. -/
def escapedCode (n : Nat) : List Nat :=
  if isSurrogate n then ('\\' :: 'u' :: Nat.toDigits 16 n).map Char.toNat else [n]

/-- The text with escapes for its surrogates. -/
def escaped (s : String) : String :=
  ofCodes ((codes s).flatMap escapedCode)

/-- The text with three replacement characters for each surrogate, one for each byte that it would
take. -/
def withoutSurrogates (s : String) : String :=
  ofCodes ((codes s).flatMap fun n =>
    if isSurrogate n then [0xFFFD, 0xFFFD, 0xFFFD] else [n])

/-- The number of bytes that a code point takes in the system. -/
def codeSize (n : Nat) : Nat :=
  if n < 0x80 ∨ isEscapedByte n then 1 else if n < 0x800 then 2 else if n < 0x10000 then 3 else 4

/-- The number of bytes that a text takes in the system. -/
def byteSize (s : String) : Nat :=
  (codes s).foldl (fun size n => size + codeSize n) 0

/-! ## Reading back what was written -/

/-- A character that is no guard is read by itself. -/
theorem codesOf_cons {c : Char} (h : c ≠ guardMark) (rest : List Char) :
    codesOf (c :: rest) = c.toNat :: codesOf rest := by
  cases rest with
  | nil => simp [codesOf]
  | cons d rest => simp [codesOf, h]

/-- A guard is read together with the character behind it. -/
theorem codesOf_guardMark_cons (d : Char) (rest : List Char) :
    codesOf (guardMark :: d :: rest) = guarded d :: codesOf rest := by
  simp [codesOf]

/-- The written form of a character is read as its code point. -/
theorem codesOf_ofChar_append (c : Char) (rest : List Char) :
    codesOf (ofChar c ++ rest) = c.toNat :: codesOf rest := by
  unfold ofChar
  split
  · next h =>
    rw [h]
    exact codesOf_guardMark_cons guardMark rest
  · next h => exact codesOf_cons h rest

/-- The range of the surrogates. -/
theorem isSurrogate_iff {n : Nat} : isSurrogate n = true ↔ 0xD800 ≤ n ∧ n < 0xE000 := by
  unfold isSurrogate
  rw [Bool.and_eq_true, decide_eq_true_iff, decide_eq_true_iff]
  rfl

/-- A code point that is no surrogate is that of its character. -/
theorem toNat_ofNat {n : Nat} (h : n.isValidChar) : (Char.ofNat n).toNat = n := by
  rw [Char.ofNat, dif_pos h]
  rfl

/-- A stand-in is read as its surrogate. -/
theorem guarded_standIn {n : Nat} (h : isSurrogate n = true) :
    guarded (Char.ofNat (n - surrogateStart + standInStart)) = n := by
  have hrange : 0xD800 ≤ n ∧ n < 0xE000 := isSurrogate_iff.1 h
  have hfirst : surrogateStart ≤ n := hrange.1
  have hvalue : (Char.ofNat (n - surrogateStart + standInStart)).toNat =
      n - surrogateStart + standInStart :=
    toNat_ofNat (Or.inr (by simp only [surrogateStart, standInStart]; omega))
  rw [guarded, hvalue, if_pos (Nat.le_add_left _ _), Nat.add_sub_cancel, Nat.sub_add_cancel hfirst]

/-- The written form of a code point is read as that code point. -/
theorem codesOf_ofCode_append {n : Nat} (h : n < 0x110000) (rest : List Char) :
    codesOf (ofCode n ++ rest) = n :: codesOf rest := by
  unfold ofCode
  split
  · next hs => exact (codesOf_guardMark_cons _ rest).trans (by rw [guarded_standIn hs])
  · next hs =>
    have hvalid : n.isValidChar := by
      rw [isSurrogate_iff] at hs
      simp only [Nat.isValidChar]
      omega
    rw [codesOf_ofChar_append, toNat_ofNat hvalid]

/-- A text has the code points that it was made of. -/
theorem codes_ofCodes {codes : List Nat} (h : ∀ n ∈ codes, n < 0x110000) :
    Text.codes (ofCodes codes) = codes := by
  simp only [Text.codes, ofCodes, String.toList_ofList]
  induction codes with
  | nil => rfl
  | cons n codes ih =>
    rw [List.flatMap_cons, codesOf_ofCode_append (h n (by simp)), ih fun m hm => h m (by simp [hm])]

example : ofCodes [0xFFFD] > ofCodes [0xDCFF] := by decide
example : codes (ofCodes [0x61, 0xD800, 0xD7FF]) = [0x61, 0xD800, 0xD7FF] := by decide

end ColumnTypes.Text
