import ColumnTypes.Document

/-!
# Equality of documents

Whether two documents are the same is decided by going through both of them at once, so what is said
about the documents of a file can be evaluated.
-/

namespace ColumnTypes.Document

mutual

/-- Whether two documents are the same. -/
def isSame : Document → Document → Bool
  | null, null => true
  | bool a, bool b => decide (a = b)
  | int m, int n => decide (m = n)
  | float x, float y => decide (x = y)
  | str s, str t => decide (s = t)
  | bytes s, bytes t => decide (s = t)
  | date d, date e => decide (d = e)
  | dateTime d, dateTime e => decide (d = e)
  | list xs, list ys => areSame xs ys
  | pair a b, pair c d => isSame a c && isSame b d
  | set xs, set ys => areSame xs ys
  | map es, map fs => entriesAreSame es fs
  | loop m a, loop n b => decide (m = n) && isSame a b
  | again m, again n => decide (m = n)
  | _, _ => false

/-- Whether the documents of two lists are the same. -/
def areSame : List Document → List Document → Bool
  | [], [] => true
  | x :: xs, y :: ys => isSame x y && areSame xs ys
  | _, _ => false

/-- Whether the entries of two mappings are the same. -/
def entriesAreSame : List (Document × Document) → List (Document × Document) → Bool
  | [], [] => true
  | (k, v) :: es, (l, w) :: fs => isSame k l && isSame v w && entriesAreSame es fs
  | _, _ => false

end

mutual

/-- A document is the same as itself. -/
theorem isSame_self : ∀ d : Document, isSame d d = true
  | null | bool _ | int _ | float _ | str _ | bytes _ | date _ | dateTime _ | again _ => by
      simp [isSame]
  | list xs | set xs => by simpa [isSame] using areSame_self xs
  | map es => by simpa [isSame] using entriesAreSame_self es
  | pair a b => by simp [isSame, isSame_self a, isSame_self b]
  | loop n d => by simp [isSame, isSame_self d]

/-- A list of documents is the same as itself. -/
theorem areSame_self : ∀ xs : List Document, areSame xs xs = true
  | [] => rfl
  | x :: xs => by simp [areSame, isSame_self x, areSame_self xs]

/-- Entries are the same as themselves. -/
theorem entriesAreSame_self : ∀ es : List (Document × Document), entriesAreSame es es = true
  | [] => rfl
  | (k, v) :: es => by
      simp [entriesAreSame, isSame_self k, isSame_self v, entriesAreSame_self es]

end

mutual

/-- Documents that are the same are equal. -/
theorem eq_of_isSame : ∀ {a b : Document}, isSame a b = true → a = b
  | null, b, h | bool _, b, h | int _, b, h | float _, b, h | str _, b, h | bytes _, b, h
  | date _, b, h | dateTime _, b, h | again _, b, h => by
      cases b <;> simp [isSame] at h
      simp [h]
  | list xs, b, h => by
      cases b <;> simp only [isSame, Bool.false_eq_true] at h
      rw [eq_of_areSame h]
  | set xs, b, h => by
      cases b <;> simp only [isSame, Bool.false_eq_true] at h
      rw [eq_of_areSame h]
  | map es, b, h => by
      cases b <;> simp only [isSame, Bool.false_eq_true] at h
      rw [eq_of_entriesAreSame h]
  | pair a c, b, h => by
      cases b <;> simp only [isSame, Bool.false_eq_true, Bool.and_eq_true] at h
      rw [eq_of_isSame h.1, eq_of_isSame h.2]
  | loop n d, b, h => by
      cases b <;> simp only [isSame, Bool.false_eq_true, Bool.and_eq_true, decide_eq_true_eq] at h
      rw [h.1, eq_of_isSame h.2]

/-- Lists of documents that are the same are equal. -/
theorem eq_of_areSame : ∀ {xs ys : List Document}, areSame xs ys = true → xs = ys
  | [], [], _ => rfl
  | x :: xs, y :: ys, h => by
      rw [areSame, Bool.and_eq_true] at h
      rw [eq_of_isSame h.1, eq_of_areSame h.2]

/-- Entries that are the same are equal. -/
theorem eq_of_entriesAreSame :
    ∀ {es fs : List (Document × Document)}, entriesAreSame es fs = true → es = fs
  | [], [], _ => rfl
  | (k, v) :: es, (l, w) :: fs, h => by
      rw [entriesAreSame, Bool.and_eq_true, Bool.and_eq_true] at h
      rw [eq_of_isSame h.1.1, eq_of_isSame h.1.2, eq_of_entriesAreSame h.2]

end

/-- Documents are the same exactly if they are equal. -/
theorem isSame_iff {a b : Document} : isSame a b = true ↔ a = b :=
  ⟨eq_of_isSame, fun h => h ▸ isSame_self a⟩

instance : DecidableEq Document := fun _ _ => decidable_of_iff _ isSame_iff

end ColumnTypes.Document
