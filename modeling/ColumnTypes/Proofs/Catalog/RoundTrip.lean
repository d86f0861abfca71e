import ColumnTypes.Proofs.Catalog.Reading
import ColumnTypes.Resolution

/-!
# Catalogs that are written and read again

A catalog that has been read is read back from every document that is written for it.  So a document
is read once and for all: its **normal form**, in which every field is there and every truth value
is given as such, has the same catalog and is its own normal form (`Catalog.normalForm_normalForm`),
and what is resolved does not change (`Catalog.restored_of_ofDocument`).
-/

namespace ColumnTypes.Catalog

open Document

variable {d : Document} {c : Catalog}

/-- A document as its catalog would be written, if it has one. -/
def normalForm (spelling : TypeSpelling) (d : Document) : Checked Document :=
  (Catalog.ofDocument d).map (Catalog.toDocument spelling)

/-- A catalog that has been read is read back, whichever of its two names the type of a column is
given. -/
theorem ofDocument_toDocument_of_ofDocument (h : Catalog.ofDocument d = .ok c)
    (spelling : TypeSpelling) : Catalog.ofDocument (c.toDocument spelling) = .ok c :=
  ofDocument_toDocument spelling (isValid_of_ofDocument h)

/-- The normal form of a normal form is that of the document; what is no catalog has the faults that
it had. -/
theorem normalForm_normalForm (spelling other : TypeSpelling) (d : Document) :
    (normalForm spelling d).bind (normalForm other) = normalForm other d := by
  unfold normalForm
  cases h : Catalog.ofDocument d with
  | error faults => rfl
  | ok c =>
      show (Catalog.ofDocument (c.toDocument spelling)).map (toDocument other) = _
      rw [ofDocument_toDocument_of_ofDocument h spelling]

/-- **Catalogs are restored.** A catalog that has been read is read back from the document that is
written for it, in either spelling; so writing and reading again changes no document that is in
normal form, and the restored catalog resolves to the same rows, numbers and records. -/
theorem restored_of_ofDocument (h : Catalog.ofDocument d = .ok c) (spelling : TypeSpelling) :
    Catalog.ofDocument (c.toDocument spelling) = .ok c ∧
      (∀ other, (normalForm spelling d).bind (normalForm other) = normalForm other d) ∧
      ∀ restored, Catalog.ofDocument (c.toDocument spelling) = .ok restored →
        ∀ settings, restored.resolveAll settings = c.resolveAll settings := by
  have hrestored := ofDocument_toDocument_of_ofDocument h spelling
  refine ⟨hrestored, fun other => normalForm_normalForm spelling other d, ?_⟩
  intro restored hread settings
  obtain rfl := Except.ok.inj (hread.symm.trans hrestored)
  rfl

/-- A document with truth values given as a word and as a number, with columns in both spellings,
and with fields left out. -/
def looseDocument : Document :=
  .record [("schemas", .list [.record [("tables", .list [.record [("columns", .list
      [.record [("declared_type", .str "mood"), ("not_null", .str "Yes")],
        .record [("is_array", .int 1), ("type", .str "text"), ("name", .str "tags")]]),
      ("name", .str "t")]]),
    ("enums", .list [.record [("name", .str "mood")]]), ("name", .str "public")]])]

/-- The catalog of the document. -/
def looseCatalog : Catalog :=
  ⟨"public", [⟨"public", [⟨"mood", []⟩], [],
    [⟨"t", [⟨"", "mood", true, false⟩, ⟨"tags", "text", false, true⟩]⟩]⟩]⟩

/-- It is restored from the document that is written for it, which is another one. -/
theorem restored_looseCatalog :
    Catalog.ofDocument looseDocument = .ok looseCatalog ∧
      Catalog.ofDocument (looseCatalog.toDocument .long) = .ok looseCatalog ∧
      normalForm .short looseDocument = .ok (looseCatalog.toDocument .short) := by
  have hread : Catalog.ofDocument looseDocument = .ok looseCatalog := by decide +kernel
  obtain ⟨hrestored, -, -⟩ := restored_of_ofDocument hread .long
  refine ⟨hread, hrestored, ?_⟩
  rw [normalForm, hread]
  rfl

end ColumnTypes.Catalog
