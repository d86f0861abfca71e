import ColumnTypes.Document.Equality
import ColumnTypes.Proofs.Catalog.Listing
import ColumnTypes.Proofs.Catalog.Reading
import ColumnTypes.Proofs.Document.Keys

/-!
# Merging the files of a catalog

The files of a directory are merged into one document, which is then read as a catalog:

* the schemas are those that the files list, one file after the other;
* the default schema is the first that is set and not empty.

This document alone decides what is loaded (`Surroundings.loadCatalog_of_isListing`), and a catalog
that is cut into files comes back whole (`Catalog.validated_merged`).
-/

namespace ColumnTypes

/-! ## The merged document -/

namespace Document

/-- The schemas that a document lists. -/
def schemaItems (d : Document) : List Document :=
  ((d.entries?.bind (valueOf? "schemas")).bind items?).getD []

/-- The default schema that a document sets; an empty one counts for nothing. -/
def declaredDefault? (d : Document) : Option Document :=
  (d.entries?.bind (valueOf? "default_schema")).filter (!·.isEmpty)

/-- The one document that documents give together. -/
def merged (docs : List Document) : Document :=
  .map ((.str "schemas", .list (docs.flatMap schemaItems)) ::
    ((docs.findSome? declaredDefault?).map fun d => (.str "default_schema", d)).toList)

end Document

open Document

/-- The outcome of reading a document as a catalog. -/
def Catalog.validated (d : Document) : Except LoadError Catalog :=
  ((Catalog.ofDocument d).report "Catalog").mapError .invalid

/-- The parts that documents give together. -/
def CatalogParts.ofDocuments (docs : List Document) : CatalogParts :=
  ⟨docs.findSome? declaredDefault?, docs.flatMap schemaItems⟩

/-- The catalog of the parts is read from the merged document. -/
theorem CatalogParts.catalog_ofDocuments (docs : List Document) :
    (CatalogParts.ofDocuments docs).catalog = Catalog.validated (merged docs) := by
  have hentries : (merged docs).entries? = some (CatalogParts.ofDocuments docs).entries := by
    unfold merged entries? CatalogParts.ofDocuments CatalogParts.entries
    cases docs.findSome? declaredDefault? <;> rfl
  have hwhole : ∀ e ∈ (CatalogParts.ofDocuments docs).entries, e.1.isBrokenText = false := by
    unfold CatalogParts.ofDocuments CatalogParts.entries
    cases docs.findSome? declaredDefault? <;> simp [Catalog.isBrokenText_names]
  unfold CatalogParts.catalog Catalog.validated Catalog.ofDocument
  rw [asStrictRecord_of_entries hentries hwhole]
  cases Catalog.ofEntries (CatalogParts.ofDocuments docs).entries <;> rfl

/-! ## The parts of a file -/

/-- The parts that a mergeable document gives. -/
theorem CatalogParts.ofDocument_of_isMergeable {d : Document} (file : Path)
    (h : d.IsMergeable) :
    CatalogParts.ofDocument file d = .ok ⟨d.declaredDefault?, d.schemaItems⟩ := by
  unfold CatalogParts.ofDocument declaredDefault? schemaItems
  rcases h with hnull | ⟨entries, hentries, hschemas⟩
  · have hentries : d.entries? = none := by simp [entries?, hnull]
    simp [hnull, hentries, empty]
  · rw [hentries, entries?_eq_some_iff.1 hentries]
    simp only [ofEntries, filled?, Option.bind_some]
    cases hv : valueOf? "schemas" entries with
    | none => simp
    | some v =>
        rcases hschemas v hv with hnull | ⟨items, hitems⟩
        · have hempty : v.isEmpty = true := by rw [← isEmpty_unrolled, hnull]; rfl
          simp [Option.filter, hempty, items?, hnull]
        · have hempty : v.isEmpty = items.isEmpty := by rw [← isEmpty_unrolled, hitems]; rfl
          cases items with
          | nil => simp [Option.filter, hempty, items?, hitems]
          | cons item items => simp [Option.filter, hempty, items?, elements?, hitems]

/-- The parts of a document and of those after it. -/
theorem CatalogParts.append_ofDocuments (d : Document) (docs : List Document) :
    CatalogParts.append ⟨d.declaredDefault?, d.schemaItems⟩ (.ofDocuments docs) =
      .ofDocuments (d :: docs) := by
  unfold append ofDocuments
  rw [List.flatMap_cons, List.findSome?_cons]
  cases d.declaredDefault? <;> rfl

namespace Surroundings

variable {s : Surroundings} {p : Path} {files : List (List String × Document)}

/-- The parts of files that can be read and merged. -/
theorem catalogParts_eq (hread : ∀ f ∈ files, s.readYaml (below p f.1) = .ok f.2)
    (hmergeable : ∀ f ∈ files, f.2.IsMergeable) :
    s.catalogParts (files.map fun f => below p f.1) = .ok (.ofDocuments (files.map Prod.snd)) := by
  induction files with
  | nil => rfl
  | cons f files ih =>
      have hfile : s.catalogPart (below p f.1) =
          .ok ⟨f.2.declaredDefault?, f.2.schemaItems⟩ := by
        unfold catalogPart
        rw [hread f List.mem_cons_self]
        exact CatalogParts.ofDocument_of_isMergeable _ (hmergeable f List.mem_cons_self)
      have hrest := ih (fun g hg => hread g (List.mem_cons_of_mem _ hg))
        (fun g hg => hmergeable g (List.mem_cons_of_mem _ hg))
      rw [List.map_cons, List.map_cons, catalogParts, hfile, hrest,
        ← CatalogParts.append_ofDocuments]
      rfl

/-- The files of a directory are those that it lists. -/
theorem catalogFiles_of_directoryAt {place : Place}
    (hplace : s.files.directoryAt s.directory p = .ok place) :
    s.catalogFiles p = s.listedFiles p place := by
  obtain ⟨hat, hdir⟩ := FileTree.directoryAt_eq_ok_iff.1 hplace
  have hentry : s.files.entryAt s.directory p = .ok .directory :=
    FileTree.entryAt_eq_ok_iff.2 ⟨place, hat, hdir⟩
  simp only [catalogFiles, FileTree.entryAt?, hentry, hplace]

/-- What is loaded from a readable directory is read from its merged listing. -/
theorem loadCatalog_of_isListing (h : s.IsReadable p) (hfiles : s.IsListing p files) :
    s.loadCatalog p = Catalog.validated (merged (files.map Prod.snd)) := by
  obtain ⟨place, hplace⟩ := h.isDirectory
  obtain ⟨files', hfiles', hnames, hmergeable⟩ := exists_isListing h hplace
  obtain rfl : files = files' := hfiles.eq_of_holds_iff hfiles' fun _ _ => Iff.rfl
  have hread : ∀ f ∈ files, s.readYaml (below p f.1) = .ok f.2 :=
    fun f hf => ((hfiles.mem_iff f.1 f.2).1 hf).2
  unfold loadCatalog
  rw [catalogFiles_of_directoryAt hplace, listedFiles_of_isWithinReach h.isWithinReach hplace,
    ← hnames, List.map_map]
  have hparts := catalogParts_eq hread hmergeable
  rw [← CatalogParts.catalog_ofDocuments]
  simp only [bind, Except.bind]
  rw [show below p ∘ Prod.fst = fun f : List String × Document => below p f.1 from rfl, hparts]

/-- The same is loaded from readable directories that hold the same documents. -/
theorem loadCatalog_eq_of_holds_iff {t : Surroundings} {q : Path} (ht : t.IsReadable q)
    (hs : s.IsReadable p) (h : ∀ names d, t.Holds q names d ↔ s.Holds p names d) :
    t.loadCatalog q = s.loadCatalog p := by
  obtain ⟨place, hplace⟩ := ht.isDirectory
  obtain ⟨place', hplace'⟩ := hs.isDirectory
  obtain ⟨files, hfiles, -⟩ := exists_isListing ht hplace
  obtain ⟨files', hfiles', -⟩ := exists_isListing hs hplace'
  obtain rfl := hfiles.eq_of_holds_iff hfiles' h
  rw [loadCatalog_of_isListing ht hfiles, loadCatalog_of_isListing hs hfiles']

end Surroundings

/-! ## Cutting a catalog into files -/

/-- A catalog is cut into documents: each lists the next of its schemas, as they are written, and
the first default schema that is set is its own. -/
structure Catalog.IsCutInto (c : Catalog) (docs : List Document) : Prop where
  schemas : ∃ blocks : List (List Schema), blocks.flatten = c.schemas ∧
    List.Forall₂ (fun d block => ∃ spelling,
      d.schemaItems = block.map (Schema.toDocument spelling)) docs blocks
  defaultSchema : docs.findSome? declaredDefault? = some (.str c.defaultSchema)

/-- Blocks of schemas are read back one after the other. -/
theorem forall₂_flatMap_schemaItems {docs : List Document} {blocks : List (List Schema)}
    (h : List.Forall₂ (fun d block => ∃ spelling,
      d.schemaItems = block.map (Schema.toDocument spelling)) docs blocks)
    (hvalid : ∀ s ∈ blocks.flatten, s.IsValid) :
    List.Forall₂ (fun d s => Schema.ofDocument d = .ok s) (docs.flatMap schemaItems)
      blocks.flatten := by
  induction h with
  | nil => exact .nil
  | @cons d block docs blocks hd _ ih =>
      obtain ⟨spelling, hitems⟩ := hd
      rw [List.flatMap_cons, List.flatten_cons, hitems]
      rw [List.flatten_cons] at hvalid
      refine List.rel_append ?_ (ih fun s hs => hvalid s (List.mem_append_right _ hs))
      rw [List.forall₂_map_left_iff, List.forall₂_same]
      exact fun s hs =>
        Schema.ofDocument_toDocument spelling (hvalid s (List.mem_append_left _ hs))

/-- A valid catalog is read from the document that its parts are merged into. -/
theorem Catalog.validated_merged {c : Catalog} {docs : List Document} (hc : c.IsValid)
    (h : c.IsCutInto docs) : Catalog.validated (merged docs) = .ok c := by
  obtain ⟨⟨blocks, hblocks, hdocs⟩, hdefault⟩ := h
  have hschemas := forall₂_flatMap_schemaItems hdocs fun s hs => hc s (hblocks ▸ hs)
  rw [hblocks] at hschemas
  have hok : Catalog.ofDocument (merged docs) = .ok c := by
    unfold merged
    rw [hdefault]
    refine asStrictRecord_eq_ok_iff.2 ⟨_, rfl, ?_, Catalog.ofEntries_eq_ok_iff.2 ⟨rfl, ?_, rfl⟩⟩
    · simp [Catalog.isBrokenText_names]
    · exact Checked.under_eq_ok_iff.2 (asList_eq_ok_iff.2 ⟨_, rfl, hschemas⟩)
  unfold Catalog.validated
  rw [hok]
  rfl

end ColumnTypes
