import ColumnTypes.Proofs.Catalog.Merging
import ColumnTypes.Proofs.Location

/-!
# What fails in a catalog directory

Not everything that a catalog directory lists can be processed: an entry may be a directory, have a
path that is too long, hold bytes that are no text, a text that is no YAML, or a document of which
no schemas can be taken (`Entry.FailsWith`).

* `Surroundings.catalogPart_eq_error_iff` - what fails is what gives no part of the catalog;
* `Surroundings.loadCatalog_of_isFirstFailure` - of all that fails the first in the order of the
  names decides the error;
* `Surroundings.exists_listing_of_not_failsAt` - if nothing fails, everything that is listed is a
  file with a document that gives a part.

All of it is about directories to whose directories a path can lead (`Surroundings.IsWithinReach`).
-/

namespace ColumnTypes

open Document

/-- The schemas that a document lists, whatever it lists them as. -/
def Document.listedSchemas (d : Document) : List Document :=
  ((d.entries?.bind (CatalogParts.filled? "schemas")).bind CatalogParts.elements?).getD []

/-- Why what is at the end of a path cannot be processed as a catalog file. -/
inductive Entry.FailsWith (file : Path) : Entry → LoadError → Prop
  | isDirectory : FailsWith file .directory (.unreadable .isDirectory file)
  | longPath {bytes : List UInt8} : FileTree.pathLimit < Text.byteSize file.text →
      FailsWith file (.file bytes) (.unreadable .nameTooLong file)
  | notUtf8 {bytes : List UInt8} {e : Text.Utf8Error} :
      Text.byteSize file.text ≤ FileTree.pathLimit → Text.decodeUtf8 bytes = .error e →
        FailsWith file (.file bytes) (.notUtf8 e)
  | notYaml {bytes : List UInt8} {text : List Char} {e : Yaml.Error} :
      Text.byteSize file.text ≤ FileTree.pathLimit → Text.decodeUtf8 bytes = .ok text →
        Yaml.read (Text.universalNewlines text) = .error e →
        FailsWith file (.file bytes) (.notYaml e (Text.universalNewlines text))
  | notMapping {bytes : List UInt8} {d : Document} :
      Text.byteSize file.text ≤ FileTree.pathLimit → Yaml.readBytes bytes = .ok d →
        d.unrolled ≠ .null → d.entries? = none →
        FailsWith file (.file bytes) (.notMapping file d.kind)
  | notIterable {bytes : List UInt8} {d v : Document} {entries : List (Document × Document)} :
      Text.byteSize file.text ≤ FileTree.pathLimit → Yaml.readBytes bytes = .ok d →
        d.entries? = some entries → valueOf? "schemas" entries = some v → v.isEmpty = false →
        CatalogParts.elements? v = none →
        FailsWith file (.file bytes) (.notIterable v.qualifiedKind)

/-- No entry fails because a catalog is invalid. -/
theorem Entry.FailsWith.ne_invalid {file : Path} {entry : Entry} {report : Report} :
    ¬ entry.FailsWith file (.invalid report) :=
  nofun

/-! ## One document -/

namespace CatalogParts

variable {file : Path} {d v : Document} {entries : List (Document × Document)} {e : LoadError}

/-- The schemas that an entry lists. -/
theorem filled?_eq_some_iff {name : String} :
    filled? name entries = some v ↔ valueOf? name entries = some v ∧ v.isEmpty = false := by
  unfold filled?
  rw [Option.filter_eq_some_iff, Bool.not_eq_true']

/-- A document fails if it is neither nothing nor a mapping, or if what it lists as schemas cannot
be gone through. -/
theorem ofDocument_eq_error_iff :
    ofDocument file d = .error e ↔
      (d.unrolled ≠ .null ∧ d.entries? = none ∧ e = .notMapping file d.kind) ∨
        ∃ entries v, d.entries? = some entries ∧ filled? "schemas" entries = some v ∧
          elements? v = none ∧ e = .notIterable v.qualifiedKind := by
  unfold ofDocument
  split
  · next hnull =>
    have hentries : d.entries? = none := by simp [entries?, hnull]
    simp [hnull, hentries]
  · next entries hmap =>
    have hentries := entries?_eq_some_iff.2 hmap
    unfold ofEntries
    cases hschemas : filled? "schemas" entries with
    | none => simp [hentries, hschemas]
    | some v => cases helements : elements? v <;> simp [hentries, hschemas, helements, eq_comm]
  · next hnull hmap =>
    have hentries : d.entries? = none := by
      refine Option.eq_none_iff_forall_ne_some.2 fun entries h => ?_
      exact hmap entries (entries?_eq_some_iff.1 h)
    have hne : d.unrolled ≠ .null := hnull
    simp [hentries, hne, eq_comm]

/-- A document that does not fail gives the default schema that it sets and the schemas that it
lists. -/
theorem ofDocument_of_ok {parts : CatalogParts} (h : ofDocument file d = .ok parts) :
    parts = ⟨d.declaredDefault?, d.listedSchemas⟩ := by
  unfold ofDocument at h
  unfold declaredDefault? listedSchemas
  split at h
  · next hnull =>
    have hentries : d.entries? = none := by simp [entries?, hnull]
    rw [hentries, ← Except.ok.inj h]
    rfl
  · next entries hmap =>
    rw [entries?_eq_some_iff.2 hmap, Option.bind_some, Option.bind_some]
    unfold ofEntries at h
    cases hschemas : filled? "schemas" entries with
    | none =>
        rw [hschemas] at h
        rw [← Except.ok.inj h]
        rfl
    | some v =>
        rw [hschemas] at h
        dsimp only at h
        rw [Option.bind_some]
        cases helements : elements? v with
        | none =>
            rw [helements] at h
            cases h
        | some schemas =>
            rw [helements] at h
            rw [← Except.ok.inj h]
            rfl
  · cases h

end CatalogParts

namespace Surroundings

variable {s : Surroundings} {p : Path} {place : Place} {names : List String} {entry : Entry}
  {e : LoadError}

/-! ## One entry -/

/-- An entry with a YAML name, at some names from the directory at a path, fails. -/
def FailsAt (s : Surroundings) (p : Path) (names : List String) (e : LoadError) : Prop :=
  EndsAsYaml names ∧ ∃ entry, s.HasEntry p names entry ∧ entry.FailsWith (below p names) e

/-- The first entry that fails, in the order of the names. -/
structure IsFirstFailure (s : Surroundings) (p : Path) (names : List String) (e : LoadError) :
    Prop where
  failsAt : s.FailsAt p names e
  first : ∀ earlier < names, ∀ e', ¬ s.FailsAt p earlier e'

/-- Bytes at the end of a path that is not too long fail to be read, or their document fails. -/
theorem failsWith_file_iff {file : Path} {content : List UInt8}
    (hfits : Text.byteSize file.text ≤ FileTree.pathLimit) :
    (Yaml.readBytes content >>= CatalogParts.ofDocument file) = .error e ↔
      (Entry.file content).FailsWith file e := by
  constructor
  · intro h
    cases hread : Yaml.readBytes content with
    | error e' =>
        rw [hread] at h
        obtain rfl : e' = e := Except.error.inj h
        rcases Yaml.readBytes_eq_error_iff.1 hread with
          ⟨fault, hdecode, rfl⟩ | ⟨text, fault, hdecode, hyaml, rfl⟩
        · exact .notUtf8 hfits hdecode
        · exact .notYaml hfits hdecode hyaml
    | ok d =>
        rw [hread] at h
        rcases CatalogParts.ofDocument_eq_error_iff.1 h with
          ⟨hnull, hentries, rfl⟩ | ⟨entries, v, hentries, hfilled, helements, rfl⟩
        · exact .notMapping hfits hread hnull hentries
        · obtain ⟨hv, hempty⟩ := CatalogParts.filled?_eq_some_iff.1 hfilled
          exact .notIterable hfits hread hentries hv hempty helements
  · intro h
    cases h with
    | longPath hlong => exact absurd hlong (Nat.not_lt.2 hfits)
    | notUtf8 _ hdecode =>
        rw [Yaml.readBytes_eq_error_iff.2 (.inl ⟨_, hdecode, rfl⟩)]
        rfl
    | notYaml _ hdecode hyaml =>
        rw [Yaml.readBytes_eq_error_iff.2 (.inr ⟨_, _, hdecode, hyaml, rfl⟩)]
        rfl
    | notMapping _ hread hnull hentries =>
        rw [hread]
        exact CatalogParts.ofDocument_eq_error_iff.2 (.inl ⟨hnull, hentries, rfl⟩)
    | notIterable _ hread hentries hv hempty helements =>
        rw [hread]
        exact CatalogParts.ofDocument_eq_error_iff.2 (.inr
          ⟨_, _, hentries, CatalogParts.filled?_eq_some_iff.2 ⟨hv, hempty⟩, helements, rfl⟩)

/-- What fails at some names is the part of the catalog that is there. -/
theorem catalogPart_eq_error_iff (hfiles : s.files.IsWellFormed) (hreach : s.IsWithinReach p)
    (hentry : s.HasEntry p names entry) :
    s.catalogPart (below p names) = .error e ↔ entry.FailsWith (below p names) e := by
  unfold catalogPart readYaml
  rw [readFile_below hfiles hentry]
  cases entry with
  | directory =>
      rw [if_neg (Nat.not_lt.2 (hreach names hentry))]
      simp only [bind, Except.bind, Except.error.injEq]
      constructor
      · rintro rfl
        exact .isDirectory
      · rintro ⟨⟩
        rfl
  | file bytes =>
      split_ifs with hlong
      · simp only [bind, Except.bind, Except.error.injEq]
        constructor
        · rintro rfl
          exact .longPath hlong
        · intro h
          cases h with
          | longPath => rfl
          | notUtf8 hfits | notYaml hfits | notMapping hfits | notIterable hfits =>
              exact absurd hlong (Nat.not_lt.2 hfits)
      · exact failsWith_file_iff (Nat.not_lt.1 hlong)

/-! ## All entries -/

section Directory

variable (hfiles : s.files.IsWellFormed) (hreach : s.IsWithinReach p)
  (hplace : s.files.directoryAt s.directory p = .ok place)

include hplace in
/-- The entries of a directory that is there are what the tree has below it. -/
theorem exists_hasEntry (h : names ∈ s.files.yamlNames place) :
    EndsAsYaml names ∧ ∃ entry, s.HasEntry p names entry := by
  obtain ⟨hpresent, hends, hsome⟩ := FileTree.mem_yamlNames_iff.1 h
  obtain ⟨entry, hentry⟩ := Option.isSome_iff_exists.1 hsome
  exact ⟨hends, entry, place, hplace, hpresent, hentry⟩

include hfiles hreach hplace

/-- What fails is listed and gives no part. -/
theorem failsAt_iff :
    s.FailsAt p names e ↔
      names ∈ s.files.yamlNames place ∧ s.catalogPart (below p names) = .error e := by
  constructor
  · rintro ⟨hends, entry, hentry, hfails⟩
    refine ⟨?_, (catalogPart_eq_error_iff hfiles hreach hentry).2 hfails⟩
    obtain ⟨place', hplace', hpresent, hget⟩ := hentry
    obtain rfl := Except.ok.inj (hplace.symm.trans hplace')
    exact FileTree.mem_yamlNames_iff.2 ⟨hpresent, hends, by rw [hget]; rfl⟩
  · rintro ⟨hmem, hpart⟩
    obtain ⟨hends, entry, hentry⟩ := exists_hasEntry hplace hmem
    exact ⟨hends, entry, hentry, (catalogPart_eq_error_iff hfiles hreach hentry).1 hpart⟩

/-- What is listed and does not fail gives a part. -/
theorem exists_catalogPart (hmem : names ∈ s.files.yamlNames place)
    (hfails : ∀ e, ¬ s.FailsAt p names e) : ∃ parts, s.catalogPart (below p names) = .ok parts := by
  cases hpart : s.catalogPart (below p names) with
  | ok parts => exact ⟨parts, rfl⟩
  | error e => exact absurd ((failsAt_iff hfiles hreach hplace).2 ⟨hmem, hpart⟩) (hfails e)

/-- If anything fails, one entry is the first. -/
theorem exists_isFirstFailure (h : s.FailsAt p names e) :
    ∃ names e, s.IsFirstFailure p names e := by
  obtain ⟨hmem, hpart⟩ := (failsAt_iff hfiles hreach hplace).1 h
  have hfind : ((s.files.yamlNames place).find?
      fun names => !(s.catalogPart (below p names)).isOk).isSome = true :=
    List.find?_isSome.2 ⟨names, hmem, by rw [hpart]; rfl⟩
  obtain ⟨first, hfirst⟩ := Option.isSome_iff_exists.1 hfind
  obtain ⟨hfails, before, after, hlist, hbefore⟩ := List.find?_eq_some_iff_append.1 hfirst
  have hsorted := s.files.pairwise_yamlNames place
  rw [hlist, List.pairwise_append, List.pairwise_cons] at hsorted
  cases herror : s.catalogPart (below p first) with
  | ok parts => rw [herror] at hfails; exact nomatch hfails
  | error e =>
      refine ⟨first, e, (failsAt_iff hfiles hreach hplace).2
        ⟨List.mem_of_find?_eq_some hfirst, herror⟩, fun earlier hlt e' hearlier => ?_⟩
      obtain ⟨hmem, hpart⟩ := (failsAt_iff hfiles hreach hplace).1 hearlier
      rw [hlist] at hmem
      rcases List.mem_append.1 hmem with hmem | hmem
      · have := hbefore earlier hmem
        rw [hpart] at this
        exact nomatch this
      · rcases List.mem_cons.1 hmem with rfl | hmem
        · exact List.lt_irrefl _ hlt
        · exact List.lt_asymm hlt (hsorted.2.1.1 earlier hmem)

end Directory

/-- Of some files the first that gives no part decides the error. -/
theorem catalogParts_of_first {before after : List Path} {file : Path}
    (hbefore : ∀ f ∈ before, ∃ parts, s.catalogPart f = .ok parts)
    (hfile : s.catalogPart file = .error e) :
    s.catalogParts (before ++ file :: after) = .error e := by
  induction before with
  | nil => rw [List.nil_append, catalogParts, hfile]; rfl
  | cons f before ih =>
      obtain ⟨⟨parts, hparts⟩, hrest⟩ := List.forall_mem_cons.1 hbefore
      rw [List.cons_append, catalogParts, hparts, ih hrest]
      rfl

/-- The first failure decides the error. -/
theorem loadCatalog_of_isFirstFailure (hfiles : s.files.IsWellFormed) (hreach : s.IsWithinReach p)
    (h : s.IsFirstFailure p names e) : s.loadCatalog p = .error e := by
  obtain ⟨-, entry, ⟨place, hplace, -⟩, -⟩ := h.failsAt
  obtain ⟨hmem, hpart⟩ := (failsAt_iff hfiles hreach hplace).1 h.failsAt
  obtain ⟨before, after, hlist⟩ := List.append_of_mem hmem
  have hsorted := s.files.pairwise_yamlNames place
  rw [hlist, List.pairwise_append] at hsorted
  have hbefore : ∀ f ∈ before.map (below p), ∃ parts, s.catalogPart f = .ok parts := by
    refine List.forall_mem_map.2 fun earlier hearlier => ?_
    have hlisted : earlier ∈ s.files.yamlNames place := by
      rw [hlist]
      exact List.mem_append_left _ hearlier
    have hlt : earlier < names := hsorted.2.2 earlier hearlier names List.mem_cons_self
    exact exists_catalogPart hfiles hreach hplace hlisted (h.first earlier hlt)
  unfold loadCatalog
  rw [catalogFiles_of_directoryAt hplace, listedFiles_of_isWithinReach hreach hplace, hlist,
    List.map_append, List.map_cons]
  simp only [bind, Except.bind, catalogParts_of_first hbefore hpart]

/-! ## No failure -/

/-- Files whose documents do not fail give their schemas one after the other. -/
theorem catalogParts_of_documents {files : List (List String × Document)}
    (h : ∀ f ∈ files, s.readYaml (below p f.1) = .ok f.2 ∧
      ∃ parts, CatalogParts.ofDocument (below p f.1) f.2 = .ok parts) :
    s.catalogParts (files.map fun f => below p f.1) =
      .ok ⟨files.findSome? fun f => f.2.declaredDefault?,
        files.flatMap fun f => f.2.listedSchemas⟩ := by
  induction files with
  | nil => rfl
  | cons f files ih =>
      obtain ⟨⟨hread, parts, hparts⟩, hrest⟩ := List.forall_mem_cons.1 h
      obtain rfl := CatalogParts.ofDocument_of_ok hparts
      have hpart : s.catalogPart (below p f.1) =
          .ok ⟨f.2.declaredDefault?, f.2.listedSchemas⟩ := by
        unfold catalogPart
        rw [hread]
        exact hparts
      rw [List.map_cons, catalogParts, hpart, ih hrest, List.flatMap_cons, List.findSome?_cons]
      cases f.2.declaredDefault? <;> rfl

/-- If nothing fails, everything that is listed is a file with a document that gives a part. -/
theorem exists_listing_of_not_failsAt (hfiles : s.files.IsWellFormed) (hreach : s.IsWithinReach p)
    (hplace : s.files.directoryAt s.directory p = .ok place)
    (hnone : ∀ names e, ¬ s.FailsAt p names e) :
    ∃ files, s.IsListing p files ∧ files.map Prod.fst = s.files.yamlNames place ∧
      ∀ f ∈ files, s.readYaml (below p f.1) = .ok f.2 ∧
        ∃ parts, CatalogParts.ofDocument (below p f.1) f.2 = .ok parts := by
  refine exists_isListing_of_holds (P := fun names d => s.readYaml (below p names) = .ok d ∧
    ∃ parts, CatalogParts.ofDocument (below p names) d = .ok parts) hplace fun names hlists => ?_
  have hmem := (lists_iff_mem_yamlNames hplace).1 hlists
  obtain ⟨parts, hparts⟩ := exists_catalogPart hfiles hreach hplace hmem (hnone names)
  unfold catalogPart at hparts
  cases hread : s.readYaml (below p names) with
  | error e => rw [hread] at hparts; exact nomatch hparts
  | ok d =>
      rw [hread] at hparts
      exact ⟨d, ⟨hlists, hread⟩, rfl, parts, hparts⟩

end Surroundings

end ColumnTypes
