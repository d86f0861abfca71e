import ColumnTypes.Catalog.Loading
import ColumnTypes.Proofs.Location
import Mathlib.Tactic.Choose

/-!
# The YAML files of a directory

Which files make up the catalog of a directory, and in which order, is told by two things only: the
names that lead to them from the directory, and their documents.

* In a **catalog directory** (`Surroundings.IsCatalogDirectory`) everything at any depth whose name
  ends as a YAML file's is a file with a mergeable document.
* It **fits** (`Surroundings.Fits`) if no directory and no YAML file in it has a path that is too
  long.  Otherwise it cannot be listed or not all of it can be read.
* A **listing** (`Surroundings.IsListing`) has each of these files once, with its document, in the
  order of their names (`<` on lists of names: the first name that differs decides).

Main statements:

* `Surroundings.exists_isListing`, `Surroundings.IsListing.eq_of_holds_iff` - a catalog directory
  that fits has exactly one listing;
* `Surroundings.holds_iff_of_sameYaml`, `Surroundings.holds_iff_of_sameYamlBelow` - other files, the
  order in which the system lists them, and the place of the directory play no part in it.
-/

namespace ColumnTypes

/-! ## The order of names -/

/-- Of two names one comes first, unless they are the same. -/
theorem lt_iff_not_lt {x y : String} (h : x ≠ y) : x < y ↔ ¬y < x := by
  constructor
  · exact String.lt_asymm
  · intro hyx
    exact String.not_le.1 fun hle => h (String.le_antisymm (String.not_lt.1 hyx) hle)

/-- The order of paths is the order of their lists of names. -/
theorem precedes_iff_not_lt {a b : List String} : precedes a b = true ↔ ¬b < a := by
  induction a generalizing b with
  | nil => simp [precedes]
  | cons x a ih =>
      cases b with
      | nil => simp [precedes]
      | cons y b =>
          rw [precedes, List.cons_lt_cons_iff]
          split_ifs with h
          · subst h
            rw [ih, or_iff_right (String.lt_irrefl x), and_iff_right rfl]
          · simp [Ne.symm h, lt_iff_not_lt h]

/-- Taking every element once leaves no element twice. -/
theorem nodup_eraseDups {α : Type} [BEq α] [LawfulBEq α] (l : List α) : l.eraseDups.Nodup := by
  induction h : l.length using Nat.strongRecOn generalizing l with
  | _ n ih =>
      cases l with
      | nil => simp
      | cons a l =>
          rw [List.eraseDups_cons, List.nodup_cons]
          refine ⟨by simp [List.mem_eraseDups], ih _ ?_ _ rfl⟩
          have := List.length_filter_le (fun b => !b == a) l
          rw [List.length_cons] at h
          omega

/-- Two lists in a strict order of names are equal if they have the same members. -/
theorem eq_of_pairwise_of_mem_iff {α : Type} (names : α → List String) {l m : List α}
    (hl : l.Pairwise fun a b => names a < names b) (hm : m.Pairwise fun a b => names a < names b)
    (h : ∀ a, a ∈ l ↔ a ∈ m) : l = m := by
  have hnodup : ∀ {k : List α}, k.Pairwise (fun a b => names a < names b) → k.Nodup := by
    intro k hk
    refine hk.imp ?_
    rintro a _ hlt rfl
    exact List.lt_irrefl _ hlt
  have hperm : l.Perm m := (List.perm_ext_iff_of_nodup (hnodup hl) (hnodup hm)).2 h
  exact hperm.eq_of_pairwise (fun a b _ _ hab hba => absurd hba (List.lt_asymm hab)) hl hm

/-- Names that end as those of a YAML file. -/
def EndsAsYaml (names : List String) : Prop :=
  ∃ folder name, names = folder ++ [name] ∧ isYamlName name = true

/-- The last of some names tells how they end. -/
theorem endsAsYaml_iff {names : List String} :
    EndsAsYaml names ↔ names.getLast?.any isYamlName = true := by
  constructor
  · rintro ⟨folder, name, rfl, hname⟩
    rw [List.getLast?_concat, Option.any_some, hname]
  · intro h
    obtain ⟨name, hlast, hname⟩ := (Option.any_eq_true _ _).1 h
    obtain ⟨folder, rfl⟩ := List.getLast?_eq_some_iff.1 hlast
    exact ⟨folder, name, rfl, hname⟩

instance (names : List String) : Decidable (EndsAsYaml names) :=
  decidable_of_iff _ endsAsYaml_iff.symm

/-- Names end as the last of them, whatever is before. -/
theorem EndsAsYaml.append_left {names : List String} (before : List String)
    (h : EndsAsYaml names) : EndsAsYaml (before ++ names) := by
  obtain ⟨folder, name, rfl, hname⟩ := h
  exact ⟨before ++ folder, name, (List.append_assoc _ _ _).symm, hname⟩

/-- Such names are at least one. -/
theorem ne_nil_of_endsAsYaml {names : List String} (h : EndsAsYaml names) : names ≠ [] := by
  obtain ⟨folder, name, rfl, -⟩ := h
  simp

namespace FileTree

variable {t u : FileTree}

/-- The YAML names below a place are those at which there is something. -/
theorem mem_yamlNames_iff {place : Place} {names : List String} :
    names ∈ t.yamlNames place ↔
      place.isPresent = true ∧ EndsAsYaml names ∧
        (t.get? (place.location ++ names)).isSome = true := by
  unfold yamlNames
  split_ifs with hpresent
  · rw [List.mem_mergeSort, List.mem_eraseDups, List.mem_flatMap]
    simp only [hpresent, true_and, matching, List.mem_filter, mem_descendants_iff]
    constructor
    · rintro ⟨ending, hending, ⟨hne, hsome⟩, hlast⟩
      obtain ⟨folder, name, rfl⟩ : ∃ folder name, names = folder ++ [name] :=
        ⟨_, _, (List.dropLast_append_getLast hne).symm⟩
      rw [List.getLast?_concat, Option.any_some] at hlast
      exact ⟨⟨folder, name, rfl, List.any_eq_true.2 ⟨ending, hending, hlast⟩⟩, hsome⟩
    · rintro ⟨⟨folder, name, rfl, hname⟩, hsome⟩
      obtain ⟨ending, hending, hlast⟩ := List.any_eq_true.1 hname
      exact ⟨ending, hending, ⟨by simp, hsome⟩, by simpa using hlast⟩
  · simp [hpresent]

/-- The names of the directories below a place are those at which there is one. -/
theorem mem_directoryNames_iff {place : Place} {names : List String} :
    names ∈ t.directoryNames place ↔
      place.isPresent = true ∧ names ≠ [] ∧ t.get? (place.location ++ names) = some .directory := by
  unfold directoryNames
  split_ifs with hpresent
  · rw [List.mem_filter, mem_descendants_iff, isDirectoryAt_iff]
    constructor
    · rintro ⟨⟨hne, -⟩, hdirectory⟩
      exact ⟨hpresent, hne, hdirectory⟩
    · rintro ⟨-, hne, hdirectory⟩
      exact ⟨⟨hne, by rw [hdirectory]; rfl⟩, hdirectory⟩
  · simp [hpresent]

/-- The YAML names below a place come in order, each once. -/
theorem pairwise_yamlNames (place : Place) : (t.yamlNames place).Pairwise (· < ·) := by
  unfold yamlNames
  split_ifs
  · set found := (yamlEndings.flatMap (t.matching place.location)).eraseDups with hfound
    have hsorted : (found.mergeSort precedes).Pairwise (precedes · · = true) := by
      refine List.pairwise_mergeSort ?_ ?_ found
      · intro a b c hab hbc
        rw [precedes_iff_not_lt] at hab hbc ⊢
        exact List.le_trans hab hbc
      · intro a b
        rw [Bool.or_eq_true, precedes_iff_not_lt, precedes_iff_not_lt]
        exact List.le_total a b
    have hnodup : (found.mergeSort precedes).Nodup :=
      (List.mergeSort_perm found precedes).nodup_iff.2 (nodup_eraseDups _)
    refine (hsorted.and hnodup).imp ?_
    rintro a b ⟨hab, hne⟩
    by_contra hlt
    exact hne (List.le_antisymm (precedes_iff_not_lt.1 hab) hlt)
  · exact List.Pairwise.nil

end FileTree

/-! ## Catalog directories -/

/-- A document of which a catalog can be merged: nothing, or a mapping in which the schemas are
absent, nothing or a list. -/
def Document.IsMergeable (d : Document) : Prop :=
  d.unrolled = .null ∨
    ∃ entries, d.entries? = some entries ∧
      ∀ v, Document.valueOf? "schemas" entries = some v →
        v.unrolled = .null ∨ ∃ items, v.unrolled = .list items

namespace Surroundings

variable {s : Surroundings} {p : Path} {names : List String} {d : Document}

/-- An entry is at some names from the directory at a path. -/
def HasEntry (s : Surroundings) (p : Path) (names : List String) (entry : Entry) : Prop :=
  ∃ place, s.files.directoryAt s.directory p = .ok place ∧ place.isPresent = true ∧
    s.files.get? (place.location ++ names) = some entry

/-- There is something with a YAML name at some names from the directory at a path. -/
def Lists (s : Surroundings) (p : Path) (names : List String) : Prop :=
  ∃ place, s.files.directoryAt s.directory p = .ok place ∧ place.isPresent = true ∧
    EndsAsYaml names ∧ (s.files.get? (place.location ++ names)).isSome = true

/-- A YAML file with a document is at some names from the directory at a path. -/
def Holds (s : Surroundings) (p : Path) (names : List String) (d : Document) : Prop :=
  s.Lists p names ∧ s.readYaml (below p names) = .ok d

/-- A directory in which everything with a YAML name is a file with a mergeable document. -/
structure IsCatalogDirectory (s : Surroundings) (p : Path) : Prop where
  isDirectory : ∃ place, s.files.directoryAt s.directory p = .ok place
  isFile : ∀ names, EndsAsYaml names → ¬s.HasEntry p names .directory
  isMergeable : ∀ names bytes, EndsAsYaml names → s.HasEntry p names (.file bytes) →
    ∃ d, Yaml.readBytes bytes = .ok d ∧ d.IsMergeable

/-- A path can lead to every directory below the one at a path. -/
def IsWithinReach (s : Surroundings) (p : Path) : Prop :=
  ∀ names, s.HasEntry p names .directory →
    Text.byteSize (below p names).text ≤ FileTree.pathLimit

/-- No directory and no YAML file below the directory at a path has a path that is too long. -/
structure Fits (s : Surroundings) (p : Path) : Prop where
  isWithinReach : s.IsWithinReach p
  files : ∀ names bytes, EndsAsYaml names → s.HasEntry p names (.file bytes) →
    Text.byteSize (below p names).text ≤ FileTree.pathLimit

/-- The YAML files of a directory with their documents, in the order of their names. -/
structure IsListing (s : Surroundings) (p : Path) (files : List (List String × Document)) :
    Prop where
  pairwise : files.Pairwise fun f g => f.1 < g.1
  mem_iff : ∀ names d, (names, d) ∈ files ↔ s.Holds p names d

/-- The names that a directory lists are its YAML names. -/
theorem lists_iff_mem_yamlNames {place : Place}
    (hplace : s.files.directoryAt s.directory p = .ok place) :
    s.Lists p names ↔ names ∈ s.files.yamlNames place := by
  rw [FileTree.mem_yamlNames_iff]
  constructor
  · rintro ⟨place', hplace', h⟩
    obtain rfl : place = place' := Except.ok.inj (hplace.symm.trans hplace')
    exact h
  · intro h
    exact ⟨place, hplace, h⟩

/-- A file has one document. -/
theorem Holds.unique {d e : Document} (hd : s.Holds p names d) (he : s.Holds p names e) :
    d = e :=
  Except.ok.inj (hd.2.symm.trans he.2)

/-- Two directories that hold the same documents have the same listing. -/
theorem IsListing.eq_of_holds_iff {t : Surroundings} {q : Path}
    {files files' : List (List String × Document)} (h : s.IsListing p files)
    (h' : t.IsListing q files') (hsame : ∀ names d, s.Holds p names d ↔ t.Holds q names d) :
    files = files' := by
  refine eq_of_pairwise_of_mem_iff Prod.fst h.pairwise h'.pairwise ?_
  rintro ⟨names, d⟩
  rw [h.mem_iff, h'.mem_iff, hsame]

/-- Where everything that is listed is a file with a document of some kind, the listing goes through
the YAML names. -/
theorem exists_isListing_of_holds {place : Place} {P : List String → Document → Prop}
    (hplace : s.files.directoryAt s.directory p = .ok place)
    (h : ∀ names, s.Lists p names → ∃ d, s.Holds p names d ∧ P names d) :
    ∃ files, s.IsListing p files ∧ files.map Prod.fst = s.files.yamlNames place ∧
      ∀ f ∈ files, P f.1 f.2 := by
  have hread : ∀ names, ∃ d, s.Lists p names → s.Holds p names d ∧ P names d := by
    intro names
    by_cases hlists : s.Lists p names
    · obtain ⟨d, hd⟩ := h names hlists
      exact ⟨d, fun _ => hd⟩
    · exact ⟨.null, fun hn => absurd hn hlists⟩
  choose document hdocument using hread
  refine ⟨(s.files.yamlNames place).map fun names => (names, document names), ⟨?_, ?_⟩, ?_, ?_⟩
  · exact List.pairwise_map.2 (s.files.pairwise_yamlNames place)
  · intro names d
    rw [List.mem_map]
    constructor
    · rintro ⟨names', hmem, heq⟩
      obtain ⟨rfl, rfl⟩ := Prod.mk.inj heq
      exact (hdocument names' ((lists_iff_mem_yamlNames hplace).2 hmem)).1
    · intro hd
      have hmem := (lists_iff_mem_yamlNames hplace).1 hd.1
      exact ⟨names, hmem, by rw [hd.unique (hdocument names hd.1).1]⟩
  · rw [List.map_map]
    exact List.map_id _
  · intro f hf
    obtain ⟨names, hmem, rfl⟩ := List.mem_map.1 hf
    exact (hdocument names ((lists_iff_mem_yamlNames hplace).2 hmem)).2

/-- The names that a directory within reach lists are its YAML names. -/
theorem listedFiles_of_isWithinReach {place : Place} (h : s.IsWithinReach p)
    (hplace : s.files.directoryAt s.directory p = .ok place) :
    s.listedFiles p place = .ok ((s.files.yamlNames place).map (below p)) := by
  unfold listedFiles
  dsimp only
  split
  · next names hfound =>
    obtain ⟨hpresent, -, hdirectory⟩ :=
      FileTree.mem_directoryNames_iff.1 (List.mem_of_find?_eq_some hfound)
    have hlong := List.find?_some hfound
    rw [decide_eq_true_iff] at hlong
    exact absurd (h names ⟨place, hplace, hpresent, hdirectory⟩) (Nat.not_le.2 hlong)
  · rfl

/-- Otherwise a directory whose path is too long cannot be listed. -/
theorem exists_listedFiles_eq_error {place : Place} (h : ¬s.IsWithinReach p)
    (hplace : s.files.directoryAt s.directory p = .ok place) :
    ∃ names, FileTree.pathLimit < Text.byteSize (below p names).text ∧
      s.listedFiles p place = .error (.unreadable .nameTooLong (below p names)) := by
  unfold listedFiles
  dsimp only
  split
  · next names hfound =>
    have hlong := List.find?_some hfound
    exact ⟨names, of_decide_eq_true hlong, rfl⟩
  · next hnone =>
    refine absurd (fun names hentry => ?_) h
    obtain ⟨place', hplace', hpresent, hget⟩ := hentry
    obtain rfl := Except.ok.inj (hplace.symm.trans hplace')
    by_cases hnames : names = []
    · -- the path to the directory itself has led there
      obtain ⟨hat, -⟩ := FileTree.directoryAt_eq_ok_iff.1 hplace
      have hbelow : below p names = p := by simp [below, hnames]
      rw [hbelow]
      exact (FileTree.placeAt_eq_ok_iff.1 hat).2.1
    · have hmem := FileTree.mem_directoryNames_iff.2 ⟨hpresent, hnames, hget⟩
      simpa using List.find?_eq_none.1 hnone names hmem

/-! ### Reading below a directory -/

/-- One entry is at some names. -/
theorem HasEntry.unique {entry entry' : Entry} (h : s.HasEntry p names entry)
    (h' : s.HasEntry p names entry') : entry = entry' := by
  obtain ⟨place, hplace, -, hget⟩ := h
  obtain ⟨place', hplace', -, hget'⟩ := h'
  obtain rfl := Except.ok.inj (hplace.symm.trans hplace')
  exact Option.some.inj (hget.symm.trans hget')

/-- What is listed has a YAML name and is there. -/
theorem lists_iff : s.Lists p names ↔ EndsAsYaml names ∧ ∃ entry, s.HasEntry p names entry := by
  constructor
  · rintro ⟨place, hplace, hpresent, hends, hsome⟩
    obtain ⟨entry, hentry⟩ := Option.isSome_iff_exists.1 hsome
    exact ⟨hends, entry, place, hplace, hpresent, hentry⟩
  · rintro ⟨hends, entry, place, hplace, hpresent, hentry⟩
    exact ⟨place, hplace, hpresent, hends, by rw [hentry]; rfl⟩

/-- The names of an entry are names that files can have. -/
theorem HasEntry.isFileName {entry : Entry} (hfiles : s.files.IsWellFormed)
    (h : s.HasEntry p names entry) : ∀ name ∈ names, FileTree.IsFileName name := by
  obtain ⟨place, -, -, hget⟩ := h
  intro name hname
  exact hfiles.isFileName_of_mem (by rw [hget]; rfl) name (List.mem_append_right _ hname)

/-- A directory that is there is a place without anything lost. -/
theorem eq_ofLocation {place : Place} (h : place.isPresent = true) :
    place = .ofLocation place.location := by
  obtain ⟨location, lost⟩ := place
  obtain rfl : lost = 0 := by simpa [Place.isPresent] using h
  rfl

/-- Names lead from the directory at a path to what is there, if the path is not too long. -/
theorem placeAt_below {place : Place} (hfiles : s.files.IsWellFormed)
    (hplace : s.files.directoryAt s.directory p = .ok place) (hpresent : place.isPresent = true)
    (hsome : (s.files.get? (place.location ++ names)).isSome = true) :
    s.files.placeAt s.directory (below p names) =
      if FileTree.pathLimit < Text.byteSize (below p names).text then .error .nameTooLong
      else .ok (.ofLocation (place.location ++ names)) := by
  obtain ⟨hat, hdirectory⟩ := FileTree.directoryAt_eq_ok_iff.1 hplace
  obtain ⟨husable, -, hwalk⟩ := FileTree.placeAt_eq_ok_iff.1 hat
  have hnames : ∀ name ∈ names, FileTree.IsFileName name := fun name hname =>
    hfiles.isFileName_of_mem hsome name (List.mem_append_right _ hname)
  have hbelow : (below p names).isUnusable = false := by
    have hnames' : (Path.ofLocation names).isUnusable = false :=
      FileTree.isUnusable_of_isPathName fun name hname => (hnames name hname).toIsPathName
    unfold Path.isUnusable at husable hnames' ⊢
    unfold below
    rw [List.any_append, husable, show names.any _ = false from hnames', Bool.or_self]
  -- the directory is where its location says, and from there the names lead on
  have hall : s.files.walk ((below p names).base s.directory)
      ((below p names).names.map Text.listed) = .ok (.ofLocation (place.location ++ names)) := by
    have hthere : s.files.walk (.ofLocation []) place.location = .ok place := by
      rw [FileTree.entryAtPlace?, if_pos hpresent] at hdirectory
      rw [hfiles.walk (by rw [hdirectory]; rfl), ← eq_ofLocation hpresent]
    have hlisted : (below p names).names.map Text.listed = p.names.map Text.listed ++ names := by
      rw [below, List.map_append, FileTree.map_listed_of_isFileName hnames]
    rw [hlisted, ← hfiles.walk hsome, FileTree.walk_append_of_eq_ok hthere]
    exact FileTree.walk_append_of_eq_ok hwalk
  unfold FileTree.placeAt
  rw [hbelow, hall, if_neg Bool.false_ne_true]

/-- The bytes at some names from the directory at a path, and why there are none. -/
theorem readFile_below {entry : Entry} (hfiles : s.files.IsWellFormed)
    (hentry : s.HasEntry p names entry) :
    s.readFile (below p names) =
      if FileTree.pathLimit < Text.byteSize (below p names).text then
        .error (.unreadable .nameTooLong (below p names))
      else match entry with
        | .file content => .ok content
        | .directory => .error (.unreadable .isDirectory (below p names)) := by
  obtain ⟨place, hplace, hpresent, hget⟩ := hentry
  unfold readFile FileTree.readFile FileTree.entryAt
  rw [placeAt_below hfiles hplace hpresent (by rw [hget]; rfl)]
  split_ifs
  · rfl
  · have hat : s.files.entryAtPlace? (.ofLocation (place.location ++ names)) = some entry := hget
    simp only [bind, Except.bind, hat]
    cases entry <;> rfl

/-- A document that a directory holds is spelled by the bytes of a file there. -/
theorem Holds.exists_bytes (hfiles : s.files.IsWellFormed) (h : s.Holds p names d) :
    EndsAsYaml names ∧
      ∃ bytes, s.HasEntry p names (.file bytes) ∧ Yaml.readBytes bytes = .ok d := by
  obtain ⟨hlists, hread⟩ := h
  obtain ⟨hends, entry, hentry⟩ := lists_iff.1 hlists
  unfold readYaml at hread
  rw [readFile_below hfiles hentry] at hread
  split_ifs at hread
  · exact nomatch hread
  · cases entry with
    | file bytes => exact ⟨hends, bytes, hentry, hread⟩
    | directory => exact nomatch hread

/-- The other way round, bytes are read if their path is not too long. -/
theorem holds_of_hasEntry {bytes : List UInt8} (hfiles : s.files.IsWellFormed)
    (hends : EndsAsYaml names) (hentry : s.HasEntry p names (.file bytes))
    (hfits : Text.byteSize (below p names).text ≤ FileTree.pathLimit)
    (hyaml : Yaml.readBytes bytes = .ok d) : s.Holds p names d := by
  refine ⟨lists_iff.2 ⟨hends, _, hentry⟩, ?_⟩
  unfold readYaml
  rw [readFile_below hfiles hentry, if_neg (Nat.not_lt.2 hfits)]
  exact hyaml

/-- A directory that can be listed and of which everything with a YAML name can be read and
merged. -/
structure IsReadable (s : Surroundings) (p : Path) : Prop where
  isDirectory : ∃ place, s.files.directoryAt s.directory p = .ok place
  isWithinReach : s.IsWithinReach p
  holds : ∀ names, s.Lists p names → ∃ d, s.Holds p names d ∧ d.IsMergeable

/-- A catalog directory that fits is one. -/
theorem IsCatalogDirectory.isReadable (hfiles : s.files.IsWellFormed)
    (h : s.IsCatalogDirectory p) (hfits : s.Fits p) : s.IsReadable p where
  isDirectory := h.isDirectory
  isWithinReach := hfits.isWithinReach
  holds names hlists := by
    obtain ⟨hends, entry, hentry⟩ := lists_iff.1 hlists
    cases entry with
    | directory => exact absurd hentry (h.isFile names hends)
    | file bytes =>
        obtain ⟨d, hyaml, hmergeable⟩ := h.isMergeable names bytes hends hentry
        have hshort := hfits.files names bytes hends hentry
        exact ⟨d, holds_of_hasEntry hfiles hends hentry hshort hyaml, hmergeable⟩

/-- The listing of such a directory goes through its YAML names. -/
theorem exists_isListing {place : Place} (h : s.IsReadable p)
    (hplace : s.files.directoryAt s.directory p = .ok place) :
    ∃ files, s.IsListing p files ∧ files.map Prod.fst = s.files.yamlNames place ∧
      ∀ f ∈ files, f.2.IsMergeable :=
  exists_isListing_of_holds hplace h.holds

end Surroundings

/-! ## Other files

Files with other names are neither listed nor on the way to one that is. -/

/-- Two trees that differ in files with other than YAML names only. -/
structure FileTree.SameYaml (t u : FileTree) : Prop where
  directory_iff : ∀ l, t.get? l = some .directory ↔ u.get? l = some .directory
  get?_eq : ∀ l, EndsAsYaml l → t.get? l = u.get? l

namespace FileTree.SameYaml

variable {t u : FileTree} {directory place : Place} {p : Path} {names : List String}

/-- The other way round. -/
theorem symm (h : t.SameYaml u) : u.SameYaml t :=
  ⟨fun l => (h.directory_iff l).symm, fun l hl => (h.get?_eq l hl).symm⟩

/-- Trees with the same entries in any order have the same files. -/
theorem of_perm {entries : List (Location × Entry)} (ht : (t.entries.map Prod.fst).Nodup)
    (h : entries.Perm t.entries) : t.SameYaml ⟨entries⟩ where
  directory_iff l := by rw [get?_of_perm h ht]
  get?_eq l _ := (get?_of_perm h ht l).symm

/-- A path leads to the same directory. -/
theorem directoryAt_eq (h : t.SameYaml u) (hplace : t.directoryAt directory p = .ok place) :
    u.directoryAt directory p = .ok place := by
  obtain ⟨hplace, hdir⟩ := directoryAt_eq_ok_iff.1 hplace
  obtain ⟨husable, hshort, hwalk⟩ := placeAt_eq_ok_iff.1 hplace
  have hdirs : ∀ l, t.get? l = some .directory → u.get? l = some .directory :=
    fun l => (h.directory_iff l).1
  have hdir' := entryAtPlace?_of_agrees hdirs hdir
  refine directoryAt_eq_ok_iff.2 ⟨placeAt_eq_ok_iff.2 ⟨husable, hshort, ?_⟩, hdir'⟩
  refine walk_of_agrees hdirs hwalk fun hpresent => ?_
  rw [entryAtPlace?, if_pos hpresent] at hdir'
  simp [hdir']

/-- A path with a YAML name that is listed as it is leads to the same file. -/
theorem readFile_eq (h : t.SameYaml u) {folder : List String} {name : String}
    (hnames : p.names = folder ++ [name]) (hyaml : isYamlName name = true)
    (hname : IsFileName name) {bytes : List UInt8}
    (hread : t.readFile directory p = .ok bytes) : u.readFile directory p = .ok bytes := by
  obtain ⟨place, hplace, hentry⟩ := entryAt_eq_ok_iff.1 (readFile_eq_ok_iff.1 hread)
  obtain ⟨husable, hshort, hwalk⟩ := placeAt_eq_ok_iff.1 hplace
  have hlisted : p.names.map Text.listed = folder.map Text.listed ++ [name] := by
    rw [hnames, List.map_append, List.map_singleton, hname.listed]
  rw [hlisted] at hwalk
  obtain ⟨r, -, hlast⟩ := walk_append.1 hwalk
  have hdown : AllLeadDown [name] := List.forall_mem_singleton.2 ⟨hname.isName, hname.ne_dots⟩
  obtain rfl := walk_of_allLeadDown hdown (List.cons_ne_nil _ _) hlast
  have hsame : t.get? (r.location ++ [name]) = u.get? (r.location ++ [name]) :=
    h.get?_eq _ ⟨r.location, name, rfl, hyaml⟩
  have hfound : t.get? (r.location ++ [name]) = some (.file bytes) := hentry
  have hwalk' := walk_of_agrees (fun l => (h.directory_iff l).1) hwalk
    fun _ => by rw [← hsame, hfound]; rfl
  rw [← hlisted] at hwalk'
  refine readFile_eq_ok_iff.2 (entryAt_eq_ok_iff.2
    ⟨_, placeAt_eq_ok_iff.2 ⟨husable, hshort, hwalk'⟩, ?_⟩)
  rw [← hentry]
  exact hsame.symm

end FileTree.SameYaml

/-- Bytes are read as YAML if they are a text and that is. -/
theorem Yaml.readBytes_eq_ok_iff {bytes : List UInt8} {d : Document} :
    readBytes bytes = .ok d ↔ ∃ text, Text.decodeUtf8 bytes = .ok text ∧
      read (Text.universalNewlines text) = .ok d := by
  unfold readBytes
  cases Text.decodeUtf8 bytes with
  | error fault => simp
  | ok text =>
      dsimp only
      cases hread : read (Text.universalNewlines text) with
      | error fault => simp [hread]
      | ok d => simp [hread]

/-- Otherwise they are no text, or it is no YAML. -/
theorem Yaml.readBytes_eq_error_iff {bytes : List UInt8} {e : LoadError} :
    readBytes bytes = .error e ↔
      (∃ fault, Text.decodeUtf8 bytes = .error fault ∧ e = .notUtf8 fault) ∨
        ∃ text fault, Text.decodeUtf8 bytes = .ok text ∧
          read (Text.universalNewlines text) = .error fault ∧
          e = .notYaml fault (Text.universalNewlines text) := by
  unfold readBytes
  cases Text.decodeUtf8 bytes with
  | error fault => simp [eq_comm]
  | ok text =>
      dsimp only
      cases hread : read (Text.universalNewlines text) with
      | error fault => simp [hread, eq_comm]
      | ok d => simp [hread]

namespace Surroundings

variable {s : Surroundings} {p : Path} {names : List String} {d : Document} {u : FileTree}

/-- A file is read if its bytes are and they are YAML. -/
theorem readYaml_eq_ok_iff :
    s.readYaml p = .ok d ↔
      ∃ bytes, s.files.readFile s.directory p = .ok bytes ∧ Yaml.readBytes bytes = .ok d := by
  unfold readYaml readFile
  rw [bind_eq_ok_iff]
  refine exists_congr fun bytes => and_congr_left' ?_
  cases s.files.readFile s.directory p with
  | error fault => simp
  | ok bytes => simp

/-- The same names are listed with a tree that differs in other files only. -/
theorem Lists.of_sameYaml (hsame : s.files.SameYaml u) (h : s.Lists p names) :
    { s with files := u }.Lists p names := by
  obtain ⟨place, hplace, hpresent, hends, hsome⟩ := h
  refine ⟨place, hsame.directoryAt_eq hplace, hpresent, hends, ?_⟩
  exact hsame.get?_eq _ (hends.append_left place.location) ▸ hsome

/-- What is held with one tree is held with another that differs in other files only. -/
theorem Holds.of_sameYaml (hsame : s.files.SameYaml u)
    (hnames : ∀ name ∈ names, FileTree.IsFileName name) (h : s.Holds p names d) :
    { s with files := u }.Holds p names d := by
  obtain ⟨hlists, hread⟩ := h
  obtain ⟨bytes, hbytes, hyaml⟩ := readYaml_eq_ok_iff.1 hread
  obtain ⟨⟨folder, name, rfl, hends⟩, -⟩ := lists_iff.1 hlists
  have hlast : (below p (folder ++ [name])).names = p.names ++ folder ++ [name] :=
    (List.append_assoc _ _ _).symm
  have hname : FileTree.IsFileName name := hnames name (by simp)
  exact ⟨hlists.of_sameYaml hsame,
    readYaml_eq_ok_iff.2 ⟨bytes, hsame.readFile_eq hlast hends hname hbytes, hyaml⟩⟩

/-- The same documents are held with trees that differ in other files only. -/
theorem holds_iff_of_sameYaml (hfiles : s.files.IsWellFormed) (hsame : s.files.SameYaml u) :
    { s with files := u }.Holds p names d ↔ s.Holds p names d := by
  constructor
  · intro h
    have hlists : s.Lists p names := h.1.of_sameYaml (s := { s with files := u }) hsame.symm
    obtain ⟨-, entry, hentry⟩ := lists_iff.1 hlists
    exact h.of_sameYaml (s := { s with files := u }) hsame.symm (hentry.isFileName hfiles)
  · intro h
    obtain ⟨-, entry, hentry⟩ := lists_iff.1 h.1
    exact h.of_sameYaml hsame (hentry.isFileName hfiles)

/-- A directory stays readable when other files change. -/
theorem IsReadable.of_sameYaml (hfiles : s.files.IsWellFormed) (hsame : s.files.SameYaml u)
    (h : s.IsReadable p) : { s with files := u }.IsReadable p where
  isDirectory := by
    obtain ⟨place, hplace⟩ := h.isDirectory
    exact ⟨place, hsame.directoryAt_eq hplace⟩
  isWithinReach := by
    rintro names ⟨place, hplace, hpresent, hget⟩
    have hplace' : s.files.directoryAt s.directory p = .ok place :=
      hsame.symm.directoryAt_eq hplace
    exact h.isWithinReach names ⟨place, hplace', hpresent, (hsame.directory_iff _).2 hget⟩
  holds := by
    intro names hlists
    have hlists' : s.Lists p names := hlists.of_sameYaml (s := { s with files := u }) hsame.symm
    obtain ⟨d, hd, hmergeable⟩ := h.holds names hlists'
    exact ⟨d, (holds_iff_of_sameYaml hfiles hsame).2 hd, hmergeable⟩

end Surroundings

/-! ## Other directories

The directory itself may be anywhere, as long as the paths to its files can still be used. -/

namespace Surroundings

variable {s t : Surroundings} {p q : Path} {names : List String} {d : Document}

/-- The directory at a path has the same YAML files as another one elsewhere. -/
def SameYamlBelow (s : Surroundings) (p : Path) (t : Surroundings) (q : Path) : Prop :=
  ∃ place place', s.files.directoryAt s.directory p = .ok place ∧
    t.files.directoryAt t.directory q = .ok place' ∧ place.isPresent = place'.isPresent ∧
    ∀ names, EndsAsYaml names →
      s.files.get? (place.location ++ names) = t.files.get? (place'.location ++ names)

/-- Directories with the same YAML files have the same entries under YAML names. -/
theorem SameYamlBelow.hasEntry_iff {entry : Entry} (h : s.SameYamlBelow p t q)
    (hends : EndsAsYaml names) : s.HasEntry p names entry ↔ t.HasEntry q names entry := by
  obtain ⟨place, place', hplace, hplace', hpresent, hget⟩ := h
  constructor
  · rintro ⟨r, hr, hp, hentry⟩
    obtain rfl : place = r := Except.ok.inj (hplace.symm.trans hr)
    exact ⟨place', hplace', hpresent ▸ hp, hget names hends ▸ hentry⟩
  · rintro ⟨r, hr, hp, hentry⟩
    obtain rfl : place' = r := Except.ok.inj (hplace'.symm.trans hr)
    exact ⟨place, hplace, hpresent ▸ hp, (hget names hends).trans hentry⟩

/-- So the one is a catalog directory if the other is. -/
theorem IsCatalogDirectory.of_sameYamlBelow (h : s.IsCatalogDirectory p)
    (hsame : s.SameYamlBelow p t q) : t.IsCatalogDirectory q where
  isDirectory := by
    obtain ⟨-, place', -, hplace', -⟩ := hsame
    exact ⟨place', hplace'⟩
  isFile names hends hentry := h.isFile names hends ((hsame.hasEntry_iff hends).2 hentry)
  isMergeable names bytes hends hentry :=
    h.isMergeable names bytes hends ((hsame.hasEntry_iff hends).2 hentry)

/-- Directories that fit and have the same YAML files hold the same documents. -/
theorem holds_iff_of_sameYamlBelow (hs : s.files.IsWellFormed) (ht : t.files.IsWellFormed)
    (hfits : s.Fits p) (hfits' : t.Fits q) (hsame : s.SameYamlBelow p t q) :
    s.Holds p names d ↔ t.Holds q names d := by
  constructor
  · intro h
    obtain ⟨hends, bytes, hentry, hyaml⟩ := h.exists_bytes hs
    have hentry' := (hsame.hasEntry_iff hends).1 hentry
    exact holds_of_hasEntry ht hends hentry' (hfits'.files names bytes hends hentry') hyaml
  · intro h
    obtain ⟨hends, bytes, hentry, hyaml⟩ := h.exists_bytes ht
    have hentry' := (hsame.hasEntry_iff hends).2 hentry
    exact holds_of_hasEntry hs hends hentry' (hfits.files names bytes hends hentry') hyaml

end Surroundings

end ColumnTypes
