import ColumnTypes.Proofs.Config.Anywhere

/-!
# What the search for a configuration comes to

The search climbs from a directory to the one above it until that is the same, the root
(`Surroundings.climb`), and asks for the four names of configuration files in each.  It can start at
any path that the system takes, also one that leads to nothing, and then from the location that the
path gives by its names.

Main statement (`Surroundings.search_eq_iff`): the search comes to the file that is the nearest
configuration, or to nothing exactly if there is none, or to an error; and an error is only that the
system refuses a path for its length before a file has been found.  Directories that are named like
configuration files are passed over.
-/

namespace ColumnTypes.Surroundings

open FileTree

variable {s : Surroundings} {start : Option String}

/-! ## Climbing -/

/-- The search from a folder: where none of the names is a file there, it goes on from the folder
above, unless that is the folder itself. -/
def climb (s : Surroundings) (folder : Location) : Except LoadError (Option Location) :=
  match s.firstFile? folder Config.fileNames with
  | .ok none => if _h : folder.dropLast = folder then .ok none else s.climb folder.dropLast
  | found => found
termination_by folder.length
decreasing_by
  have hne : folder ≠ [] := by
    rintro rfl
    exact _h rfl
  have := List.length_pos_iff.2 hne
  rw [List.length_dropLast]
  omega

/-- Climbing goes through the folders on the way up. -/
theorem climb_eq_firstConfig? (folder : Location) :
    s.climb folder = s.firstConfig? (upward folder) := by
  induction folder using List.reverseRec with
  | nil =>
      rw [climb]
      show _ = s.firstConfig? [[]]
      rw [firstConfig?, firstConfig?]
      rcases s.firstFile? [] Config.fileNames with e | _ | found <;> rfl
  | append_singleton folder name ih =>
      have hparent : (folder ++ [name]).dropLast ≠ folder ++ [name] := by simp
      rw [climb]
      rcases hseen : s.firstFile? (folder ++ [name]) Config.fileNames with e | _ | found <;>
        simp only [upward_append_singleton, firstConfig?, hseen]
      rw [dif_neg hparent, List.dropLast_concat, ih]

/-! ## Starts -/

/-- The search from a directory, which is given as a text or is the working directory. -/
def search (s : Surroundings) : Option String → Except LoadError (Option Location)
  | some text => s.findConfig (Path.ofText text)
  | none => s.nearestConfig

/-- The location that a search starts from. -/
def startLocation (s : Surroundings) : Option String → Location
  | some text => (Path.ofText text).locate s.directory
  | none => s.directory.location

/-- A start that the system takes: a path without NULs and without surrogates that stand for no
byte, which need not lead anywhere.  Only an absolute path can be one from a working directory that
has been removed. -/
structure CanStart (s : Surroundings) (start : Option String) : Prop where
  usable : ∀ text ∈ start, (Path.ofText text).isUnusable = false
  located : s.directory.isPresent = true ∨
    ∃ text ∈ start, (Path.ofText text).isAbsolute = true
  isDirectory : s.directory.isPresent = true →
    s.files.isDirectoryAt s.directory.location = true

/-- From such a start, the search goes through the folders on the way up. -/
theorem search_eq_firstConfig? (h : s.CanStart start) :
    s.search start = s.firstConfig? (upward (s.startLocation start)) := by
  obtain ⟨husable, hlocated, -⟩ := h
  cases start with
  | none =>
      have hpresent : s.directory.isPresent = true := by simpa using hlocated
      rw [search, nearestConfig, if_pos hpresent]
      rfl
  | some text =>
      have husable' : (Path.ofText text).isUnusable = false := husable text rfl
      have hlocated' : ((Path.ofText text).isAbsolute || s.directory.isPresent) = true := by
        simpa [or_comm] using hlocated
      rw [search, findConfig, husable', if_neg (by simp), locate, if_pos hlocated']
      rfl

/-- The names of its location can stand in a path. -/
theorem isPathName_of_mem_startLocation (ht : s.files.IsWellFormed) (h : s.CanStart start) :
    ∀ name ∈ s.startLocation start, IsPathName name := by
  obtain ⟨husable, hlocated, hisDirectory⟩ := h
  have hworking : s.directory.isPresent = true →
      ∀ name ∈ s.directory.location, IsPathName name := by
    intro hpresent name hmem
    have hsome : (s.files.get? s.directory.location).isSome = true := by
      rw [isDirectoryAt_iff.1 (hisDirectory hpresent)]
      rfl
    exact (ht.isFileName_of_mem hsome name hmem).toIsPathName
  cases start with
  | none => exact hworking (by simpa using hlocated)
  | some text =>
      apply isPathName_of_mem_locate
      · unfold Path.base
        by_cases habsolute : (Path.ofText text).isAbsolute = true
        · rw [if_pos habsolute]
          exact fun _ hmem => nomatch hmem
        · rw [if_neg habsolute]
          exact hworking (by simpa [habsolute] using hlocated)
      · exact fun name hmem => (Path.isProper_of_mem_ofText hmem).isName
      · exact husable text rfl

/-- **What a search comes to.**  From a start that the system takes, a search climbs up to the root,
and with the location of the start,

* it finds exactly the file that is the nearest configuration, if no path that it asks for until
  then is refused;
* it finds nothing exactly if no file at or above the location is a configuration and no path that
  it asks for is refused;
* it fails exactly if a path is refused before a file has been found, with the first such path.

It never finds a directory, whatever its name is.  The names of the start may be spelled otherwise
than the system lists them: a file is where the system finds one. -/
theorem search_eq_iff {t : FileTree} {directory : Place} {debug : Option String} {width : Nat}
    (ht : t.IsWellFormed) (hstart : CanStart ⟨t, directory, debug, width⟩ start) :
    let s : Surroundings := ⟨t, directory, debug, width⟩
    let l := s.startLocation start
    s.search start = s.climb l ∧
      (∀ found, s.search start = .ok (some found) ↔
        ∃ folder name, found = folder ++ [name] ∧ IsNearest t l folder name ∧
          ∀ m, m = found ∨ LooksBefore l folder name m → ¬t.Refuses m) ∧
      (s.search start = .ok none ↔
        ∀ folder name, folder <+: l → name ∈ Config.fileNames →
          t.findsFile (folder ++ [name]) = false ∧ ¬t.Refuses (folder ++ [name])) ∧
      (∀ e, s.search start = .error e ↔
        ∃ folder name, folder <+: l ∧ name ∈ Config.fileNames ∧
          (∀ m, LooksBefore l folder name m → t.findsFile m = false ∧ ¬t.Refuses m) ∧
          t.Refuses (folder ++ [name]) ∧
          e = .unreadable .nameTooLong (Path.ofLocation (folder ++ [name]))) ∧
      ∀ found, t.found? found = some .directory → s.search start ≠ .ok (some found) := by
  intro s l
  have hl : ∀ name ∈ l, IsPathName name := isPathName_of_mem_startLocation (s := s) ht hstart
  have hsearch : s.search start = s.firstConfig? (upward l) := search_eq_firstConfig? hstart
  have hfound : ∀ found, s.firstConfig? (upward l) = .ok (some found) ↔ _ :=
    fun _ => firstConfig?_eq_some_iff ht hl
  rw [hsearch]
  refine ⟨(climb_eq_firstConfig? l).symm, hfound, firstConfig?_eq_none_iff ht hl, ?_, ?_⟩
  · intro e
    exact firstConfig?_eq_error_iff ht hl
  · intro found hdirectory h
    obtain ⟨folder, name, rfl, hnearest, -⟩ := (hfound found).1 h
    have hfile := hnearest.isFile
    rw [findsFile, isFileAt, ← found?, hdirectory] at hfile
    exact Bool.false_ne_true hfile

/-- A project with two configurations in a directory, and below it a directory that is named like
one. -/
def posingTree : FileTree :=
  ⟨[(["p"], .directory), (["p", ".pgcodegen.yml"], .file []), (["p", "pgcodegen.yaml"], .file []),
    (["p", "q"], .directory), (["p", "q", "pgcodegen.yml"], .directory)]⟩

/-- The project, seen from its directory. -/
def posingProject : Surroundings :=
  { files := posingTree, directory := .ofLocation ["p"], debugVariable := none }

/-- A search can start in it at a path that leads to nothing. -/
theorem canStart_posingProject : posingProject.CanStart (some "q/gone/../x") where
  usable := by decide
  located := .inl rfl
  isDirectory _ := by decide

/-- From there the search passes over the directory, and finds the preferred one of the two
configurations above. -/
theorem search_posingProject :
    posingTree.IsWellFormed ∧ posingProject.CanStart (some "q/gone/../x") ∧
      posingProject.startLocation (some "q/gone/../x") = ["p", "q", "x"] ∧
      posingProject.search (some "q/gone/../x") = .ok (some ["p", "pgcodegen.yaml"]) := by
  have ht : posingTree.IsWellFormed := by decide
  have hl : posingProject.startLocation (some "q/gone/../x") = ["p", "q", "x"] := by decide
  obtain ⟨-, hfound, -⟩ := search_eq_iff ht canStart_posingProject
  refine ⟨ht, canStart_posingProject, hl, (hfound _).2 ⟨["p"], "pgcodegen.yaml", rfl, ?_, ?_⟩⟩
  · refine ⟨by decide, by decide, by decide, fun m hm => ?_⟩
    have hnofile : ∀ m ∈ (lookedAt ["p", "q", "x"]).takeWhile (· != ["p", "pgcodegen.yaml"]),
        posingTree.findsFile m = false := by
      decide
    exact hnofile m ((looksBefore_iff (by decide) (by decide)).1 hm)
  · intro m hm
    have hshort : ∀ m ∈ lookedAt ["p", "q", "x"],
        (∀ name ∈ m, Text.byteSize name ≤ nameLimit) ∧
          Text.byteSize (Path.ofLocation m).text ≤ pathLimit := by
      decide
    have hasked : m ∈ lookedAt ["p", "q", "x"] := by
      rcases hm with rfl | hm
      · decide
      · exact (List.takeWhile_sublist _).subset ((looksBefore_iff (by decide) (by decide)).1 hm)
    exact not_refuses_of_short (hshort m hasked).1 (hshort m hasked).2

/-! ## Starts from which the search fails -/

/-- A tree with a configuration at the root. -/
def rootTree : FileTree := ⟨[(["pgcodegen.yml"], .file [])]⟩

/-- The configuration at the root is the nearest one to a location that is not there. -/
theorem isNearest_rootTree (name : String) : IsNearest rootTree [name] [] "pgcodegen.yml" where
  above := List.nil_prefix
  named := .head _
  isFile := rfl
  first l h := by
    cases h with
    | preferred earlier => exact nomatch earlier
    | @nearer closer other _ _ ne _ =>
        have hne : (closer ++ [other]).map Text.listed ≠ ["pgcodegen.yml"] := by
          cases closer with
          | nil => exact absurd rfl ne
          | cons first rest => simp
        unfold findsFile isFileAt
        cases hget : rootTree.get? ((closer ++ [other]).map Text.listed) with
        | none => rfl
        | some entry =>
            have hmem := mem_entries_of_get? (by simp) hget
            exact absurd (Prod.mk.inj (List.mem_singleton.1 hmem)).1 hne

/-- The tree, seen from the root. -/
def rootProject : Surroundings :=
  { files := rootTree, directory := .ofLocation [], debugVariable := none }

/-- A long name is no directory, so it leads from the root to a location that is not there. -/
theorem ofText_nameOfLength (n : Nat) (hlow : 2 < n) :
    Path.ofText (nameOfLength n) = ⟨.relative, [nameOfLength n]⟩ := by
  have hproper : ∀ name ∈ [nameOfLength n], Path.IsProper name := by
    intro name hname
    obtain rfl := List.mem_singleton.1 hname
    exact ⟨(isPathName_nameOfLength hlow).isName, no_slash_nameOfLength n⟩
  apply Path.ofText_append hproper
  simp [Path.joined, Start.text]

/-- A relative path of one name leads into the directory that it is seen from. -/
theorem locate_of_ne_dots {name : String} (h : name ≠ "..") (directory : Place) :
    Path.locate ⟨.relative, [name]⟩ directory = directory.location ++ [name] := by
  simp [Path.locate, Path.follow, Path.base, Path.isAbsolute, h]

/-- The search does not come to the file that is the nearest configuration. -/
def Misses (s : Surroundings) (start : Option String) : Prop :=
  ∃ folder name, IsNearest s.files (s.startLocation start) folder name ∧
    s.search start ≠ .ok (some (folder ++ [name]))

/-- **A search can miss the nearest configuration.**  It does from a name that no directory can
have, and also from a directory that is there but has a long path.  It does so from texts that are
no paths, too, and from a working directory that has been removed. -/
theorem search_misses_nearest :
    (rootTree.IsWellFormed ∧ deepTree.IsWellFormed) ∧
      (rootProject.CanStart (some (nameOfLength 256)) ∧
        rootProject.Misses (some (nameOfLength 256))) ∧
      ((deepProject (.ofLocation deepDirectory)).CanStart none ∧
        (deepProject (.ofLocation deepDirectory)).Misses none) ∧
      (rootProject.Misses (some "\x00") ∧
        rootProject.Misses (some (Text.ofCodes [0xD800]))) ∧
      Misses { rootProject with directory := ⟨["gone"], 1⟩ } none := by
  have hpath := ofText_nameOfLength 256 (by decide)
  have hname : IsPathName (nameOfLength 256) := isPathName_nameOfLength (by decide)
  have hnames : ∀ name ∈ [nameOfLength 256], IsPathName name := by simpa using hname
  have hroot : rootTree.IsWellFormed := by decide
  have hstart : rootProject.CanStart (some (nameOfLength 256)) := by
    refine ⟨?_, .inl rfl, fun _ => by decide⟩
    intro text htext
    obtain rfl := Option.some.inj htext
    rw [hpath]
    exact isUnusable_of_isPathName hnames
  have hlocation : rootProject.startLocation (some (nameOfLength 256)) = [nameOfLength 256] := by
    rw [startLocation, hpath]
    exact locate_of_ne_dots hname.ne_dots (.ofLocation [])
  have hdeep : (deepProject (.ofLocation deepDirectory)).CanStart none :=
    ⟨nofun, .inl rfl, fun _ => isDirectoryAt_iff.2 (get?_deepTree (Nat.le_refl 19))⟩
  refine ⟨⟨hroot, isWellFormed_deepTree⟩, ⟨hstart, [], "pgcodegen.yml", ?_, ?_⟩,
    ⟨hdeep, [], "pgcodegen.yml", isNearest_deepTree, ?_⟩,
    ⟨⟨[], "pgcodegen.yml", isNearest_rootTree "\x00", ?_⟩,
      ⟨[], "pgcodegen.yml", isNearest_rootTree (Text.ofCodes [0xD800]), ?_⟩⟩,
    ⟨[], "pgcodegen.yml", isNearest_rootTree "gone", ?_⟩⟩
  · rw [hlocation]
    exact isNearest_rootTree _
  · have hlong : nameLimit < Text.byteSize (nameOfLength 256) := by
      rw [byteSize_nameOfLength]
      decide
    have hdirectory : rootTree.found? [] = some .directory := rfl
    have hrefused : rootTree.Refuses ([nameOfLength 256] ++ ["pgcodegen.yml"]) :=
      .longName hdirectory ⟨["pgcodegen.yml"], rfl⟩ hlong
    rw [search_eq_firstConfig? hstart, hlocation, firstConfig?_of_refuses hroot hnames hrefused]
    exact fun h => nomatch h
  · rw [search_eq_firstConfig? hdeep, firstConfig?_of_refuses isWellFormed_deepTree
      (isPathName_of_mem_startLocation isWellFormed_deepTree hdeep)
      (.longPath pathLimit_lt_deepDirectory)]
    exact fun h => nomatch h
  · intro h
    exact nomatch h
  · intro h
    exact nomatch h
  · intro h
    exact nomatch h

end ColumnTypes.Surroundings
