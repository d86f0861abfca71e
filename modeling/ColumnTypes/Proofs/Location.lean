import ColumnTypes.Proofs.FileTree
import ColumnTypes.Proofs.Text.SystemNames
import Mathlib.Data.List.Induction

/-!
# Locations in well-formed file trees

In a well-formed tree everything is in a directory, under a name that a file can have, in the
spelling in which the system lists it.  So the path to a location leads there, from every working
directory, unless it is too long (`FileTree.IsWellFormed.placeAt_ofLocation`).  The path to any
location, also to one that is not there or is spelled in another way, comes to what the system finds
there (`FileTree.found?`) or, if the system refuses it (`FileTree.Refuses`), to an error
(`FileTree.IsWellFormed.entryAt?_of_not_refuses`, `FileTree.IsWellFormed.entryAt?_of_refuses`).

In every tree, a path that leads to a place by way of listed names leads to where its names say
(`FileTree.locate_eq_of_placeAt`), so the system and the text of a path agree on the location of
what is there.
-/

namespace ColumnTypes

deriving instance DecidableEq for Place

namespace FileTree

/-- A name that can stand in a path and that leads down, but that may be too long. -/
structure IsPathName (name : String) : Prop where
  isName : Path.isName name = true
  ne_dots : name ≠ ".."
  usable : Path.isUnusableText name = false

/-- A name that a file can have, as the system lists it. -/
structure IsFileName (name : String) : Prop extends IsPathName name where
  no_slash : '/' ∉ name.toList
  short : Text.byteSize name ≤ nameLimit
  listed : Text.listed name = name

instance (name : String) : Decidable (IsFileName name) :=
  decidable_of_iff (Path.isName name = true ∧ name ≠ ".." ∧ Path.isUnusableText name = false ∧
      '/' ∉ name.toList ∧ Text.byteSize name ≤ nameLimit ∧ Text.listed name = name)
    ⟨fun ⟨hname, hdots, husable, hslash, hshort, hlisted⟩ =>
        ⟨⟨hname, hdots, husable⟩, hslash, hshort, hlisted⟩,
      fun ⟨⟨hname, hdots, husable⟩, hslash, hshort, hlisted⟩ =>
        ⟨hname, hdots, husable, hslash, hshort, hlisted⟩⟩

/-- A tree in which everything is in a directory, under a name that a file can have. -/
def IsWellFormed (t : FileTree) : Prop :=
  ∀ e ∈ t.entries, t.get? e.1.dropLast = some .directory ∧ ∀ name ∈ e.1.getLast?, IsFileName name

instance (t : FileTree) : Decidable t.IsWellFormed :=
  inferInstanceAs (Decidable (∀ e ∈ t.entries, _ ∧ _))

variable {t : FileTree} {l : Location} {name : String} {names : List String}
  {directory : Place} {p : Path}

/-- Names that can stand in a path make one that the system takes. -/
theorem isUnusable_of_isPathName (h : ∀ name ∈ l, IsPathName name) :
    (Path.ofLocation l).isUnusable = false := by
  apply List.any_eq_false.2
  intro name hmem
  simpa using (h name hmem).usable

/-- No surrogate in such a name stands for nothing. -/
theorem IsPathName.isUnencodable (h : IsPathName name) :
    ∀ n ∈ Text.codes name, Text.isUnencodable n = false := by
  intro n hn
  have hcode := List.any_eq_false.1 h.usable n hn
  simp only [Bool.or_eq_true, not_or] at hcode
  exact Bool.eq_false_iff.2 hcode.2

/-- Such names lead down, also as they are listed. -/
theorem allLeadDown_of_isPathName (h : ∀ name ∈ l, IsPathName name) :
    AllLeadDown (l.map Text.listed) := by
  refine List.forall_mem_map.2 fun name hmem => ?_
  obtain ⟨hname, hdots, -⟩ := h name hmem
  have hempty : name ≠ "" ∧ name ≠ "." := by simpa [Path.isName] using hname
  have hlisted : Text.listed name ≠ "" ∧ Text.listed name ≠ "." :=
    ⟨Text.listed_ne_of_ascii (by decide) hempty.1, Text.listed_ne_of_ascii (by decide) hempty.2⟩
  exact ⟨by simpa [Path.isName] using hlisted, Text.listed_ne_of_ascii (by decide) hdots⟩

/-- Names of files are listed as they are. -/
theorem map_listed_of_isFileName (h : ∀ name ∈ l, IsFileName name) : l.map Text.listed = l := by
  have hsame : ∀ name ∈ l, Text.listed name = id name := fun name hmem => (h name hmem).listed
  rw [List.map_congr_left hsame, List.map_id]

/-- What is below the root is in a directory, under a name that a file can have. -/
theorem IsWellFormed.of_isSome (ht : t.IsWellFormed) (h : (t.get? (l ++ [name])).isSome = true) :
    t.get? l = some .directory ∧ IsFileName name := by
  obtain ⟨entry, hentry⟩ := (isSome_get?_iff (by simp)).1 h
  obtain ⟨hdirectory, hname⟩ := ht _ hentry
  rw [List.dropLast_concat] at hdirectory
  exact ⟨hdirectory, hname name List.getLast?_concat⟩

/-- The names on the way to something are names that files can have. -/
theorem IsWellFormed.isFileName_of_mem (ht : t.IsWellFormed) (h : (t.get? l).isSome = true) :
    ∀ name ∈ l, IsFileName name := by
  induction l using List.reverseRec with
  | nil => exact fun _ hmem => nomatch hmem
  | append_singleton l last ih =>
      obtain ⟨hdirectory, hlast⟩ := ht.of_isSome h
      intro name hmem
      rcases List.mem_append.1 hmem with hmem | hmem
      · exact ih (by rw [hdirectory]; rfl) name hmem
      · exact List.mem_singleton.1 hmem ▸ hlast

/-- So are the names on the way to something. -/
theorem IsWellFormed.map_listed (ht : t.IsWellFormed) (h : (t.get? l).isSome = true) :
    l.map Text.listed = l :=
  map_listed_of_isFileName (ht.isFileName_of_mem h)

/-! ## Walking from the root -/

/-- From the root, the names on the way to something lead there. -/
theorem IsWellFormed.walk (ht : t.IsWellFormed) (h : (t.get? l).isSome = true) :
    t.walk (.ofLocation []) l = .ok (.ofLocation l) := by
  induction l using List.reverseRec with
  | nil => rfl
  | append_singleton l last ih =>
      obtain ⟨hdirectory, hlast⟩ := ht.of_isSome h
      have hl : t.walk (.ofLocation []) l = .ok (.ofLocation l) := ih (by rw [hdirectory]; rfl)
      refine walk_append.2 ⟨_, hl, walk_cons_eq_ok_iff.2 ⟨.ofLocation (l ++ [last]), ?_, rfl⟩⟩
      exact .down hdirectory hlast.isName hlast.short hlast.ne_dots rfl h

/-- **The path to what is there** leads there, from every working directory. -/
theorem IsWellFormed.placeAt_ofLocation (ht : t.IsWellFormed) (h : (t.get? l).isSome = true)
    (hfits : Text.byteSize (Path.ofLocation l).text ≤ pathLimit) :
    t.placeAt directory (.ofLocation l) = .ok (.ofLocation l) := by
  have hwalk : t.walk (.ofLocation []) (l.map Text.listed) = .ok (.ofLocation l) := by
    rw [ht.map_listed h]
    exact ht.walk h
  exact placeAt_eq_ok_iff.2 ⟨isUnusable_of_isPathName fun name hmem =>
    (ht.isFileName_of_mem h name hmem).toIsPathName, hfits, hwalk⟩

/-! ## What the system finds -/

/-- What the system finds at a location, however its names are spelled. -/
def found? (t : FileTree) (l : Location) : Option Entry :=
  t.get? (l.map Text.listed)

/-- Whether it finds a file there. -/
def findsFile (t : FileTree) (l : Location) : Bool :=
  t.isFileAt (l.map Text.listed)

/-- Files are found where they are. -/
theorem findsFile_of_isFileName (h : ∀ name ∈ l, IsFileName name) :
    t.findsFile l = t.isFileAt l := by
  rw [findsFile, map_listed_of_isFileName h]

/-- The system refuses the path to a location: it is too long, or in a directory that is there it
asks for a name that is too long. -/
inductive Refuses (t : FileTree) (l : Location) : Prop
  | longPath (long : pathLimit < Text.byteSize (Path.ofLocation l).text) : Refuses t l
  | longName {folder : Location} {name : String} (directory : t.found? folder = some .directory)
      (onTheWay : folder ++ [name] <+: l) (long : nameLimit < Text.byteSize name) : Refuses t l

/-- No path with short names is refused, unless it is too long altogether. -/
theorem not_refuses_of_short (hnames : ∀ name ∈ l, Text.byteSize name ≤ nameLimit)
    (hfits : Text.byteSize (Path.ofLocation l).text ≤ pathLimit) : ¬t.Refuses l := by
  intro h
  cases h with
  | longPath long => omega
  | @longName folder name _ onTheWay long =>
      have hshort := hnames name (onTheWay.subset (by simp))
      omega

/-- At the place of a location is what the location has. -/
theorem entryAtPlace?_ofLocation (t : FileTree) (l : Location) :
    t.entryAtPlace? (.ofLocation l) = t.get? l :=
  rfl

/-- There is a directory where there is one. -/
theorem isDirectoryAt_iff : t.isDirectoryAt l = true ↔ t.get? l = some .directory := by
  rw [isDirectoryAt, beq_iff_eq]

/-- A name that is too long ends a walk that has come to a directory. -/
theorem walk_of_longName {rest : List String} (hdirectory : t.get? l = some .directory)
    (hname : Path.isName name = true) (hlong : nameLimit < Text.byteSize name) :
    t.walk (.ofLocation l) (name :: rest) = .error .nameTooLong := by
  rw [FileTree.walk, entryAtPlace?_ofLocation, hdirectory, hname]
  simp [hlong]

/-- Only such a name ends a walk for the length of a name. -/
theorem exists_longName_of_walk (hnames : AllLeadDown names)
    (h : t.walk (.ofLocation l) names = .error .nameTooLong) :
    ∃ front name, front ++ [name] <+: names ∧ t.isDirectoryAt (l ++ front) = true ∧
      nameLimit < Text.byteSize name := by
  induction names generalizing l with
  | nil => cases h
  | cons name rest ih =>
      obtain ⟨hname, hdots⟩ := hnames name List.mem_cons_self
      rw [FileTree.walk, entryAtPlace?_ofLocation, hname] at h
      by_cases hdirectory : t.isDirectoryAt l = true
      · by_cases hlong : nameLimit < Text.byteSize name
        · exact ⟨[], name, by simp, by simpa using hdirectory, hlong⟩
        · rw [isDirectoryAt_iff.1 hdirectory, if_neg (by simp), if_neg (by simp), if_neg hlong,
            if_neg hdots] at h
          split at h
          · have hrest : AllLeadDown rest :=
              fun name hmem => hnames name (List.mem_cons_of_mem _ hmem)
            obtain ⟨front, last, hfront, hlast, hlong'⟩ := ih (l := l ++ [name]) hrest h
            refine ⟨name :: front, last, ?_, ?_, hlong'⟩
            · simpa using hfront
            · simpa using hlast
          · cases h
      · have hplace : (t.get? l != some .directory) = true := by
          simpa [isDirectoryAt_iff] using hdirectory
        rw [if_pos hplace] at h
        cases h

/-- The place of a path that is not too long is where the walk through its names ends. -/
theorem placeAt_ofLocation_of_fits (hl : ∀ name ∈ l, IsPathName name)
    (hfits : ¬pathLimit < Text.byteSize (Path.ofLocation l).text) :
    t.placeAt directory (.ofLocation l) = t.walk (.ofLocation []) (l.map Text.listed) := by
  have husable := isUnusable_of_isPathName hl
  rw [placeAt, husable, if_neg (by simp), if_neg hfits]
  rfl

/-- A path that is too long has none. -/
theorem placeAt_ofLocation_of_long (hl : ∀ name ∈ l, IsPathName name)
    (hlong : pathLimit < Text.byteSize (Path.ofLocation l).text) :
    t.placeAt directory (.ofLocation l) = .error .nameTooLong := by
  have husable := isUnusable_of_isPathName hl
  rw [placeAt, husable, if_neg (by simp), if_pos hlong]

/-- A path without a place because something is too long is an error. -/
theorem entryAt?_of_placeAt (h : t.placeAt directory p = .error .nameTooLong) :
    t.entryAt? directory p = .error .nameTooLong := by
  unfold entryAt? entryAt
  rw [h]
  rfl

/-- **The path to a location that is refused** is an error. -/
theorem IsWellFormed.entryAt?_of_refuses (ht : t.IsWellFormed)
    (hl : ∀ name ∈ l, IsPathName name) (h : t.Refuses l) :
    t.entryAt? directory (.ofLocation l) = .error .nameTooLong := by
  apply entryAt?_of_placeAt
  by_cases hpath : pathLimit < Text.byteSize (Path.ofLocation l).text
  · exact placeAt_ofLocation_of_long hl hpath
  · cases h with
    | longPath long => exact absurd long hpath
    | @longName folder name hdirectory onTheWay long =>
        obtain ⟨rest, rfl⟩ := onTheWay
        have hfolder : t.walk (.ofLocation []) (folder.map Text.listed) =
            .ok (.ofLocation (folder.map Text.listed)) := by
          apply ht.walk
          rw [← found?, hdirectory]
          rfl
        have hname : IsPathName name := hl name (by simp)
        have hdown : AllLeadDown ([name].map Text.listed) :=
          allLeadDown_of_isPathName (List.forall_mem_singleton.2 hname)
        rw [← Text.byteSize_listed hname.isUnencodable] at long
        rw [placeAt_ofLocation_of_fits hl hpath, List.append_assoc, List.map_append,
          walk_append_of_eq_ok hfolder]
        exact walk_of_longName hdirectory (hdown _ (.head _)).1 long

/-- Only such a path is an error. -/
theorem refuses_of_entryAt (hl : ∀ name ∈ l, IsPathName name)
    (h : t.entryAt directory (.ofLocation l) = .error .nameTooLong) : t.Refuses l := by
  by_cases hpath : pathLimit < Text.byteSize (Path.ofLocation l).text
  · exact .longPath hpath
  · unfold entryAt at h
    cases hwalk : t.walk (.ofLocation []) (l.map Text.listed) with
    | ok place =>
        rw [placeAt_ofLocation_of_fits hl hpath, hwalk] at h
        cases hat : t.entryAtPlace? place <;> simp [bind, Except.bind, hat] at h
    | error fault =>
        rw [placeAt_ofLocation_of_fits hl hpath, hwalk] at h
        obtain rfl := Except.error.inj h
        obtain ⟨front, last, hfront, hdirectory, hlong⟩ :=
          exists_longName_of_walk (l := []) (allLeadDown_of_isPathName hl) hwalk
        -- The listed names on the way are those of names on the way.
        obtain ⟨way, hway, hlisted⟩ := List.prefix_map_iff.1 hfront
        obtain ⟨folder, rest, rfl, rfl, hrest⟩ := List.map_eq_append_iff.1 hlisted.symm
        obtain ⟨name, rfl, rfl⟩ := List.map_eq_singleton_iff.1 hrest
        have hname : IsPathName name := hl name (hway.subset (by simp))
        rw [Text.byteSize_listed hname.isUnencodable] at hlong
        exact .longName (isDirectoryAt_iff.1 hdirectory) hway hlong

/-- **The path to a location that is not refused** leads to what the system finds there, if
anything. -/
theorem IsWellFormed.entryAt?_of_not_refuses (ht : t.IsWellFormed)
    (hl : ∀ name ∈ l, IsPathName name) (h : ¬t.Refuses l) :
    t.entryAt? directory (.ofLocation l) = .ok (t.found? l) := by
  have hfits : ¬pathLimit < Text.byteSize (Path.ofLocation l).text :=
    fun hlong => h (.longPath hlong)
  unfold found?
  cases hget : t.get? (l.map Text.listed) with
  | some entry =>
      have hplace : t.placeAt directory (.ofLocation l) =
          .ok (.ofLocation (l.map Text.listed)) := by
        rw [placeAt_ofLocation_of_fits hl hfits]
        exact ht.walk (by rw [hget]; rfl)
      have hentry : t.entryAt directory (.ofLocation l) = .ok entry :=
        entryAt_eq_ok_iff.2 ⟨_, hplace, hget⟩
      rw [entryAt?, hentry]
  | none =>
      have hne : l.map Text.listed ≠ [] := by
        intro hnil
        rw [hnil] at hget
        exact nomatch hget
      unfold entryAt?
      cases hentry : t.entryAt directory (.ofLocation l) with
      | ok entry =>
          obtain ⟨place, hplace, hat⟩ := entryAt_eq_ok_iff.1 hentry
          obtain ⟨-, -, hwalk⟩ := placeAt_eq_ok_iff.1 hplace
          obtain rfl := walk_of_allLeadDown (allLeadDown_of_isPathName hl) hne hwalk
          exact nomatch hget.symm.trans hat
      | error fault =>
          have hother : fault ≠ .nameTooLong := by
            rintro rfl
            exact h (refuses_of_entryAt hl hentry)
          cases fault <;> first | rfl | exact absurd rfl hother

/-! ## Where names lead -/

/-- A walk ends where its names say. -/
theorem location_of_walk {p q : Place} (hnames : ∀ name ∈ names, Path.isName name = true)
    (h : t.walk p names = .ok q) : names.foldl Path.follow p.location = q.location := by
  induction names generalizing p with
  | nil =>
      obtain rfl : p = q := Except.ok.inj h
      rfl
  | cons name rest ih =>
      obtain ⟨r, hlead, hrest⟩ := walk_cons_eq_ok_iff.1 h
      have hname : Path.isName name = true := hnames name List.mem_cons_self
      have hfollow : Path.follow p.location name = r.location := by
        unfold Path.follow
        cases hlead with
        | stay _ empty => exact absurd hname (by simp [empty])
        | up _ _ _ dots => rw [if_pos dots]; rfl
        | down _ _ _ ne_dots => rw [if_neg ne_dots]
      rw [List.foldl_cons, hfollow]
      exact ih (fun name hmem => hnames name (List.mem_cons_of_mem _ hmem)) hrest

/-- **The names of a path** give the location of what the path leads to, if they are spelled as the
system lists them. -/
theorem locate_eq_of_placeAt {place : Place} (hnames : ∀ name ∈ p.names, Path.isName name = true)
    (hlisted : p.names.map Text.listed = p.names) (h : t.placeAt directory p = .ok place) :
    p.locate directory = place.location := by
  have hwalk := (placeAt_eq_ok_iff.1 h).2.2
  rw [hlisted] at hwalk
  exact location_of_walk hnames hwalk

/-- Names that can stand in a path lead from locations with such names to others. -/
theorem isPathName_of_mem_follow (hl : ∀ name ∈ l, IsPathName name)
    (hname : Path.isName name = true) (husable : Path.isUnusableText name = false) :
    ∀ last ∈ Path.follow l name, IsPathName last := by
  intro last hlast
  unfold Path.follow at hlast
  split_ifs at hlast with hdots
  · exact hl last (List.dropLast_subset l hlast)
  · rcases List.mem_append.1 hlast with hmem | hmem
    · exact hl last hmem
    · obtain rfl := List.mem_singleton.1 hmem
      exact ⟨hname, hdots, husable⟩

/-- So does a path that the system takes. -/
theorem isPathName_of_mem_locate (hbase : ∀ name ∈ (p.base directory).location, IsPathName name)
    (hnames : ∀ name ∈ p.names, Path.isName name = true) (husable : p.isUnusable = false) :
    ∀ name ∈ p.locate directory, IsPathName name := by
  obtain ⟨start, names⟩ := p
  unfold Path.locate
  dsimp only at hnames ⊢
  replace husable := List.any_eq_false.1 husable
  generalize (Path.base ⟨start, names⟩ directory).location = l at hbase
  induction names generalizing l with
  | nil => exact hbase
  | cons name rest ih =>
      apply ih
      · exact fun name hmem => hnames name (List.mem_cons_of_mem _ hmem)
      · exact fun name hmem => husable name (List.mem_cons_of_mem _ hmem)
      · apply isPathName_of_mem_follow hbase (hnames name List.mem_cons_self)
        simpa using husable name List.mem_cons_self

end FileTree

end ColumnTypes
