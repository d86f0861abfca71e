import ColumnTypes.Config.Loading
import ColumnTypes.Proofs.Location

/-!
# Searching for configurations

`Surroundings.IsNearest` says which configuration file is the nearest one to a directory, by the
folders above the directory and the order of the names.  In a well-formed tree the search finds this
file and no other (`Surroundings.firstConfig?_eq_some_iff`), as long as the system refuses no path
that it asks for on the way; it finds nothing if there is no configuration on the way up
(`Surroundings.firstConfig?_eq_none_iff`), and fails at the first path that is refused
(`Surroundings.firstConfig?_eq_error_iff`).

## Strategy

Folders and names make one list of locations, and the search looks at one after another until it
sees something (`Surroundings.firstConfig?_eq_firstSeen?`).  A location stands in this list behind
those, and only those, where the search looks before (`Surroundings.exists_lookedAt_eq`), so what
the search comes to is told by where it has looked in vain (`Surroundings.firstConfig?_eq_iff`).
What is seen in one look depends on the tree and on whether the path is refused.
-/

namespace ColumnTypes.Surroundings

open FileTree

/-! ## The way up -/

/-- Above a location are the location itself and what is above its directory. -/
theorem upward_append_singleton (l : Location) (name : String) :
    upward (l ++ [name]) = (l ++ [name]) :: upward l := by
  have htake : ∀ n ∈ List.range (l.length + 1), (l ++ [name]).take n = l.take n := by
    intro n hn
    have hle : n ≤ l.length := Nat.lt_succ_iff.1 (List.mem_range.1 hn)
    exact List.take_append_of_le_length hle
  have hwhole : (l ++ [name]).take (l.length + 1) = l ++ [name] :=
    List.take_of_length_le (by simp)
  unfold upward
  rw [List.length_append, List.length_singleton, List.range_succ, List.map_append,
    List.reverse_append, List.map_singleton, hwhole, List.map_congr_left htake]
  rfl

/-- A location comes first on its way up. -/
theorem exists_upward_eq_cons (l : Location) : ∃ further, upward l = l :: further := by
  induction l using List.reverseRec with
  | nil => exact ⟨[], rfl⟩
  | append_singleton l name _ => exact ⟨_, upward_append_singleton l name⟩

/-- What is on the way up from a location are the locations above it, with itself. -/
theorem mem_upward_iff {l m : Location} : m ∈ upward l ↔ m <+: l := by
  induction l using List.reverseRec with
  | nil => simp [upward]
  | append_singleton l name ih =>
      rw [upward_append_singleton, List.mem_cons, ih, List.prefix_concat_iff]

/-- On the way up, a folder comes after those that are nearer, and only after those. -/
theorem exists_upward_eq {folder start : Location} (h : folder <+: start) :
    ∃ nearer further, upward start = nearer ++ folder :: further ∧
      ∀ m, m ∈ nearer ↔ folder <+: m ∧ m <+: start ∧ m ≠ folder := by
  induction start using List.reverseRec with
  | nil =>
      obtain rfl := List.prefix_nil.1 h
      refine ⟨[], [], rfl, fun m => ?_⟩
      simp +contextual
  | append_singleton l name ih =>
      rcases List.prefix_concat_iff.1 h with rfl | hl
      · refine ⟨[], upward l, upward_append_singleton l name, fun m => ?_⟩
        constructor
        · exact fun hm => nomatch hm
        · rintro ⟨hbelow, habove, hne⟩
          exact absurd (habove.eq_of_length_le hbelow.length_le) hne
      · obtain ⟨nearer, further, hupward, hnearer⟩ := ih hl
        refine ⟨(l ++ [name]) :: nearer, further, ?_, fun m => ?_⟩
        · rw [upward_append_singleton, hupward]
          rfl
        · rw [List.mem_cons, hnearer, List.prefix_concat_iff]
          constructor
          · rintro (rfl | ⟨hbelow, habove, hne⟩)
            · refine ⟨h, .inl rfl, fun heq => ?_⟩
              have hlength := hl.length_le
              rw [← heq, List.length_append, List.length_singleton] at hlength
              omega
            · exact ⟨hbelow, .inr habove, hne⟩
          · rintro ⟨hbelow, rfl | habove, hne⟩
            · exact .inl rfl
            · exact .inr ⟨hbelow, habove, hne⟩

/-! ## One look after another -/

variable {s : Surroundings} {folder start : Location} {name : String}

/-- A look at a location: what is seen is a file. -/
def look (s : Surroundings) (l : Location) : Except LoadError (Option Location) :=
  match s.files.entryAt? s.directory (Path.ofLocation l) with
  | .error fault => .error (.unreadable fault (Path.ofLocation l))
  | .ok (some (.file _)) => .ok (some l)
  | .ok _ => .ok none

/-- The first thing that is seen in looking at some locations, or the first error. -/
def firstSeen? (s : Surroundings) : List Location → Except LoadError (Option Location)
  | [] => .ok none
  | l :: rest =>
    match s.look l with
    | .ok none => s.firstSeen? rest
    | seen => seen

/-- Where the search from a directory looks, in order. -/
def lookedAt (start : Location) : List Location :=
  (upward start).flatMap fun folder => Config.fileNames.map fun name => folder ++ [name]

/-- Looking goes on if nothing has been seen. -/
theorem firstSeen?_append (ls ms : List Location) :
    s.firstSeen? (ls ++ ms) =
      match s.firstSeen? ls with
      | .ok none => s.firstSeen? ms
      | seen => seen := by
  induction ls with
  | nil => rfl
  | cons l ls ih =>
      rw [List.cons_append, firstSeen?, firstSeen?]
      rcases s.look l with e | _ | m
      · rfl
      · exact ih
      · rfl

/-- The names of a folder are looked at one after another. -/
theorem firstFile?_eq_firstSeen? (folder : Location) (names : List String) :
    s.firstFile? folder names = s.firstSeen? (names.map fun name => folder ++ [name]) := by
  induction names with
  | nil => rfl
  | cons name names ih =>
      rw [firstFile?, List.map_cons, firstSeen?, look, ih]
      rcases s.files.entryAt? s.directory (Path.ofLocation (folder ++ [name])) with
        fault | _ | _ | _ <;> rfl

/-- So are the folders. -/
theorem firstConfig?_eq_firstSeen? (folders : List Location) :
    s.firstConfig? folders =
      s.firstSeen? (folders.flatMap fun folder =>
        Config.fileNames.map fun name => folder ++ [name]) := by
  induction folders with
  | nil => rfl
  | cons folder folders ih =>
      have hfolder := firstFile?_eq_firstSeen? (s := s) folder Config.fileNames
      rcases hseen : s.firstSeen? (Config.fileNames.map fun name => folder ++ [name]) with
        e | _ | m <;>
        simp only [firstConfig?, List.flatMap_cons, firstSeen?_append, hfolder, hseen, ih]

/-- Nothing is seen in all exactly if nothing is seen in any look. -/
theorem firstSeen?_eq_none_iff {ls : List Location} :
    s.firstSeen? ls = .ok none ↔ ∀ l ∈ ls, s.look l = .ok none := by
  induction ls with
  | nil => simp [firstSeen?]
  | cons l ls ih =>
      rw [firstSeen?, List.forall_mem_cons, ← ih]
      rcases s.look l with e | _ | m
      · simp
      · simp
      · simp

/-- What is seen first, or is the first error, is so in some look, before which nothing is seen. -/
theorem exists_eq_of_firstSeen? {ls : List Location} {r : Except LoadError (Option Location)}
    (hr : r ≠ .ok none) (h : s.firstSeen? ls = r) :
    ∃ before l after, ls = before ++ l :: after ∧ (∀ m ∈ before, s.look m = .ok none) ∧
      s.look l = r := by
  induction ls with
  | nil => exact absurd h.symm hr
  | cons l ls ih =>
      rw [firstSeen?] at h
      by_cases hl : s.look l = .ok none
      · rw [hl] at h
        obtain ⟨before, m, after, rfl, hbefore, hm⟩ := ih h
        exact ⟨l :: before, m, after, rfl, List.forall_mem_cons.2 ⟨hl, hbefore⟩, hm⟩
      · refine ⟨[], l, ls, rfl, by simp, ?_⟩
        rw [← h]
        split
        · next hnone => exact absurd hnone hl
        · rfl

/-- It is what comes of all the looks. -/
theorem firstSeen?_of_look {before after : List Location} {l : Location}
    (hbefore : ∀ m ∈ before, s.look m = .ok none) (hl : s.look l ≠ .ok none) :
    s.firstSeen? (before ++ l :: after) = s.look l := by
  rw [firstSeen?_append, firstSeen?_eq_none_iff.2 hbefore]
  dsimp only
  rw [firstSeen?]
  split
  · next hnone => exact absurd hnone hl
  · rfl

/-! ## The nearest configuration -/

/-- Where the search from a directory looks before it looks for a name in a folder: in all nearer
folders, and in the folder itself for the names that are preferred. -/
inductive LooksBefore (start folder : Location) (name : String) : Location → Prop
  | nearer {closer : Location} {other : String} (below : folder <+: closer)
      (above : closer <+: start) (ne : closer ≠ folder) (named : other ∈ Config.fileNames) :
      LooksBefore start folder name (closer ++ [other])
  | preferred {other : String} (earlier : other ∈ Config.fileNames.takeWhile (· != name)) :
      LooksBefore start folder name (folder ++ [other])

/-- A file is the nearest configuration to a directory. -/
structure IsNearest (t : FileTree) (start folder : Location) (name : String) : Prop where
  above : folder <+: start
  named : name ∈ Config.fileNames
  isFile : t.findsFile (folder ++ [name]) = true
  first : ∀ l, LooksBefore start folder name l → t.findsFile l = false

/-- The names of configuration files are names that files can have. -/
theorem isFileName_of_mem_fileNames : ∀ name ∈ Config.fileNames, IsFileName name := by
  decide

/-- A name comes behind those that are preferred. -/
theorem exists_fileNames_eq (h : name ∈ Config.fileNames) :
    ∃ rest, Config.fileNames = Config.fileNames.takeWhile (· != name) ++ name :: rest := by
  have hsplit : ∀ name ∈ Config.fileNames, Config.fileNames =
      Config.fileNames.takeWhile (· != name) ++
        name :: (Config.fileNames.dropWhile (· != name)).tail := by
    decide
  exact ⟨_, hsplit name h⟩

/-- The search looks at the four names in every folder on the way up. -/
theorem mem_lookedAt_iff {l : Location} :
    l ∈ lookedAt start ↔ ∃ folder name, folder <+: start ∧ name ∈ Config.fileNames ∧
      l = folder ++ [name] := by
  unfold lookedAt
  simp only [List.mem_flatMap, List.mem_map, mem_upward_iff]
  constructor
  · rintro ⟨folder, habove, name, hname, rfl⟩
    exact ⟨folder, name, habove, hname, rfl⟩
  · rintro ⟨folder, name, habove, hname, rfl⟩
    exact ⟨folder, habove, name, hname, rfl⟩

/-- The search does not look at a location before it looks at it. -/
theorem not_looksBefore_self : ¬LooksBefore start folder name (folder ++ [name]) := by
  intro h
  generalize hl : folder ++ [name] = l at h
  cases h with
  | nearer below above ne named =>
      obtain ⟨rfl, -⟩ := List.append_inj' hl rfl
      exact ne rfl
  | preferred earlier =>
      obtain ⟨-, heq⟩ := List.append_inj' hl rfl
      obtain rfl := List.singleton_inj.1 heq
      exact absurd (List.all_eq_true.1 List.all_takeWhile _ earlier) (by simp)

/-- A location that the search looks at stands behind those where it looks before. -/
theorem exists_lookedAt_eq (habove : folder <+: start) (hname : name ∈ Config.fileNames) :
    ∃ before after, lookedAt start = before ++ (folder ++ [name]) :: after ∧
      ∀ l, l ∈ before ↔ LooksBefore start folder name l := by
  -- The folder stands behind the nearer ones, and the name behind the preferred ones.
  obtain ⟨nearer, further, hupward, hnearer⟩ := exists_upward_eq habove
  obtain ⟨rest, hrest⟩ := exists_fileNames_eq hname
  refine ⟨(nearer.flatMap fun folder => Config.fileNames.map fun name => folder ++ [name]) ++
    (Config.fileNames.takeWhile (· != name)).map fun name => folder ++ [name], ?_, ?_, ?_⟩
  · exact (rest.map fun name => folder ++ [name]) ++
      further.flatMap fun folder => Config.fileNames.map fun name => folder ++ [name]
  · have hfolder : (Config.fileNames.map fun name => folder ++ [name]) =
        ((Config.fileNames.takeWhile (· != name)).map fun name => folder ++ [name]) ++
          (folder ++ [name]) :: rest.map fun name => folder ++ [name] := by
      conv_lhs => rw [hrest]
      rw [List.map_append, List.map_cons]
    unfold lookedAt
    rw [hupward, List.flatMap_append, List.flatMap_cons, hfolder]
    simp only [List.append_assoc, List.cons_append]
  · intro l
    rw [List.mem_append, List.mem_flatMap, List.mem_map]
    constructor
    · rintro (⟨closer, hcloser, hl⟩ | ⟨other, hother, rfl⟩)
      · obtain ⟨other, hother, rfl⟩ := List.mem_map.1 hl
        obtain ⟨hbelow, habove, hne⟩ := (hnearer closer).1 hcloser
        exact .nearer hbelow habove hne hother
      · exact .preferred hother
    · intro h
      cases h with
      | nearer below above ne named =>
          exact .inl ⟨_, (hnearer _).2 ⟨below, above, ne⟩, List.mem_map.2 ⟨_, named, rfl⟩⟩
      | preferred earlier => exact .inr ⟨_, earlier, rfl⟩

/-- The search looks before a location at those that it comes to first. -/
theorem looksBefore_iff (habove : folder <+: start) (hname : name ∈ Config.fileNames)
    {l : Location} : LooksBefore start folder name l ↔
      l ∈ (lookedAt start).takeWhile (· != folder ++ [name]) := by
  obtain ⟨before, after, hsplit, hmem⟩ := exists_lookedAt_eq habove hname
  have hother : ∀ m ∈ before, (m != folder ++ [name]) = true := by
    intro m hm
    rw [bne_iff_ne]
    rintro rfl
    exact not_looksBefore_self ((hmem _).1 hm)
  rw [hsplit, List.takeWhile_append_of_pos hother, List.takeWhile_cons_of_neg (by simp),
    List.append_nil, hmem]

/-- **What the search comes to**, a file or an error, it comes to in one look, at a name in a folder
on the way up, and it sees nothing where it looks before. -/
theorem firstConfig?_eq_iff {r : Except LoadError (Option Location)} (hr : r ≠ .ok none) :
    s.firstConfig? (upward start) = r ↔
      ∃ folder name, folder <+: start ∧ name ∈ Config.fileNames ∧
        (∀ l, LooksBefore start folder name l → s.look l = .ok none) ∧
          s.look (folder ++ [name]) = r := by
  have hsearch : s.firstConfig? (upward start) = s.firstSeen? (lookedAt start) :=
    firstConfig?_eq_firstSeen? (upward start)
  rw [hsearch]
  constructor
  · intro h
    obtain ⟨before, l, after, hsplit, hbefore, hl⟩ := exists_eq_of_firstSeen? hr h
    have hmem : l ∈ lookedAt start := by
      rw [hsplit]
      simp
    obtain ⟨folder, name, habove, hname, rfl⟩ := mem_lookedAt_iff.1 hmem
    refine ⟨folder, name, habove, hname, ?_, hl⟩
    obtain ⟨before', after', hsplit', hbefore'⟩ := exists_lookedAt_eq habove hname
    -- Of two starts of the list that end right before the location, the one holds the other.
    rcases List.append_eq_append_iff.1 (hsplit.symm.trans hsplit') with
      ⟨more, rfl, hmore⟩ | ⟨more, rfl, hmore⟩
    · cases more with
      | nil =>
          intro m hm
          exact hbefore m (by simpa using (hbefore' m).2 hm)
      | cons m more =>
          obtain ⟨rfl, -⟩ := List.cons_eq_cons.1 hmore
          exact absurd ((hbefore' (folder ++ [name])).1 (by simp)) not_looksBefore_self
    · intro m hm
      exact hbefore m (List.mem_append_left more ((hbefore' m).2 hm))
  · rintro ⟨folder, name, habove, hname, hbefore, hl⟩
    obtain ⟨before, after, hsplit, hmem⟩ := exists_lookedAt_eq habove hname
    rw [hsplit, firstSeen?_of_look, hl]
    · exact fun m hm => hbefore m ((hmem m).1 hm)
    · rw [hl]
      exact hr

/-- The search comes to nothing exactly if it sees nothing in any folder on the way up. -/
theorem firstConfig?_eq_none_iff_look :
    s.firstConfig? (upward start) = .ok none ↔
      ∀ folder name, folder <+: start → name ∈ Config.fileNames →
        s.look (folder ++ [name]) = .ok none := by
  have hsearch : s.firstConfig? (upward start) = s.firstSeen? (lookedAt start) :=
    firstConfig?_eq_firstSeen? (upward start)
  rw [hsearch, firstSeen?_eq_none_iff]
  constructor
  · intro h folder name habove hname
    exact h _ (mem_lookedAt_iff.2 ⟨folder, name, habove, hname, rfl⟩)
  · intro h l hl
    obtain ⟨folder, name, habove, hname, rfl⟩ := mem_lookedAt_iff.1 hl
    exact h folder name habove hname

/-! ## What is seen in a look -/

section looks

variable {l : Location} (ht : s.files.IsWellFormed) (hl : ∀ name ∈ l, IsPathName name)
include ht hl

/-- A look at a location that is refused is an error. -/
theorem look_of_refuses (h : s.files.Refuses l) :
    s.look l = .error (.unreadable .nameTooLong (Path.ofLocation l)) := by
  unfold look
  rw [ht.entryAt?_of_refuses hl h]

/-- A look at one that is not refused sees the file there. -/
theorem look_of_not_refuses (h : ¬s.files.Refuses l) :
    s.look l = .ok (if s.files.findsFile l then some l else none) := by
  unfold look findsFile isFileAt
  rw [ht.entryAt?_of_not_refuses hl h, found?]
  rcases s.files.get? (l.map Text.listed) with _ | _ | _ <;> rfl

/-- Nothing is seen at a location exactly if it has no file and is not refused. -/
theorem look_eq_none_iff :
    s.look l = .ok none ↔ s.files.findsFile l = false ∧ ¬s.files.Refuses l := by
  by_cases hrefused : s.files.Refuses l
  · simp [look_of_refuses ht hl hrefused, hrefused]
  · simp [look_of_not_refuses ht hl hrefused, hrefused]

/-- A file is seen at a location exactly if it is there and the location is not refused. -/
theorem look_eq_some_iff {found : Location} :
    s.look l = .ok (some found) ↔
      found = l ∧ s.files.findsFile l = true ∧ ¬s.files.Refuses l := by
  by_cases hrefused : s.files.Refuses l
  · simp [look_of_refuses ht hl hrefused, hrefused]
  · cases hfile : s.files.findsFile l with
    | false => simp [look_of_not_refuses ht hl hrefused, hfile]
    | true => simp [look_of_not_refuses ht hl hrefused, hfile, hrefused, eq_comm]

/-- A look fails exactly if the location is refused. -/
theorem look_eq_error_iff {e : LoadError} :
    s.look l = .error e ↔
      s.files.Refuses l ∧ e = .unreadable .nameTooLong (Path.ofLocation l) := by
  by_cases hrefused : s.files.Refuses l
  · simp [look_of_refuses ht hl hrefused, hrefused, eq_comm]
  · simp [look_of_not_refuses ht hl hrefused, hrefused]

end looks

/-! ## The search in a well-formed tree -/

/-- Where the search looks, there are names on the way to its start and names of configuration
files. -/
theorem forall_mem_of_mem_lookedAt {P : String → Prop} {l : Location} (h : l ∈ lookedAt start)
    (hstart : ∀ name ∈ start, P name) (hnamed : ∀ name ∈ Config.fileNames, P name) :
    ∀ name ∈ l, P name := by
  obtain ⟨folder, last, habove, hlast, rfl⟩ := mem_lookedAt_iff.1 h
  intro name hname
  rcases List.mem_append.1 hname with hname | hname
  · exact hstart name (habove.subset hname)
  · obtain rfl := List.mem_singleton.1 hname
    exact hnamed name hlast

/-- Where the search looks before a location, it looks. -/
theorem LooksBefore.mem_lookedAt {l : Location} (h : LooksBefore start folder name l)
    (habove : folder <+: start) : l ∈ lookedAt start := by
  cases h with
  | nearer _ above _ named => exact mem_lookedAt_iff.2 ⟨_, _, above, named, rfl⟩
  | preferred earlier =>
      have hnamed := (List.takeWhile_sublist _).subset earlier
      exact mem_lookedAt_iff.2 ⟨_, _, habove, hnamed, rfl⟩

section search

variable (ht : s.files.IsWellFormed) (hstart : ∀ name ∈ start, IsPathName name)

include hstart in
/-- Where the search looks, the names can stand in a path. -/
theorem isPathName_of_mem_lookedAt {l : Location} (h : l ∈ lookedAt start) :
    ∀ name ∈ l, IsPathName name := by
  apply forall_mem_of_mem_lookedAt h hstart
  intro name hname
  exact (isFileName_of_mem_fileNames name hname).toIsPathName

include ht hstart

/-- The search sees nothing before a location exactly if no file is there and nothing is refused. -/
theorem forall_look_eq_none_iff (habove : folder <+: start) :
    (∀ l, LooksBefore start folder name l → s.look l = .ok none) ↔
      ∀ l, LooksBefore start folder name l →
        s.files.findsFile l = false ∧ ¬s.files.Refuses l := by
  apply forall_congr'
  intro l
  apply imp_congr_right
  intro h
  exact look_eq_none_iff ht (isPathName_of_mem_lookedAt hstart (h.mem_lookedAt habove))

/-- **The search finds a file** exactly if it is the nearest configuration and nothing is refused up
to it. -/
theorem firstConfig?_eq_some_iff {found : Location} :
    s.firstConfig? (upward start) = .ok (some found) ↔
      ∃ folder name, found = folder ++ [name] ∧ IsNearest s.files start folder name ∧
        ∀ l, l = found ∨ LooksBefore start folder name l → ¬s.files.Refuses l := by
  rw [firstConfig?_eq_iff (by simp)]
  constructor
  · rintro ⟨folder, name, habove, hname, hmissed, hseen⟩
    have hasked := mem_lookedAt_iff.2 ⟨folder, name, habove, hname, rfl⟩
    obtain ⟨rfl, hfile, hrefused⟩ :=
      (look_eq_some_iff ht (isPathName_of_mem_lookedAt hstart hasked)).1 hseen
    have hmissed' := (forall_look_eq_none_iff ht hstart habove).1 hmissed
    refine ⟨folder, name, rfl, ⟨habove, hname, hfile, fun l hl => (hmissed' l hl).1⟩, ?_⟩
    rintro l (rfl | hl)
    · exact hrefused
    · exact (hmissed' l hl).2
  · rintro ⟨folder, name, rfl, ⟨habove, hname, hfile, hfirst⟩, hrefused⟩
    have hasked := mem_lookedAt_iff.2 ⟨folder, name, habove, hname, rfl⟩
    refine ⟨folder, name, habove, hname, ?_, ?_⟩
    · apply (forall_look_eq_none_iff ht hstart habove).2
      exact fun l hl => ⟨hfirst l hl, hrefused l (.inr hl)⟩
    · apply (look_eq_some_iff ht (isPathName_of_mem_lookedAt hstart hasked)).2
      exact ⟨rfl, hfile, hrefused _ (.inl rfl)⟩

/-- **The search finds nothing** exactly if no configuration is on the way up and nothing is
refused. -/
theorem firstConfig?_eq_none_iff :
    s.firstConfig? (upward start) = .ok none ↔
      ∀ folder name, folder <+: start → name ∈ Config.fileNames →
        s.files.findsFile (folder ++ [name]) = false ∧ ¬s.files.Refuses (folder ++ [name]) := by
  have hlook : ∀ folder name, folder <+: start → name ∈ Config.fileNames →
      (s.look (folder ++ [name]) = .ok none ↔
        s.files.findsFile (folder ++ [name]) = false ∧ ¬s.files.Refuses (folder ++ [name])) := by
    intro folder name habove hname
    have hasked := mem_lookedAt_iff.2 ⟨folder, name, habove, hname, rfl⟩
    exact look_eq_none_iff ht (isPathName_of_mem_lookedAt hstart hasked)
  rw [firstConfig?_eq_none_iff_look]
  constructor
  · intro h folder name habove hname
    exact (hlook folder name habove hname).1 (h folder name habove hname)
  · intro h folder name habove hname
    exact (hlook folder name habove hname).2 (h folder name habove hname)

/-- **The search fails** exactly if a location is refused before a file has been found. -/
theorem firstConfig?_eq_error_iff {e : LoadError} :
    s.firstConfig? (upward start) = .error e ↔
      ∃ folder name, folder <+: start ∧ name ∈ Config.fileNames ∧
        (∀ l, LooksBefore start folder name l →
          s.files.findsFile l = false ∧ ¬s.files.Refuses l) ∧
        s.files.Refuses (folder ++ [name]) ∧
        e = .unreadable .nameTooLong (Path.ofLocation (folder ++ [name])) := by
  rw [firstConfig?_eq_iff (by simp)]
  constructor
  · rintro ⟨folder, name, habove, hname, hmissed, hseen⟩
    have hasked := mem_lookedAt_iff.2 ⟨folder, name, habove, hname, rfl⟩
    exact ⟨folder, name, habove, hname, (forall_look_eq_none_iff ht hstart habove).1 hmissed,
      (look_eq_error_iff ht (isPathName_of_mem_lookedAt hstart hasked)).1 hseen⟩
  · rintro ⟨folder, name, habove, hname, hmissed, hrefused⟩
    have hasked := mem_lookedAt_iff.2 ⟨folder, name, habove, hname, rfl⟩
    exact ⟨folder, name, habove, hname, (forall_look_eq_none_iff ht hstart habove).2 hmissed,
      (look_eq_error_iff ht (isPathName_of_mem_lookedAt hstart hasked)).2 hrefused⟩

/-- Where the first path that is asked for is refused, the search fails. -/
theorem firstConfig?_of_refuses (h : s.files.Refuses (start ++ ["pgcodegen.yml"])) :
    s.firstConfig? (upward start) =
      .error (.unreadable .nameTooLong (Path.ofLocation (start ++ ["pgcodegen.yml"]))) := by
  rw [firstConfig?_eq_error_iff ht hstart]
  refine ⟨start, "pgcodegen.yml", List.prefix_refl _, .head _, ?_, h, rfl⟩
  intro l hl
  cases hl with
  | nearer below above ne => exact absurd (above.eq_of_length_le below.length_le) ne
  | preferred earlier => exact nomatch earlier

end search

/-! ## Loading the nearest configuration -/

/-- No path that the search asks for until it has found a file is too long. -/
def SearchFits (start folder : Location) (name : String) : Prop :=
  ∀ l, l = folder ++ [name] ∨ LooksBefore start folder name l →
    Text.byteSize (Path.ofLocation l).text ≤ pathLimit

/-- From a directory that is there, the search goes through the folders on the way up. -/
theorem nearestConfig_ofLocation (hdirectory : s.directory = .ofLocation start) :
    s.nearestConfig = s.firstConfig? (upward start) := by
  unfold nearestConfig
  rw [hdirectory]
  rfl

/-- **The nearest configuration is found.** -/
theorem nearestConfig_of_isNearest (ht : s.files.IsWellFormed)
    (hdirectory : s.directory = .ofLocation start) (hstart : s.files.isDirectoryAt start = true)
    (hnearest : IsNearest s.files start folder name) (hfits : SearchFits start folder name) :
    s.nearestConfig = .ok (some (folder ++ [name])) := by
  have hnames : ∀ name ∈ start, IsFileName name :=
    ht.isFileName_of_mem (by rw [isDirectoryAt_iff.1 hstart]; rfl)
  rw [nearestConfig_ofLocation hdirectory,
    firstConfig?_eq_some_iff ht fun name hname => (hnames name hname).toIsPathName]
  refine ⟨folder, name, rfl, hnearest, ?_⟩
  intro l hl
  have hasked : l ∈ lookedAt start := by
    rcases hl with rfl | hl
    · exact mem_lookedAt_iff.2 ⟨folder, name, hnearest.above, hnearest.named, rfl⟩
    · exact hl.mem_lookedAt hnearest.above
  have hfile : ∀ name ∈ l, IsFileName name :=
    forall_mem_of_mem_lookedAt hasked hnames isFileName_of_mem_fileNames
  exact not_refuses_of_short (fun name hname => (hfile name hname).short) (hfits l hl)

/-- Where the first path that is asked for is too long, the search fails, and nothing is loaded. -/
theorem loadConfig_of_long (hdirectory : s.directory = .ofLocation start)
    (hnames : ∀ name ∈ start, IsFileName name)
    (hlong : pathLimit < Text.byteSize (Path.ofLocation (start ++ ["pgcodegen.yml"])).text) :
    s.loadConfig none =
      .error (.unreadable .nameTooLong (Path.ofLocation (start ++ ["pgcodegen.yml"]))) := by
  have hasked : start ++ ["pgcodegen.yml"] ∈ lookedAt start :=
    mem_lookedAt_iff.2 ⟨start, "pgcodegen.yml", List.prefix_refl _, .head _, rfl⟩
  have hall : ∀ name ∈ start ++ ["pgcodegen.yml"], IsPathName name :=
    isPathName_of_mem_lookedAt (fun name hname => (hnames name hname).toIsPathName) hasked
  obtain ⟨further, hupward⟩ := exists_upward_eq_cons start
  unfold loadConfig
  rw [nearestConfig_ofLocation hdirectory, hupward, firstConfig?, Config.fileNames, firstFile?,
    entryAt?_of_placeAt (placeAt_ofLocation_of_long hall hlong)]

end ColumnTypes.Surroundings
