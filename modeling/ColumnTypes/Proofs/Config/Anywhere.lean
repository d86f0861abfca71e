import ColumnTypes.Proofs.Config.Anchoring
import ColumnTypes.Proofs.Config.Searching
import ColumnTypes.Proofs.Text.CodePoints

/-!
# Configurations do not depend on the working directory

What a configuration file says is anchored at the file's own directory, and every path that leads to
the file gives the location of that directory.  So the configuration is the same from every working
directory, however the file is named, and whether it is named or searched for
(`Surroundings.loadConfig_anywhere`).

There are three exceptions.  A working directory that has been removed has no path, so relative
paths cannot be anchored from there.  The system refuses paths that are too long, those that the
search asks for among them.  And a path can spell a name otherwise than the system lists it, and
then so does the anchored path (`Surroundings.loadConfig_deepProject`).
-/

namespace ColumnTypes.Surroundings

open FileTree Document

variable {s : Surroundings} {config : Config} {p : Path} {folder : Location} {name : String}

/-! ## Loading a file by its location -/

/-- The names of a path are spelled as the system lists them. -/
def IsListed (p : Path) : Prop :=
  p.names.map Text.listed = p.names

instance (p : Path) : Decidable (IsListed p) :=
  inferInstanceAs (Decidable (_ = _))

/-- The bytes that are read are those at the location that the path leads to. -/
theorem readFile_of_placeAt {l : Location} {bytes : List UInt8}
    (hplace : s.files.placeAt s.directory p = .ok (.ofLocation l)) :
    s.readFile p = .ok bytes ↔ s.files.get? l = some (.file bytes) := by
  rw [readFile_eq_ok_iff, FileTree.readFile_eq_ok_iff, entryAt_eq_ok_iff]
  constructor
  · rintro ⟨place, hplace', hentry⟩
    obtain rfl := Except.ok.inj (hplace.symm.trans hplace')
    exact hentry
  · exact fun hentry => ⟨_, hplace, hentry⟩

/-- What is anchored at a file is anchored at the directory of the file's location. -/
theorem eq_anchoredAt_of_anchored {c : Config}
    (hplace : s.files.placeAt s.directory p = .ok (.ofLocation (folder ++ [name])))
    (hnames : ∀ name ∈ p.names, Path.isName name = true) (hlisted : IsListed p)
    (h : s.anchored c p = .ok config) : config = c.anchoredAt folder := by
  unfold anchored at h
  split_ifs at h with habsolute
  · rw [Config.anchoredAt, if_pos habsolute]
    exact (Except.ok.inj h).symm
  · unfold locate at h
    split_ifs at h
    · obtain rfl := Except.ok.inj h
      rw [locate_eq_of_placeAt hnames hlisted hplace]
      exact congrArg c.anchoredAt List.dropLast_concat
    · exact nomatch h

/-- It can be anchored if the path or the working directory has a location. -/
theorem anchored_of_placeAt (c : Config)
    (hplace : s.files.placeAt s.directory p = .ok (.ofLocation (folder ++ [name])))
    (hnames : ∀ name ∈ p.names, Path.isName name = true) (hlisted : IsListed p)
    (hlocated : s.directory.isPresent = true ∨ p.isAbsolute = true) :
    s.anchored c p = .ok (c.anchoredAt folder) := by
  have hlocate : s.locate p = .ok (folder ++ [name]) := by
    unfold locate
    rw [if_pos (by simpa using hlocated.symm), locate_eq_of_placeAt hnames hlisted hplace]
    rfl
  have husable : p.isUnusable = false := (placeAt_eq_ok_iff.1 hplace).1
  unfold anchored
  by_cases habsolute : c.catalogPath.isAbsolute = true
  · rw [if_pos habsolute, Config.anchoredAt, if_pos habsolute]
  · rw [if_neg habsolute, if_neg (by simp [husable]), hlocate]
    exact congrArg (fun l => Except.ok (c.anchoredAt l)) List.dropLast_concat

/-- A file that loads holds a configuration, which is anchored at the file's directory. -/
theorem of_configAt
    (hplace : s.files.placeAt s.directory p = .ok (.ofLocation (folder ++ [name])))
    (hnames : ∀ name ∈ p.names, Path.isName name = true) (hlisted : IsListed p)
    (h : s.configAt p = .ok config) :
    ∃ bytes c, s.files.get? (folder ++ [name]) = some (.file bytes) ∧
      Config.ofBytes s.debugDefault bytes = .ok c ∧ config = c.anchoredAt folder := by
  obtain ⟨bytes, c, hread, hbytes, hanchored⟩ := configAt_eq_ok_iff.1 h
  exact ⟨bytes, c, (readFile_of_placeAt hplace).1 hread, hbytes,
    eq_anchoredAt_of_anchored hplace hnames hlisted hanchored⟩

/-- A file that holds a configuration loads, by every path that leads to it. -/
theorem configAt_of_placeAt {bytes : List UInt8} {c : Config}
    (hplace : s.files.placeAt s.directory p = .ok (.ofLocation (folder ++ [name])))
    (hnames : ∀ name ∈ p.names, Path.isName name = true) (hlisted : IsListed p)
    (hlocated : s.directory.isPresent = true ∨ p.isAbsolute = true)
    (hfile : s.files.get? (folder ++ [name]) = some (.file bytes))
    (hbytes : Config.ofBytes s.debugDefault bytes = .ok c) :
    s.configAt p = .ok (c.anchoredAt folder) :=
  configAt_eq_ok_iff.2 ⟨bytes, c, (readFile_of_placeAt hplace).2 hfile, hbytes,
    anchored_of_placeAt c hplace hnames hlisted hlocated⟩

/-! ## Loading from anywhere -/

/-- **A configuration does not depend on where the program runs.**  If a file loads by some path
from some working directory, then it loads with the same result

* by every path that leads to it, from every working directory that has not been removed (an
  absolute path does not even need that);
* without a path, from every directory to which it is the nearest configuration, unless a path that
  the search asks for is too long.

The paths are spelled as the system lists their names.  The catalog path is absolute: that of the
document if it is absolute, and else that behind the path of the file's directory.  And anchoring is
stable, for every configuration and all paths. -/
theorem loadConfig_anywhere {t : FileTree} {debug : Option String} {directory₀ : Place}
    {width₀ : Nat} {path₀ : String} (ht : t.IsWellFormed)
    (hplace : t.placeAt directory₀ (.ofText path₀) = .ok (.ofLocation (folder ++ [name])))
    (hlisted : IsListed (.ofText path₀))
    (hload : (Surroundings.mk t directory₀ debug width₀).loadConfig (some (.ofText path₀)) =
      .ok config) :
    (∀ directory width path,
      t.placeAt directory (.ofText path) = .ok (.ofLocation (folder ++ [name])) →
      IsListed (.ofText path) →
      directory.isPresent = true ∨ (Path.ofText path).isAbsolute = true →
      (Surroundings.mk t directory debug width).loadConfig (some (.ofText path)) = .ok config) ∧
    (∀ start width, t.isDirectoryAt start = true → IsNearest t start folder name →
      SearchFits start folder name →
      (Surroundings.mk t (.ofLocation start) debug width).loadConfig none = .ok config) ∧
    (config.catalogPath.isAbsolute = true ∧
      ∃ bytes d entries value catalog, t.get? (folder ++ [name]) = some (.file bytes) ∧
        Yaml.readBytes bytes = .ok d ∧ d.entries? = some entries ∧
        valueOf? "catalog" entries = some value ∧ value.asText = .ok catalog ∧
        config.catalogPath = if (Path.ofText catalog).isAbsolute then Path.ofText catalog
          else (Path.ofLocation folder).join (.ofText catalog)) ∧
    ∀ (s s' : Surroundings) (c : Config) (p q : Path),
      (s.anchored c p >>= fun anchored => s'.anchored anchored q) = s.anchored c p := by
  have hspelled : ∀ (path : String), ∀ name ∈ (Path.ofText path).names, Path.isName name = true :=
    fun _ name hname => (Path.isProper_of_mem_ofText hname).isName
  obtain ⟨bytes, c, hfile, hbytes, rfl⟩ := of_configAt (s := ⟨t, directory₀, debug, width₀⟩) hplace
    (hspelled path₀) hlisted hload
  have hnames : ∀ n ∈ folder ++ [name], IsFileName n :=
    ht.isFileName_of_mem (by rw [hfile]; rfl)
  refine ⟨?_, ?_, ⟨Config.isAbsolute_anchoredAt, ?_⟩, anchored_anchored⟩
  · intro directory width path hplace' hlisted' hlocated
    exact configAt_of_placeAt (s := ⟨t, directory, debug, width⟩) hplace' (hspelled path) hlisted'
      hlocated hfile hbytes
  · intro start width hstart hnearest hfits
    have hfound : (Surroundings.mk t (.ofLocation start) debug width).nearestConfig =
        .ok (some (folder ++ [name])) :=
      nearestConfig_of_isNearest ht rfl hstart hnearest hfits
    have hplace' : t.placeAt (.ofLocation start) (.ofLocation (folder ++ [name])) =
        .ok (.ofLocation (folder ++ [name])) :=
      ht.placeAt_ofLocation (by rw [hfile]; rfl) (hfits _ (.inl rfl))
    unfold loadConfig
    rw [hfound]
    exact configAt_of_placeAt (s := ⟨t, .ofLocation start, debug, width⟩) hplace'
      (fun n hn => (hnames n hn).isName) (map_listed_of_isFileName hnames) (.inr rfl) hfile hbytes
  · have hproper : ∀ n ∈ folder, Path.IsProper n := by
      intro n hn
      have hname := hnames n (List.mem_append_left _ hn)
      exact ⟨hname.isName, hname.no_slash⟩
    obtain ⟨d, entries, value, hread, hentries, hvalue, htext⟩ := Config.catalog_of_ofBytes hbytes
    exact ⟨bytes, d, entries, value, c.catalog, hfile, hread, hentries, hvalue, htext,
      Config.catalogPath_anchoredAt hproper⟩

/-- A project with a directory below that of its configuration. -/
def nestedTree : FileTree :=
  ⟨[(["p"], .directory), (["p", "pgcodegen.yml"], .file "catalog: ./c.yml".toUTF8.toList),
    (["p", "q"], .directory)]⟩

/-- The project, seen from a directory. -/
def nestedProject (directory : Location) : Surroundings :=
  { files := nestedTree, directory := .ofLocation directory, debugVariable := none }

/-- The configuration of the project. -/
def nestedConfig : Config := ⟨"/p/c.yml", "", [], false⟩

/-- From the directory below, the search looks there and then in the directory above it. -/
theorem looksBefore_nested {l : Location}
    (h : LooksBefore ["p", "q"] ["p"] "pgcodegen.yml" l) :
    ∃ other ∈ Config.fileNames, l = ["p", "q", other] := by
  cases h with
  | @nearer closer other below above ne named =>
      have habove : closer <+: ["p"] ++ ["q"] := above
      rcases List.prefix_concat_iff.1 habove with rfl | hwithin
      · exact ⟨other, named, rfl⟩
      · exact absurd (hwithin.eq_of_length_le below.length_le) ne
  | preferred earlier => exact nomatch earlier

/-- From below, from the root and by the search, the configuration is the same. -/
theorem loadConfig_nestedProject :
    (nestedProject ["p", "q"]).loadConfig (some (.ofText "../pgcodegen.yml")) = .ok nestedConfig ∧
      (nestedProject []).loadConfig (some (.ofText "p//./q/../pgcodegen.yml")) = .ok nestedConfig ∧
      (nestedProject ["p", "q"]).loadConfig none = .ok nestedConfig := by
  have hload : (nestedProject ["p", "q"]).loadConfig (some (.ofText "../pgcodegen.yml")) =
      .ok nestedConfig := by
    decide +kernel
  have hplace : nestedTree.placeAt (.ofLocation ["p", "q"]) (.ofText "../pgcodegen.yml") =
      .ok (.ofLocation (["p"] ++ ["pgcodegen.yml"])) := by
    decide
  obtain ⟨hpath, hsearch, -⟩ :=
    loadConfig_anywhere (t := nestedTree) (by decide) hplace (by decide) hload
  have hfiles : ∀ other ∈ Config.fileNames, nestedTree.findsFile ["p", "q", other] = false ∧
      Text.byteSize (Path.ofLocation ["p", "q", other]).text ≤ pathLimit := by
    decide
  refine ⟨hload, hpath _ _ _ (by decide) (by decide) (.inl rfl), hsearch _ _ (by decide) ?_ ?_⟩
  · refine ⟨⟨["q"], rfl⟩, by decide, by decide, fun l hl => ?_⟩
    obtain ⟨other, hother, rfl⟩ := looksBefore_nested hl
    exact (hfiles other hother).1
  · rintro l (rfl | hl)
    · decide
    · obtain ⟨other, hother, rfl⟩ := looksBefore_nested hl
      exact (hfiles other hother).2

/-! ## Long paths and removed directories -/

/-- A name of some length. -/
def nameOfLength (n : Nat) : String := String.ofList (List.replicate n 'a')

theorem toList_nameOfLength (n : Nat) : (nameOfLength n).toList = List.replicate n 'a' :=
  String.toList_ofList

theorem nameOfLength_ne {n : Nat} {name : String} (h : name.toList.length < n) :
    nameOfLength n ≠ name := by
  rintro rfl
  rw [toList_nameOfLength, List.length_replicate] at h
  exact Nat.lt_irrefl n h

/-- Its characters are ASCII characters. -/
theorem lt_of_mem_nameOfLength {n : Nat} : ∀ c ∈ (nameOfLength n).toList, c.toNat < 0x80 := by
  intro c hc
  rw [toList_nameOfLength] at hc
  obtain rfl := List.eq_of_mem_replicate hc
  decide

theorem codes_nameOfLength (n : Nat) :
    Text.codes (nameOfLength n) = List.replicate n 'a'.toNat := by
  have hguard : ∀ c ∈ (nameOfLength n).toList, c ≠ Text.guardMark :=
    fun c hc => Text.ne_guardMark_of_lt (Nat.lt_trans (lt_of_mem_nameOfLength c hc) (by decide))
  rw [Text.codes, Text.codesOf_of_ne hguard, toList_nameOfLength, List.map_replicate]

/-- It can stand in a path unless it is very short. -/
theorem isPathName_nameOfLength {n : Nat} (hlow : 2 < n) : IsPathName (nameOfLength n) where
  isName := by
    have hempty : nameOfLength n ≠ "" := nameOfLength_ne (Nat.zero_lt_of_lt hlow)
    have hdot : nameOfLength n ≠ "." := nameOfLength_ne (Nat.lt_of_succ_lt hlow)
    simp [Path.isName, hempty, hdot]
  ne_dots := nameOfLength_ne hlow
  usable := by
    refine List.any_eq_false.2 fun code hcode => ?_
    rw [codes_nameOfLength] at hcode
    obtain rfl := List.eq_of_mem_replicate hcode
    decide

/-- There is no slash in it. -/
theorem no_slash_nameOfLength (n : Nat) : '/' ∉ (nameOfLength n).toList := by
  rw [toList_nameOfLength]
  exact fun h => absurd (List.eq_of_mem_replicate h) (by decide)

/-- It takes as many bytes as it has characters. -/
theorem byteSize_nameOfLength (n : Nat) : Text.byteSize (nameOfLength n) = n := by
  rw [Text.byteSize_of_ascii lt_of_mem_nameOfLength, toList_nameOfLength, List.length_replicate]

/-- It can be the name of a file unless it is very short or too long. -/
theorem isFileName_nameOfLength {n : Nat} (hlow : 2 < n) (hhigh : n ≤ nameLimit) :
    IsFileName (nameOfLength n) where
  toIsPathName := isPathName_nameOfLength hlow
  no_slash := no_slash_nameOfLength n
  short := by rw [byteSize_nameOfLength]; exact hhigh
  listed := by
    apply Text.listed_of_not_escaped
    refine List.any_eq_false.2 fun code hcode => ?_
    rw [codes_nameOfLength] at hcode
    obtain rfl := List.eq_of_mem_replicate hcode
    decide

/-- A file at the root beside a chain of directories of one name, each in the one before. -/
def chainTree (file : String) (content : List UInt8) (name : String) (depth : Nat) : FileTree :=
  ⟨([file], .file content) ::
    (List.range depth).map fun n => (List.replicate (n + 1) name, .directory)⟩

section chainTree

variable {file : String} {content : List UInt8} {depth : Nat}

/-- What is in the tree. -/
theorem of_mem_chainTree {l : Location} {entry : Entry}
    (h : (l, entry) ∈ (chainTree file content name depth).entries) :
    (l = [file] ∧ entry = .file content) ∨
      ∃ n < depth, l = List.replicate (n + 1) name ∧ entry = .directory := by
  rcases List.mem_cons.1 h with heq | hmem
  · exact .inl (Prod.mk.inj heq)
  · obtain ⟨n, hn, heq⟩ := List.mem_map.1 hmem
    obtain ⟨rfl, rfl⟩ := Prod.mk.inj heq
    exact .inr ⟨n, List.mem_range.1 hn, rfl, rfl⟩

/-- The directories of the chain are there. -/
theorem get?_chainTree (hne : name ≠ file) {n : Nat} (hn : n ≤ depth) :
    (chainTree file content name depth).get? (List.replicate n name) = some .directory := by
  cases n with
  | zero => rfl
  | succ n =>
      have hnil : List.replicate (n + 1) name ≠ [] := List.cons_ne_nil _ _
      have hmem : (List.replicate (n + 1) name, Entry.directory) ∈
          (chainTree file content name depth).entries :=
        .tail _ (List.mem_map.2 ⟨n, List.mem_range.2 hn, rfl⟩)
      obtain ⟨entry, hentry⟩ := Option.isSome_iff_exists.1 ((isSome_get?_iff hnil).2 ⟨_, hmem⟩)
      rcases of_mem_chainTree (mem_entries_of_get? hnil hentry) with ⟨heq, -⟩ | ⟨_, _, _, rfl⟩
      · exact absurd (List.cons.inj heq).1 hne
      · exact hentry

theorem isWellFormed_chainTree (hne : name ≠ file) (hfile : IsFileName file)
    (hname : IsFileName name) : (chainTree file content name depth).IsWellFormed := by
  rintro ⟨l, entry⟩ hmem
  rcases of_mem_chainTree hmem with ⟨rfl, rfl⟩ | ⟨n, hn, rfl, rfl⟩
  · refine ⟨rfl, fun last hlast => ?_⟩
    obtain rfl := Option.some.inj hlast
    exact hfile
  · have hlast : List.replicate (n + 1) name = List.replicate n name ++ [name] :=
      List.replicate_succ'
    rw [hlast, List.dropLast_concat, List.getLast?_concat]
    refine ⟨get?_chainTree hne (Nat.le_of_lt hn), fun last hlast => ?_⟩
    obtain rfl := Option.some.inj hlast
    exact hname

end chainTree

/-- A directory with just not too long a path. -/
def deepDirectory : Location := List.replicate 19 (nameOfLength 214)

/-- A project with a configuration at the root and deep directories. -/
def deepTree : FileTree :=
  chainTree "pgcodegen.yml" "catalog: c.yml".toUTF8.toList (nameOfLength 214) 19

/-- The configuration of the project. -/
def rootConfig : Config := ⟨"/c.yml", "", [], false⟩

theorem get?_deepTree {n : Nat} (hn : n ≤ 19) :
    deepTree.get? (List.replicate n (nameOfLength 214)) = some .directory :=
  get?_chainTree (nameOfLength_ne (by decide)) hn

theorem isFileName_deepDirectory : ∀ name ∈ deepDirectory, IsFileName name := by
  intro name hname
  obtain rfl := List.eq_of_mem_replicate hname
  exact isFileName_nameOfLength (by decide) (by decide)

theorem isWellFormed_deepTree : deepTree.IsWellFormed :=
  isWellFormed_chainTree (nameOfLength_ne (by decide)) (isFileName_of_mem_fileNames _ (.head _))
    (isFileName_nameOfLength (by decide) (by decide))

/-- The configuration at the root is the nearest one. -/
theorem isNearest_deepTree : IsNearest deepTree deepDirectory [] "pgcodegen.yml" where
  above := List.nil_prefix
  named := .head _
  isFile := rfl
  first l h := by
    cases h with
    | preferred earlier => exact nomatch earlier
    | @nearer closer other _ above ne named =>
        have hne : closer ++ [other] ≠ [] := by simp
        have hnames : ∀ name ∈ closer ++ [other], IsFileName name :=
          List.forall_mem_append.2 ⟨fun name hname => isFileName_deepDirectory name
            (above.subset hname), List.forall_mem_singleton.2 (isFileName_of_mem_fileNames _ named)⟩
        rw [findsFile_of_isFileName hnames, isFileAt]
        cases hget : deepTree.get? (closer ++ [other]) with
        | none => rfl
        | some entry =>
            rcases of_mem_chainTree (mem_entries_of_get? hne hget) with ⟨heq, -⟩ | ⟨_, _, _, rfl⟩
            · have hlength := congrArg List.length heq
              simp [ne] at hlength
            · rfl

/-- The first path that the search asks for is too long. -/
theorem pathLimit_lt_deepDirectory :
    pathLimit < Text.byteSize (Path.ofLocation (deepDirectory ++ ["pgcodegen.yml"])).text := by
  have hlist := Path.toList_text_ofLocation (l := deepDirectory ++ ["pgcodegen.yml"]) (by simp)
  have hlast : "pgcodegen.yml".toList.all (fun c => c.toNat < 0x80) = true := by decide
  have hascii : ∀ c ∈ (Path.ofLocation (deepDirectory ++ ["pgcodegen.yml"])).text.toList,
      c.toNat < 0x80 := by
    intro c hc
    rw [hlist] at hc
    obtain ⟨name, hname, hc⟩ := List.mem_flatMap.1 hc
    rcases List.mem_cons.1 hc with rfl | hc
    · decide
    · rcases List.mem_append.1 hname with hname | hname
      · obtain rfl := List.eq_of_mem_replicate hname
        exact lt_of_mem_nameOfLength c hc
      · obtain rfl := List.mem_singleton.1 hname
        exact of_decide_eq_true (List.all_eq_true.1 hlast c hc)
  have hname : ('/' :: (nameOfLength 214).toList).length = 215 := by
    rw [List.length_cons, toList_nameOfLength, List.length_replicate]
  rw [Text.byteSize_of_ascii hascii, hlist, List.length_flatMap, deepDirectory, List.map_append,
    List.map_replicate, hname, List.sum_append]
  decide

/-- The project, seen from a place. -/
def deepProject (directory : Place) : Surroundings :=
  { files := deepTree, directory, debugVariable := none }

/-- A project whose directory has a letter of two bytes as its name. -/
def accentProject : Surroundings :=
  { files := ⟨[(["é"], .directory), (["é", "pgcodegen.yml"], .file "catalog: c.yml".toUTF8.toList)]⟩
    directory := .ofLocation []
    debugVariable := none }

/-- The path of its configuration with the bytes of that name one by one. -/
def bytewisePath : Path :=
  .ofText ("/" ++ Text.ofCodes [0xDCC3, 0xDCA9] ++ "/pgcodegen.yml")

/-- **A configuration can depend on where the program runs.**  The file at the root loads by its
path.  But it does not from a deep directory to which it is the nearest configuration, because the
search asks for a path that is too long; nor does it by a relative path from a directory that has
been removed.  And a file loads otherwise by a path that spells the bytes of a name. -/
theorem loadConfig_deepProject :
    deepTree.IsWellFormed ∧
      (deepProject (.ofLocation [])).loadConfig (some (.ofText "/pgcodegen.yml")) =
        .ok rootConfig ∧
      (deepTree.isDirectoryAt deepDirectory = true ∧
        IsNearest deepTree deepDirectory [] "pgcodegen.yml" ∧
        (deepProject (.ofLocation deepDirectory)).loadConfig none =
          .error (.unreadable .nameTooLong (.ofLocation (deepDirectory ++ ["pgcodegen.yml"])))) ∧
      (deepTree.placeAt ⟨["gone"], 1⟩ (.ofText "../pgcodegen.yml") =
          .ok (.ofLocation ["pgcodegen.yml"]) ∧
        (deepProject ⟨["gone"], 1⟩).loadConfig (some (.ofText "../pgcodegen.yml")) ≠
          .ok rootConfig) ∧
      (accentProject.files.IsWellFormed ∧
        accentProject.files.placeAt accentProject.directory bytewisePath =
          accentProject.files.placeAt accentProject.directory (.ofText "/é/pgcodegen.yml") ∧
        accentProject.loadConfig (some bytewisePath) ≠
          accentProject.loadConfig (some (.ofText "/é/pgcodegen.yml"))) := by
  have hdeep : deepTree.get? deepDirectory = some .directory := get?_deepTree (Nat.le_refl 19)
  have hnames : ∀ name ∈ deepDirectory, IsFileName name := isFileName_deepDirectory
  have hplain : accentProject.loadConfig (some (.ofText "/é/pgcodegen.yml")) =
      .ok ⟨"/é/c.yml", "", [], false⟩ := by
    decide +kernel
  have hbytewise : accentProject.loadConfig (some bytewisePath) ≠
      .ok ⟨"/é/c.yml", "", [], false⟩ := by
    decide +kernel
  refine ⟨isWellFormed_deepTree, by decide +kernel, ⟨?_, isNearest_deepTree,
    loadConfig_of_long rfl hnames pathLimit_lt_deepDirectory⟩, ⟨by decide, by decide +kernel⟩,
    by decide, by decide, ?_⟩
  · rw [isDirectoryAt, hdeep]
    rfl
  · rw [hplain]
    exact hbytewise

end ColumnTypes.Surroundings
