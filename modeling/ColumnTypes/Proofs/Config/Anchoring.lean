import ColumnTypes.Config.Loading
import ColumnTypes.Proofs.FileTree
import ColumnTypes.Proofs.Path
import ColumnTypes.Proofs.Validation

/-!
# Anchored catalog paths

The catalog path of a configuration file is the text of one entry (`Config.catalog_of_ofBytes`).  A
relative one is anchored at a directory by joining it to the directory's path
(`Config.catalogPath_anchoredAt`), after which it is absolute, so that anchoring it again does
nothing (`Surroundings.anchored_anchored`).

`Surroundings.anchored` is the anchoring of a configuration at any file; loading a file anchors at
that file (`Surroundings.configAt_eq_ok_iff`).
-/

namespace ColumnTypes

open Document

namespace Config

variable {c : Config} {folder : Location}

/-- The bytes of a configuration are read like those of any other file. -/
theorem ofBytes_eq_ok_iff {debug : Bool} {bytes : List UInt8} :
    ofBytes debug bytes = .ok c ↔
      ∃ d, Yaml.readBytes bytes = .ok d ∧ ofDocument debug d = .ok c := by
  unfold ofBytes ofYaml Yaml.readBytes
  cases Text.decodeUtf8 bytes with
  | error fault => simp
  | ok text =>
      dsimp only
      cases Yaml.read (Text.universalNewlines text) with
      | error fault => simp
      | ok d =>
          dsimp only
          cases hdocument : ofDocument debug d with
          | error report => simp [hdocument]
          | ok c' => simp [hdocument]

/-- The path in a configuration is the text under `catalog` in its entries. -/
theorem catalog_of_ofEntries {debug : Bool} {entries : List (Document × Document)}
    (h : ofEntries debug entries = .ok c) :
    ∃ value, valueOf? "catalog" entries = some value ∧ value.asText = .ok c.catalog := by
  obtain ⟨parts, hparts, rfl⟩ := Checked.map_eq_ok_iff.1 h
  obtain ⟨hcatalog, -⟩ := Checked.both_eq_ok_iff.1 hparts
  obtain ⟨name, value, hfind, htext⟩ := requiredField_eq_ok_iff.1 hcatalog
  rw [findField?_singleton] at hfind
  obtain ⟨found, hvalue, heq⟩ := Option.map_eq_some_iff.1 hfind
  obtain ⟨rfl, rfl⟩ := Prod.mk.inj heq
  exact ⟨found, hvalue, htext⟩

/-- The path in a configuration is the text under `catalog` in its document. -/
theorem catalog_of_ofBytes {debug : Bool} {bytes : List UInt8} (h : ofBytes debug bytes = .ok c) :
    ∃ d entries value, Yaml.readBytes bytes = .ok d ∧ d.entries? = some entries ∧
      valueOf? "catalog" entries = some value ∧ value.asText = .ok c.catalog := by
  obtain ⟨d, hread, hdocument⟩ := ofBytes_eq_ok_iff.1 h
  obtain ⟨entries, hentries, hchecked⟩ :=
    asRecord_eq_ok_iff.1 (Checked.report_eq_ok_iff.1 hdocument)
  obtain ⟨value, hvalue, htext⟩ := catalog_of_ofEntries hchecked
  exact ⟨d, entries, value, hread, hentries, hvalue, htext⟩

/-- An anchored path is the path itself if it is absolute, and else follows the directory. -/
theorem catalogPath_anchoredAt (h : ∀ name ∈ folder, Path.IsProper name) :
    (c.anchoredAt folder).catalogPath =
      if c.catalogPath.isAbsolute then c.catalogPath
      else (Path.ofLocation folder).join c.catalogPath := by
  unfold anchoredAt
  split_ifs
  · rfl
  · exact Path.ofText_text (Path.isProper_of_mem_join h fun _ => Path.isProper_of_mem_ofText)

/-- An anchored path is absolute. -/
theorem isAbsolute_anchoredAt : (c.anchoredAt folder).catalogPath.isAbsolute = true := by
  unfold anchoredAt
  split_ifs with habsolute
  · exact habsolute
  · exact Path.isAbsolute_ofText_text (Path.isAbsolute_join rfl)

end Config

namespace Surroundings

variable {s : Surroundings} {c config : Config} {p : Path} {folder : Location} {name : String}

/-- A configuration with its catalog path anchored at the directory of a file, which is looked for
only if the path is relative and need not be there. -/
def anchored (s : Surroundings) (c : Config) (p : Path) : Except LoadError Config :=
  if c.catalogPath.isAbsolute then .ok c
  else if p.isUnusable then .error (.unreadable (.ofText p.askedPart.text) p.askedPart)
  else (s.locate p).map fun l => c.anchoredAt l.dropLast

/-- What is anchored has an absolute path. -/
theorem isAbsolute_of_anchored (h : s.anchored c p = .ok config) :
    config.catalogPath.isAbsolute = true := by
  unfold anchored at h
  split_ifs at h with habsolute
  · obtain rfl := Except.ok.inj h
    exact habsolute
  · cases hlocate : s.locate p with
    | error fault =>
        rw [hlocate] at h
        exact nomatch h
    | ok l =>
        rw [hlocate] at h
        obtain rfl := Except.ok.inj h
        exact Config.isAbsolute_anchoredAt

/-- **Anchoring is stable**: what is anchored stays as it is, wherever it is anchored again. -/
theorem anchored_anchored (s s' : Surroundings) (c : Config) (p q : Path) :
    (s.anchored c p >>= fun config => s'.anchored config q) = s.anchored c p := by
  cases h : s.anchored c p with
  | error fault => rfl
  | ok config =>
      show s'.anchored config q = .ok config
      unfold anchored
      rw [if_pos (isAbsolute_of_anchored h)]

/-- The bytes of a file are those that the system reads. -/
theorem readFile_eq_ok_iff {bytes : List UInt8} :
    s.readFile p = .ok bytes ↔ s.files.readFile s.directory p = .ok bytes := by
  unfold readFile
  cases s.files.readFile s.directory p with
  | ok b => simp
  | error fault => simp

/-- A file that is read has a path that the system takes. -/
theorem isUnusable_of_readFile {bytes : List UInt8} (h : s.readFile p = .ok bytes) :
    p.isUnusable = false := by
  obtain ⟨place, hplace, -⟩ :=
    FileTree.entryAt_eq_ok_iff.1 (FileTree.readFile_eq_ok_iff.1 (readFile_eq_ok_iff.1 h))
  exact (FileTree.placeAt_eq_ok_iff.1 hplace).1

/-- **Loading a file** is reading it and anchoring what it says at that file. -/
theorem configAt_eq_ok_iff :
    s.configAt p = .ok config ↔
      ∃ bytes c, s.readFile p = .ok bytes ∧ Config.ofBytes s.debugDefault bytes = .ok c ∧
        s.anchored c p = .ok config := by
  have hanchored {bytes : List UInt8} (c : Config) (hread : s.readFile p = .ok bytes) :
      (if c.catalogPath.isAbsolute = true then (pure c : Except LoadError Config)
        else do return c.anchoredAt (← s.locate p).dropLast) = s.anchored c p := by
    have husable := isUnusable_of_readFile hread
    unfold anchored
    by_cases habsolute : c.catalogPath.isAbsolute = true
    · rw [if_pos habsolute, if_pos habsolute]
      rfl
    · rw [if_neg habsolute, if_neg habsolute, if_neg (by simp [husable])]
      cases s.locate p <;> rfl
  unfold configAt
  rw [bind_eq_ok_iff]
  constructor
  · rintro ⟨bytes, hread, h⟩
    obtain ⟨c, hbytes, h⟩ := bind_eq_ok_iff.1 h
    exact ⟨bytes, c, hread, hbytes, hanchored c hread ▸ h⟩
  · rintro ⟨bytes, c, hread, hbytes, h⟩
    exact ⟨bytes, hread, bind_eq_ok_iff.2 ⟨c, hbytes, hanchored c hread ▸ h⟩⟩

end Surroundings

end ColumnTypes
