import ColumnTypes.Command.Loading
import ColumnTypes.Proofs.Catalog.Reading
import ColumnTypes.Proofs.Command.Running
import ColumnTypes.Proofs.Outcomes

/-!
# Loading in commands, where it goes on

A command that goes on after loading has loaded what there is, and has neither written nor logged
anything: stream, explanation and stack trace matter only to those that do not go on. So all
commands load the same configuration and the same catalog.
-/

namespace ColumnTypes.Command

open Command.Action

variable {α : Type} {s : Surroundings} {width : Nat} {stream : Stream} {subject : Subject}
  {debug : Bool} {p q : Progress}

/-! ## Explanations -/

/-- An explanation ends the command. -/
theorem not_returns_explain {e : LoadError} {x : α} :
    ¬(explain width stream subject debug e : Action α).Returns p x q := by
  unfold explain
  split
  · exact not_returns_stop
  · have hline : ∀ {r markup}, ¬(do print width stream markup; fail e.message :
        Action α).Returns r x q :=
      not_returns_bind fun _ _ => not_returns_fail
    cases debug with
    | false => exact hline
    | true => exact not_returns_bind fun _ _ => hline

/-- What is loaded goes on as it is. -/
theorem returns_loaded_iff {result : Except LoadError α} {x : α} :
    (loaded width stream subject debug result).Returns p x q ↔ result = .ok x ∧ q = p := by
  cases result with
  | ok y => simp [loaded, returns_pure_iff, eq_comm]
  | error e => simp [loaded, not_returns_explain]

/-! ## Configurations -/

/-- The configuration file of a command: the named one, or else the nearest one. -/
def ConfigFound (s : Surroundings) (named : Option Path) (path : Path) : Prop :=
  named = some path ∨
    named = none ∧ ∃ l, s.nearestConfig = .ok (some l) ∧ path = Path.ofLocation l

/-- One configuration file is found. -/
theorem ConfigFound.unique {named : Option Path} {path path' : Path}
    (h : ConfigFound s named path) (h' : ConfigFound s named path') : path = path' := by
  rcases h with rfl | ⟨rfl, l, hl, rfl⟩
  · rcases h' with hpath | ⟨hnone, -⟩
    · exact Option.some.inj hpath
    · exact nomatch hnone
  · rcases h' with hsome | ⟨-, l', hl', rfl⟩
    · exact nomatch hsome
    · rw [Option.some.inj (Except.ok.inj (hl.symm.trans hl'))]

/-- A configuration that is found is the one that is loaded. -/
theorem loadConfig_of_configFound {named : Option Path} {path : Path}
    (h : ConfigFound s named path) : s.loadConfig named = s.configAt path := by
  rcases h with rfl | ⟨rfl, l, hl, rfl⟩
  · rfl
  · simp [Surroundings.loadConfig, hl]

/-- The nearest configuration is found where none is named. -/
theorem configFound_of_nearest {l : Location} {cfg : Config}
    (hnearest : s.nearestConfig = .ok (some l)) (hcfg : s.loadConfig none = .ok cfg) :
    ConfigFound s none (.ofLocation l) ∧ s.configAt (.ofLocation l) = .ok cfg := by
  have hfound : ConfigFound s none (.ofLocation l) := .inr ⟨rfl, l, hnearest, rfl⟩
  exact ⟨hfound, (loadConfig_of_configFound hfound).symm.trans hcfg⟩

/-- The path that a command goes on with is that of its configuration file. -/
theorem returns_configPath_some_iff {named : Option Path} {path : Path} :
    (configPath s named).Returns p (some path) q ↔ ConfigFound s named path ∧ q = p := by
  unfold configPath ConfigFound
  cases named with
  | some c => simp [returns_pure_iff, eq_comm]
  | none =>
      cases h : s.nearestConfig with
      | error e => simp [crash, not_returns_stop]
      | ok l =>
          cases l with
          | none => simp [returns_pure_iff]
          | some l => simp [returns_pure_iff]

/-- The configuration that a command goes on with is the one in the file that is found. -/
theorem returns_optionalConfig_some_iff {named : Option Path} {config : Config} {path : Path} :
    (optionalConfig s stream named debug).Returns p (some (config, path)) q ↔
      ConfigFound s named path ∧ s.configAt path = .ok config ∧ q = p := by
  unfold optionalConfig
  rw [returns_bind_iff]
  constructor
  · rintro ⟨found, r, hfound, h⟩
    cases found with
    | none => simp [returns_pure_iff] at h
    | some path' =>
        obtain ⟨config', r', hconfig, h⟩ := returns_bind_iff.1 h
        obtain ⟨heq, rfl⟩ := returns_pure_iff.1 h
        obtain ⟨rfl, rfl⟩ := Prod.mk.inj (Option.some.inj heq)
        obtain ⟨hpath, rfl⟩ := returns_configPath_some_iff.1 hfound
        obtain ⟨hok, rfl⟩ := returns_loaded_iff.1 hconfig
        exact ⟨hpath, hok, rfl⟩
  · rintro ⟨hpath, hconfig, rfl⟩
    refine ⟨some path, q, returns_configPath_some_iff.2 ⟨hpath, rfl⟩, ?_⟩
    exact returns_bind_iff.2
      ⟨config, q, returns_loaded_iff.2 ⟨hconfig, rfl⟩, returns_pure_iff.2 ⟨rfl, rfl⟩⟩

/-- A required configuration is an optional one that is there. -/
theorem returns_requiredConfig_iff {named : Option Path} {config : Config} {path : Path} :
    (requiredConfig s stream named debug).Returns p (config, path) q ↔
      ConfigFound s named path ∧ s.configAt path = .ok config ∧ q = p := by
  rw [← returns_optionalConfig_some_iff]
  unfold requiredConfig
  rw [returns_bind_iff]
  constructor
  · rintro ⟨found, r, hfound, h⟩
    cases found with
    | none => exact absurd h (not_returns_bind fun _ _ => not_returns_fail)
    | some found =>
        obtain ⟨rfl, rfl⟩ := returns_pure_iff.1 h
        exact hfound
  · intro h
    exact ⟨some (config, path), q, h, returns_pure_iff.2 ⟨rfl, rfl⟩⟩

/-! ## Catalogs -/

/-- Only valid catalogs are loaded. -/
theorem isValid_of_loadCatalog {path : Path} {c : Catalog} (h : s.loadCatalog path = .ok c) :
    c.IsValid := by
  unfold Surroundings.loadCatalog at h
  obtain ⟨files, -, h⟩ := bind_eq_ok_iff.1 h
  obtain ⟨parts, -, hcatalog⟩ := bind_eq_ok_iff.1 h
  exact Catalog.isValid_of_ofEntries (CatalogParts.catalog_eq_ok_iff_ofEntries.1 hcatalog)

/-- The catalog that a command goes on with is the one at the path. -/
theorem returns_requiredCatalog_iff {path : Path} {c : Catalog} :
    (requiredCatalog s stream path debug).Returns p c q ↔ s.loadCatalog path = .ok c ∧ q = p :=
  returns_loaded_iff

end ColumnTypes.Command
