import ColumnTypes.Validation.Report
import Mathlib.Data.List.Forall2

/-!
# When checks succeed

Every way of putting checks together succeeds exactly if its parts do.  The lemmas below say so, one
for each way, so that what a record's check accepts can be read off its definition:

* `both_eq_ok_iff`, `under_eq_ok_iff`, `each_eq_ok_iff` for outcomes;
* `requiredField_eq_ok_iff`, `optionalField_eq_ok_iff`, `noOtherEntries_eq_ok_iff` for entries;
* `asList_eq_ok_iff`, `asRecord_eq_ok_iff`, `asStrictRecord_eq_ok_iff` for collections.
-/

namespace ColumnTypes

/-! ## Outcomes -/

namespace Checked

variable {α β : Type}

instance {ε : Type} [DecidableEq α] (r : Except ε α) (a : α) : Decidable (r = .ok a) :=
  match r with
  | .ok b => decidable_of_iff (b = a) (by simp)
  | .error _ => .isFalse (by simp)

/-- A mapped outcome succeeds with an image. -/
theorem map_eq_ok_iff {f : α → β} {c : Checked α} {b : β} :
    c.map f = .ok b ↔ ∃ a, c = .ok a ∧ f a = b := by
  cases c with
  | ok a => simp [Except.map]
  | error faults => simp [Except.map]

/-- The place of an outcome does not matter for its success. -/
@[simp] theorem under_eq_ok_iff {step : Step} {c : Checked α} {a : α} :
    c.under step = .ok a ↔ c = .ok a := by
  cases c with
  | ok b => rfl
  | error faults => simp [under]

/-- Nor does the report on its faults. -/
theorem report_eq_ok_iff {model : String} {c : Checked α} {a : α} :
    c.report model = .ok a ↔ c = .ok a := by
  cases c with
  | ok b => simp [report]
  | error faults => simp [report]

/-- Two outcomes succeed together. -/
@[simp] theorem both_eq_ok_iff {c : Checked α} {d : Checked β} {p : α × β} :
    c.both d = .ok p ↔ c = .ok p.1 ∧ d = .ok p.2 := by
  obtain ⟨a, b⟩ := p
  cases c with
  | ok a' => cases d <;> simp [both]
  | error f => cases d <;> simp [both]

/-- Checking items one after another succeeds exactly if every item passes. -/
theorem each_eq_ok_iff {check : Document → Checked α} {start : Nat} {ds : List Document}
    {as : List α} :
    each check start ds = .ok as ↔ List.Forall₂ (fun d a => check d = .ok a) ds as := by
  induction ds generalizing start as with
  | nil =>
      rw [List.forall₂_nil_left_iff]
      simp [each, eq_comm]
  | cons d ds ih =>
      rw [List.forall₂_cons_left_iff, each]
      constructor
      · intro h
        split at h
        · rename_i a rest hboth
          obtain ⟨ha, hrest⟩ := both_eq_ok_iff.1 hboth
          obtain rfl := Except.ok.inj h
          exact ⟨a, rest, under_eq_ok_iff.1 ha, ih.1 hrest, rfl⟩
        · exact nomatch h
      · rintro ⟨a, rest, ha, hrest, rfl⟩
        have hboth : both ((check d).under (.item start)) (each check (start + 1) ds) =
            .ok (a, rest) := both_eq_ok_iff.2 ⟨under_eq_ok_iff.2 ha, ih.2 hrest⟩
        rw [hboth]

/-- Items that come from values pass if the check takes every one of them back. -/
theorem each_map {check : Document → Checked α} {f : α → Document} {start : Nat} {as : List α}
    (h : ∀ a ∈ as, check (f a) = .ok a) : each check start (as.map f) = .ok as := by
  rw [each_eq_ok_iff, List.forall₂_map_left_iff, List.forall₂_same]
  exact h

end Checked

namespace Document

/-! ## Fields -/

variable {α : Type} {names used : List String} {check : Document → Checked α}
  {entries : List (Document × Document)} {default a : α}

/-- A required field succeeds exactly if it is there and passes. -/
theorem requiredField_eq_ok_iff :
    requiredField names check entries = .ok a ↔
      ∃ name d, findField? names entries = some (name, d) ∧ check d = .ok a := by
  unfold requiredField
  split
  · rename_i name d h
    simp [h]
  · rename_i h
    simp [h, Checked.fail]

/-- An optional field succeeds exactly if it is absent or passes. -/
theorem optionalField_eq_ok_iff :
    optionalField names check default entries = .ok a ↔
      (findField? names entries = none ∧ a = default) ∨
        ∃ name d, findField? names entries = some (name, d) ∧ check d = .ok a := by
  unfold optionalField
  split
  · rename_i name d h
    simp [h]
  · rename_i h
    simp [h, eq_comm]

/-- The value of a field with one name. -/
theorem findField?_singleton {name : String} :
    findField? [name] entries = (valueOf? name entries).map (name, ·) := by
  unfold findField?
  cases h : valueOf? name entries <;> simp [h]

/-- A field is read alike from entries that have the same value under its name. -/
theorem optionalField_congr {name : String} {entries' : List (Document × Document)}
    (h : valueOf? name entries = valueOf? name entries') :
    optionalField [name] check default entries = optionalField [name] check default entries' := by
  unfold optionalField
  rw [findField?_singleton, findField?_singleton, h]

/-- No other entries are there exactly if every key is a text that a field has used. -/
theorem noOtherEntries_eq_ok_iff :
    noOtherEntries used entries = .ok () ↔
      ∀ e ∈ entries, ∃ s ∈ used, e.1 = .str s := by
  unfold noOtherEntries
  split
  · rename_i h
    simp only [true_iff]
    intro e he
    have hnone := List.filterMap_eq_nil_iff.1 h e he
    obtain ⟨key, value⟩ := e
    cases key with
    | str s =>
        have hs : s ∈ used := by simpa using hnone
        exact ⟨s, hs, rfl⟩
    | _ => simp at hnone
  · rename_i faults hne
    simp only [reduceCtorEq, false_iff]
    intro hall
    apply hne
    rw [List.filterMap_eq_nil_iff]
    rintro ⟨key, value⟩ he
    obtain ⟨s, hs, rfl⟩ := hall _ he
    simp [hs]

/-! ## Collections -/

variable {model : String} {d : Document} {as : List α}
  {checkEntries : List (Document × Document) → Checked α}

/-- A list passes exactly if its items do. -/
theorem asList_eq_ok_iff :
    asList check d = .ok as ↔
      ∃ items, d.items? = some items ∧ List.Forall₂ (fun d a => check d = .ok a) items as := by
  unfold asList
  split
  · rename_i items h
    simp [h, Checked.each_eq_ok_iff]
  · rename_i h
    simp [h, Checked.fail]

/-- A record passes exactly if it is a mapping whose entries pass. -/
theorem asRecord_eq_ok_iff :
    asRecord model checkEntries d = .ok a ↔
      ∃ entries, d.entries? = some entries ∧ checkEntries entries = .ok a := by
  unfold asRecord
  cases d.entries? with
  | none => simp [Checked.fail]
  | some entries => simp

/-- A mapping whose keys can all be told is checked by its entries. -/
theorem asStrictRecord_of_entries (hd : d.entries? = some entries)
    (hwhole : ∀ e ∈ entries, e.1.isBrokenText = false) :
    asStrictRecord model checkEntries d = checkEntries entries := by
  unfold asStrictRecord asRecord
  simp only [hd]
  split
  · rename_i hfind
    have hbroken := List.find?_some hfind
    rw [hwhole _ (List.mem_of_find?_eq_some hfind)] at hbroken
    simp at hbroken
  · rfl

/-- A key that cannot be told is the only fault of a mapping. -/
theorem asStrictRecord_of_brokenKey {e : Document × Document} (hd : d.entries? = some entries)
    (he : entries.find? (·.1.isBrokenText) = some e) :
    asStrictRecord model checkEntries d = .error [⟨[], .brokenText, e.1⟩] := by
  unfold asStrictRecord asRecord
  simp only [hd, he]
  rfl

/-- A strict record passes exactly if it is a mapping whose keys can be told and whose entries
pass. -/
theorem asStrictRecord_eq_ok_iff :
    asStrictRecord model checkEntries d = .ok a ↔
      ∃ entries, d.entries? = some entries ∧ (∀ e ∈ entries, e.1.isBrokenText = false) ∧
        checkEntries entries = .ok a := by
  constructor
  · intro h
    obtain ⟨entries, hd, h⟩ := asRecord_eq_ok_iff.1 h
    split at h
    · exact nomatch h
    · next hfind =>
      refine ⟨entries, hd, fun e he => ?_, h⟩
      simpa using List.find?_eq_none.1 hfind e he
  · rintro ⟨entries, hd, hwhole, h⟩
    rw [asStrictRecord_of_entries hd hwhole, h]

end Document

end ColumnTypes
