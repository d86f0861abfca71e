import ColumnTypes.Proofs.Validation

/-!
# Which faults a check reports

A check that is put together from others reports the faults of all of them, one check after the
other and each fault at its place:

* `faults_both`, `faults_under`, `faults_each` for outcomes;
* `filter_asList`, `filter_listField` - the faults at a position of a list are those of the item
  that is there;
* `filter_optionalField`, `filter_requiredField`, `filter_noOtherEntries` - no other field has a
  fault there, nor has an entry that is no field.

A fault is **at** a place (`Fault.isAt`) if it is there or further inside.
-/

namespace ColumnTypes

/-! ## Places -/

namespace Fault

/-- The same fault, seen from further outside. -/
def within (path : List Step) (f : Fault) : Fault :=
  { f with location := path ++ f.location }

/-- Whether a fault is at a place or further inside. -/
def isAt (path : List Step) (f : Fault) : Bool :=
  path.isPrefixOf f.location

variable {f : Fault} {faults : List Fault} {path rest : List Step} {step other : Step}

/-- Every fault is somewhere. -/
theorem filter_isAt_nil : faults.filter (isAt []) = faults :=
  List.filter_eq_self.2 fun _ _ => rfl

/-- A fault that is moved outwards twice is moved all the way. -/
theorem within_comp_within (outer : List Step) :
    within outer ∘ within path = within (outer ++ path) := by
  funext f
  simp [within]

/-- Among the faults at a place are those further inside. -/
theorem filter_isAt_append :
    faults.filter (isAt (path ++ rest)) =
      (faults.filter (isAt path)).filter (isAt (path ++ rest)) := by
  rw [List.filter_filter]
  refine List.filter_congr fun f _ => ?_
  cases h : f.isAt (path ++ rest) with
  | false => rfl
  | true =>
      unfold isAt at h ⊢
      rw [List.isPrefixOf_iff_prefix] at h
      rw [List.isPrefixOf_iff_prefix.2 ((List.prefix_append path rest).trans h)]
      rfl

/-- Faults that are moved outwards keep their places. -/
theorem filter_isAt_within :
    (faults.map (within path)).filter (isAt (path ++ rest)) =
      (faults.filter (isAt rest)).map (within path) := by
  have hplace (f : Fault) : (f.within path).isAt (path ++ rest) = f.isAt rest := by
    induction path with
    | nil => rfl
    | cons step path ih => simpa [isAt, within] using ih
  rw [List.filter_map]
  exact congrArg _ (List.filter_congr fun f _ => hplace f)

end Fault

/-! ## Outcomes -/

namespace Checked

variable {α β : Type} {c : Checked α} {check : Document → Checked α} {ds : List Document}
  {item : Document} {start i : Nat} {step other : Step} {rest : List Step}

/-- The faults of an outcome. -/
def faults : Checked α → List Fault
  | .ok _ => []
  | .error faults => faults

/-- What is made of a value adds no fault. -/
theorem faults_map (c : Checked α) (f : α → β) : faults (c.map f) = c.faults := by
  cases c <;> rfl

/-- Both outcomes report their faults. -/
theorem faults_both (c : Checked α) (d : Checked β) : (c.both d).faults = c.faults ++ d.faults := by
  cases c with
  | ok a => cases d <;> rfl
  | error fs =>
      cases d with
      | ok b => exact (List.append_nil fs).symm
      | error gs => rfl

/-- Under a step the faults are seen from there. -/
theorem faults_under (c : Checked α) (step : Step) :
    (c.under step).faults = c.faults.map (Fault.within [step]) := by
  cases c <;> rfl

/-- Under a step there are faults only behind it. -/
theorem filter_under_of_ne (h : other ≠ step) :
    (c.under step).faults.filter (Fault.isAt (other :: rest)) = [] := by
  rw [faults_under, List.filter_eq_nil_iff]
  intro f hf
  obtain ⟨g, -, rfl⟩ := List.mem_map.1 hf
  simp [Fault.isAt, Fault.within, h]

/-- Behind a step are the faults that are seen from there. -/
theorem filter_under :
    (c.under step).faults.filter (Fault.isAt (step :: rest)) =
      (c.faults.filter (Fault.isAt rest)).map (Fault.within [step]) := by
  rw [faults_under]
  show (c.faults.map (Fault.within [step])).filter (Fault.isAt ([step] ++ rest)) = _
  exact Fault.filter_isAt_within

/-- The first of some items reports its faults at its position, and so do the others. -/
theorem faults_each_cons :
    (each check start (item :: ds)).faults =
      ((check item).under (.item start)).faults ++ (each check (start + 1) ds).faults := by
  rw [each, ← faults_both]
  split
  · next hboth => rw [hboth]; rfl
  · next hboth => rw [hboth]; rfl

/-- Items report their faults at their positions, one item after the other. -/
theorem faults_each :
    (each check start ds).faults =
      (ds.zipIdx start).flatMap fun (d, n) => (check d).faults.map (Fault.within [.item n]) := by
  induction ds generalizing start with
  | nil => rfl
  | cons d ds ih => rw [faults_each_cons, faults_under, ih, List.zipIdx_cons, List.flatMap_cons]

/-- No item reports a fault at an earlier position. -/
theorem filter_each_of_lt (h : i < start) :
    (each check start ds).faults.filter (Fault.isAt [.item i]) = [] := by
  induction ds generalizing start with
  | nil => rfl
  | cons d ds ih =>
      have hne : Step.item i ≠ .item start := fun heq => by
        have := Step.item.inj heq
        omega
      rw [faults_each_cons, List.filter_append, filter_under_of_ne hne, ih (by omega),
        List.append_nil]

/-- The faults at a position of some items are those of the item there. -/
theorem filter_each (h : ds[i]? = some item) :
    (each check start ds).faults.filter (Fault.isAt [.item (start + i : Nat)]) =
      (check item).faults.map (Fault.within [.item (start + i : Nat)]) := by
  induction ds generalizing start i with
  | nil => exact nomatch h
  | cons d ds ih =>
      rw [faults_each_cons, List.filter_append]
      cases i with
      | zero =>
          obtain rfl : d = item := Option.some.inj h
          rw [Nat.add_zero, filter_under, Fault.filter_isAt_nil, filter_each_of_lt (by omega),
            List.append_nil]
      | succ i =>
          have hne : Step.item (start + (i + 1) : Nat) ≠ .item start := fun heq => by
            have := Step.item.inj heq
            omega
          have hnext : start + (i + 1) = start + 1 + i := by omega
          rw [filter_under_of_ne hne, List.nil_append, hnext, ih h]

end Checked

/-! ## Fields -/

namespace Document

open Checked

variable {α : Type} {name : String} {names used : List String} {check : Document → Checked α}
  {entries : List (Document × Document)} {items : List Document} {d item : Document} {default : α}
  {i : Nat} {step : Step} {rest : List Step}

/-- The faults at a position of a list are those of the item there. -/
theorem filter_asList (hitems : d.items? = some items) (h : items[i]? = some item) :
    (asList check d).faults.filter (Fault.isAt [.item i]) =
      (check item).faults.map (Fault.within [.item i]) := by
  unfold asList
  rw [hitems]
  have heach : (each check 0 items).faults.filter (Fault.isAt [.item (0 + i : Nat)]) =
      (check item).faults.map (Fault.within [.item (0 + i : Nat)]) := filter_each h
  rwa [Nat.zero_add] at heach

/-- The faults at a position of a field's list are those of the item there. -/
theorem filter_listField {default : List α} (hd : valueOf? name entries = some d)
    (hitems : d.items? = some items) (h : items[i]? = some item) :
    (optionalField [name] (asList check) default entries).faults.filter
        (Fault.isAt [.field name, .item i]) =
      (check item).faults.map (Fault.within [.field name, .item i]) := by
  unfold optionalField
  rw [findField?_singleton, hd, Option.map_some]
  dsimp only
  rw [filter_under, filter_asList hitems h, List.map_map, Fault.within_comp_within]
  rfl

/-- A field is found under one of its names. -/
theorem mem_of_findField? (h : findField? names entries = some (name, d)) : name ∈ names := by
  obtain ⟨name', hmem, hfound⟩ := List.exists_of_findSome?_eq_some h
  obtain ⟨v, -, heq⟩ := Option.map_eq_some_iff.1 hfound
  obtain ⟨rfl, -⟩ := Prod.mk.inj heq
  exact hmem

/-- An optional field has its faults under its own names. -/
theorem filter_optionalField (h : name ∉ names) :
    (optionalField names check default entries).faults.filter
      (Fault.isAt (.field name :: rest)) = [] := by
  unfold optionalField
  split
  · next name' d hfound =>
    refine filter_under_of_ne fun heq => h ?_
    rw [Step.field.inj heq]
    exact mem_of_findField? hfound
  · rfl

/-- A required field has its faults under its own names. -/
theorem filter_requiredField (hne : names ≠ []) (h : name ∉ names) :
    (requiredField names check entries).faults.filter (Fault.isAt (.field name :: rest)) = [] := by
  unfold requiredField
  split
  · next name' d hfound =>
    refine filter_under_of_ne fun heq => h ?_
    rw [Step.field.inj heq]
    exact mem_of_findField? hfound
  · refine filter_under_of_ne fun heq => h ?_
    obtain ⟨first, others, rfl⟩ := List.exists_cons_of_ne_nil hne
    rw [Step.field.inj heq]
    exact List.mem_cons_self

/-- An entry that is no field is a fault by itself, not further inside. -/
theorem filter_noOtherEntries {next : Step} :
    (noOtherEntries used entries).faults.filter (Fault.isAt (step :: next :: rest)) = [] := by
  rw [List.filter_eq_nil_iff]
  intro f hf
  unfold noOtherEntries at hf
  split at hf
  · exact absurd hf List.not_mem_nil
  · obtain ⟨⟨key, value⟩, -, hentry⟩ := List.mem_filterMap.1 hf
    have hlocation : f.location = [keyStep key] := by
      dsimp only at hentry
      split at hentry
      · split_ifs at hentry
        rw [← Option.some.inj hentry]
      · rw [← Option.some.inj hentry]
    simp [Fault.isAt, hlocation]

end Document

end ColumnTypes
