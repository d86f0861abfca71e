import ColumnTypes.Proofs.Document.Keys
import ColumnTypes.Proofs.Validation

/-!
# What checks accept among JSON values

A document is a **JSON value** if it can be written as one: no dates, sets, pairs, bytes or loops,
and keys that are texts.  Its texts may hold surrogates, which JSON has escapes for.  Among these
values the checks accept shapes that can be told without them:

* `IsText`, `IsNonemptyText`, `IsTruthValue` of single values;
* `IsListOf`, `IsRecord` of collections;
* `HasField`, `MayHaveField`, `HasOnly` of the entries of a mapping.

`Accepts check P` says that a check accepts the JSON values with the property `P` and no others.
It is proved of a check that is put together from others by what these accept.
-/

namespace ColumnTypes

/-! ## Success -/

namespace Checked

variable {α β : Type} {c : Checked α} {check : Document → Checked α} {ds : List Document}

/-- Whether a check has succeeded, with whatever value. -/
def Passes (c : Checked α) : Prop :=
  ∃ a, c = .ok a

/-- A value passes. -/
theorem passes_ok (a : α) : Passes (.ok a) :=
  ⟨a, rfl⟩

/-- Faults do not pass. -/
theorem not_passes_error (faults : List Fault) : ¬ Passes (.error faults : Checked α) :=
  fun ⟨_, h⟩ => nomatch h

/-- What is made of a value does not matter for success. -/
theorem passes_map {f : α → β} : Passes (c.map f) ↔ c.Passes := by
  cases c with
  | ok a => exact iff_of_true (passes_ok (f a)) (passes_ok a)
  | error faults => exact iff_of_false (not_passes_error faults) (not_passes_error faults)

/-- Two outcomes pass together. -/
theorem passes_both {d : Checked β} : (c.both d).Passes ↔ c.Passes ∧ d.Passes := by
  constructor
  · rintro ⟨⟨a, b⟩, h⟩
    obtain ⟨hc, hd⟩ := both_eq_ok_iff.1 h
    exact ⟨⟨a, hc⟩, ⟨b, hd⟩⟩
  · rintro ⟨⟨a, hc⟩, ⟨b, hd⟩⟩
    exact ⟨(a, b), both_eq_ok_iff.2 ⟨hc, hd⟩⟩

/-- The place of an outcome does not matter for success. -/
theorem passes_under {step : Step} : (c.under step).Passes ↔ c.Passes :=
  exists_congr fun _ => under_eq_ok_iff

/-- Items pass together. -/
theorem passes_each {start : Nat} : (each check start ds).Passes ↔ ∀ d ∈ ds, (check d).Passes := by
  constructor
  · rintro ⟨as, h⟩ d hd
    obtain ⟨i, hi, rfl⟩ := List.getElem_of_mem hd
    have hall := each_eq_ok_iff.1 h
    exact ⟨_, hall.get hi (hall.length_eq ▸ hi)⟩
  · intro h
    choose f hf using h
    refine ⟨ds.attach.map fun d => f d.1 d.2, each_eq_ok_iff.2 ?_⟩
    rw [List.forall₂_map_right_iff]
    conv => lhs; rw [← List.attach_map_subtype_val ds]
    rw [List.forall₂_map_left_iff, List.forall₂_same]
    exact fun d _ => hf d.1 d.2

end Checked

namespace Document

open Checked

/-! ## JSON values -/

/-- A value that can be written in JSON. -/
inductive IsJson : Document → Prop
  | null : IsJson .null
  | bool {b : Bool} : IsJson (.bool b)
  | int {n : Int} : IsJson (.int n)
  | float {x : Float} : IsJson (.float x)
  | str {s : String} : IsJson (.str s)
  | list {items : List Document} : (∀ d ∈ items, IsJson d) → IsJson (.list items)
  | map {entries : List (Document × Document)} :
      (∀ e ∈ entries, ∃ s, e.1 = .str s) → (∀ e ∈ entries, IsJson e.2) → IsJson (.map entries)

variable {d v : Document} {items : List Document} {entries : List (Document × Document)}
  {name : String} {names : List String}

/-- The items of a JSON list are JSON values. -/
theorem IsJson.of_mem (h : (Document.list items).IsJson) (hd : d ∈ items) : d.IsJson := by
  cases h with
  | list hitems => exact hitems d hd

/-- A field of a JSON mapping is a JSON value. -/
theorem IsJson.of_valueOf? (h : (Document.map entries).IsJson)
    (hv : valueOf? name entries = some v) : v.IsJson := by
  cases h with
  | map _ hvalues => exact hvalues _ (mem_of_valueOf? hv)

/-! ## Shapes -/

/-- A text. -/
def IsText : Document → Prop
  | str _ => True
  | _ => False

/-- A text of at least one character, without surrogates. -/
def IsNonemptyText : Document → Prop
  | str s => Text.hasSurrogate s = false ∧ s ≠ ""
  | _ => False

/-- A truth value as such, one or zero, or a word for a truth value in any case of its letters. -/
def IsTruthValue : Document → Prop
  | bool _ => True
  | int n => n = 0 ∨ n = 1
  | float x => Decimal.toInt? x = some 0 ∨ Decimal.toInt? x = some 1
  | str s => s.map Char.toLower ∈ truthWords.map Prod.fst
  | _ => False

/-- A list of values of a shape. -/
def IsListOf (P : Document → Prop) : Document → Prop
  | list items => ∀ d ∈ items, P d
  | _ => False

/-- A mapping with entries of a shape. -/
def IsRecord (P : List (Document × Document) → Prop) : Document → Prop
  | map entries => P entries
  | _ => False

/-- A field of a shape is there. -/
def HasField (name : String) (P : Document → Prop) (entries : List (Document × Document)) : Prop :=
  ∃ v, valueOf? name entries = some v ∧ P v

/-- A field has a shape if it is there. -/
def MayHaveField (name : String) (P : Document → Prop) (entries : List (Document × Document)) :
    Prop :=
  ∀ v, valueOf? name entries = some v → P v

/-- No key but some names is there. -/
def HasOnly (names : List String) (entries : List (Document × Document)) : Prop :=
  ∀ e ∈ entries, ∃ name ∈ names, e.1 = .str name

/-- No key is a text with surrogates. -/
def HasWholeKeys (entries : List (Document × Document)) : Prop :=
  ∀ e ∈ entries, e.1.isBrokenText = false

instance (entries : List (Document × Document)) : Decidable (HasWholeKeys entries) :=
  inferInstanceAs (Decidable (∀ e ∈ entries, e.1.isBrokenText = false))

/-- Where only whole names are there, no key is broken. -/
theorem HasOnly.hasWholeKeys (h : HasOnly names entries)
    (hnames : ∀ name ∈ names, Text.hasSurrogate name = false) : HasWholeKeys entries := by
  intro e he
  obtain ⟨name, hname, hkey⟩ := h e he
  rw [hkey]
  exact hnames name hname

/-! ## Checks of single values -/

variable {α : Type} {check : Document → Checked α} {P : Document → Prop}

/-- A check accepts exactly the JSON values with a property. -/
def Accepts (check : Document → Checked α) (P : Document → Prop) : Prop :=
  ∀ ⦃d⦄, d.IsJson → ((check d).Passes ↔ P d)

/-- Texts are accepted as texts. -/
theorem accepts_asText : Accepts asText IsText := by
  intro d hd
  cases hd with
  | str => exact iff_of_true (passes_ok _) trivial
  | _ => exact iff_of_false (not_passes_error _) id

/-- Whole texts of at least one character are accepted where none may be empty. -/
theorem accepts_asNonemptyText : Accepts asNonemptyText IsNonemptyText := by
  intro d hd
  cases hd with
  | @str s =>
      unfold asNonemptyText asText IsNonemptyText
      dsimp only
      split_ifs with hbroken hempty
      · exact iff_of_false (not_passes_error _) fun h => by simp [hbroken] at h
      · exact iff_of_false (not_passes_error _) fun h => h.2 (String.isEmpty_iff.1 hempty)
      · refine iff_of_true (passes_ok s) ⟨Bool.eq_false_iff.2 hbroken, ?_⟩
        exact fun hs => hempty (String.isEmpty_iff.2 hs)
  | _ => exact iff_of_false (not_passes_error _) id

/-- Of the integers one and zero are truth values. -/
theorem passes_truthOfInt {n : Int} : (truthOfInt d n).Passes ↔ n = 0 ∨ n = 1 := by
  unfold truthOfInt
  split_ifs with hzero hone
  · exact iff_of_true (passes_ok _) (.inl hzero)
  · exact iff_of_true (passes_ok _) (.inr hone)
  · exact iff_of_false (not_passes_error _) (not_or.2 ⟨hzero, hone⟩)

/-- A word stands for a truth value exactly if it is listed. -/
theorem truthOfWord?_isSome_iff {s : String} :
    (truthOfWord? s).isSome ↔ s.map Char.toLower ∈ truthWords.map Prod.fst := by
  unfold truthOfWord?
  rw [List.lookup_isSome_iff]
  simp only [beq_iff_eq, List.mem_map]
  exact exists_congr fun p => and_congr_right fun _ => eq_comm

/-- Truth values are accepted as such. -/
theorem accepts_asBool : Accepts asBool IsTruthValue := by
  intro d hd
  cases hd with
  | bool => exact iff_of_true (passes_ok _) trivial
  | @int n =>
      unfold asBool IsTruthValue
      dsimp only
      split
      · exact passes_truthOfInt
      · next hfits =>
        refine iff_of_false (not_passes_error _) ?_
        rintro (rfl | rfl) <;> exact hfits (by decide)
  | @float x =>
      unfold asBool IsTruthValue
      dsimp only
      split
      · next n hn =>
        rw [hn, Option.some.injEq, Option.some.injEq]
        split
        · exact passes_truthOfInt
        · next hfits =>
          refine iff_of_false (not_passes_error _) ?_
          rintro (rfl | rfl) <;> exact hfits (by decide)
      · next hn =>
        rw [hn]
        exact iff_of_false (not_passes_error _) (by simp)
  | @str s =>
      unfold asBool IsTruthValue
      dsimp only
      rw [← truthOfWord?_isSome_iff]
      split
      · next b hb => exact iff_of_true (passes_ok b) (by rw [hb]; rfl)
      · next hb => exact iff_of_false (not_passes_error _) (by simp [hb])
  | _ => exact iff_of_false (not_passes_error _) id

/-! ## Checks of collections -/

/-- A list is accepted exactly if its items are. -/
theorem accepts_asList (h : Accepts check P) : Accepts (asList check) (IsListOf P) := by
  intro d hd
  cases hd with
  | list hitems => exact passes_each.trans (forall₂_congr fun d hd => h (hitems d hd))
  | _ => exact iff_of_false (not_passes_error _) id

/-- A record is accepted exactly if its entries are, where these have whole keys. -/
theorem accepts_asStrictRecord {model : String} {check : List (Document × Document) → Checked α}
    {P : List (Document × Document) → Prop} (hkeys : ∀ ⦃entries⦄, P entries → HasWholeKeys entries)
    (h : ∀ ⦃entries⦄, (Document.map entries).IsJson → ((check entries).Passes ↔ P entries)) :
    Accepts (asStrictRecord model check) (IsRecord P) := by
  intro d hd
  cases hd with
  | @map entries htexts hvalues =>
      by_cases hwhole : HasWholeKeys entries
      · rw [asStrictRecord_of_entries rfl hwhole]
        exact h (.map htexts hvalues)
      · refine iff_of_false ?_ fun hP => hwhole (hkeys hP)
        rintro ⟨a, ha⟩
        obtain ⟨entries', hentries, hwhole', -⟩ := asStrictRecord_eq_ok_iff.1 ha
        obtain rfl : entries = entries' := Option.some.inj hentries
        exact hwhole hwhole'
  | _ => exact iff_of_false (not_passes_error _) id

/-! ## Checks of fields -/

/-- A field that may be absent. -/
theorem passes_optionalField {default : α} (h : Accepts check P)
    (hentries : (Document.map entries).IsJson) :
    (optionalField [name] check default entries).Passes ↔ MayHaveField name P entries := by
  unfold optionalField MayHaveField
  rw [findField?_singleton]
  cases hv : valueOf? name entries with
  | none => exact iff_of_true (passes_ok default) fun _ h => nomatch h
  | some v =>
      rw [Option.map_some]
      refine passes_under.trans ((h (hentries.of_valueOf? hv)).trans ?_)
      exact ⟨fun hP w hw => Option.some.inj hw ▸ hP, fun hall => hall v rfl⟩

/-- A field that must be there. -/
theorem passes_requiredField (h : Accepts check P) (hentries : (Document.map entries).IsJson) :
    (requiredField [name] check entries).Passes ↔ HasField name P entries := by
  unfold requiredField HasField
  rw [findField?_singleton]
  cases hv : valueOf? name entries with
  | none => exact iff_of_false (not_passes_error _) fun ⟨_, h, _⟩ => nomatch h
  | some v =>
      rw [Option.map_some]
      refine passes_under.trans ((h (hentries.of_valueOf? hv)).trans ?_)
      exact ⟨fun hP => ⟨v, rfl, hP⟩, fun ⟨w, hw, hP⟩ => Option.some.inj hw ▸ hP⟩

/-- The entries that no field has used. -/
theorem passes_noOtherEntries : (noOtherEntries names entries).Passes ↔ HasOnly names entries :=
  ⟨fun ⟨_, h⟩ => noOtherEntries_eq_ok_iff.1 h, fun h => ⟨(), noOtherEntries_eq_ok_iff.2 h⟩⟩

end Document

end ColumnTypes
