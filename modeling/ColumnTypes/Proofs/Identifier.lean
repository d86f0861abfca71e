import ColumnTypes.Identifier
import ColumnTypes.Proofs.Text.Splitting

/-!
# Dotted names and their segments

`Identifier.SpelledBy segments s` says, without splitting anything, that `s` is made of `segments`
with dots between them.  A text that is not empty is spelled by exactly one list of segments, and
reading it as an identifier takes its last segment as the name and the one before as the schema
(`exists_parse?_of_spelledBy`), unless there are more than three (`parse?_of_dots`).

Main statement (`parse?_text_eq_some_iff`): the parts of an identifier that has been read spell the
text that it was read from, so nothing is lost in reading; and an identifier is read back from its
own text exactly if it is one that can be read and has no empty part, because empty parts are not
written.
-/

namespace ColumnTypes.Identifier

/-- Texts without dots that spell a text with dots between them. -/
def SpelledBy (segments : List String) (s : String) : Prop :=
  (∀ segment ∈ segments, '.' ∉ segment.toList) ∧ ".".intercalate segments = s

/-- The number of dots in a text. -/
def dots (s : String) : Nat :=
  s.toList.count '.'

/-- A text that is not empty is split into its parts. -/
theorem parts_of_ne_empty {s : String} (hs : s ≠ "") :
    parts s = (Text.splitAt '.' s.toList).map String.ofList := by
  rw [parts, if_neg (by simpa using hs)]

/-- The parts of a text spell it. -/
theorem spelledBy_parts {s : String} (hs : s ≠ "") : SpelledBy (parts s) s := by
  rw [parts_of_ne_empty hs]
  constructor
  · intro segment h
    obtain ⟨part, hpart, rfl⟩ := List.mem_map.1 h
    simpa using Text.not_mem_of_mem_splitAt hpart
  · rw [← String.toList_inj, String.toList_intercalate, List.map_map]
    simpa [Function.comp_def] using Text.intercalate_splitAt '.' s.toList

/-- Segments that spell a text are found again between its dots. -/
theorem splitAt_of_spelledBy {segments : List String} {s : String} (hne : segments ≠ [])
    (h : SpelledBy segments s) : Text.splitAt '.' s.toList = segments.map String.toList := by
  obtain ⟨hdots, rfl⟩ := h
  rw [String.toList_intercalate]
  apply Text.splitAt_intercalate
  · simpa using hne
  · intro part hpart
    obtain ⟨segment, hmem, rfl⟩ := List.mem_map.1 hpart
    exact hdots segment hmem

/-- Only its parts spell a text. -/
theorem parts_of_spelledBy {segments : List String} {s : String} (hs : s ≠ "")
    (hne : segments ≠ []) (h : SpelledBy segments s) : parts s = segments := by
  rw [parts_of_ne_empty hs, splitAt_of_spelledBy hne h, List.map_map]
  simp [Function.comp_def]

/-- There is one part more than there are dots. -/
theorem length_parts {s : String} (hs : s ≠ "") : (parts s).length = dots s + 1 := by
  rw [parts_of_ne_empty hs, List.length_map, Text.length_splitAt, dots]

/-- A name with three dots or more is no identifier. -/
theorem parse?_of_dots {s : String} (h : 3 ≤ dots s) : parse? s = none := by
  have hs : s ≠ "" := by
    rintro rfl
    exact absurd h (by decide)
  have hlength := length_parts hs
  unfold parse?
  split <;> simp_all

/-- The last segment of an identifier is its name, and the one before it its schema. -/
theorem exists_parse?_of_spelledBy {front : List String} {name s : String} (hs : s ≠ "")
    (h : SpelledBy (front ++ [name]) s) (hdots : dots s ≤ 2) :
    ∃ i, parse? s = some i ∧ i.schema = front.getLast? ∧ i.name = name := by
  have hparts : parts s = front ++ [name] := parts_of_spelledBy hs (by simp) h
  have hlength : front.length ≤ 2 := by
    have := length_parts hs
    rw [hparts, List.length_append, List.length_singleton] at this
    omega
  match front, hlength with
  | [], _ => exact ⟨⟨none, none, name⟩, by simp [parse?, hparts]⟩
  | [schema], _ => exact ⟨⟨none, some schema, name⟩, by simp [parse?, hparts]⟩
  | [catalog, schema], _ => exact ⟨⟨some catalog, some schema, name⟩, by simp [parse?, hparts]⟩

/-- A text that is not empty has a last segment. -/
theorem exists_spelledBy {s : String} (hs : s ≠ "") :
    ∃ front name, SpelledBy (front ++ [name]) s := by
  have hne : parts s ≠ [] := by
    have := length_parts hs
    intro h
    simp [h] at this
  exact ⟨(parts s).dropLast, (parts s).getLast hne, by
    rw [List.dropLast_concat_getLast hne]
    exact spelledBy_parts hs⟩

/-! ## Parts that are set -/

/-- The parts of an identifier that are set. -/
def segments (i : Identifier) : List String :=
  i.catalog.toList ++ i.schema.toList ++ [i.name]

variable {i : Identifier} {s : String}

/-- The parts that an identifier is read from are those that it has. -/
theorem parts_of_parse? (h : parse? s = some i) : parts s = i.segments := by
  unfold parse? at h
  split at h <;> simp_all only [Option.some.injEq, reduceCtorEq]
  all_goals
    subst h
    rfl

/-- The empty text is no identifier. -/
theorem ne_empty_of_parse? (h : parse? s = some i) : s ≠ "" := by
  rintro rfl
  exact nomatch h

/-- An identifier is read from a text that its parts spell. -/
theorem spelledBy_of_parse? (h : parse? s = some i) : SpelledBy i.segments s := by
  rw [← parts_of_parse? h]
  exact spelledBy_parts (ne_empty_of_parse? h)

/-- An identifier that has been read has a schema if it has a catalog. -/
theorem schema_ne_none_of_parse? (h : parse? s = some i) (hc : i.catalog ≠ none) :
    i.schema ≠ none := by
  unfold parse? at h
  split at h <;> simp_all only [Option.some.injEq, reduceCtorEq]
  all_goals
    subst h
    simp_all

/-- A text is read exactly if it is not empty and has at most two dots. -/
theorem isSome_parse?_iff : (parse? s).isSome = true ↔ s ≠ "" ∧ dots s ≤ 2 := by
  constructor
  · intro h
    obtain ⟨i, hi⟩ := Option.isSome_iff_exists.1 h
    refine ⟨ne_empty_of_parse? hi, ?_⟩
    rcases Nat.lt_or_ge 2 (dots s) with hdots | hdots
    · rw [parse?_of_dots hdots] at hi
      exact nomatch hi
    · exact hdots
  · rintro ⟨hs, hdots⟩
    obtain ⟨front, name, hspelled⟩ := exists_spelledBy hs
    obtain ⟨i, hi, -⟩ := exists_parse?_of_spelledBy hs hspelled hdots
    rw [hi]
    rfl

/-! ## Reading what is written -/

/-- A part that is written is set. -/
theorem mem_segments_of_mem_visibleParts {part : String} (h : part ∈ i.visibleParts) :
    part ∈ i.segments ∧ part ≠ "" := by
  obtain ⟨hmem, hne⟩ := List.mem_filter.1 h
  have hne' : part ≠ "" := by simpa using hne
  refine ⟨?_, hne'⟩
  obtain ⟨catalog, schema, name⟩ := i
  cases catalog <;> cases schema <;> simp_all [segments]

/-- All parts that are set are written exactly if none of them is empty. -/
theorem visibleParts_eq_segments_iff :
    i.visibleParts = i.segments ↔ ∀ part ∈ i.segments, part ≠ "" := by
  constructor
  · intro h part hpart
    rw [← h] at hpart
    exact (mem_segments_of_mem_visibleParts hpart).2
  · intro h
    obtain ⟨catalog, schema, name⟩ := i
    cases catalog <;> cases schema <;> simp_all [segments, visibleParts]

/-- The parts that are set are not empty exactly if each of the three is unset or not empty. -/
theorem forall_segments_ne_empty_iff : (∀ part ∈ i.segments, part ≠ "") ↔
    i.name ≠ "" ∧ i.schema ≠ some "" ∧ i.catalog ≠ some "" := by
  obtain ⟨catalog, schema, name⟩ := i
  cases catalog <;> cases schema <;> simp [segments, and_comm, and_left_comm]

/-- An identifier that its text is read as has no part that is set and empty. -/
theorem forall_segments_ne_empty_of_parse?_text (h : parse? i.text = some i) :
    ∀ part ∈ i.segments, part ≠ "" := by
  have hne := ne_empty_of_parse? h
  have hvisible : i.visibleParts ≠ [] := by
    intro hnil
    apply hne
    rw [text, hnil]
    rfl
  have hspelled : SpelledBy i.visibleParts i.text := by
    refine ⟨?_, rfl⟩
    intro part hpart
    exact (spelledBy_of_parse? h).1 part (mem_segments_of_mem_visibleParts hpart).1
  -- The text has one list of parts, which is what is set and what is written.
  rw [← visibleParts_eq_segments_iff, ← parts_of_parse? h]
  exact (parts_of_spelledBy hne hvisible hspelled).symm

/-- An identifier of parts without dots, none of them empty, is what its text is read as. -/
theorem parse?_text (hdots : ∀ part ∈ i.segments, '.' ∉ part.toList)
    (hne : ∀ part ∈ i.segments, part ≠ "") (hcatalog : i.catalog ≠ none → i.schema ≠ none) :
    parse? i.text = some i := by
  have hspelled : SpelledBy i.segments i.text :=
    ⟨hdots, by rw [text, visibleParts_eq_segments_iff.2 hne]⟩
  have hsegments : i.segments ≠ [] := by simp [segments]
  have htext : i.text ≠ "" := by
    intro hempty
    have hsplit := splitAt_of_spelledBy hsegments hspelled
    rw [hempty] at hsplit
    have hlast : i.name.toList ∈ i.segments.map String.toList :=
      List.mem_map_of_mem (by simp [segments])
    rw [← hsplit] at hlast
    have hname : i.name.toList = [] := by simpa [Text.splitAt] using hlast
    exact hne i.name (by simp [segments]) (String.toList_eq_nil_iff.1 hname)
  have hparts := parts_of_spelledBy htext hsegments hspelled
  unfold parse?
  rw [hparts]
  obtain ⟨catalog, schema, name⟩ := i
  cases catalog <;> cases schema <;> simp_all [segments]

/-- **Reading and writing identifiers are inverse exactly where they can be.**  A text is read
exactly if it is not empty and has at most two dots; the parts that are set then spell it, so no two
texts are read as the same identifier.  An identifier is what its text is read as exactly if no part
holds a dot, the name is not empty, schema and catalog are each unset or not empty, and the catalog
is set only if the schema is. -/
theorem parse?_text_eq_some_iff :
    (∀ s, (parse? s).isSome = true ↔ s ≠ "" ∧ dots s ≤ 2) ∧
      (∀ s i, parse? s = some i → ".".intercalate i.segments = s) ∧
      (∀ s s' i, parse? s = some i → parse? s' = some i → s = s') ∧
      ∀ i : Identifier, parse? i.text = some i ↔
        (∀ part ∈ i.segments, '.' ∉ part.toList) ∧ i.name ≠ "" ∧
          i.schema ≠ some "" ∧ i.catalog ≠ some "" ∧ (i.catalog ≠ none → i.schema ≠ none) := by
  have hspells : ∀ s i, parse? s = some i → ".".intercalate i.segments = s := by
    intro s i h
    exact (spelledBy_of_parse? h).2
  refine ⟨fun _ => isSome_parse?_iff, hspells, ?_, ?_⟩
  · intro s s' i h h'
    rw [← hspells s i h, hspells s' i h']
  · intro i
    constructor
    · intro h
      have hne := forall_segments_ne_empty_of_parse?_text h
      obtain ⟨hname, hschema, hcatalog⟩ := forall_segments_ne_empty_iff.1 hne
      exact ⟨(spelledBy_of_parse? h).1, hname, hschema, hcatalog, schema_ne_none_of_parse? h⟩
    · rintro ⟨hdots, hname, hschema, hcatalog, hset⟩
      exact parse?_text hdots (forall_segments_ne_empty_iff.2 ⟨hname, hschema, hcatalog⟩) hset

/-- A catalog with an empty schema is read and spells its text, but it is not what is written. -/
theorem parse?_double_dot :
    parse? "db..status" = some ⟨some "db", some "", "status"⟩ ∧
      ".".intercalate (Identifier.mk (some "db") (some "") "status").segments = "db..status" ∧
      parse? (Identifier.mk (some "db") (some "billing") "status").text =
        some ⟨some "db", some "billing", "status"⟩ ∧
      parse? (Identifier.mk (some "db") (some "") "status").text ≠
        some ⟨some "db", some "", "status"⟩ := by
  have hread : parse? "db..status" = some ⟨some "db", some "", "status"⟩ := by decide
  obtain ⟨-, hspells, -, htext⟩ := parse?_text_eq_some_iff
  refine ⟨hread, hspells _ _ hread, (htext _).2 (by decide), ?_⟩
  intro h
  exact absurd ((htext _).1 h) (by decide)

end ColumnTypes.Identifier
