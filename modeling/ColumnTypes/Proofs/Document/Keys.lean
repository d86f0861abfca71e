import ColumnTypes.Document.Members
import ColumnTypes.Validation
import Mathlib.Data.List.Basic

/-!
# Keys of mappings

A document is **keyed** if the keys of every mapping in it have no parts of their own and no two of
them are the same, and if the members of every set have no parts.  A keyed document stays keyed when
it is opened (`IsKeyed.unrolled`), so what can be said about its keys can be said about those of
every mapping that a check meets (`IsKeyed.of_entries?`).

In a mapping without a repeated key a field is looked up among any of the entries as it is among all
of them (`valueOf?_filter`).
-/

namespace ColumnTypes.Document

/-- Whether a document has no parts. -/
def isScalar : Document → Bool
  | null | bool _ | int _ | float _ | str _ | bytes _ | date _ | dateTime _ => true
  | list _ | pair _ _ | set _ | map _ | loop _ _ | again _ => false

/-- Entries whose keys are all different. -/
def HasDistinctKeys (entries : List (Document × Document)) : Prop :=
  entries.Pairwise fun e f => e.1.sameKey f.1 = false

/-- A document in which mappings and sets have keys without parts, and mappings different ones. -/
inductive IsKeyed : Document → Prop
  | scalar {d : Document} : d.isScalar = true → IsKeyed d
  | list {items : List Document} : (∀ d ∈ items, IsKeyed d) → IsKeyed (.list items)
  | pair {a b : Document} : IsKeyed a → IsKeyed b → IsKeyed (.pair a b)
  | set {items : List Document} : (∀ d ∈ items, d.isScalar = true) → IsKeyed (.set items)
  | map {entries : List (Document × Document)} :
      (∀ e ∈ entries, e.1.isScalar = true) → HasDistinctKeys entries →
        (∀ e ∈ entries, IsKeyed e.2) → IsKeyed (.map entries)
  | loop {n : Nat} {body : Document} : IsKeyed body → IsKeyed (.loop n body)
  | again {n : Nat} : IsKeyed (.again n)

variable {n : Nat} {whole d v : Document} {entries : List (Document × Document)} {key : String}

/-! ## Opening a loop -/

/-- Nothing in a document without parts leads back to a loop. -/
theorem reopened_of_isScalar (h : d.isScalar = true) : reopened n whole d = d := by
  cases d with
  | list _ | pair _ _ | set _ | map _ | loop _ _ | again _ => simp [isScalar] at h
  | _ => rfl

/-- There is nothing to open in a document without parts. -/
theorem unrolled_of_isScalar (h : d.isScalar = true) : d.unrolled = d := by
  cases d with
  | loop _ _ => simp [isScalar] at h
  | _ => rfl

/-- Items are opened one by one. -/
theorem reopenedItems_eq_map (items : List Document) :
    reopenedItems n whole items = items.map (reopened n whole) := by
  induction items with
  | nil => rfl
  | cons d items ih => rw [reopenedItems, ih, List.map_cons]

/-- Entries are opened one by one. -/
theorem reopenedEntries_eq_map (entries : List (Document × Document)) :
    reopenedEntries n whole entries =
      entries.map fun e => (reopened n whole e.1, reopened n whole e.2) := by
  induction entries with
  | nil => rfl
  | cons e entries ih =>
      obtain ⟨k, v⟩ := e
      rw [reopenedEntries, ih, List.map_cons]

/-- Only values change where the keys have no parts. -/
theorem reopenedEntries_of_isScalar (h : ∀ e ∈ entries, e.1.isScalar = true) :
    reopenedEntries n whole entries = entries.map fun e => (e.1, reopened n whole e.2) := by
  rw [reopenedEntries_eq_map]
  exact List.map_congr_left fun e he => by rw [reopened_of_isScalar (h e he)]

/-- A keyed document stays keyed when a keyed one is put into it. -/
theorem IsKeyed.reopened (hwhole : whole.IsKeyed) (hd : d.IsKeyed) :
    (reopened n whole d).IsKeyed := by
  induction hd with
  | scalar h =>
      rw [reopened_of_isScalar h]
      exact .scalar h
  | list _ ih =>
      rw [Document.reopened, reopenedItems_eq_map]
      exact .list (List.forall_mem_map.2 ih)
  | pair _ _ iha ihb => exact .pair iha ihb
  | @set items h =>
      rw [Document.reopened, reopenedItems_eq_map,
        List.map_congr_left fun d hd => reopened_of_isScalar (h d hd), List.map_id']
      exact .set h
  | map hscalar hdistinct _ ih =>
      rw [Document.reopened, reopenedEntries_of_isScalar hscalar]
      exact .map (List.forall_mem_map.2 hscalar) (List.pairwise_map.2 hdistinct)
        (List.forall_mem_map.2 ih)
  | @loop m body hbody ih =>
      rw [Document.reopened]
      split
      · exact .loop hbody
      · exact .loop ih
  | @again m =>
      rw [Document.reopened]
      split
      · exact hwhole
      · exact .again

/-- An opened document is keyed. -/
theorem IsKeyed.unrolled (h : d.IsKeyed) : d.unrolled.IsKeyed := by
  cases h with
  | scalar h =>
      rw [unrolled_of_isScalar h]
      exact .scalar h
  | list h => exact .list h
  | pair ha hb => exact .pair ha hb
  | set h => exact .set h
  | map hscalar hdistinct h => exact .map hscalar hdistinct h
  | loop h => exact h.loop.reopened h
  | again => exact .again

/-- The entries of a document are those of the mapping that it is when it is opened. -/
theorem entries?_eq_some_iff : d.entries? = some entries ↔ d.unrolled = .map entries := by
  unfold entries?
  cases d.unrolled with
  | map entries' => simp
  | _ => simp

/-- What can be said about the entries of a keyed document. -/
theorem IsKeyed.of_entries? (h : d.IsKeyed) (hd : d.entries? = some entries) :
    (∀ e ∈ entries, e.1.isScalar = true) ∧ HasDistinctKeys entries ∧
      ∀ e ∈ entries, e.2.IsKeyed := by
  have hunrolled := h.unrolled
  rw [entries?_eq_some_iff.1 hd] at hunrolled
  cases hunrolled with
  | scalar h => exact absurd h (by simp [isScalar])
  | map hscalar hdistinct h => exact ⟨hscalar, hdistinct, h⟩

/-- A document in which a loop is opened is empty only if it was, or if the loop is. -/
theorem isEmpty_of_isEmpty_reopened :
    ∀ {d : Document}, (reopened n whole d).isEmpty = true → d.isEmpty = true ∨ whole.isEmpty = true
  | .again m, h => by
      rw [reopened] at h
      split at h
      · exact .inr h
      · exact .inl h
  | .loop m body, h => by
      rw [reopened] at h
      split at h
      · exact .inl h
      · exact isEmpty_of_isEmpty_reopened (d := body) h
  | .list items, h => by
      rw [reopened, reopenedItems_eq_map] at h
      exact .inl (by simpa [isEmpty] using h)
  | .set items, h => by
      rw [reopened, reopenedItems_eq_map] at h
      exact .inl (by simpa [isEmpty] using h)
  | .map entries, h => by
      rw [reopened, reopenedEntries_eq_map] at h
      exact .inl (by simpa [isEmpty] using h)
  | .null, h | .bool _, h | .int _, h | .float _, h | .str _, h | .bytes _, h => .inl h

/-- An empty document stays empty when a loop is opened in it. -/
theorem isEmpty_reopened : ∀ {d : Document}, d.isEmpty = true → (reopened n whole d).isEmpty = true
  | .loop m body, h => by
      rw [reopened]
      split
      · exact h
      · exact isEmpty_reopened (d := body) h
  | .list items, h => by
      rw [reopened, reopenedItems_eq_map]
      simpa [isEmpty] using h
  | .set items, h => by
      rw [reopened, reopenedItems_eq_map]
      simpa [isEmpty] using h
  | .map entries, h => by
      rw [reopened, reopenedEntries_eq_map]
      simpa [isEmpty] using h
  | .null, h | .bool _, h | .int _, h | .float _, h | .str _, h | .bytes _, h => h

/-- A document is empty exactly if it is when it is opened. -/
theorem isEmpty_unrolled : d.unrolled.isEmpty = d.isEmpty := by
  cases d with
  | loop n body =>
      rw [Bool.eq_iff_iff]
      refine ⟨fun h => ?_, fun h => isEmpty_reopened h⟩
      rcases isEmpty_of_isEmpty_reopened h with hbody | hwhole
      · exact hbody
      · exact hwhole
  | _ => rfl

/-- A document without parts is no mapping. -/
theorem entries?_of_isScalar (h : d.isScalar = true) : d.entries? = none := by
  unfold entries?
  rw [unrolled_of_isScalar h]
  cases d with
  | map _ => exact absurd h (by simp [isScalar])
  | _ => rfl

/-- What has items that are there is not empty. -/
theorem isEmpty_of_items? {items : List Document} (h : v.items? = some items) (hne : items ≠ []) :
    v.isEmpty = false := by
  rw [← isEmpty_unrolled]
  unfold items? at h
  split at h
  · next heq => simpa [heq, isEmpty, Option.some.inj h] using hne
  · next heq => simpa [heq, isEmpty, Option.some.inj h] using hne
  · next heq => rw [heq]; rfl
  · exact nomatch h

/-! ## Looking up fields -/

/-- A field that is found is an entry. -/
theorem mem_of_valueOf? (h : valueOf? key entries = some v) : (.str key, v) ∈ entries := by
  induction entries with
  | nil => exact nomatch h
  | cons e entries ih =>
      obtain ⟨k, w⟩ := e
      unfold valueOf? at h
      split at h
      · split at h
        · next s heq =>
          obtain rfl := Option.some.inj h
          rw [heq]
          exact List.mem_cons_self
        · exact List.mem_cons_of_mem _ (ih h)
      · exact List.mem_cons_of_mem _ (ih h)

/-- An entry of a mapping with different keys is found under its key. -/
theorem valueOf?_of_mem (hdistinct : HasDistinctKeys entries) (h : (.str key, v) ∈ entries) :
    valueOf? key entries = some v := by
  induction entries with
  | nil => exact nomatch h
  | cons e entries ih =>
      obtain ⟨k, w⟩ := e
      obtain ⟨hfirst, hrest⟩ := List.pairwise_cons.1 hdistinct
      rcases List.mem_cons.1 h with heq | hmem
      · obtain ⟨rfl, rfl⟩ := Prod.mk.inj heq
        simp [valueOf?]
      · have hne : k ≠ .str key := by
          rintro rfl
          exact absurd (hfirst _ hmem) (by simp [sameKey, integerValue?])
        unfold valueOf?
        split
        · next s => rw [if_neg fun hs => hne (congrArg str hs), ih hrest hmem]
        · exact ih hrest hmem

/-- Among the entries that are kept a field has the value that it has among all, if that is kept. -/
theorem valueOf?_filter (hdistinct : HasDistinctKeys entries) (p : Document → Bool) (key : String) :
    valueOf? key (entries.filter fun e => p e.2) = (valueOf? key entries).filter p := by
  have hkept : HasDistinctKeys (entries.filter fun e => p e.2) := hdistinct.filter _
  refine Option.ext fun v => ?_
  rw [Option.filter_eq_some_iff]
  constructor
  · intro h
    obtain ⟨hmem, hp⟩ := List.mem_filter.1 (mem_of_valueOf? h)
    exact ⟨valueOf?_of_mem hdistinct hmem, hp⟩
  · rintro ⟨h, hp⟩
    exact valueOf?_of_mem hkept (List.mem_filter.2 ⟨mem_of_valueOf? h, hp⟩)

/-! ## Members of sets -/

/-- Only members fill cells. -/
theorem isScalar_of_mem_foldl_withMember {cells : Nat} {members : List (Int × Document)}
    {filled : List (Nat × Document)} (hmembers : ∀ m ∈ members, m.2.isScalar = true)
    (hfilled : ∀ f ∈ filled, f.2.isScalar = true) :
    ∀ f ∈ members.foldl (withMember cells) filled, f.2.isScalar = true := by
  induction members generalizing filled with
  | nil => exact hfilled
  | cons m members ih =>
      obtain ⟨hm, hrest⟩ := List.forall_mem_cons.1 hmembers
      exact ih hrest (List.forall_mem_cons.2 ⟨hm, hfilled⟩)

/-- A set of members without parts is keyed. -/
theorem IsKeyed.ofMembers {members : List Document} (h : ∀ d ∈ members, d.isScalar = true) :
    (ofMembers members).IsKeyed := by
  unfold Document.ofMembers
  split
  · next ranks hranks =>
    refine .set fun d hd => ?_
    obtain ⟨i, -, hlookup⟩ := List.mem_filterMap.1 hd
    obtain ⟨before, after, hfilled, -⟩ := List.lookup_eq_some_iff.1 hlookup
    have hzip : ∀ m ∈ ranks.zip members, m.2.isScalar = true :=
      fun m hm => h m.2 (List.of_mem_zip hm).2
    have hmem : (i, d) ∈ (ranks.zip members).foldl
        (withMember (cellsFor (ranks.zip members).length)) [] := by
      rw [hfilled]
      simp
    exact isScalar_of_mem_foldl_withMember hzip (List.forall_mem_nil _) (i, d) hmem
  · exact .set h

end ColumnTypes.Document
