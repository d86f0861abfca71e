import ColumnTypes.Proofs.Outcomes
import ColumnTypes.Proofs.Yaml.Assembly
import ColumnTypes.Yaml.Reading
import Mathlib.Data.List.Nodup
import Mathlib.Data.List.Perm.Subperm
import Mathlib.Data.List.Range

/-!
# The keys of what is read

A YAML text is read as a keyed document: the keys of its mappings are scalars, and no two keys of a
mapping are the same.

Main statement (`isKeyed_of_read`): if a text is read, its document is keyed.

## Strategy

The assembly of values ends in a sound state (`Assembly.isSound_of_run`).  While such a state is
unfolded, what is known of a node is keyed and is the node's own value where that has no parts
(`IsKnown`).  The nodes around the one that is being unfolded are different collections, so there
are at most as many as nodes and the budget does not end (`Around.length_le`).
-/

namespace ColumnTypes.Yaml

open Document

variable {α β : Type} {s : Assembly} {known : Array (Option Document)} {number : Nat}
  {around : List Nat}

/-! ## Parts of an unfolded graph -/

/-- A document for a node: it is keyed, and it is the node's own value if that has no parts. -/
def Stands (s : Assembly) (number : Nat) (d : Document) : Prop :=
  d.IsKeyed ∧ ∀ v, s.scalarAt? number = some v → d = v.1

/-- What is known of nodes can stand for them. -/
def IsKnown (s : Assembly) (known : Array (Option Document)) : Prop :=
  ∀ n d, known.getD n none = some d → Stands s n d

/-- The nodes around a place: different collections. -/
structure Around (s : Assembly) (around : List Nat) : Prop where
  nodup : around.Nodup
  collections : ∀ n ∈ around, s.IsCollection n

/-- There are at most as many nodes around a place as there are nodes. -/
theorem Around.length_le (h : Around s around) (hs : s.IsSound) :
    around.length ≤ s.nodes.size := by
  have hsubset : around ⊆ List.range s.nodes.size := fun n hn =>
    List.mem_range.2 (hs.size ▸ Assembly.lt_of_isSome (h.collections n hn).1)
  calc around.length ≤ (List.range s.nodes.size).length :=
        (h.nodup.subperm hsubset).length_le
    _ = s.nodes.size := List.length_range

/-- A collection that is not around a place can be put around it. -/
theorem Around.cons (h : Around s around) (hnew : number ∉ around)
    (hnumber : s.IsCollection number) : Around s (number :: around) :=
  ⟨List.nodup_cons.2 ⟨hnew, h.nodup⟩, List.forall_mem_cons.2 ⟨hnumber, h.collections⟩⟩

/-- A scalar of a sound state has no parts. -/
theorem isScalar_of_scalarAt? (hs : s.IsSound) {v : Document × Bool}
    (h : s.scalarAt? number = some v) : v.1.isScalar = true := by
  unfold Assembly.scalarAt? at h
  split at h
  · next d shared hmade =>
    obtain rfl := Option.some.inj h
    exact hs.fits number _ hmade
  · exact nomatch h

/-- A keyed document can stand for a collection. -/
theorem stands_of_isCollection {d : Document} (h : s.IsCollection number) (hd : d.IsKeyed) :
    Stands s number d :=
  ⟨hd, fun _ hv => nomatch h.2.symm.trans hv⟩

/-- Keyed documents stay so as loops. -/
theorem isKeyed_closed {body : Document} (h : body.IsKeyed) (inner : List Nat) :
    (closed number body inner).1.IsKeyed := by
  unfold closed
  split
  · exact h
  · exact .loop h

/-- Every one of the results is as it has to be. -/
theorem forall_of_forall₂ {P : β → Prop} {R : α → β → Prop} {xs : List α} {ys : List β}
    (h : List.Forall₂ R xs ys) (hP : ∀ x y, R x y → P y) : ∀ y ∈ ys, P y :=
  ((List.forall₂_and_left ys xs).1 (h.flip.imp fun _ _ hxy => ⟨hP _ _ hxy, hxy⟩)).1

/-! ## Steps of the unfolding -/

/-- A step that keeps what is known right, and whose result is as it has to be. -/
def Gives (s : Assembly) (w : Unfolding α) (P : α → Prop) : Prop :=
  ∀ known, IsKnown s known → IsKnown s (w.run known).2 ∧ P (w.run known).1

section Steps

variable {w : Unfolding α} {f : α → Unfolding β} {P : α → Prop} {Q : β → Prop}

theorem gives_pure {x : α} (h : P x) : Gives s (pure x) P :=
  fun _ hknown => ⟨hknown, h⟩

theorem gives_bind (hw : Gives s w P) (hf : ∀ x, P x → Gives s (f x) Q) :
    Gives s (w >>= f) Q := by
  intro known hknown
  obtain ⟨hafter, hx⟩ := hw known hknown
  exact hf _ hx _ hafter

theorem gives_get_bind {f : Array (Option Document) → Unfolding β}
    (hf : ∀ known, IsKnown s known → Gives s (f known) Q) : Gives s (get >>= f) Q :=
  fun known hknown => hf known hknown known hknown

theorem gives_mapM {P : α → β → Prop} {xs : List α} (hf : ∀ x ∈ xs, Gives s (f x) (P x)) :
    Gives s (xs.mapM f) (List.Forall₂ P xs) := by
  induction xs with
  | nil =>
      rw [List.mapM_nil]
      exact gives_pure .nil
  | cons x xs ih =>
      obtain ⟨hx, hxs⟩ := List.forall_mem_cons.1 hf
      rw [List.mapM_cons]
      exact gives_bind hx fun y hy => gives_bind (ih hxs) fun ys hys =>
        gives_pure (.cons hy hys)

end Steps

/-- Recording what can stand for a node keeps what is known right. -/
theorem IsKnown.record {d : Document} (h : IsKnown s known) (hd : Stands s number d) :
    IsKnown s (known.setIfInBounds number (some d)) := by
  intro n d' hn
  rw [Array.getD_eq_getD_getElem?, Array.getElem?_setIfInBounds] at hn
  split at hn
  · next heq =>
    obtain rfl := heq
    split at hn
    · obtain rfl := Option.some.inj hn
      exact hd
    · exact nomatch hn
  · exact h n d' (by rwa [Array.getD_eq_getD_getElem?])

/-! ## Unfolding -/

/-- Different keys have different values. -/
theorem sameKey_of_isSameKey {m n : Nat} {v w : Document × Bool} (hm : s.scalarAt? m = some v)
    (hn : s.scalarAt? n = some w) (h : s.isSameKey m n = false) :
    v.1.sameKey w.1 = false := by
  unfold Assembly.isSameKey at h
  rw [hm, hn] at h
  exact (Bool.or_eq_false_iff.1 (Bool.or_eq_false_iff.1 h).2).1

/-- What stands for keys that have been made are their values. -/
theorem map_eq_of_stands {keys : List Nat} {parts : List α} {d : α → Document}
    (hscalar : ∀ k ∈ keys, (s.scalarAt? k).isSome = true)
    (h : List.Forall₂ (fun k part => Stands s k (d part)) keys parts) :
    parts.map (fun part => some (d part)) = keys.map fun k => (s.scalarAt? k).map Prod.fst := by
  induction h with
  | nil => rfl
  | cons hk _ ih =>
      obtain ⟨hfirst, hrest⟩ := List.forall_mem_cons.1 hscalar
      obtain ⟨v, hv⟩ := Option.isSome_iff_exists.1 hfirst
      rw [List.map_cons, List.map_cons, ih hrest, hv, hk.2 v hv]
      rfl

/-- The documents of keys that fit are different scalars. -/
theorem keys_of_keysFit {keys : List Nat} {parts : List α} {d : α → Document} (hs : s.IsSound)
    (hkeys : s.KeysFit keys) (h : List.Forall₂ (fun k part => Stands s k (d part)) keys parts) :
    (∀ part ∈ parts, (d part).isScalar = true) ∧
      parts.Pairwise fun p q => (d p).sameKey (d q) = false := by
  have hvalues := map_eq_of_stands hkeys.scalar h
  constructor
  · intro part hpart
    have hmem := List.mem_map_of_mem (f := fun part => some (d part)) hpart
    rw [hvalues] at hmem
    obtain ⟨k, -, hk⟩ := List.mem_map.1 hmem
    obtain ⟨v, hv, hd⟩ := Option.map_eq_some_iff.1 hk
    exact hd ▸ isScalar_of_scalarAt? hs hv
  · have hdifferent : (keys.map fun k => (s.scalarAt? k).map Prod.fst).Pairwise
        fun a b => ∀ x ∈ a, ∀ y ∈ b, x.sameKey y = false := by
      refine List.pairwise_map.2 (hkeys.distinct.imp fun hmn x hx y hy => ?_)
      obtain ⟨v, hv, rfl⟩ := Option.map_eq_some_iff.1 hx
      obtain ⟨w, hw, rfl⟩ := Option.map_eq_some_iff.1 hy
      exact sameKey_of_isSameKey hv hw hmn
    rw [← hvalues] at hdifferent
    exact (List.pairwise_map.1 hdifferent).imp fun h => h _ rfl _ rfl

/-- What is made of a node is recorded if it can stand in every place. -/
theorem gives_recorded {part : Part} (h : Stands s number part.1) :
    Gives s (do
      if isFixed part then modify fun known => known.setIfInBounds number (some part.1)
      return part) fun part => Stands s number part.1 := by
  intro known hknown
  by_cases hfixed : isFixed part = true
  · rw [if_pos hfixed]
    exact ⟨hknown.record h, h⟩
  · rw [if_neg hfixed]
    exact ⟨hknown, h⟩

/-! ## Nodes -/

/-- The value of a node without parts can stand for it. -/
theorem stands_of_scalar (hs : s.IsSound) {d : Document} {shared : Bool}
    (hmade : s.made.getD number none = some (.scalar d shared)) : Stands s number d := by
  refine ⟨.scalar (hs.fits number _ hmade), fun v hv => ?_⟩
  unfold Assembly.scalarAt? at hv
  rw [hmade] at hv
  exact congrArg Prod.fst (Option.some.inj hv)

/-- The empty value can stand for a node of which nothing has been made. -/
theorem stands_of_absent (hmade : s.made.getD number none = none) : Stands s number .null := by
  refine ⟨.scalar rfl, fun v hv => ?_⟩
  unfold Assembly.scalarAt? at hv
  rw [hmade] at hv
  exact nomatch hv

/-- A list of what stands for its items can stand for a sequence. -/
theorem stands_of_list {items inner : List Nat} {parts : List Part}
    (hmade : s.made.getD number none = some (.list items))
    (hparts : List.Forall₂ (fun n part => Stands s n part.1) items parts) :
    Stands s number (closed number (.list (parts.map Prod.fst)) inner).1 := by
  refine stands_of_isCollection (Assembly.isCollection_of_made hmade fun _ _ h => nomatch h)
    (isKeyed_closed (.list ?_) _)
  exact List.forall_mem_map.2 (forall_of_forall₂ hparts fun _ _ h => h.1)

/-- A set of what stands for its keys can stand for a set. -/
theorem stands_of_set (hs : s.IsSound) {keys inner : List Nat} {parts : List Part}
    (hmade : s.made.getD number none = some (.set keys))
    (hparts : List.Forall₂ (fun n part => Stands s n part.1) keys parts) :
    Stands s number (closed number (.ofMembers (parts.map Prod.fst)) inner).1 := by
  have hscalar := (keys_of_keysFit hs (hs.fits number _ hmade) hparts).1
  exact stands_of_isCollection (Assembly.isCollection_of_made hmade fun _ _ h => nomatch h)
    (isKeyed_closed (.ofMembers (List.forall_mem_map.2 hscalar)) _)

/-- A mapping of what stands for its entries can stand for a mapping. -/
theorem stands_of_map (hs : s.IsSound) {entries : List (Nat × Nat)} {parts : List (Part × Part)}
    {inner : List Nat} (hmade : s.made.getD number none = some (.map entries))
    (hparts : List.Forall₂ (fun e p => Stands s e.1 p.1.1 ∧ Stands s e.2 p.2.1) entries parts) :
    Stands s number (closed number (.map (parts.map fun (k, v) => (k.1, v.1))) inner).1 := by
  obtain ⟨hscalar, hdistinct⟩ := keys_of_keysFit hs (hs.fits number _ hmade)
    (List.forall₂_map_left_iff.2 (hparts.imp fun _ _ h => h.1))
  refine stands_of_isCollection (Assembly.isCollection_of_made hmade fun _ _ h => nomatch h)
    (isKeyed_closed (.map ?_ ?_ ?_) _)
  · exact List.forall_mem_map.2 hscalar
  · exact List.pairwise_map.2 hdistinct
  · exact List.forall_mem_map.2 (forall_of_forall₂ hparts fun _ _ h => h.2.1)

/-- A list of pairs of what stands for their parts can stand for a sequence of single entries. -/
theorem stands_of_pairs {entries : List (Nat × Nat)} {parts : List (Part × Part)}
    {inner : List Nat} (hmade : s.made.getD number none = some (.pairs entries))
    (hparts : List.Forall₂ (fun e p => Stands s e.1 p.1.1 ∧ Stands s e.2 p.2.1) entries parts)
    (label : Nat → Nat) :
    Stands s number (closed number (.list ((parts.zipIdx.map fun ((k, v), i) =>
      closed (label i) (.pair k.1 v.1) (k.2 ++ v.2)).map Prod.fst)) inner).1 := by
  have hkeyed : ∀ p ∈ parts, p.1.1.IsKeyed ∧ p.2.1.IsKeyed :=
    forall_of_forall₂ hparts fun _ _ h => ⟨h.1.1, h.2.1⟩
  refine stands_of_isCollection (Assembly.isCollection_of_made hmade fun _ _ h => nomatch h)
    (isKeyed_closed (.list ?_) _)
  refine List.forall_mem_map.2 (List.forall_mem_map.2 fun p hp => ?_)
  obtain ⟨hk, hv⟩ := hkeyed p.1 (List.fst_mem_of_mem_zipIdx hp)
  exact isKeyed_closed (.pair hk hv) _

/-! ## Unfolding -/

/-- **Unfolding.** The document of a node can stand for it. -/
theorem gives_unfold (hs : s.IsSound) (fuel : Nat) (haround : Around s around)
    (hfuel : s.nodes.size < fuel + around.length) (number : Nat) :
    Gives s (unfold s fuel around number) fun part => Stands s number part.1 := by
  induction fuel generalizing around number with
  | zero =>
      have := haround.length_le hs
      omega
  | succ fuel ih =>
      unfold unfold
      split
      · next hcontains =>
        exact gives_pure (stands_of_isCollection
          (haround.collections number (by simpa using hcontains)) .again)
      · next hcontains =>
        have hnew : number ∉ around := by simpa using hcontains
        refine gives_get_bind fun known hknown => ?_
        split
        · next d hd => exact gives_pure (hknown number d hd)
        · have hinside (hnumber : s.IsCollection number) (n : Nat) :
              Gives s (unfold s fuel (number :: around) n) fun part => Stands s n part.1 :=
            ih (haround.cons hnew hnumber) (by rw [List.length_cons]; omega) n
          have hboth (hnumber : s.IsCollection number) (e : Nat × Nat) :
              Gives s (do
                return (← unfold s fuel (number :: around) e.1,
                  ← unfold s fuel (number :: around) e.2))
                fun p => Stands s e.1 p.1.1 ∧ Stands s e.2 p.2.1 :=
            gives_bind (hinside hnumber e.1) fun _ hk =>
              gives_bind (hinside hnumber e.2) fun _ hv => gives_pure ⟨hk, hv⟩
          dsimp only
          split
          · next hmade =>
            exact gives_bind (gives_pure (stands_of_absent hmade)) fun _ => gives_recorded
          · next d shared hmade =>
            exact gives_bind (gives_pure (stands_of_scalar hs hmade)) fun _ => gives_recorded
          · next items hmade =>
            have hnumber := Assembly.isCollection_of_made hmade fun _ _ h => nomatch h
            exact gives_bind (gives_mapM fun n _ => hinside hnumber n) fun parts hparts =>
              gives_bind (gives_pure (stands_of_list hmade hparts)) fun _ => gives_recorded
          · next keys hmade =>
            have hnumber := Assembly.isCollection_of_made hmade fun _ _ h => nomatch h
            exact gives_bind (gives_mapM fun n _ => hinside hnumber n) fun parts hparts =>
              gives_bind (gives_pure (stands_of_set hs hmade hparts)) fun _ => gives_recorded
          · next entries hmade =>
            have hnumber := Assembly.isCollection_of_made hmade fun _ _ h => nomatch h
            exact gives_bind (gives_mapM fun e _ => hboth hnumber e) fun parts hparts =>
              gives_bind (gives_pure (stands_of_map hs hmade hparts)) fun _ => gives_recorded
          · next entries hmade =>
            have hnumber := Assembly.isCollection_of_made hmade fun _ _ h => nomatch h
            exact gives_bind (gives_mapM fun e _ => hboth hnumber e) fun parts hparts =>
              gives_bind (gives_pure (stands_of_pairs hmade hparts
                fun i => number + s.nodes.size * (i + 1))) fun _ => gives_recorded

/-- Before anything is unfolded nothing is known. -/
theorem isKnown_replicate (s : Assembly) (n : Nat) : IsKnown s (Array.replicate n none) := by
  intro m d h
  rw [Array.getD_eq_getD_getElem?, Array.getElem?_replicate] at h
  split at h <;> exact nomatch h

/-- A sound state is unfolded into a keyed document. -/
theorem isKeyed_document (hs : s.IsSound) (root : Nat) : (s.document root).IsKeyed :=
  (gives_unfold hs (s.nodes.size + 1) ⟨.nil, List.forall_mem_nil _⟩ (by simp) root _
    (isKnown_replicate s _)).2.1

/-- **Reading.** If a text is read, its document is keyed. -/
theorem isKeyed_of_read {text : List Char} {d : Document} (h : read text = .ok d) :
    d.IsKeyed := by
  unfold read at h
  obtain ⟨g?, -, h⟩ := bind_eq_ok_iff.1 h
  cases g? with
  | none =>
      obtain rfl := Except.ok.inj h
      exact .scalar rfl
  | some g =>
      obtain ⟨s, hrun, h⟩ := bind_eq_ok_iff.1 h
      obtain rfl := Except.ok.inj h
      exact isKeyed_document (Assembly.isSound_of_run hrun) g.root

end ColumnTypes.Yaml
