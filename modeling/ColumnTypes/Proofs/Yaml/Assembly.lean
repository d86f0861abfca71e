import ColumnTypes.Proofs.Document.Keys
import ColumnTypes.Yaml.Assembly
import Mathlib.Order.Defs.Unbundled

/-!
# What the assembly of values keeps

While values are made of nodes, the state of the work stays **sound** (`Assembly.IsSound`): what has
been put off is a collection, a scalar has a value without parts, and the keys of a mapping have
been made, are scalars and are different.  What has been made of a scalar stays as it is, and a
collection stays one (`Assembly.Extends`).

Main statement (`isSound_of_run`): the work ends in a sound state.

## Strategy

Every step of the work is shown to lead from a sound state to a sound one that extends it
(`Grows`); sequences of steps do so because the relation is transitive.  Merging changes nodes only,
which no part of soundness looks at (`Steady`).
-/

namespace ColumnTypes.Yaml.Assembly

variable {α β : Type} {s t u : Assembly} {x : α} {y : β} {number : Nat}

/-! ## Steps of the work -/

namespace Work

variable {w : Work α} {f : α → Work β} {R : Assembly → Assembly → Prop}

/-- A step that succeeds, with a value and the state after it. -/
def Makes (w : Work α) (s : Assembly) (x : α) (t : Assembly) : Prop :=
  w.run s = .ok (x, t)

/-- A sequence succeeds if its steps do, one after the other. -/
theorem makes_bind_iff :
    Makes (w >>= f) s y u ↔ ∃ x t, Makes w s x t ∧ Makes (f x) t y u := by
  unfold Makes
  rw [StateT.run_bind]
  cases w.run s with
  | error e => simp [bind, Except.bind]
  | ok r =>
      obtain ⟨x, t⟩ := r
      simp [bind, Except.bind]

theorem makes_pure_iff {x' : α} : Makes (pure x) s x' t ↔ x' = x ∧ t = s := by
  show (Except.ok (x, s) : Except Error (α × Assembly)) = .ok (x', t) ↔ _
  simp [eq_comm]

theorem makes_get_iff {s' : Assembly} : Makes (get : Work Assembly) s s' t ↔ s' = s ∧ t = s := by
  show (Except.ok (s, s) : Except Error (Assembly × Assembly)) = .ok (s', t) ↔ _
  simp [eq_comm]

/-- A sequence that looks at the state first goes on from it. -/
theorem makes_get_bind_iff {f : Assembly → Work β} :
    Makes (get >>= f) s y t ↔ Makes (f s) s y t := by
  rw [makes_bind_iff]
  constructor
  · rintro ⟨s', s'', hget, hrest⟩
    obtain ⟨rfl, rfl⟩ := makes_get_iff.1 hget
    exact hrest
  · exact fun h => ⟨s, s, makes_get_iff.2 ⟨rfl, rfl⟩, h⟩

theorem makes_modify_iff {g : Assembly → Assembly} {v : Unit} :
    Makes (modify g : Work Unit) s v t ↔ t = g s := by
  show (Except.ok ((), g s) : Except Error (Unit × Assembly)) = .ok (v, t) ↔ _
  simp [eq_comm]

theorem makes_liftM_iff {r : Except Error α} :
    Makes (liftM r : Work α) s x t ↔ r = .ok x ∧ t = s := by
  show (r >>= fun a => .ok (a, s) : Except Error (α × Assembly)) = .ok (x, t) ↔ _
  cases r with
  | error e => simp [bind, Except.bind]
  | ok a => simp [bind, Except.bind, eq_comm]

theorem not_makes_throw {e : Error} : ¬Makes (throw e : Work α) s x t := by
  show ¬(Except.error e : Except Error (α × Assembly)) = .ok (x, t)
  simp

/-- A step that relates the states before and after it, if it succeeds. -/
def Keeps (R : Assembly → Assembly → Prop) (w : Work α) : Prop :=
  ∀ s x t, Makes w s x t → R s t

theorem keeps_throw {e : Error} : Keeps R (throw e : Work α) :=
  fun _ _ _ h => absurd h not_makes_throw

theorem keeps_modify {g : Assembly → Assembly} (hg : ∀ s, R s (g s)) :
    Keeps R (modify g : Work Unit) := by
  intro s v t h
  obtain rfl := makes_modify_iff.1 h
  exact hg s

variable [IsPreorder Assembly R]

theorem keeps_pure : Keeps R (pure x : Work α) := by
  intro s x' t h
  obtain ⟨-, rfl⟩ := makes_pure_iff.1 h
  exact Std.Refl.refl t

theorem keeps_get : Keeps R (get : Work Assembly) := by
  intro s s' t h
  obtain ⟨-, rfl⟩ := makes_get_iff.1 h
  exact Std.Refl.refl t

theorem keeps_bind (hw : Keeps R w) (hf : ∀ x, Keeps R (f x)) : Keeps R (w >>= f) := by
  intro s y u h
  obtain ⟨x, t, hx, hy⟩ := makes_bind_iff.1 h
  exact IsTrans.trans s t u (hw s x t hx) (hf x t y u hy)

theorem keeps_forM {f : α → Work Unit} (hf : ∀ x, Keeps R (f x)) (xs : List α) :
    Keeps R (xs.forM f) := by
  induction xs with
  | nil => exact keeps_pure
  | cons x xs ih => exact keeps_bind (hf x) fun _ => ih

theorem keeps_mapM (hf : ∀ x, Keeps R (f x)) (xs : List α) : Keeps R (xs.mapM f) := by
  induction xs with
  | nil =>
      rw [List.mapM_nil]
      exact keeps_pure
  | cons x xs ih =>
      rw [List.mapM_cons]
      exact keeps_bind (hf x) fun _ => keeps_bind ih fun _ => keeps_pure

end Work

open Work

/-! ## Merging -/

/-- Only nodes have changed, and not their number. -/
structure Steady (s t : Assembly) : Prop where
  made : t.made = s.made
  waiting : t.waiting = s.waiting
  size : t.nodes.size = s.nodes.size

instance : IsPreorder Assembly Steady where
  refl _ := ⟨rfl, rfl, rfl⟩
  trans _ _ _ h h' :=
    ⟨h'.made.trans h.made, h'.waiting.trans h.waiting, h'.size.trans h.size⟩

theorem keeps_change {g : Node → Node} : Keeps Steady (change number g) :=
  keeps_modify fun _ => ⟨rfl, rfl, Array.size_modify⟩

theorem keeps_settleKey : Keeps Steady (settleKey number) :=
  keeps_change

theorem keeps_flattenFrom (fuel number index : Nat) (merged : List (Nat × Nat)) :
    Keeps Steady (flattenFrom fuel number index merged) := by
  induction fuel generalizing number index merged with
  | zero => exact keeps_pure
  | succ fuel ih =>
      have hpart : ∀ part, Keeps Steady (do
          flattenFrom fuel part 0 []
          return (← get).entriesAt part : Work (List (Nat × Nat))) := fun part =>
        keeps_bind (ih part 0 []) fun _ => keeps_bind keeps_get fun _ => keeps_pure
      unfold flattenFrom
      refine keeps_bind keeps_get fun s => keeps_bind (keeps_forM (fun _ => keeps_settleKey) _) ?_
      intro _
      split
      · split
        · exact keeps_change
        · exact keeps_pure
      · refine keeps_bind keeps_change fun _ => ?_
        split
        · exact keeps_bind (hpart _) fun _ => ih _ _ _
        · refine keeps_bind (keeps_mapM (fun item => keeps_bind keeps_get fun _ => ?_) _)
            fun _ => ih _ _ _
          dsimp only
          split
          · exact hpart item
          · exact keeps_throw
        · exact keeps_bind keeps_throw fun _ => ih _ _ _

theorem keeps_flatten : Keeps Steady (flatten number) :=
  keeps_bind keeps_get fun _ => keeps_flattenFrom _ _ _ _

/-! ## Sound states -/

/-- A node of which a collection has been made. -/
def IsCollection (s : Assembly) (number : Nat) : Prop :=
  (s.made.getD number none).isSome = true ∧ s.scalarAt? number = none

/-- Keys that are scalars, have been made and are different. -/
structure KeysFit (s : Assembly) (keys : List Nat) : Prop where
  scalar : ∀ k ∈ keys, (s.scalarAt? k).isSome = true
  distinct : keys.Pairwise fun m n => s.isSameKey m n = false

/-- A value whose parts are as they have to be. -/
def Fits (s : Assembly) : Made → Prop
  | .scalar value _ => value.isScalar = true
  | .list _ | .pairs _ => True
  | .set keys => s.KeysFit keys
  | .map entries => s.KeysFit (entries.map Prod.fst)

/-- A state in which everything is as it has to be. -/
structure IsSound (s : Assembly) : Prop where
  size : s.made.size = s.nodes.size
  waiting : ∀ n ∈ s.waiting, s.IsCollection n
  fits : ∀ n made, s.made.getD n none = some made → s.Fits made

/-- Scalars have stayed as they were, and collections have stayed collections. -/
structure Extends (s t : Assembly) : Prop where
  scalar : ∀ n v, s.scalarAt? n = some v → t.scalarAt? n = some v
  collection : ∀ n, s.IsCollection n → t.IsCollection n

/-- From a sound state to a sound one that extends it. -/
def Grows (s t : Assembly) : Prop :=
  s.IsSound → t.IsSound ∧ s.Extends t

theorem Extends.refl (s : Assembly) : s.Extends s :=
  ⟨fun _ _ h => h, fun _ h => h⟩

theorem Extends.trans (h : s.Extends t) (h' : t.Extends u) : s.Extends u :=
  ⟨fun n v hn => h'.scalar n v (h.scalar n v hn), fun n hn => h'.collection n (h.collection n hn)⟩

instance : IsPreorder Assembly Grows where
  refl s hs := ⟨hs, .refl s⟩
  trans _ _ _ h h' hs :=
    have ht := h hs
    have hu := h' ht.1
    ⟨hu.1, ht.2.trans hu.2⟩

/-- A number of which something has been made is that of a node. -/
theorem lt_of_isSome (h : (s.made.getD number none).isSome = true) : number < s.made.size := by
  by_contra hle
  rw [Array.getD_eq_getD_getElem?, Array.getElem?_eq_none (Nat.le_of_not_lt hle)] at h
  exact absurd h (by simp)

/-- The values of different scalars stay different. -/
theorem KeysFit.mono (h : s.Extends t) {keys : List Nat} (hs : s.KeysFit keys) :
    t.KeysFit keys := by
  have hsame : ∀ k ∈ keys, t.scalarAt? k = s.scalarAt? k := fun k hk => by
    obtain ⟨v, hv⟩ := Option.isSome_iff_exists.1 (hs.scalar k hk)
    rw [hv, h.scalar k v hv]
  refine ⟨fun k hk => hsame k hk ▸ hs.scalar k hk, hs.distinct.imp_of_mem ?_⟩
  intro m n hm hn hmn
  unfold isSameKey
  rwa [hsame m hm, hsame n hn]

/-- Values fit as long as scalars stay as they were. -/
theorem Fits.mono (h : s.Extends t) {made : Made} (hs : s.Fits made) : t.Fits made := by
  cases made with
  | scalar value shared => exact hs
  | list items => trivial
  | pairs entries => trivial
  | set keys => exact KeysFit.mono h hs
  | map entries => exact KeysFit.mono h hs

/-- Changes of nodes alone keep the state sound. -/
theorem Steady.grows (h : Steady s t) : Grows s t := by
  intro hs
  have hscalar : ∀ n, t.scalarAt? n = s.scalarAt? n := fun n => by
    unfold scalarAt?
    rw [h.made]
  have hextends : s.Extends t := by
    refine ⟨fun n v hn => (hscalar n).trans hn, fun n hn => ?_⟩
    unfold IsCollection
    rwa [h.made, hscalar]
  refine ⟨⟨by rw [h.made, h.size, hs.size], ?_, ?_⟩, hextends⟩
  · rw [h.waiting]
    exact fun n hn => hextends.collection n (hs.waiting n hn)
  · intro n made hn
    rw [h.made] at hn
    exact (hs.fits n made hn).mono hextends

/-! ## Making values -/

/-- A value that is recorded is there, and every other one is as it was. -/
theorem getD_setIfInBounds {made : Made} {n : Nat} :
    (s.made.setIfInBounds number (some made)).getD n none =
      if n = number ∧ number < s.made.size then some made else s.made.getD n none := by
  simp only [Array.getD_eq_getD_getElem?, Array.getElem?_setIfInBounds]
  by_cases h : n = number
  · subst h
    by_cases hlt : n < s.made.size
    · simp [hlt]
    · simp [hlt]
  · simp [h, Ne.symm h]

/-- A node of which anything but a scalar has been made is a collection. -/
theorem isCollection_of_made {made : Made} (h : s.made.getD number none = some made)
    (hmade : ∀ d b, made ≠ .scalar d b) : s.IsCollection number := by
  refine ⟨by rw [h]; rfl, ?_⟩
  unfold scalarAt?
  rw [h]
  cases made with
  | scalar d b => exact absurd rfl (hmade d b)
  | _ => rfl

/-- What has been recorded as anything but a scalar is a collection. -/
theorem isCollection_record {made : Made} (hlt : number < s.made.size)
    (hmade : ∀ d b, made ≠ .scalar d b) :
    IsCollection { s with made := s.made.setIfInBounds number (some made) } number :=
  isCollection_of_made (by rw [getD_setIfInBounds, if_pos ⟨rfl, hlt⟩]) hmade

/-- Recording what fits keeps the state sound, unless a scalar is lost or a collection becomes
one. -/
theorem grows_record {made : Made} (hfree : s.scalarAt? number = none)
    (hfits : s.Fits made) (hcollection : s.IsCollection number → ∀ d b, made ≠ .scalar d b) :
    Grows s { s with made := s.made.setIfInBounds number (some made) } := by
  intro hs
  have hother : ∀ n, n ≠ number → (s.made.setIfInBounds number (some made)).getD n none =
      s.made.getD n none := fun n hn => by
    rw [getD_setIfInBounds, if_neg fun h => hn h.1]
  have hextends : s.Extends { s with made := s.made.setIfInBounds number (some made) } := by
    refine ⟨fun n v hn => ?_, fun n hn => ?_⟩
    · have hne : n ≠ number := by
        rintro rfl
        exact nomatch hn.symm.trans hfree
      unfold scalarAt? at hn ⊢
      rwa [hother n hne]
    · by_cases hne : n = number
      · subst hne
        exact isCollection_record (lt_of_isSome hn.1) (hcollection hn)
      · unfold IsCollection scalarAt? at hn ⊢
        rwa [hother n hne]
  refine ⟨⟨by rw [Array.size_setIfInBounds, hs.size], fun n hn =>
    hextends.collection n (hs.waiting n hn), fun n made' hn => ?_⟩, hextends⟩
  rw [getD_setIfInBounds] at hn
  split at hn
  · obtain rfl := Option.some.inj hn
    exact hfits.mono hextends
  · exact (hs.fits n made' hn).mono hextends

/-- Other collections may be put off. -/
theorem grows_waiting (waiting : List Nat) (h : s.IsSound → ∀ n ∈ waiting, s.IsCollection n) :
    Grows s { s with waiting := waiting } := fun hs =>
  have hextends : s.Extends { s with waiting := waiting } := ⟨fun _ _ h => h, fun _ h => h⟩
  ⟨⟨hs.size, fun n hn => hextends.collection n (h hs n hn),
    fun n made hn => (hs.fits n made hn).mono hextends⟩, hextends⟩

/-- A timestamp has no parts. -/
theorem isScalar_timestamp {text : List Char} {d : Document} (h : Value.timestamp text = .ok d) :
    d.isScalar = true := by
  unfold Value.timestamp at h
  split at h
  · exact nomatch h
  · split at h
    · split at h
      · obtain rfl := Except.ok.inj h
        rfl
      · exact nomatch h
    · dsimp only at h
      split at h
      · exact nomatch h
      · split at h
        · obtain rfl := Except.ok.inj h
          rfl
        · exact nomatch h

/-- What is made by the rule of a type is a scalar. -/
theorem exists_of_ofScalar {make : α → Document} {r : Except ScalarError α} {made : Made}
    (h : ofScalar make r = .ok made) (hmake : ∀ a, r = .ok a → (make a).isScalar = true) :
    ∃ d b, made = .scalar d b ∧ d.isScalar = true := by
  cases r with
  | error e => exact nomatch h
  | ok a =>
      obtain rfl := Except.ok.inj h
      exact ⟨make a, false, rfl, hmake a rfl⟩

/-- What is made of a scalar's text is a scalar. -/
theorem exists_of_scalarValue {node : Node} {text : String} {made : Made}
    (h : scalarValue node text = .ok made) : ∃ d b, made = .scalar d b ∧ d.isScalar = true := by
  unfold scalarValue at h
  split at h
  · exact ⟨_, _, (Except.ok.inj h).symm, rfl⟩
  · exact exists_of_ofScalar h fun _ _ => rfl
  · exact exists_of_ofScalar h fun _ _ => rfl
  · unfold floatValue at h
    split at h
    · exact ⟨_, _, (Except.ok.inj h).symm, rfl⟩
    · exact nomatch h
  · unfold timestampValue at h
    split at h
    · exact exists_of_ofScalar h fun _ => isScalar_timestamp
    · exact nomatch h
  · unfold binaryValue at h
    split at h
    · exact ⟨_, _, (Except.ok.inj h).symm, rfl⟩
    · exact nomatch h
  · exact ⟨_, _, (Except.ok.inj h).symm, rfl⟩

/-- A node that is begun as a collection is one of the nodes. -/
theorem lt_of_begun? {made : Made} (h : begun? (s.nodeAt number).tag = some made) :
    number < s.nodes.size := by
  by_contra hle
  unfold nodeAt at h
  rw [Array.getD_eq_getD_getElem?, Array.getElem?_eq_none (Nat.le_of_not_lt hle)] at h
  exact nomatch h

/-- A collection that is begun holds nothing. -/
theorem fits_of_begun? {tag : Tag} {made : Made} (h : begun? tag = some made) :
    s.Fits made ∧ ∀ d b, made ≠ .scalar d b := by
  unfold begun? at h
  split at h
  · obtain rfl := Option.some.inj h
    exact ⟨trivial, fun _ _ h => nomatch h⟩
  · obtain rfl := Option.some.inj h
    exact ⟨trivial, fun _ _ h => nomatch h⟩
  · obtain rfl := Option.some.inj h
    exact ⟨trivial, fun _ _ h => nomatch h⟩
  · obtain rfl := Option.some.inj h
    exact ⟨⟨List.forall_mem_nil _, .nil⟩, fun _ _ h => nomatch h⟩
  · obtain rfl := Option.some.inj h
    exact ⟨⟨List.forall_mem_nil _, .nil⟩, fun _ _ h => nomatch h⟩
  · exact nomatch h

/-- Making a value keeps the state sound. -/
theorem keeps_make : Keeps Grows (make number) := by
  intro s x t hmake hs
  unfold make at hmake
  have hrest := makes_get_bind_iff.1 hmake
  split at hrest
  · obtain ⟨-, rfl⟩ := makes_pure_iff.1 hrest
    exact ⟨hs, .refl _⟩
  · next hnone =>
    have hfree : s.scalarAt? number = none := by
      unfold scalarAt?
      cases hn : s.made.getD number none with
      | none => rfl
      | some made => exact absurd (by rw [hn]; rfl) hnone
    have hnot : ¬s.IsCollection number := fun hc => hnone hc.1
    dsimp only at hrest
    split at hrest
    · next made hbegun =>
      obtain ⟨hfits, hcollection⟩ := fits_of_begun? (s := s) hbegun
      obtain ⟨u, s₁, hrecord, hwait⟩ := makes_bind_iff.1 hrest
      obtain rfl := makes_modify_iff.1 hrecord
      obtain rfl := makes_modify_iff.1 hwait
      have hnumber := isCollection_record (hs.size ▸ lt_of_begun? hbegun) hcollection
      have hrecord := grows_record hfree hfits (fun hc => absurd hc hnot)
      have hwait := grows_waiting (number :: s.waiting) fun hsound =>
        List.forall_mem_cons.2 ⟨hnumber, hsound.waiting⟩
      exact IsTrans.trans _ _ _ hrecord hwait hs
    · split at hrest
      · obtain ⟨text, s₁, htext, hrest⟩ := makes_bind_iff.1 hrest
        obtain ⟨-, rfl⟩ := makes_liftM_iff.1 htext
        obtain ⟨made, s₂, hvalue, hrecord⟩ := makes_bind_iff.1 hrest
        obtain ⟨hvalue, rfl⟩ := makes_liftM_iff.1 hvalue
        obtain rfl := makes_modify_iff.1 hrecord
        obtain ⟨d, b, rfl, hscalar⟩ := exists_of_scalarValue hvalue
        exact grows_record hfree hscalar (fun hc => absurd hc hnot) hs
      · exact absurd hrest not_makes_throw

/-! ## Filling collections -/

/-- A key that is set is there already, or is different from all others. -/
theorem map_fst_insertEntry (s : Assembly) (key value : Nat) (entries : List (Nat × Nat)) :
    (s.insertEntry key value entries).map Prod.fst = entries.map Prod.fst ∨
      (∀ k ∈ entries.map Prod.fst, s.isSameKey k key = false) ∧
        (s.insertEntry key value entries).map Prod.fst = entries.map Prod.fst ++ [key] := by
  induction entries with
  | nil => exact .inr ⟨List.forall_mem_nil _, rfl⟩
  | cons e entries ih =>
      obtain ⟨k, v⟩ := e
      unfold insertEntry
      by_cases hsame : s.isSameKey k key = true
      · rw [if_pos hsame]
        exact .inl rfl
      · rw [if_neg hsame, List.map_cons, List.map_cons, List.cons_append]
        rcases ih with hkeys | ⟨hdifferent, hkeys⟩
        · exact .inl (congrArg (k :: ·) hkeys)
        · exact .inr ⟨List.forall_mem_cons.2 ⟨Bool.eq_false_iff.2 hsame, hdifferent⟩,
            congrArg (k :: ·) hkeys⟩

/-- Keys stay different when one is set. -/
theorem KeysFit.insertEntry {entries : List (Nat × Nat)} {key : Nat} (value : Nat)
    (h : s.KeysFit (entries.map Prod.fst)) (hkey : (s.scalarAt? key).isSome = true) :
    s.KeysFit ((s.insertEntry key value entries).map Prod.fst) := by
  rcases map_fst_insertEntry s key value entries with hkeys | ⟨hdifferent, hkeys⟩
  · rwa [hkeys]
  · rw [hkeys]
    refine ⟨List.forall_mem_append.2 ⟨h.scalar, List.forall_mem_singleton.2 hkey⟩,
      List.pairwise_append.2 ⟨h.distinct, List.pairwise_singleton _ _, ?_⟩⟩
    exact fun k hk _ heq => (List.mem_singleton.1 heq).symm ▸ hdifferent k hk

/-- The entries that are collected have keys as they have to be. -/
theorem fits_of_fillEntries {whole : Node} {done entries result : List (Nat × Nat)}
    (hfill : Makes (fillEntries whole done entries) s result t) (hs : s.IsSound)
    (hdone : s.KeysFit (done.map Prod.fst)) :
    t.IsSound ∧ s.Extends t ∧ t.KeysFit (result.map Prod.fst) := by
  induction entries generalizing s done with
  | nil =>
      obtain ⟨rfl, rfl⟩ := makes_pure_iff.1 hfill
      exact ⟨hs, .refl _, hdone⟩
  | cons e entries ih =>
      obtain ⟨k, v⟩ := e
      unfold fillEntries at hfill
      obtain ⟨u₁, s₁, hkey, hchecked⟩ := makes_bind_iff.1 hfill
      obtain ⟨hs₁, hextends₁⟩ := keeps_make s u₁ s₁ hkey hs
      have hrest := makes_get_bind_iff.1 hchecked
      dsimp only at hrest
      split at hrest
      · have hfail := makes_get_bind_iff.1 hrest
        obtain ⟨u, s', hthrow, -⟩ := makes_bind_iff.1 hfail
        exact absurd hthrow not_makes_throw
      · next hscalar =>
        obtain ⟨u₂, s₂, hvalue, hrest⟩ := makes_bind_iff.1 hrest
        obtain ⟨hs₂, hextends₂⟩ := keeps_make s₁ u₂ s₂ hvalue hs₁
        have hextends := hextends₁.trans hextends₂
        obtain ⟨d, hd⟩ : ∃ d, s₁.scalarAt? k = some d :=
          Option.ne_none_iff_exists'.1 fun hnone => hscalar (by rw [hnone]; rfl)
        have hdone₂ := (hdone.mono hextends).insertEntry v
          (Option.isSome_iff_exists.2 ⟨d, hextends₂.scalar k d hd⟩)
        obtain ⟨ht, hextends₃, hkeys⟩ := ih (makes_get_bind_iff.1 hrest) hs₂ hdone₂
        exact ⟨ht, hextends.trans hextends₃, hkeys⟩

/-- The entries of a mapping have keys as they have to be. -/
theorem fits_of_mapping {result : List (Nat × Nat)} (hmapping : Makes (mapping number) s result t)
    (hs : s.IsSound) : t.IsSound ∧ s.Extends t ∧ t.KeysFit (result.map Prod.fst) := by
  unfold mapping at hmapping
  have hrest := makes_get_bind_iff.1 hmapping
  dsimp only at hrest
  split at hrest
  · obtain ⟨u, s₁, hflatten, hrest⟩ := makes_bind_iff.1 hrest
    obtain ⟨hs₁, hextends₁⟩ := (keeps_flatten s u s₁ hflatten).grows hs
    obtain ⟨ht, hextends₂, hkeys⟩ := fits_of_fillEntries (makes_get_bind_iff.1 hrest) hs₁
      ⟨List.forall_mem_nil _, .nil⟩
    exact ⟨ht, hextends₁.trans hextends₂, hkeys⟩
  · exact absurd hrest not_makes_throw

theorem keeps_sequence : Keeps Grows (sequence number) := by
  refine keeps_bind keeps_get fun s => ?_
  dsimp only
  split
  · exact keeps_bind (keeps_forM (fun _ => keeps_make) _) fun _ => keeps_pure
  · exact keeps_throw

theorem keeps_singleEntries {activity : Activity} :
    Keeps Grows (singleEntries activity number) := by
  refine keeps_bind keeps_get fun s => ?_
  dsimp only
  split
  · refine keeps_mapM (fun item => keeps_bind keeps_get fun _ => ?_) _
    split
    · exact keeps_bind keeps_make fun _ => keeps_bind keeps_make fun _ => keeps_pure
    · exact keeps_throw
    · exact keeps_throw
  · exact keeps_throw

/-- Recording the parts of a collection keeps the state sound. -/
theorem grows_of_parts (whole : α → Made) {w : Work α} {v : Unit}
    (hw : ∀ x t, Makes w s x t → s.IsSound → t.IsSound ∧ s.Extends t ∧ t.Fits (whole x))
    (hwhole : ∀ x d b, whole x ≠ .scalar d b) (hnumber : s.IsCollection number)
    (h : Makes (do record number (whole (← w))) s v t) : Grows s t := by
  intro hs
  obtain ⟨x, s₁, hparts, hrecord⟩ := makes_bind_iff.1 h
  obtain rfl := makes_modify_iff.1 hrecord
  obtain ⟨hs₁, hextends, hfits⟩ := hw x s₁ hparts hs
  have hstill := hextends.collection number hnumber
  have hrecord := grows_record hstill.2 hfits fun _ => hwhole x
  exact ⟨(hrecord hs₁).1, hextends.trans (hrecord hs₁).2⟩

/-- Filling a collection keeps the state sound. -/
theorem grows_of_fill {v : Unit} (hnumber : s.IsCollection number)
    (h : Makes (fill number) s v t) : Grows s t := by
  unfold fill at h
  have hrest := makes_get_bind_iff.1 h
  split at hrest
  · refine grows_of_parts .list (fun x t hx hs => ?_) (fun _ _ _ h => nomatch h) hnumber hrest
    obtain ⟨ht, hextends⟩ := keeps_sequence s x t hx hs
    exact ⟨ht, hextends, trivial⟩
  · refine grows_of_parts .pairs (fun x t hx hs => ?_) (fun _ _ _ h => nomatch h) hnumber hrest
    obtain ⟨ht, hextends⟩ := keeps_singleEntries s x t hx hs
    exact ⟨ht, hextends, trivial⟩
  · refine grows_of_parts .pairs (fun x t hx hs => ?_) (fun _ _ _ h => nomatch h) hnumber hrest
    obtain ⟨ht, hextends⟩ := keeps_singleEntries s x t hx hs
    exact ⟨ht, hextends, trivial⟩
  · exact grows_of_parts (fun entries : List (Nat × Nat) => .set (entries.map Prod.fst))
      (fun _ _ hx hs => fits_of_mapping hx hs) (fun _ _ _ h => nomatch h) hnumber hrest
  · exact grows_of_parts .map (fun _ _ hx hs => fits_of_mapping hx hs) (fun _ _ _ h => nomatch h)
      hnumber hrest

theorem grows_of_forM_fill {v : Unit} {numbers : List Nat}
    (hnumbers : ∀ n ∈ numbers, s.IsCollection n) (h : Makes (numbers.forM fill) s v t) :
    Grows s t := by
  induction numbers generalizing s with
  | nil =>
      obtain ⟨-, rfl⟩ := makes_pure_iff.1 h
      exact Std.Refl.refl _
  | cons n numbers ih =>
      obtain ⟨u, s₁, hfill, hrest⟩ := makes_bind_iff.1 h
      obtain ⟨hn, hothers⟩ := List.forall_mem_cons.1 hnumbers
      intro hs
      obtain ⟨hs₁, hextends⟩ := grows_of_fill hn hfill hs
      obtain ⟨ht, hextends'⟩ :=
        ih (fun m hm => hextends.collection m (hothers m hm)) hrest hs₁
      exact ⟨ht, hextends.trans hextends'⟩

theorem keeps_rounds (fuel : Nat) : Keeps Grows (rounds fuel) := by
  induction fuel with
  | zero => exact keeps_pure
  | succ fuel ih =>
      intro s v t h hs
      unfold rounds at h
      have hrest := makes_get_bind_iff.1 h
      dsimp only at hrest
      split at hrest
      · obtain ⟨-, rfl⟩ := makes_pure_iff.1 hrest
        exact ⟨hs, .refl _⟩
      · obtain ⟨u₁, s₁, hclear, hrest⟩ := makes_bind_iff.1 hrest
        obtain rfl := makes_modify_iff.1 hclear
        obtain ⟨u₂, s₂, hfill, hrest⟩ := makes_bind_iff.1 hrest
        have hclear := grows_waiting (s := s) [] fun _ => List.forall_mem_nil _
        have hfilled : Grows _ s₂ := grows_of_forM_fill (fun n hn =>
          (hclear hs).2.collection n (hs.waiting n (List.mem_reverse.1 hn))) hfill
        exact IsTrans.trans _ _ _ hclear (IsTrans.trans _ _ _ hfilled (ih s₂ v t hrest)) hs

/-- Before anything is made the state is sound. -/
theorem isSound_start (g : Graph) : (start g).IsSound := by
  refine ⟨Array.size_replicate, List.forall_mem_nil _, fun n made h => ?_⟩
  unfold start at h
  rw [Array.getD_eq_getD_getElem?, Array.getElem?_replicate] at h
  split at h <;> exact nomatch h

/-- **The work ends in a sound state.** -/
theorem isSound_of_run {g : Graph} (h : run g = .ok s) : s.IsSound := by
  unfold run at h
  split at h
  · next v t hrun =>
    obtain rfl := Except.ok.inj h
    have hkeeps : Keeps Grows (do make g.root; rounds (g.nodes.size + 1)) :=
      keeps_bind keeps_make fun _ => keeps_rounds _
    exact (hkeeps (start g) v t hrun (isSound_start g)).1
  · exact nomatch h

end ColumnTypes.Yaml.Assembly
