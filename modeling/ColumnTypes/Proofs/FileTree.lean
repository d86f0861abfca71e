import ColumnTypes.FileTree
import ColumnTypes.Proofs.Outcomes
import Mathlib.Data.List.Basic

/-!
# Walking through file trees

What a walk through names depends on: it goes from directory to directory, so two trees with the
same directories take it to the same place, as long as they agree on what is at its end.

* `FileTree.walk_append` - a walk can be taken in two parts;
* `FileTree.walk_of_agrees` - a walk that ends somewhere ends there in every tree with the same
  directories and the same end;
* `FileTree.below?_eq_some_iff`, `FileTree.mem_descendants_iff` - what is below a location.
-/

namespace ColumnTypes.FileTree

variable {t u : FileTree}

/-! ## Looking up -/

/-- Something is at a location below the root exactly if the tree lists it. -/
theorem isSome_get?_iff {l : Location} (hl : l ≠ []) :
    (t.get? l).isSome = true ↔ ∃ entry, (l, entry) ∈ t.entries := by
  rw [get?, if_neg hl, List.lookup_isSome_iff]
  constructor
  · rintro ⟨⟨m, entry⟩, hm, hlm⟩
    obtain rfl : l = m := by simpa using hlm
    exact ⟨entry, hm⟩
  · rintro ⟨entry, hm⟩
    exact ⟨(l, entry), hm, by simp⟩

/-- Where no location is listed twice, looking one up finds what is listed for it. -/
theorem lookup_eq_some_iff_mem {α β : Type} [BEq α] [LawfulBEq α] {l : List (α × β)}
    (h : (l.map Prod.fst).Nodup) {a : α} {b : β} : l.lookup a = some b ↔ (a, b) ∈ l := by
  induction l with
  | nil => simp
  | cons e l ih =>
      obtain ⟨a', b'⟩ := e
      rw [List.map_cons, List.nodup_cons] at h
      rw [List.lookup_cons, List.mem_cons, Prod.mk.injEq]
      by_cases ha : a = a'
      · subst ha
        have hb : (a, b) ∉ l := fun hm => h.1 (List.mem_map.2 ⟨(a, b), hm, rfl⟩)
        simp [hb, eq_comm]
      · have hbeq : (a == a') = false := beq_eq_false_iff_ne.2 ha
        simp [hbeq, ha, ih h.2]

/-- What is at a location below the root is listed for it. -/
theorem mem_entries_of_get? {l : Location} {entry : Entry} (hne : l ≠ [])
    (h : t.get? l = some entry) : (l, entry) ∈ t.entries := by
  rw [get?, if_neg hne, List.lookup_eq_some_iff] at h
  obtain ⟨before, after, hentries, -⟩ := h
  rw [hentries]
  exact List.mem_append_right _ List.mem_cons_self

/-- Further entries hide nothing that is there. -/
theorem get?_append_of_eq_some {more : List (Location × Entry)} {l : Location} {entry : Entry}
    (h : t.get? l = some entry) : (FileTree.mk (t.entries ++ more)).get? l = some entry := by
  unfold get? at h ⊢
  split_ifs at h ⊢
  · exact h
  · rw [List.lookup_append, h, Option.some_or]

/-- The order in which a tree lists its entries does not matter for what is where. -/
theorem get?_of_perm {entries : List (Location × Entry)} (h : entries.Perm t.entries)
    (hnodup : (t.entries.map Prod.fst).Nodup) (l : Location) :
    (FileTree.mk entries).get? l = t.get? l := by
  have hnodup' : (entries.map Prod.fst).Nodup := (h.map Prod.fst).nodup_iff.2 hnodup
  unfold get?
  split
  · rfl
  · apply Option.ext
    intro entry
    rw [lookup_eq_some_iff_mem hnodup', lookup_eq_some_iff_mem hnodup, h.mem_iff]

/-! ## Below a location -/

/-- A location is below another exactly if names lead from the one to the other. -/
theorem below?_eq_some_iff {l m : Location} {names : List String} :
    below? l m = some names ↔ m = l ++ names ∧ names ≠ [] := by
  induction l generalizing m with
  | nil =>
      cases m with
      | nil => simp [below?]
      | cons b m =>
          simp only [below?, List.isEmpty_cons, Bool.false_eq_true, if_false, Option.some.injEq,
            List.nil_append]
          constructor
          · rintro rfl
            exact ⟨rfl, by simp⟩
          · exact And.left
  | cons a l ih =>
      cases m with
      | nil => simp [below?]
      | cons b m =>
          by_cases hab : a = b
          · subst hab
            simp [below?, ih]
          · simp [below?, hab, Ne.symm hab]

/-- What is below a location is what the tree has at the ends of names from there. -/
theorem mem_descendants_iff {l : Location} {names : List String} :
    names ∈ t.descendants l ↔ names ≠ [] ∧ (t.get? (l ++ names)).isSome = true := by
  rw [descendants, List.mem_filterMap]
  constructor
  · rintro ⟨⟨m, entry⟩, hm, hbelow⟩
    obtain ⟨rfl, hnames⟩ := below?_eq_some_iff.1 hbelow
    exact ⟨hnames, (isSome_get?_iff (by simp [hnames])).2 ⟨entry, hm⟩⟩
  · rintro ⟨hnames, hsome⟩
    obtain ⟨entry, hm⟩ := (isSome_get?_iff (by simp [hnames])).1 hsome
    exact ⟨_, hm, below?_eq_some_iff.2 ⟨rfl, hnames⟩⟩

/-! ## Walking -/

/-- One name leads from a place to another. -/
inductive Leads (t : FileTree) (p : Place) (name : String) : Place → Prop
  /-- A name that is empty or a dot. -/
  | stay (directory : t.entryAtPlace? p = some .directory) (empty : Path.isName name = false) :
      Leads t p name p
  | up (directory : t.entryAtPlace? p = some .directory) (isName : Path.isName name = true)
      (short : Text.byteSize name ≤ nameLimit) (dots : name = "..") : Leads t p name p.parent
  | down (directory : t.entryAtPlace? p = some .directory) (isName : Path.isName name = true)
      (short : Text.byteSize name ≤ nameLimit) (ne_dots : name ≠ "..")
      (present : p.isPresent = true) (found : (t.get? (p.location ++ [name])).isSome = true) :
      Leads t p name ⟨p.location ++ [name], 0⟩

/-- Every step of a walk starts from a directory. -/
theorem Leads.isDirectory {p q : Place} {name : String} (h : t.Leads p name q) :
    t.entryAtPlace? p = some .directory := by
  cases h <;> assumption

/-- A walk is a step followed by a walk. -/
theorem walk_cons_eq_ok_iff {p q : Place} {name : String} {rest : List String} :
    t.walk p (name :: rest) = .ok q ↔ ∃ r, t.Leads p name r ∧ t.walk r rest = .ok q := by
  rw [walk]
  constructor
  · intro h
    split_ifs at h with hdir hname hlong hdots hfound
    · exact ⟨p, .stay (by simpa using hdir) (by simpa using hname), h⟩
    · exact ⟨_, .up (by simpa using hdir) (by simpa using hname) (by omega) hdots, h⟩
    · rw [Bool.and_eq_true] at hfound
      exact ⟨_, .down (by simpa using hdir) (by simpa using hname) (by omega) hdots hfound.1
        hfound.2, h⟩
  · rintro ⟨r, hlead, hrest⟩
    cases hlead with
    | stay directory empty => simpa [directory, empty] using hrest
    | up directory isName short dots =>
        have hlong : ¬nameLimit < Text.byteSize name := by omega
        simpa only [directory, isName, bne_self_eq_false, Bool.not_true, Bool.false_eq_true,
          if_false, if_neg hlong, if_pos dots] using hrest
    | down directory isName short ne_dots present found =>
        have hlong : ¬nameLimit < Text.byteSize name := by omega
        simpa only [directory, isName, bne_self_eq_false, Bool.not_true, Bool.false_eq_true,
          if_false, if_neg hlong, if_neg ne_dots, present, found, Bool.and_self, if_true]
          using hrest

/-- A walk can be taken in two parts. -/
theorem walk_append {p q : Place} {names rest : List String} :
    t.walk p (names ++ rest) = .ok q ↔
      ∃ r, t.walk p names = .ok r ∧ t.walk r rest = .ok q := by
  induction names generalizing p with
  | nil => simp [walk]
  | cons name names ih =>
      simp only [List.cons_append, walk_cons_eq_ok_iff, ih]
      constructor
      · rintro ⟨o, hlead, r, hnames, hrest⟩
        exact ⟨r, ⟨o, hlead, hnames⟩, hrest⟩
      · rintro ⟨r, ⟨o, hlead, hnames⟩, hrest⟩
        exact ⟨o, hlead, r, hnames, hrest⟩

/-- What comes of a walk after its first part is what comes of the rest. -/
theorem walk_append_of_eq_ok {p q : Place} {names rest : List String}
    (h : t.walk p names = .ok q) : t.walk p (names ++ rest) = t.walk q rest := by
  induction names generalizing p with
  | nil =>
      obtain rfl : p = q := Except.ok.inj h
      rfl
  | cons name names ih =>
      rw [walk] at h
      rw [List.cons_append, walk]
      split_ifs at h ⊢ with hdirectory hempty hlong hdots hfound
      · exact ih h
      · exact ih h
      · exact ih h

/-- A step is possible in every tree that has the directory it starts from and its end. -/
theorem Leads.of_agrees {p q : Place} {name : String} (h : t.Leads p name q)
    (hdir : u.entryAtPlace? p = some .directory)
    (hend : q.isPresent = true → (u.get? q.location).isSome = true) : u.Leads p name q := by
  cases h with
  | stay _ empty => exact .stay hdir empty
  | up _ isName short dots => exact .up hdir isName short dots
  | down _ isName short ne_dots present _ =>
      exact .down hdir isName short ne_dots present (hend rfl)

/-- A place is a directory in every tree with the same directories. -/
theorem entryAtPlace?_of_agrees {p : Place}
    (hdir : ∀ l, t.get? l = some .directory → u.get? l = some .directory)
    (h : t.entryAtPlace? p = some .directory) : u.entryAtPlace? p = some .directory := by
  unfold entryAtPlace? at h ⊢
  split_ifs at h ⊢
  · exact hdir _ h
  · rfl

/-- A walk ends where it does in every tree that has the same directories and its end. -/
theorem walk_of_agrees {p q : Place} {names : List String}
    (hdir : ∀ l, t.get? l = some .directory → u.get? l = some .directory)
    (h : t.walk p names = .ok q)
    (hend : q.isPresent = true → (u.get? q.location).isSome = true) : u.walk p names = .ok q := by
  induction names generalizing p with
  | nil => simpa [walk] using h
  | cons name rest ih =>
      obtain ⟨r, hlead, hrest⟩ := walk_cons_eq_ok_iff.1 h
      -- The step ends either where the walk does or at a directory from which it goes on.
      have hr : r.isPresent = true → (u.get? r.location).isSome = true := by
        intro hpresent
        cases rest with
        | nil =>
            obtain rfl : r = q := by simpa [walk] using hrest
            exact hend hpresent
        | cons next rest =>
            obtain ⟨_, hnext, -⟩ := walk_cons_eq_ok_iff.1 hrest
            have hu := entryAtPlace?_of_agrees hdir hnext.isDirectory
            rw [entryAtPlace?, if_pos hpresent] at hu
            simp [hu]
      exact walk_cons_eq_ok_iff.2
        ⟨r, hlead.of_agrees (entryAtPlace?_of_agrees hdir hlead.isDirectory) hr, ih hrest⟩

/-- Names that all lead down. -/
def AllLeadDown (names : List String) : Prop :=
  ∀ name ∈ names, Path.isName name = true ∧ name ≠ ".."

instance (names : List String) : Decidable (AllLeadDown names) :=
  inferInstanceAs (Decidable (∀ name ∈ names, Path.isName name = true ∧ name ≠ ".."))

/-- A walk through names that lead down ends where they say. -/
theorem walk_of_allLeadDown {p q : Place} {names : List String} (hnames : AllLeadDown names)
    (hne : names ≠ []) (h : t.walk p names = .ok q) : q = ⟨p.location ++ names, 0⟩ := by
  induction names generalizing p with
  | nil => exact absurd rfl hne
  | cons name rest ih =>
      obtain ⟨r, hlead, hrest⟩ := walk_cons_eq_ok_iff.1 h
      obtain ⟨hname, hdots⟩ := hnames name List.mem_cons_self
      have hr : r = ⟨p.location ++ [name], 0⟩ := by
        cases hlead with
        | stay _ empty => exact absurd hname (by simp [empty])
        | up _ _ _ dots => exact absurd dots hdots
        | down => rfl
      subst hr
      cases rest with
      | nil => simpa [walk, eq_comm] using hrest
      | cons next rest =>
          have hdown : AllLeadDown (next :: rest) :=
            fun name hmem => hnames name (List.mem_cons_of_mem _ hmem)
          rw [ih hdown (List.cons_ne_nil _ _) hrest, List.append_assoc]
          rfl

/-! ## Paths -/

variable {directory place : Place} {p : Path}

/-- A path leads to a place if it can be one and the walk through its names, as they are listed,
ends there. -/
theorem placeAt_eq_ok_iff :
    t.placeAt directory p = .ok place ↔
      p.isUnusable = false ∧ Text.byteSize p.text ≤ pathLimit ∧
        t.walk (p.base directory) (p.names.map Text.listed) = .ok place := by
  unfold placeAt
  split_ifs with hunusable hlong
  · simp [hunusable]
  · simp [hunusable, Nat.not_le.2 hlong]
  · simp [hunusable, Nat.not_lt.1 hlong]

/-- A path leads to a directory if it leads to a place with a directory. -/
theorem directoryAt_eq_ok_iff :
    t.directoryAt directory p = .ok place ↔
      t.placeAt directory p = .ok place ∧ t.entryAtPlace? place = some .directory := by
  unfold directoryAt
  rw [bind_eq_ok_iff]
  constructor
  · rintro ⟨q, hq, h⟩
    split_ifs at h with hdir
    obtain rfl := Except.ok.inj h
    exact ⟨hq, beq_iff_eq.1 hdir⟩
  · rintro ⟨hplace, hdir⟩
    exact ⟨place, hplace, if_pos (beq_iff_eq.2 hdir)⟩

/-- What a path leads to is what is at its place. -/
theorem entryAt_eq_ok_iff {entry : Entry} :
    t.entryAt directory p = .ok entry ↔
      ∃ place, t.placeAt directory p = .ok place ∧ t.entryAtPlace? place = some entry := by
  unfold entryAt
  rw [bind_eq_ok_iff]
  refine exists_congr fun place => and_congr_right' ?_
  cases t.entryAtPlace? place with
  | none => simp
  | some e => simp

/-- The bytes that are read are those of the file that the path leads to. -/
theorem readFile_eq_ok_iff {bytes : List UInt8} :
    t.readFile directory p = .ok bytes ↔ t.entryAt directory p = .ok (.file bytes) := by
  unfold readFile
  rw [bind_eq_ok_iff]
  constructor
  · rintro ⟨entry, hentry, h⟩
    cases entry with
    | file content =>
        obtain rfl := Except.ok.inj h
        exact hentry
    | directory => exact nomatch h
  · intro hentry
    exact ⟨_, hentry, rfl⟩

end ColumnTypes.FileTree
