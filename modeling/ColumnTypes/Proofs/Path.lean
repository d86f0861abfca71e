import ColumnTypes.Path
import ColumnTypes.Proofs.Text.CodePoints
import ColumnTypes.Proofs.Text.Splitting
import Mathlib.Data.List.Basic

/-!
# Paths and their texts

A path is read back from its text, as long as its names are names that a text can have between
slashes.  The names of a path that has been read are such names, so reading a path is the same as
reading the text of what has been read.

* `Path.IsProper` - a name that a text can have between slashes;
* `Path.ofText_text` - a path with proper names is what its text spells;
* `Path.ofText_text_ofText` - the text of a path that has been read spells that path.
-/

namespace ColumnTypes.Path

/-- A name that a text can have between slashes, and that is kept. -/
structure IsProper (name : String) : Prop where
  isName : isName name = true
  no_slash : '/' ∉ name.toList

/-- The names of a path that has been read are proper. -/
theorem isProper_of_mem_ofText {s name : String} (h : name ∈ (ofText s).names) : IsProper name := by
  obtain ⟨hraw, hname⟩ := List.mem_filter.1 h
  obtain ⟨part, hpart, rfl⟩ := List.mem_map.1 hraw
  refine ⟨hname, ?_⟩
  rw [String.toList_ofList]
  exact Text.not_mem_of_mem_splitAt hpart

section names

variable {names : List String}

/-- Names with slashes between them. -/
def joined (names : List String) : List Char :=
  ['/'].intercalate (names.map String.toList)

/-- The first character behind a start is no slash. -/
theorem takeWhile_joined (h : ∀ name ∈ names, IsProper name) :
    (joined names).takeWhile (· == '/') = [] := by
  cases names with
  | nil => rfl
  | cons name rest =>
      obtain ⟨hname, hslash⟩ := h name List.mem_cons_self
      have hhead : ∃ c cs, name.toList = c :: cs ∧ c ≠ '/' := by
        cases hlist : name.toList with
        | nil =>
            obtain rfl : name = "" := String.toList_eq_nil_iff.1 hlist
            exact absurd hname (by decide)
        | cons c cs =>
            rw [hlist] at hslash
            exact ⟨c, cs, rfl, fun hc => hslash (hc ▸ List.mem_cons_self)⟩
      obtain ⟨c, cs, hlist, hc⟩ := hhead
      have hjoined : ∃ more, joined (name :: rest) = c :: more := by
        unfold joined
        cases rest with
        | nil => exact ⟨cs, by simp [hlist]⟩
        | cons next rest =>
            refine ⟨cs ++ ['/'] ++ joined (next :: rest), ?_⟩
            rw [List.map_cons, List.map_cons, List.intercalate_cons_cons, hlist]
            rfl
      obtain ⟨more, hjoined⟩ := hjoined
      rw [hjoined]
      simp [hc]

/-- The names are found again between the slashes. -/
theorem filter_splitAt_joined (h : ∀ name ∈ names, IsProper name) :
    ((Text.splitAt '/' (joined names)).map String.ofList).filter isName = names := by
  cases names with
  | nil => rfl
  | cons name rest =>
      have hparts : ∀ part ∈ (name :: rest).map String.toList, '/' ∉ part := by
        intro part hpart
        obtain ⟨name', hname', rfl⟩ := List.mem_map.1 hpart
        exact (h name' hname').no_slash
      have hid : ((name :: rest).map String.toList).map String.ofList = name :: rest := by
        simp [Function.comp_def]
      have hne : (name :: rest).map String.toList ≠ [] := List.cons_ne_nil _ _
      unfold joined
      rw [Text.splitAt_intercalate hne hparts, hid]
      exact List.filter_eq_self.2 fun name' hname' => (h name' hname').isName

/-- A slash and names are names with a slash before each. -/
theorem cons_joined (h : names ≠ []) :
    '/' :: joined names = names.flatMap fun name => '/' :: name.toList := by
  induction names with
  | nil => exact absurd rfl h
  | cons name rest ih =>
      cases rest with
      | nil => simp [joined]
      | cons next rest =>
          have hnext := ih (List.cons_ne_nil _ _)
          have hjoined : joined (name :: next :: rest) =
              name.toList ++ '/' :: joined (next :: rest) := by
            unfold joined
            rw [List.map_cons, List.map_cons, List.intercalate_cons_cons, List.append_assoc]
            rfl
          rw [hjoined, hnext, List.flatMap_cons]
          rfl

end names

/-- A start is read from its slashes. -/
theorem ofText_append {start : Start} {s : String} {names : List String}
    (h : ∀ name ∈ names, IsProper name) (hs : s.toList = start.text.toList ++ joined names) :
    ofText s = ⟨start, names⟩ := by
  have hslashes : start.text.toList.all (· == '/') = true := by
    cases start <;> decide
  have hcount : (s.toList.takeWhile (· == '/')).length = start.text.toList.length := by
    rw [hs, List.takeWhile_append_of_pos (List.all_eq_true.1 hslashes), takeWhile_joined h,
      List.append_nil]
  have hnames : (rawNames s).filter isName = names := by
    unfold rawNames
    rw [hs]
    cases start with
    | relative => exact filter_splitAt_joined h
    | root => exact filter_splitAt_joined h
    | twoSlashes => exact filter_splitAt_joined h
  unfold ofText
  rw [hcount, hnames]
  cases start <;> rfl

/-- **A path is what its text spells.** -/
theorem ofText_text {p : Path} (h : ∀ name ∈ p.names, IsProper name) : ofText p.text = p := by
  obtain ⟨start, names⟩ := p
  by_cases hempty : start = .relative ∧ names.isEmpty = true
  · obtain ⟨rfl, hempty⟩ := hempty
    obtain rfl := List.isEmpty_iff.1 hempty
    decide
  · refine ofText_append h ?_
    unfold text
    rw [if_neg hempty, String.toList_append, String.toList_intercalate]
    rfl

/-- The text of the path to a location has a slash before every name. -/
theorem toList_text_ofLocation {l : Location} (h : l ≠ []) :
    (ofLocation l).text.toList = l.flatMap fun name => '/' :: name.toList := by
  have hslash : "/".toList = ['/'] := rfl
  rw [← cons_joined h, text, if_neg (fun hstart => nomatch hstart.1), String.toList_append,
    String.toList_intercalate, hslash]
  simp only [ofLocation, Start.text, hslash]
  rfl

/-- The bytes of a relative path of ASCII names: those of the names, and a slash before each but the
first. -/
theorem byteSize_text_relative {names : List String} (hne : names ≠ [])
    (hascii : ∀ name ∈ names, ∀ c ∈ name.toList, c.toNat < 0x80) :
    Text.byteSize (Path.mk .relative names).text + 1 =
      (names.flatMap fun name => '/' :: name.toList).length := by
  have hlist : (Path.mk .relative names).text.toList = joined names := by
    have hempty : ¬(Start.relative = .relative ∧ names.isEmpty = true) := by simpa using hne
    unfold text
    rw [if_neg hempty, String.toList_append, String.toList_intercalate]
    rfl
  have hlow : ∀ c ∈ '/' :: joined names, c.toNat < 0x80 := by
    intro c hc
    rw [cons_joined hne] at hc
    obtain ⟨name, hname, hc⟩ := List.mem_flatMap.1 hc
    rcases List.mem_cons.1 hc with rfl | hc
    · decide
    · exact hascii name hname c hc
  rw [Text.byteSize_of_ascii (hlist ▸ fun c hc => hlow c (List.mem_cons_of_mem _ hc)), hlist,
    ← cons_joined hne, List.length_cons]

/-- The text of a path that has been read spells that path. -/
theorem ofText_text_ofText (s : String) : ofText (ofText s).text = ofText s :=
  ofText_text fun _ => isProper_of_mem_ofText

/-- A path behind one with proper names has proper names. -/
theorem isProper_of_mem_join {p q : Path} (hp : ∀ name ∈ p.names, IsProper name)
    (hq : ∀ name ∈ q.names, IsProper name) : ∀ name ∈ (p.join q).names, IsProper name := by
  intro name hname
  unfold join at hname
  split_ifs at hname
  · exact hq name hname
  · rcases List.mem_append.1 hname with hname | hname
    · exact hp name hname
    · exact hq name hname

/-- A path behind an absolute one is absolute. -/
theorem isAbsolute_join {p q : Path} (h : p.isAbsolute = true) : (p.join q).isAbsolute = true := by
  unfold join
  split_ifs with hq
  · exact hq
  · exact h

/-- The text of an absolute path spells an absolute path, whatever its names are. -/
theorem isAbsolute_ofText_text {p : Path} (h : p.isAbsolute = true) :
    (ofText p.text).isAbsolute = true := by
  obtain ⟨start, names⟩ := p
  have hfirst : ∃ cs, (Path.mk start names).text.toList = '/' :: cs := by
    cases start with
    | relative => exact nomatch h
    | root => exact ⟨_, by simp [text, Start.text]; rfl⟩
    | twoSlashes => exact ⟨_, by simp [text, Start.text]; rfl⟩
  obtain ⟨cs, hfirst⟩ := hfirst
  have hcount : ((Path.mk start names).text.toList.takeWhile (· == '/')).length ≠ 0 := by
    rw [hfirst]
    simp
  unfold ofText isAbsolute startOf
  dsimp only
  rw [if_neg hcount]
  split_ifs <;> rfl

end ColumnTypes.Path
