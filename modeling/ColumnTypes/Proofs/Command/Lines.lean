import ColumnTypes.Command.Columns
import ColumnTypes.Proofs.Command.Running
import ColumnTypes.Proofs.Console.Markup

/-!
# The lines of commands

What `columns` and `validate` print are lines with a heading, behind which a path or the name of a
driver stands, and lines with numbers.

* `isClean_heading`, `isWellFormed_heading` - a heading has no influence on whether the text behind
  it is clean, or well-formed;
* `isClean_driver`, `isClean_summaryLine`, `isClean_lastLine` - the lines about drivers and numbers
  are clean, and so is the last line of `validate`;
* `hasSurrogate_dynamicWarning` - so is the warning of `columns`.
-/

namespace ColumnTypes.Command

open Command.Action Markup

/-- Whether a text is markup that a console takes. -/
def isWellFormed (markup : String) : Bool :=
  (plain markup.toList).isOk

/-- Marked-up text can be printed exactly if it is well-formed and no surrogate is left in what the
console shows of it. -/
theorem isPrintable_iff {width : Nat} {markup : String} :
    isPrintable width markup = true ↔
      isWellFormed markup = true ∧ Text.hasSurrogate (rendered width markup) = false := by
  unfold isPrintable isWellFormed rendered
  cases plain markup.toList with
  | error e => simp [Except.isOk, Except.toBool]
  | ok shown => simp [Except.isOk, Except.toBool]

/-! ## Headings -/

/-- A character that stands for itself in what is printed. -/
def isWhole (c : Char) : Bool :=
  decide (Text.IsOrdinary c)

section heading

variable (style label gap : String)
  (h : IsHeading style.toList label.toList gap.toList ∧
    Shown.isCut (label.toList ++ gap.toList) = false ∧
    (label.toList ++ gap.toList).all isWhole = true) (text : String)

include h

/-- A line with a heading shows the heading and what the text behind it shows. -/
theorem plain_heading_append :
    plain ("[" ++ style ++ "]" ++ label ++ "[/" ++ style ++ "]" ++ gap ++ text).toList =
      (plain text.toList).map (label.toList ++ gap.toList ++ ·) := by
  have hlist : ("[" ++ style ++ "]" ++ label ++ "[/" ++ style ++ "]" ++ gap ++ text).toList =
      heading style.toList label.toList gap.toList ++ text.toList := by
    simp [heading]
  rw [hlist, plain_heading h.1 h.2.1]

/-- It is well-formed exactly if the text is. -/
theorem isWellFormed_heading :
    isWellFormed ("[" ++ style ++ "]" ++ label ++ "[/" ++ style ++ "]" ++ gap ++ text) =
      isWellFormed text := by
  unfold isWellFormed
  rw [plain_heading_append style label gap h]
  cases plain text.toList <;> rfl

/-- It is clean exactly if the text is. -/
theorem isClean_heading :
    isClean ("[" ++ style ++ "]" ++ label ++ "[/" ++ style ++ "]" ++ gap ++ text) =
      isClean text := by
  have hne : label.toList ++ gap.toList ≠ [] :=
    List.append_ne_nil_of_left_ne_nil h.1.label_ne_nil _
  have hwhole : ∀ c ∈ label.toList ++ gap.toList, Text.IsOrdinary c :=
    fun c hc => of_decide_eq_true (List.all_eq_true.1 h.2.2 c hc)
  unfold isClean
  rw [plain_heading_append style label gap h]
  cases plain text.toList with
  | error e => rfl
  | ok shown =>
      have hshown :
          Text.hasSurrogate (String.ofList ([] ++ (label.toList ++ gap.toList ++ shown))) =
            (Text.hasSurrogate (String.ofList []) || Text.hasSurrogate (String.ofList shown)) :=
        Text.hasSurrogate_append_append hne hwhole
      exact congrArg not hshown

end heading

/-! ## Numbers -/

/-- A character that can stand anywhere in a line: no mark begins with it, and it stands for
itself. -/
def isOrdinary (c : Char) : Bool :=
  isPlain c && isWhole c

theorem isOrdinary_iff {c : Char} :
    isOrdinary c = true ↔ isPlain c = true ∧ Text.IsOrdinary c := by
  simp [isOrdinary, isWhole]

/-- A number is written with digits. -/
theorem range_of_mem_toString {n : Nat} {c : Char} (hc : c ∈ (toString n).toList) :
    48 ≤ c.toNat ∧ c.toNat ≤ 57 := by
  rw [Nat.toString_eq_repr, Nat.toList_repr] at hc
  have hdigit := Nat.isDigit_of_mem_toDigits (by decide) (by decide) hc
  simpa [Char.isDigit, UInt32.le_iff_toNat_le] using hdigit

/-- The digits of a number are ordinary. -/
theorem all_isOrdinary_toString (n : Nat) : (toString n).toList.all isOrdinary = true := by
  refine List.all_eq_true.2 fun c hc => ?_
  have hrange := range_of_mem_toString hc
  have hplain : isPlain c = true := by
    refine isPlain_iff.2 ⟨⟨?_, ?_⟩, ?_⟩
    all_goals
      rintro rfl
      exact absurd hrange (by decide)
  exact isOrdinary_iff.2 ⟨hplain, Text.isOrdinary_of_lt (Nat.lt_of_le_of_lt hrange.2 (by decide))⟩

/-- No surrogate stands among ordinary characters. -/
theorem hasSurrogate_of_isOrdinary {cs : List Char} (h : ∀ c ∈ cs, Text.IsOrdinary c) :
    Text.hasSurrogate (String.ofList cs) = false := by
  rw [← Text.ofChars_of_ne fun c hc => (h c hc).1]
  exact Text.hasSurrogate_ofChars cs

/-- The numbers below the table are clean, whatever they are. -/
theorem isClean_summaryLine (numbers : Statistics) : isClean (summaryLine numbers) = true := by
  set digits := (toString numbers.columns).toList with hdigits
  set tail := " columns in ".toList ++ ((toString numbers.tables).toList ++
    (" tables across ".toList ++ ((toString numbers.schemas).toList ++ " schemas".toList)))
  have htailOrdinary : tail.all isOrdinary = true := by
    simp only [tail, List.all_append, all_isOrdinary_toString]
    decide
  have hordinary : ∀ c ∈ digits, isPlain c = true ∧ Text.IsOrdinary c :=
    fun c hc => isOrdinary_iff.1 (List.all_eq_true.1 (all_isOrdinary_toString _) c hc)
  have htail : ∀ c ∈ tail, isPlain c = true ∧ Text.IsOrdinary c :=
    fun c hc => isOrdinary_iff.1 (List.all_eq_true.1 htailOrdinary c hc)
  have hlist : (summaryLine numbers).toList =
      ['\n'] ++ (heading "bold".toList digits [] ++ tail) := by
    simp [summaryLine, heading, digits, tail]
  have hmarks : ∀ c ∈ digits, (c ≠ '[' ∧ c ≠ '\\') ∧ c ≠ ':' :=
    fun c hc => isPlain_iff.1 (hordinary c hc).1
  have hne : digits ≠ [] := by
    rw [hdigits, Nat.toString_eq_repr]
    exact fun h => Nat.repr_ne_empty (String.toList_eq_nil_iff.1 h)
  have hheading : IsHeading "bold".toList digits [] :=
    ⟨by decide, hne, List.all_eq_true.2 fun c hc => isUnmarked_iff.2 (hmarks c hc).1,
      Emoji.shownFrom_of_no_colon _ _ fun c hc => (hmarks c hc).2, rfl⟩
  have hplain : plain (['\n'] ++ (heading "bold".toList digits [] ++ tail)) =
      .ok (['\n'] ++ digits ++ tail) :=
    plain_append_heading hheading (by decide)
      (List.all_eq_true.2 fun c hc => (htail c hc).1)
  have hwhole : ∀ c ∈ ['\n'] ++ digits ++ tail, Text.IsOrdinary c := by
    refine List.forall_mem_append.2 ⟨List.forall_mem_append.2 ⟨?_, ?_⟩, ?_⟩
    · exact List.forall_mem_singleton.2 (by decide)
    · exact fun c hc => (hordinary c hc).2
    · exact fun c hc => (htail c hc).2
  unfold isClean
  rw [hlist, hplain]
  exact congrArg not (hasSurrogate_of_isOrdinary hwhole)

/-- No surrogate stands in the warning below them. -/
theorem hasSurrogate_dynamicWarning (width count : Nat) :
    Text.hasSurrogate (panelText width (dynamicWarning count)) = false := by
  have hwarning : (" column(s) resolved to interface\x7b\x7d\n\n" ++
      "Run with --debug to log each unresolved type.").toList.all isWhole = true := by
    decide
  have hbody : Text.hasSurrogate (toString count ++
      " column(s) resolved to interface\x7b\x7d\n\n" ++
      "Run with --debug to log each unresolved type.") = false := by
    rw [String.append_assoc, ← String.ofList_toList (s := toString count ++ _),
      String.toList_append]
    refine hasSurrogate_of_isOrdinary (List.forall_mem_append.2 ⟨fun c hc => ?_, fun c hc => ?_⟩)
    · exact (isOrdinary_iff.1 (List.all_eq_true.1 (all_isOrdinary_toString count) c hc)).2
    · exact of_decide_eq_true (List.all_eq_true.1 hwarning c hc)
  exact hasSurrogate_panelText (Text.isValidChar_of_mem_codes (by decide))
    (Text.isValidChar_of_mem_codes hbody)

/-! ## Last lines and drivers -/

/-- The last line of `validate`. -/
def lastLine : String := "\n[bold green]All checks passed[/bold green]"

theorem plain_lastLine : plain lastLine.toList = .ok "\nAll checks passed".toList := by
  have hheading : IsHeading "bold green".toList "All checks passed".toList [] := by decide
  have hlist : lastLine.toList =
      ['\n'] ++ (heading "bold green".toList "All checks passed".toList [] ++ []) := by
    decide
  rw [hlist, plain_append_heading hheading (by decide) rfl]
  rfl

/-- The last line is clean. -/
theorem isClean_lastLine : isClean lastLine = true := by
  unfold isClean
  rw [plain_lastLine]
  decide

/-- The driver of a configuration is one that can be chosen. -/
theorem driver_mem_choices (cfg : Config) : cfg.driver ∈ Driver.choices := by
  show Driver.ofPackage cfg.package ∈ Driver.choices
  unfold Driver.ofPackage
  split_ifs
  · exact .tail _ (.head _)
  · exact .head _

/-- The name of a driver that can be chosen is clean. -/
theorem isClean_name {driver : Driver} (h : driver ∈ Driver.choices) :
    isClean driver.name = true := by
  revert driver
  decide

/-- So is the line of `columns` about the driver of a call. -/
theorem isClean_driver (given : List Given) (cfg : Config) :
    isClean ("[dim]Driver:[/dim]  " ++ ((ColumnsRequest.ofGiven given).chosenDriver cfg).name) =
      true := by
  refine (isClean_heading "dim" "Driver:" "  " (by decide) _).trans (isClean_name ?_)
  unfold ColumnsRequest.chosenDriver ColumnsRequest.ofGiven
  dsimp only
  cases hdriver : (valueOf? "--driver" given).bind Driver.ofName? with
  | some driver =>
      obtain ⟨value, -, hname⟩ := Option.bind_eq_some_iff.1 hdriver
      exact List.mem_of_find?_eq_some hname
  | none => exact driver_mem_choices cfg

end ColumnTypes.Command
