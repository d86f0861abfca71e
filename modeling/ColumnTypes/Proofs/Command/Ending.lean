import ColumnTypes.Proofs.Command.Running

/-!
# Runs that end early

What an action does that ends the command is told by `Action.Ends`, the counterpart of
`Action.Returns`.  Two ways of writing lead to such an end:

* `Action.Breaks` - what cannot be printed breaks the command off (`ends_print`), and everything
  else is printed in whole lines (`exists_returns_print`);
* `Action.fail` - a failure ends the command with exit code one and a last line on the error stream
  that begins with `Error:` (`ends_fail`).
-/

namespace ColumnTypes.Command

/-! ## Lines -/

/-- A text that is empty or ends with a line break. -/
def IsLines (s : String) : Prop :=
  s = "" ∨ ∃ t, s = t ++ "\n"

/-- Lines after lines are lines. -/
theorem IsLines.append {s t : String} (hs : IsLines s) (ht : IsLines t) : IsLines (s ++ t) := by
  rcases ht with rfl | ⟨u, rfl⟩
  · rwa [String.append_empty]
  · exact .inr ⟨s ++ u, (String.append_assoc).symm⟩

/-- Lines that are written one after another, each with its break, are lines. -/
theorem isLines_ofCodes_flatMap {α : Type} (line : α → List Nat) (xs : List α) :
    IsLines (Text.ofCodes (xs.flatMap fun x => line x ++ [Paragraph.lineFeed])) := by
  rcases List.eq_nil_or_concat xs with rfl | ⟨init, last, rfl⟩
  · exact .inl rfl
  · right
    rw [List.concat_eq_append, List.flatMap_append, List.flatMap_singleton, ← List.append_assoc,
      Text.ofCodes_append]
    exact ⟨_, rfl⟩

/-- The error stream gets lines of a paragraph, in which surrogates are escaped. -/
theorem isLines_escaped_paragraphText (width : Nat) (s : String) :
    IsLines (Text.escaped (paragraphText width s)) := by
  set lines := Paragraph.lines width .fold (Paragraph.clean (Text.codes s))
  have hlines : ∀ line ∈ lines, ∀ n ∈ line, n < 0x110000 :=
    Paragraph.forall_mem_lines Text.toNat_lt (Paragraph.forall_mem_clean Text.codes_lt)
  have hcodes : Text.codes (linesText width lines) =
      lines.flatMap fun line => Text.cropped width line ++ [Paragraph.lineFeed] :=
    Text.codes_ofCodes (forall_mem_flatMap_cropped hlines Text.toNat_lt)
  have hfeed : [Paragraph.lineFeed].flatMap Text.escapedCode = [Paragraph.lineFeed] := by decide
  unfold Text.escaped paragraphText
  rw [hcodes, List.flatMap_assoc]
  simp only [List.flatMap_append, hfeed]
  exact isLines_ofCodes_flatMap _ _

/-- More has been done, and the error stream has got whole lines. -/
def Progress.AddsLines (p q : Progress) : Prop :=
  ∃ above, IsLines above ∧ q.err = p.err ++ above

namespace Progress

variable {p q r : Progress}

theorem AddsLines.refl (p : Progress) : p.AddsLines p :=
  ⟨"", .inl rfl, String.append_empty.symm⟩

theorem AddsLines.of_err_eq (h : q.err = p.err) : p.AddsLines q :=
  ⟨"", .inl rfl, h.trans String.append_empty.symm⟩

theorem AddsLines.trans (h : p.AddsLines q) (h' : q.AddsLines r) : p.AddsLines r := by
  obtain ⟨s, hs, hq⟩ := h
  obtain ⟨t, ht, hr⟩ := h'
  exact ⟨s ++ t, hs.append ht, by rw [hr, hq, String.append_assoc]⟩

/-- Lines may be written to either stream. -/
theorem addsLines_write {stream : Stream} {text : String} (h : IsLines text) :
    p.AddsLines (p.write stream text) := by
  cases stream with
  | out => exact .of_err_eq rfl
  | err => exact ⟨text, h, rfl⟩

end Progress

namespace Action

variable {α β : Type} {a : Action α} {f : α → Action β} {p q r : Progress} {x : α}
  {ending : Ending} {width : Nat} {stream : Stream} {markup message : String} {cause : Crash}

/-! ## Ends -/

/-- An action ends the command. -/
def Ends (a : Action α) (p : Progress) (ending : Ending) (q : Progress) : Prop :=
  (ExceptT.run a).run p = (.error ending, q)

theorem ends_stop : Ends (stop ending : Action α) p ending p :=
  rfl

/-- A sequence ends with its first action. -/
theorem ends_bind_of_ends (h : a.Ends p ending q) : (a >>= f).Ends p ending q := by
  unfold Ends at h ⊢
  rw [run_bind, h]

/-- A sequence ends with its second action if the first goes on. -/
theorem ends_bind_of_returns (ha : a.Returns p x r) (hf : (f x).Ends r ending q) :
    (a >>= f).Ends p ending q := by
  unfold Returns at ha
  unfold Ends at hf ⊢
  rw [run_bind, ha]
  exact hf

/-- A command that ends early ends so. -/
theorem run_of_ends {a : Action Unit} {logging : Logging}
    (h : a.Ends (.start logging) ending q) : a.run logging = (ending, q) := by
  unfold run
  rw [h]

/-! ## Printing -/

/-- What cannot be printed on a console of some width, and how it breaks the command off. -/
inductive Breaks (width : Nat) (stream : Stream) (markup : String) : Crash → Prop
  /-- Markup that is malformed. -/
  | markup {error : MarkupError} (malformed : Markup.plain markup.toList = .error error) :
      Breaks width stream markup (.markup error)
  /-- A surrogate in what the console shows, on the output stream. -/
  | unencodable {plain : List Char} (shown : Markup.plain markup.toList = .ok plain)
      (isOut : stream = .out)
      (broken : Text.hasSurrogate (paragraphText width (String.ofList plain)) = true) :
      Breaks width stream markup .unencodable

/-- Clean text can be printed on every stream. -/
theorem not_breaks_of_isClean (h : isClean markup = true) : ¬Breaks width stream markup cause := by
  have hprintable := isPrintable_of_isClean width h
  unfold isPrintable at hprintable
  intro hbreaks
  cases hbreaks with
  | markup malformed =>
      rw [malformed] at hprintable
      exact nomatch hprintable
  | unencodable shown isOut broken =>
      rw [shown] at hprintable
      dsimp only at hprintable
      rw [broken] at hprintable
      exact nomatch hprintable

/-- The error stream takes every text. -/
theorem returns_encoded_err {s : String} : (encoded .err s).Returns p (Text.escaped s) p :=
  returns_pure_iff.2 ⟨rfl, rfl⟩

/-- A surrogate in a text for the output stream breaks the command off. -/
theorem ends_write_out {text : String} (h : Text.hasSurrogate text = true) :
    (write .out text).Ends p (.crash .unencodable) p := by
  refine ends_bind_of_ends ?_
  unfold encoded
  dsimp only
  rw [if_pos h]
  exact ends_stop

/-- So a text with a surrogate is not echoed. -/
theorem ends_echo_out {text : String} (h : Text.hasSurrogate text = true) :
    (echo .out text).Ends p (.crash .unencodable) p := by
  refine ends_write_out (Bool.not_eq_false _ ▸ fun hnone => ?_)
  rw [hasSurrogate_withoutControls_iff, hasSurrogate_append_newline, h] at hnone
  exact nomatch hnone

/-- What cannot be printed breaks the command off. -/
theorem ends_print (h : Breaks width stream markup cause) :
    (print width stream markup).Ends p (.crash cause) p := by
  unfold print
  cases h with
  | markup malformed =>
      rw [malformed]
      exact ends_stop
  | unencodable shown isOut broken =>
      rw [shown]
      subst isOut
      exact ends_write_out broken

/-- Everything else is printed in lines. -/
theorem exists_returns_print (h : ∀ cause, ¬Breaks width stream markup cause) :
    ∃ q, (print width stream markup).Returns p () q ∧ p.AddsLines q := by
  unfold print
  cases hplain : Markup.plain markup.toList with
  | error error => exact absurd (.markup hplain) (h (.markup error))
  | ok plain =>
      cases stream with
      | err =>
          refine ⟨_, returns_bind_iff.2 ⟨_, p, returns_encoded_err, returns_modify_iff.2 rfl⟩, ?_⟩
          exact Progress.addsLines_write (isLines_escaped_paragraphText width _)
      | out =>
          have hbroken : Text.hasSurrogate (paragraphText width (String.ofList plain)) = false :=
            Bool.eq_false_iff.2 fun hbroken => h .unencodable (.unencodable hplain rfl hbroken)
          exact ⟨_, returns_write_out_iff.2 ⟨hbroken, rfl⟩, .of_err_eq rfl⟩

/-! ## Failing -/

/-- The beginning of an error line is seen as it is. -/
theorem exists_escaped_error (message : String) :
    ∃ rest, Text.escaped (withoutControls ("Error: " ++ message)) = "Error: " ++ rest := by
  have hplain : ∀ c ∈ "Error: ".toList, c ≠ Text.guardMark := by simp [Text.guardMark]
  have hcodes : Text.codes ("Error: " ++ message) = Text.codes "Error: " ++ Text.codes message := by
    unfold Text.codes
    rw [String.toList_append, Text.codesOf_append hplain]
  have hescape : ∀ n ∈ Text.codes "Error: ", n ≠ 0x1B := by decide
  unfold Text.escaped
  rw [codes_withoutControls, hcodes, List.length_append, withoutControlsFrom_append hescape,
    List.flatMap_append, Text.ofCodes_append]
  exact ⟨_, rfl⟩

/-- A failure ends the command with a line that begins with `Error:`. -/
theorem ends_fail (message : String) : ∃ rest, (fail message : Action α).Ends p (.exit 1)
    (p.write .err ("Error: " ++ rest)) := by
  obtain ⟨rest, hrest⟩ := exists_escaped_error (message ++ "\n")
  refine ⟨rest, ends_bind_of_returns (x := ()) ?_ ends_stop⟩
  refine returns_bind_iff.2 ⟨_, p, returns_encoded_err, returns_modify_iff.2 ?_⟩
  rw [String.append_assoc, hrest]

end Action

end ColumnTypes.Command
