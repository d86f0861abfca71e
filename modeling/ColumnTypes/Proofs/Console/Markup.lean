import ColumnTypes.Console.Markup
import Mathlib.Data.List.Basic

/-!
# Headings in marked-up text

The lines of the commands begin with a heading, a label in a style of its own:
`[green]Config valid:[/green] ` or `[dim]Config:[/dim]  `.  What follows is a text from outside,
with markup of its own.  A heading has no influence on it: with the heading before it the text shows
what it shows by itself, behind the label, and it is malformed exactly if it is by itself
(`plain_heading`).  A heading between texts without any markup is shown as its label
(`plain_append_heading`).

## Strategy

The text is cut into pieces as it is by itself, but for the characters that go before its first
piece (`exists_piecesBehind_eq`), and what is read of pieces does not depend on what has been read
and closed before them (`foldlM_behind`).  So reading begins behind the closed span of the label
(`foldlM_pieces_heading`).
-/

namespace ColumnTypes.Markup

variable {before body rest cs : List Char}

/-! ## Pieces -/

/-- What is left after a tag is shorter. -/
theorem length_lt_of_tagBody? (h : tagBody? cs = some (body, rest)) : rest.length < cs.length := by
  fun_induction tagBody? cs generalizing body with
  | case1 => exact nomatch h
  | case2 rest' =>
      obtain ⟨-, rfl⟩ := Prod.mk.inj (Option.some.inj h)
      exact Nat.lt_succ_self _
  | case3 => exact nomatch h
  | case4 c rest' _ _ ih =>
      obtain ⟨⟨body', rest''⟩, hrest, heq⟩ := Option.map_eq_some_iff.1 h
      obtain ⟨-, rfl⟩ := Prod.mk.inj heq
      exact Nat.lt_succ_of_lt (ih hrest)

theorem length_lt_of_tag? (h : tag? cs = some (body, rest)) : rest.length + 1 < cs.length := by
  unfold tag? at h
  split at h
  · split_ifs at h
    obtain ⟨⟨body', rest'⟩, hrest, heq⟩ := Option.map_eq_some_iff.1 h
    obtain ⟨-, rfl⟩ := Prod.mk.inj heq
    have hlt := length_lt_of_tagBody? hrest
    simp only [List.length_cons]
    omega
  · exact nomatch h

/-- Two amounts of fuel that both suffice give the same pieces. -/
theorem piecesFrom_congr {n m : Nat} (hn : cs.length ≤ n) (hm : cs.length ≤ m) :
    piecesFrom n before cs = piecesFrom m before cs := by
  induction n generalizing m before cs with
  | zero =>
      obtain rfl : cs = [] := List.length_eq_zero_iff.1 (Nat.le_zero.1 hn)
      cases m with
      | zero => rfl
      | succ m => simp [piecesFrom]
  | succ n ih =>
      cases cs with
      | nil =>
          cases m with
          | zero => simp [piecesFrom]
          | succ m => rfl
      | cons c cs =>
          cases m with
          | zero => exact absurd hm (Nat.not_succ_le_zero _)
          | succ m =>
              rw [List.length_cons] at hn hm
              unfold piecesFrom
              dsimp only
              split
              · next body rest htag =>
                have hlt := length_lt_of_tag? htag
                rw [List.length_drop, List.length_cons] at hlt
                rw [ih (m := m) (by omega) (by omega)]
              · exact ih (by omega) (by omega)

/-- The pieces of a text that goes on after characters of no tag, the last of them first. -/
def piecesBehind (before cs : List Char) : List Piece :=
  piecesFrom cs.length before cs

/-- A character that begins neither a tag nor an escape belongs to the text before it. -/
theorem piecesBehind_cons {c : Char} (hbracket : c ≠ '[') (hescape : c ≠ '\\') :
    piecesBehind before (c :: cs) = piecesBehind (c :: before) cs := by
  have hnone : tag? (c :: cs) = none := by
    unfold tag?
    split
    · next heq => exact absurd (List.cons.inj heq).1 hbracket
    · rfl
  have hbackslashes : (c :: cs).takeWhile (· == '\\') = [] := by
    simp [hescape]
  unfold piecesBehind
  rw [List.length_cons, piecesFrom, hbackslashes, List.length_nil, List.drop_zero, hnone]

/-- So do such characters one after another. -/
theorem piecesBehind_append {ds : List Char} (h : ∀ c ∈ ds, c ≠ '[' ∧ c ≠ '\\') :
    piecesBehind before (ds ++ cs) = piecesBehind (ds.reverse ++ before) cs := by
  induction ds generalizing before with
  | nil => rfl
  | cons d ds ih =>
      obtain ⟨⟨hbracket, hescape⟩, hds⟩ := List.forall_mem_cons.1 h
      rw [List.cons_append, piecesBehind_cons hbracket hescape, ih hds, List.reverse_cons,
        List.append_assoc, List.singleton_append]

/-- A tag is a piece, after the text before it. -/
theorem piecesBehind_tag (h : tag? ('[' :: cs) = some (body, rest)) :
    piecesBehind before ('[' :: cs) =
      textPiece before.reverse ++ (.tag body :: piecesBehind [] rest) := by
  have hlt := length_lt_of_tag? h
  have hbackslashes : ('[' :: cs).takeWhile (· == '\\') = [] := by
    simp
  unfold piecesBehind
  rw [List.length_cons, piecesFrom, hbackslashes, List.length_nil, List.drop_zero, h]
  dsimp only
  rw [List.length_cons] at hlt
  rw [piecesFrom_congr (m := rest.length) (by omega) (Nat.le_refl _)]
  rfl

/-- What goes before a text is put before its first characters, and nothing else changes. -/
theorem exists_piecesBehind_eq (cs : List Char) :
    ∃ first more, ∀ before,
      piecesBehind before cs = textPiece (before.reverse ++ first) ++ more := by
  have hfrom : ∀ n cs, ∃ first more, ∀ before,
      piecesFrom n before cs = textPiece (before.reverse ++ first) ++ more := by
    intro n
    induction n with
    | zero => exact fun cs => ⟨cs, [], fun before => (List.append_nil _).symm⟩
    | succ n ih =>
        intro cs
        cases cs with
        | nil => exact ⟨[], [], fun before => by simp [piecesFrom]⟩
        | cons c cs =>
            cases htag : tag? ((c :: cs).drop ((c :: cs).takeWhile (· == '\\')).length) with
            | some found =>
                refine ⟨[], tagPieces ((c :: cs).takeWhile (· == '\\')).length found.1 ++
                  piecesFrom n [] found.2, fun before => ?_⟩
                rw [piecesFrom, htag, List.append_nil]
            | none =>
                obtain ⟨first, more, hmore⟩ := ih cs
                refine ⟨c :: first, more, fun before => ?_⟩
                rw [piecesFrom, htag]
                dsimp only
                rw [hmore, List.reverse_cons, List.append_assoc, List.singleton_append]
  exact hfrom cs.length cs

/-- Whether characters are the inside of a tag. -/
def isTagBody : List Char → Bool
  | c :: cs => startsTag c && cs.all fun d => d != '[' && d != ']'
  | [] => false

/-- The inside of a tag ends with its bracket. -/
theorem tagBody?_append (h : ∀ c ∈ body, c ≠ '[' ∧ c ≠ ']') :
    tagBody? (body ++ ']' :: rest) = some (body, rest) := by
  induction body with
  | nil => rfl
  | cons c body ih =>
      obtain ⟨⟨hopen, hclose⟩, hbody⟩ := List.forall_mem_cons.1 h
      rw [List.cons_append, tagBody?.eq_4 _ _ hclose hopen, ih hbody]
      rfl

/-- What is written as a tag is one. -/
theorem tag?_of_isTagBody (h : isTagBody body = true) :
    tag? ('[' :: (body ++ ']' :: rest)) = some (body, rest) := by
  cases body with
  | nil => exact nomatch h
  | cons c cs =>
      simp only [isTagBody, Bool.and_eq_true, List.all_eq_true, bne_iff_ne] at h
      rw [List.cons_append, tag?, if_pos h.1, tagBody?_append h.2]
      rfl

/-! ## What is read -/

/-- An open tag in a text that has other characters before it. -/
def OpenTag.shift (n : Nat) (t : OpenTag) : OpenTag :=
  { t with start := t.start + n }

/-- A stretch in a text that has other characters before it. -/
def Span.shift (n : Nat) (s : Span) : Span :=
  { s with start := s.start + n, stop := s.stop + n }

namespace Shown

variable {s : Shown} {text : List Char} {spans : List Span}

/-- What has been read behind a text with stretches of its own. -/
def behind (s : Shown) (text : List Char) (spans : List Span) : Shown :=
  { text := text ++ s.text
    openTags := s.openTags.map (·.shift text.length)
    spans := spans ++ s.spans.map (·.shift text.length) }

/-- Closing a tag does not depend on what is before the text. -/
theorem closeTag_behind (t : OpenTag) :
    (s.behind text spans).closeTag (t.shift text.length) =
      (s.closeTag t).map (·.behind text spans) := by
  have hinjective : Function.Injective (OpenTag.shift text.length) := by
    intro t t' h
    obtain ⟨hstyle, hparameters, hstart⟩ := OpenTag.mk.inj h
    cases t
    cases t'
    simp_all
  have hspan : (t.shift text.length).span (text ++ s.text).length =
      (t.span s.text.length).shift text.length := by
    simp [OpenTag.span, OpenTag.shift, Span.shift, Nat.add_comm]
  have hevent : (t.shift text.length).isEvent = t.isEvent := rfl
  have hparameters : (t.shift text.length).parameters = t.parameters := rfl
  unfold closeTag behind
  dsimp only
  rw [← List.map_erase hinjective, hevent, hparameters, hspan]
  split_ifs
  · rfl
  · rfl
  · simp [Except.map]

theorem closeLast_behind :
    (s.behind text spans).closeLast = s.closeLast.map (·.behind text spans) := by
  unfold closeLast
  cases htags : s.openTags with
  | nil => simp [behind, htags, Except.map]
  | cons t tags =>
      have hlast : (s.behind text spans).openTags =
          t.shift text.length :: tags.map (·.shift text.length) := by
        simp [behind, htags]
      rw [hlast]
      exact closeTag_behind t

theorem closeStyle_behind (style : List Char) :
    (s.behind text spans).closeStyle style =
      (s.closeStyle style).map (·.behind text spans) := by
  have hfind : (s.behind text spans).openTags.find? (·.style == style) =
      (s.openTags.find? (·.style == style)).map (·.shift text.length) :=
    List.find?_map
  unfold closeStyle
  rw [hfind]
  cases s.openTags.find? (·.style == style) with
  | none => rfl
  | some t => exact closeTag_behind t

/-- Nor does opening one. -/
theorem openTag_behind (style : List Char) (parameters : Option (List Char)) :
    (s.behind text spans).openTag style parameters =
      (s.openTag style parameters).behind text spans := by
  simp [openTag, behind, OpenTag.shift, Nat.add_comm]

/-- So nothing that is read depends on what is before the text. -/
theorem after_behind (piece : Piece) :
    (s.behind text spans).after piece = (s.after piece).map (·.behind text spans) := by
  cases piece with
  | text cs => simp [after, write, behind, Except.map]
  | tag body =>
      unfold after afterTag
      dsimp only
      split
      · split_ifs
        · exact closeLast_behind
        · cases styleName (Style.trimmed _) with
          | error e => rfl
          | ok style => exact closeStyle_behind style
      · next name parameters _ _ =>
        cases styleName name with
        | error e => rfl
        | ok style => exact congrArg Except.ok (openTag_behind style parameters)

/-- Nor does what is read of all pieces. -/
theorem foldlM_behind (pieces : List Piece) :
    pieces.foldlM after (s.behind text spans) =
      (pieces.foldlM after s).map (·.behind text spans) := by
  induction pieces generalizing s with
  | nil => rfl
  | cons piece pieces ih =>
      rw [List.foldlM_cons, List.foldlM_cons, after_behind]
      cases s.after piece with
      | error e => rfl
      | ok s' => exact ih

/-- Whether a line break or a tab cuts a text into parts. -/
def isCut (cs : List Char) : Bool :=
  cs.any fun c => c == '\n' || c == '\t'

/-- A stretch is on the screen whatever uncut text is before it. -/
theorem isVisible_behind (h : isCut text = false) (span : Span) :
    (s.behind text spans).isVisible (span.shift text.length) = s.isVisible span := by
  have hcut : (text ++ s.text).any (fun c => c == '\n' || c == '\t') =
      s.text.any fun c => c == '\n' || c == '\t' := by
    unfold isCut at h
    rw [List.any_append, h, Bool.false_or]
  have hpart : ((text ++ s.text).take (span.stop + text.length)).drop (span.start + text.length) =
      (s.text.take span.stop).drop span.start := by
    rw [Nat.add_comm span.stop, Nat.add_comm span.start, List.take_length_add_append,
      List.drop_length_add_append]
  unfold isVisible behind Span.shift
  dsimp only
  rw [hcut, hpart]

/-- Stretches whose styles are styles can be read. -/
theorem all_readable (h : ∀ span ∈ spans, (Style.parse span.style).toBool = true) :
    (spans.all fun span =>
      match Style.parse span.style with
      | .error .notANumber => false
      | _ => true) = true := by
  refine List.all_eq_true.2 fun span hspan => ?_
  have hreadable := h span hspan
  cases hparse : Style.parse span.style with
  | error fault =>
      rw [hparse] at hreadable
      exact nomatch hreadable
  | ok style => rfl

/-- Styles can be read whatever uncut text is before them, if its own styles can be read. -/
theorem hasReadableStyles_behind (h : isCut text = false)
    (hspans : ∀ span ∈ spans, (Style.parse span.style).toBool = true) :
    (s.behind text spans).hasReadableStyles = s.hasReadableStyles := by
  have hall : (s.behind text spans).allSpans = spans ++ s.allSpans.map (·.shift text.length) := by
    simp [allSpans, behind, OpenTag.span, OpenTag.shift, Span.shift, Nat.add_comm]
  have hvisible : (s.behind text spans).isVisible ∘ (·.shift text.length) = s.isVisible :=
    funext fun span => isVisible_behind h span
  have hfirst : ((spans.filter (s.behind text spans).isVisible).all _) = true :=
    all_readable fun span hspan => hspans span (List.mem_filter.1 hspan).1
  unfold hasReadableStyles
  rw [hall, List.filter_append, List.all_append, List.filter_map, hvisible, List.all_map]
  exact (congrArg₂ and hfirst rfl).trans (Bool.true_and _)

end Shown

/-! ## Headings -/

/-- Text is read as its characters, with pictographs for their codes. -/
theorem foldlM_textPiece (s : Shown) (cs : List Char) :
    (textPiece cs).foldlM Shown.after s = .ok (s.write (Emoji.shown (unescaped cs))) := by
  unfold textPiece
  cases cs with
  | nil => simp [unescaped, Emoji.shown, Emoji.shownFrom, Shown.write, pure, Except.pure]
  | cons c cs => simp [Shown.after, bind, Except.bind, pure, Except.pure]

/-- A text without opening brackets is shown with pictographs for its codes. -/
theorem plain_of_no_bracket (h : ∀ c ∈ cs, c ≠ '[') : plain cs = .ok (Emoji.shown cs) := by
  have hpieces : pieces cs = textPiece cs := piecesFrom_of_no_bracket cs.length [] cs h
  unfold plain
  rw [hpieces, foldlM_textPiece, unescaped_of_no_bracket cs h]
  rfl

/-- A character that neither opens a tag nor escapes one. -/
def isUnmarked (c : Char) : Bool :=
  c != '[' && c != '\\'

theorem isUnmarked_iff {c : Char} : isUnmarked c = true ↔ c ≠ '[' ∧ c ≠ '\\' := by
  simp [isUnmarked]

/-- A character that no mark begins with. -/
def isPlain (c : Char) : Bool :=
  isUnmarked c && c != ':'

theorem isPlain_iff {c : Char} : isPlain c = true ↔ (c ≠ '[' ∧ c ≠ '\\') ∧ c ≠ ':' := by
  simp [isPlain, isUnmarked]

/-- Characters that no mark begins with are shown as they are, whatever follows them. -/
theorem shown_unescaped_append {ds : List Char} (h : ds.all isPlain = true) :
    Emoji.shown (unescaped (ds ++ cs)) = ds ++ Emoji.shown (unescaped cs) := by
  induction ds with
  | nil => rfl
  | cons d ds ih =>
      rw [List.all_cons, Bool.and_eq_true, isPlain_iff] at h
      obtain ⟨⟨⟨-, hescape⟩, hcolon⟩, hds⟩ := h
      have hunescaped : unescaped (d :: (ds ++ cs)) = d :: unescaped (ds ++ cs) := by
        rw [unescaped]
        exact fun rest heq => absurd heq hescape
      have ih := ih hds
      unfold Emoji.shown at ih ⊢
      rw [List.cons_append, hunescaped, List.length_cons, Emoji.shownFrom, if_neg hcolon, ih,
        List.cons_append]

/-- A label in a style, and what separates it from the text after it. -/
def heading (style label gap : List Char) : List Char :=
  '[' :: (style ++ ']' :: (label ++ '[' :: ('/' :: style ++ ']' :: gap)))

/-- The styles of headings. -/
def headingStyles : List (List Char) :=
  ["bold".toList, "bold green".toList, "dim".toList, "green".toList, "yellow".toList]

/-- A heading that shows its label. -/
structure IsHeading (style label gap : List Char) : Prop where
  style_mem : style ∈ headingStyles
  label_ne_nil : label ≠ []
  label_unmarked : label.all isUnmarked = true
  label_shown : Emoji.shown label = label
  gap_plain : gap.all isPlain = true

instance (style label gap : List Char) : Decidable (IsHeading style label gap) :=
  decidable_of_iff (style ∈ headingStyles ∧ label ≠ [] ∧ label.all isUnmarked = true ∧
      Emoji.shown label = label ∧ gap.all isPlain = true)
    ⟨fun ⟨hstyle, hne, hunmarked, hshown, hgap⟩ => ⟨hstyle, hne, hunmarked, hshown, hgap⟩,
      fun ⟨hstyle, hne, hunmarked, hshown, hgap⟩ => ⟨hstyle, hne, hunmarked, hshown, hgap⟩⟩

section heading

variable {style label gap : List Char}

/-- The style of a heading is a tag, and its own name. -/
theorem styleName_of_mem (h : style ∈ headingStyles) : styleName style = .ok style := by
  have hall : ∀ style ∈ headingStyles, (styleName style).toOption = some style := by
    decide +kernel
  have hstyle := hall style h
  cases hname : styleName style with
  | error e =>
      rw [hname] at hstyle
      exact nomatch hstyle
  | ok name =>
      rw [hname] at hstyle
      exact congrArg Except.ok (Option.some.inj hstyle)

/-- The tags of a heading are read as what they are. -/
theorem tagParts_of_mem (h : style ∈ headingStyles) :
    tagParts style = (style, none) ∧ tagParts ('/' :: style) = ('/' :: style, none) ∧
      style.head? ≠ some '/' ∧ style.head? ≠ some '@' ∧ Style.trimmed style = style ∧
        style.isEmpty = false := by
  revert style
  decide

/-- A heading opens its style. -/
theorem after_tag_of_mem (h : style ∈ headingStyles) (s : Shown) :
    s.after (.tag style) = .ok (s.openTag style none) := by
  obtain ⟨hopen, -, hslash, -⟩ := tagParts_of_mem h
  unfold Shown.after Shown.afterTag
  dsimp only
  rw [hopen]
  split
  · next name _ heq => exact absurd (congrArg List.head? (Prod.mk.inj heq).1) hslash
  · next heq =>
    obtain ⟨rfl, rfl⟩ := Prod.mk.inj heq
    rw [styleName_of_mem h]
    rfl

/-- The stretch of a label that is shown after other text. -/
def labelSpan (style before label : List Char) : Span :=
  ⟨before.length, (before ++ label).length, style⟩

/-- Behind its label a heading closes its style. -/
theorem after_closing_of_mem (h : style ∈ headingStyles) (s : Shown) (label : List Char) :
    ((s.openTag style none).write label).after (.tag ('/' :: style)) =
      .ok { s with
        text := s.text ++ label
        spans := s.spans ++ [labelSpan style s.text label] } := by
  obtain ⟨-, hclose, -, hevent, htrimmed, hempty⟩ := tagParts_of_mem h
  unfold Shown.after Shown.afterTag
  dsimp only
  rw [hclose]
  show (if (Style.trimmed style).isEmpty then _ else _) = _
  rw [htrimmed, hempty, styleName_of_mem h]
  show Shown.closeStyle _ _ = _
  simp [Shown.closeStyle, Shown.closeTag, Shown.openTag, Shown.write, OpenTag.isEvent, hevent,
    OpenTag.span, labelSpan]

/-- A heading opens its style, shows its label and closes its style. -/
theorem foldlM_heading (h : IsHeading style label gap) (s : Shown) :
    [.tag style, .text label, .tag ('/' :: style)].foldlM Shown.after s =
      .ok { s with
        text := s.text ++ label
        spans := s.spans ++ [labelSpan style s.text label] } := by
  have hlabel : unescaped label = label :=
    unescaped_of_no_bracket label fun c hc =>
      (isUnmarked_iff.1 (List.all_eq_true.1 h.label_unmarked c hc)).1
  rw [List.foldlM_cons, after_tag_of_mem h.style_mem]
  show [.text label, .tag ('/' :: style)].foldlM Shown.after (s.openTag style none) = _
  rw [List.foldlM_cons, Shown.after, hlabel, h.label_shown]
  show [.tag ('/' :: style)].foldlM Shown.after ((s.openTag style none).write label) = _
  rw [List.foldlM_cons, after_closing_of_mem h.style_mem]
  rfl

/-- The pieces of a heading, and of what follows it. -/
theorem piecesBehind_heading (h : IsHeading style label gap) :
    piecesBehind before (heading style label gap ++ cs) = textPiece before.reverse ++
      ([.tag style, .text label, .tag ('/' :: style)] ++ piecesBehind gap.reverse cs) := by
  have hbodies : ∀ style ∈ headingStyles,
      isTagBody style = true ∧ isTagBody ('/' :: style) = true := by
    decide
  obtain ⟨hopens, hcloses⟩ := hbodies style h.style_mem
  have hgap : ∀ c ∈ gap, c ≠ '[' ∧ c ≠ '\\' :=
    fun c hc => (isPlain_iff.1 (List.all_eq_true.1 h.gap_plain c hc)).1
  have hunmarked : ∀ c ∈ label, c ≠ '[' ∧ c ≠ '\\' :=
    fun c hc => isUnmarked_iff.1 (List.all_eq_true.1 h.label_unmarked c hc)
  have hlabel : textPiece label = [.text label] :=
    if_neg (by simpa using h.label_ne_nil)
  have hlist : heading style label gap ++ cs = '[' :: (style ++ ']' ::
      (label ++ '[' :: (('/' :: style) ++ ']' :: (gap ++ cs)))) := by
    simp [heading]
  rw [hlist, piecesBehind_tag (tag?_of_isTagBody hopens), piecesBehind_append hunmarked,
    List.append_nil, piecesBehind_tag (tag?_of_isTagBody hcloses), List.reverse_reverse, hlabel,
    piecesBehind_append hgap, List.append_nil]
  rfl

/-- The style of a label can be read. -/
theorem parse_labelSpan (h : style ∈ headingStyles) {span : Span}
    (hspan : span ∈ [labelSpan style before label]) :
    (Style.parse span.style).toBool = true := by
  have hall : ∀ style ∈ headingStyles, (Style.parse style).toBool = true := by
    decide +kernel
  obtain rfl := List.mem_singleton.1 hspan
  exact hall style h

/-- What is read behind a heading is what is read of the text by itself. -/
theorem foldlM_pieces_heading (h : IsHeading style label gap) (cs : List Char) :
    (pieces (heading style label gap ++ cs)).foldlM Shown.after .start =
      ((pieces cs).foldlM Shown.after .start).map
        (·.behind (label ++ gap) [labelSpan style [] label]) := by
  obtain ⟨first, more, hmore⟩ := exists_piecesBehind_eq cs
  have hpieces : pieces cs = textPiece first ++ more := hmore []
  have hheading : pieces (heading style label gap ++ cs) =
      [.tag style, .text label, .tag ('/' :: style)] ++ (textPiece (gap ++ first) ++ more) := by
    show piecesBehind [] _ = _
    rw [piecesBehind_heading h, hmore, List.reverse_reverse]
    rfl
  set spans := [labelSpan style [] label] with hspans
  set shown := Emoji.shown (unescaped first) with hshown
  have hbehind : (⟨label, [], spans⟩ : Shown).write (gap ++ shown) =
      (Shown.start.write shown).behind (label ++ gap) spans := by
    simp [Shown.write, Shown.behind, Shown.start]
  rw [hheading, hpieces, List.foldlM_append, foldlM_heading h]
  show (textPiece (gap ++ first) ++ more).foldlM Shown.after ⟨label, [], spans⟩ = _
  rw [List.foldlM_append, List.foldlM_append, foldlM_textPiece, foldlM_textPiece,
    shown_unescaped_append h.gap_plain]
  show more.foldlM Shown.after _ = (more.foldlM Shown.after _).map _
  rw [hbehind, Shown.foldlM_behind]

/-- **A heading has no influence** on the text after it, which shows what it shows by itself. -/
theorem plain_heading (h : IsHeading style label gap) (huncut : Shown.isCut (label ++ gap) = false)
    (cs : List Char) :
    plain (heading style label gap ++ cs) = (plain cs).map (label ++ gap ++ ·) := by
  unfold plain
  rw [foldlM_pieces_heading h]
  cases (pieces cs).foldlM Shown.after .start with
  | error e => rfl
  | ok s =>
      set spans := [labelSpan style [] label] with hspans
      have hreadable : (s.behind (label ++ gap) spans).hasReadableStyles = s.hasReadableStyles :=
        Shown.hasReadableStyles_behind huncut fun span hspan => parse_labelSpan h.style_mem hspan
      show (if (s.behind (label ++ gap) spans).hasReadableStyles then _ else _) =
        (if s.hasReadableStyles then _ else _ : Except MarkupError (List Char)).map _
      rw [hreadable]
      split_ifs
      · rfl
      · rfl

/-- A heading between texts without marks is shown as its label. -/
theorem plain_append_heading (h : IsHeading style label gap) {ds : List Char}
    (hds : ds.all isPlain = true) (hcs : cs.all isPlain = true) :
    plain (ds ++ (heading style label gap ++ cs)) = .ok (ds ++ label ++ (gap ++ cs)) := by
  have hmark {c : Char} (hc : isPlain c = true) : c ≠ '[' ∧ c ≠ '\\' :=
    (isPlain_iff.1 hc).1
  have hshown {ds : List Char} (hds : ds.all isPlain = true) : Emoji.shown (unescaped ds) = ds := by
    have happend : Emoji.shown (unescaped (ds ++ [])) = ds ++ [] := shown_unescaped_append hds
    rwa [List.append_nil] at happend
  have htail : (gap ++ cs).all isPlain = true := by
    rw [List.all_append, h.gap_plain, hcs]
    rfl
  have hpieces : pieces (ds ++ (heading style label gap ++ cs)) = textPiece ds ++
      ([.tag style, .text label, .tag ('/' :: style)] ++ textPiece (gap ++ cs)) := by
    have hlast : piecesBehind gap.reverse cs = textPiece (gap ++ cs) := by
      unfold piecesBehind
      rw [piecesFrom_of_no_bracket _ _ _ fun c hc => (hmark (List.all_eq_true.1 hcs c hc)).1,
        List.reverse_reverse]
    show piecesBehind [] _ = _
    rw [piecesBehind_append fun c hc => hmark (List.all_eq_true.1 hds c hc), List.append_nil,
      piecesBehind_heading h, hlast, List.reverse_reverse]
  set shown : Shown := ⟨ds ++ label ++ (gap ++ cs), [], [labelSpan style ds label]⟩
  have hread : (pieces (ds ++ (heading style label gap ++ cs))).foldlM Shown.after .start =
      .ok shown := by
    rw [hpieces, List.foldlM_append, foldlM_textPiece, hshown hds]
    show (_ ++ textPiece (gap ++ cs)).foldlM Shown.after ⟨ds, [], []⟩ = _
    rw [List.foldlM_append, foldlM_heading h]
    show (textPiece (gap ++ cs)).foldlM Shown.after _ = _
    rw [foldlM_textPiece, hshown htail]
    rfl
  have hreadable : shown.hasReadableStyles = true :=
    Shown.all_readable fun span hspan =>
      parse_labelSpan h.style_mem (List.mem_filter.1 hspan).1
  unfold plain
  rw [hread]
  show (if shown.hasReadableStyles then _ else _) = _
  rw [if_pos hreadable]

end heading

end ColumnTypes.Markup
