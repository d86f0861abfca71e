import ColumnTypes.Command.Output
import ColumnTypes.Proofs.Console.Paragraph
import ColumnTypes.Proofs.Text.CodePoints

/-!
# What a layout is made of

All code points of a layout are those of the texts that are laid out, or characters that the layout
brings: blanks, ellipses, edges and line breaks.  So a property of code points that every character
has passes from the texts to the layout.

* `Paragraph.forall_mem_lines`, `Table.forall_mem_lines`, `Panel.forall_mem_lines` - the three kinds
  of layout;
* `Command.hasSurrogate_paragraphText`, `Command.hasSurrogate_tableText`,
  `Command.hasSurrogate_panelText` - so no layout brings a surrogate, however wide the console is.

The other way round a surrogate can get lost: behind an ellipsis, or where a line is cut.
-/

namespace ColumnTypes

variable {P : Nat → Prop} {codes line text : List Nat} {limit : Nat} {overflow : Overflow}
  (hchar : ∀ c : Char, P c.toNat)

/-! ## Cutting and filling -/

namespace Text

variable {signs current : List Sign} {used : Nat} {sep : List Nat} {parts : List (List Nat)}

include hchar in
/-- Filling a text up brings blanks. -/
theorem forall_mem_padded (h : ∀ n ∈ codes, P n) : ∀ n ∈ padded limit codes, P n := by
  refine List.forall_mem_append.2 ⟨h, fun n hn => ?_⟩
  obtain rfl := List.eq_of_mem_replicate hn
  exact hchar ' '

include hchar in
/-- Cutting between signs brings a blank at most. -/
theorem forall_mem_cutSigns (h : ∀ n ∈ signCodes signs, P n) :
    ∀ n ∈ cutSigns limit signs, P n := by
  fun_induction cutSigns limit signs with
  | case1 => exact nofun
  | case2 => exact nofun
  | case3 room sign rest hroom hfits ih =>
      rw [signCodes, List.flatMap_cons, List.forall_mem_append] at h
      exact List.forall_mem_append.2 ⟨h.1, ih h.2⟩
  | case4 => exact List.forall_mem_singleton.2 (hchar ' ')

include hchar in
/-- So does bringing a text to a width. -/
theorem forall_mem_fitted (h : ∀ n ∈ codes, P n) : ∀ n ∈ fitted limit codes, P n := by
  unfold fitted
  split_ifs
  · exact forall_mem_padded hchar h
  · exact forall_mem_cutSigns hchar ((signCodes_signs codes).symm ▸ h)

include hchar in
/-- Bringing a text within a width does as well. -/
theorem forall_mem_cropped (h : ∀ n ∈ codes, P n) : ∀ n ∈ cropped limit codes, P n := by
  unfold cropped
  split_ifs
  · exact h
  · exact forall_mem_cutSigns hchar ((signCodes_signs codes).symm ▸ h)

/-- Signs have the same code points in reverse. -/
theorem forall_mem_signCodes_reverse (h : ∀ n ∈ signCodes signs, P n) :
    ∀ n ∈ signCodes signs.reverse, P n := by
  intro n hn
  obtain ⟨sign, hsign, hn⟩ := List.mem_flatMap.1 hn
  exact h n (List.mem_flatMap.2 ⟨sign, List.mem_reverse.1 hsign, hn⟩)

/-- Pieces of signs bring nothing. -/
theorem forall_mem_pieces (hcurrent : ∀ n ∈ signCodes current, P n)
    (hsigns : ∀ n ∈ signCodes signs, P n) :
    ∀ piece ∈ pieces limit current used signs, ∀ n ∈ piece, P n := by
  fun_induction pieces limit current used signs with
  | case1 => exact nofun
  | case2 => exact List.forall_mem_singleton.2 (forall_mem_signCodes_reverse hcurrent)
  | case3 current used sign rest hfits ih =>
      rw [signCodes, List.flatMap_cons, List.forall_mem_append] at hsigns
      refine ih ?_ hsigns.2
      rw [signCodes, List.flatMap_cons]
      exact List.forall_mem_append.2 ⟨hsigns.1, hcurrent⟩
  | case4 current used sign rest hfits ih =>
      rw [signCodes, List.flatMap_cons, List.forall_mem_append] at hsigns
      refine List.forall_mem_cons.2 ⟨forall_mem_signCodes_reverse hcurrent, ih ?_ hsigns.2⟩
      rw [signCodes, List.flatMap_singleton]
      exact hsigns.1

/-- Pieces of a text bring nothing. -/
theorem forall_mem_chopped (h : ∀ n ∈ codes, P n) :
    ∀ piece ∈ chopped limit codes, ∀ n ∈ piece, P n :=
  forall_mem_pieces nofun ((signCodes_signs codes).symm ▸ h)

/-- Parts and what separates them make up a text. -/
theorem forall_mem_joinWith (hsep : ∀ n ∈ sep, P n) (hparts : ∀ part ∈ parts, ∀ n ∈ part, P n) :
    ∀ n ∈ joinWith sep parts, P n := by
  fun_induction joinWith sep parts with
  | case1 => exact nofun
  | case2 part => exact List.forall_mem_singleton.1 hparts
  | case3 part parts hne ih =>
      obtain ⟨hpart, hparts⟩ := List.forall_mem_cons.1 hparts
      exact List.forall_mem_append.2
        ⟨List.forall_mem_append.2 ⟨hpart, hsep⟩, ih hparts⟩

end Text

/-! ## Paragraphs -/

namespace Paragraph

variable {l : Layout} {pieces ws : List (List Nat)} {piece word : List Nat}

/-- A text as the console takes it in has code points of the text. -/
theorem forall_mem_clean (h : ∀ n ∈ codes, P n) : ∀ n ∈ clean codes, P n :=
  fun n hn => h n (List.mem_of_mem_filter hn)

include hchar in
/-- Expanding tabs brings blanks. -/
theorem forall_mem_untabbedFrom {column : Nat} {part : List Nat} (hpart : ∀ n ∈ part, P n)
    (hline : ∀ n ∈ line, P n) : ∀ n ∈ untabbedFrom column part line, P n := by
  fun_induction untabbedFrom column part line with
  | case1 => exact fun n hn => hpart n (List.mem_reverse.1 hn)
  | case2 column part rest done reached more ih =>
      obtain ⟨-, hrest⟩ := List.forall_mem_cons.1 hline
      refine List.forall_mem_append.2 ⟨?_, ih nofun hrest⟩
      refine List.forall_mem_append.2 ⟨List.forall_mem_append.2 ⟨?_, ?_⟩, fun n hn => ?_⟩
      · exact fun n hn => hpart n (List.mem_reverse.1 hn)
      · exact List.forall_mem_singleton.2 (hchar ' ')
      · obtain rfl := List.eq_of_mem_replicate hn
        exact hchar ' '
  | case3 column part n rest hn ih =>
      obtain ⟨hfirst, hrest⟩ := List.forall_mem_cons.1 hline
      exact ih (List.forall_mem_cons.2 ⟨hfirst, hpart⟩) hrest

/-- A piece on a line of its own is added to the lines. -/
theorem forall_mem_newLine (hl : ∀ line ∈ l.lines, ∀ n ∈ line, P n) (hpiece : ∀ n ∈ piece, P n) :
    ∀ line ∈ (l.newLine piece).lines, ∀ n ∈ line, P n := by
  unfold Layout.newLine
  split_ifs
  · exact List.forall_mem_singleton.2 hpiece
  · exact List.forall_mem_append.2 ⟨hl, List.forall_mem_singleton.2 hpiece⟩

/-- So are several pieces. -/
theorem forall_mem_foldl_newLine (hl : ∀ line ∈ l.lines, ∀ n ∈ line, P n)
    (hpieces : ∀ piece ∈ pieces, ∀ n ∈ piece, P n) :
    ∀ line ∈ (pieces.foldl Layout.newLine l).lines, ∀ n ∈ line, P n := by
  induction pieces generalizing l with
  | nil => exact hl
  | cons piece pieces ih =>
      obtain ⟨hpiece, hpieces⟩ := List.forall_mem_cons.1 hpieces
      exact ih (forall_mem_newLine hl hpiece) hpieces

/-- Placing a word brings the word. -/
theorem forall_mem_place (hl : ∀ line ∈ l.lines, ∀ n ∈ line, P n) (hword : ∀ n ∈ word, P n) :
    ∀ line ∈ (l.place limit overflow word).lines, ∀ n ∈ line, P n := by
  unfold Layout.place
  dsimp only
  split_ifs
  · obtain ⟨hdone, hcurrent⟩ := List.forall_mem_append.1 hl
    rw [List.forall_mem_singleton] at hcurrent
    exact List.forall_mem_append.2 ⟨hdone, List.forall_mem_singleton.2
      (List.forall_mem_append.2 ⟨hcurrent, hword⟩)⟩
  · exact forall_mem_foldl_newLine hl (Text.forall_mem_chopped hword)
  · exact forall_mem_newLine hl hword

/-- Placing words brings the words. -/
theorem forall_mem_foldl_place (hl : ∀ line ∈ l.lines, ∀ n ∈ line, P n)
    (hws : ∀ word ∈ ws, ∀ n ∈ word, P n) :
    ∀ line ∈ (ws.foldl (Layout.place limit overflow) l).lines, ∀ n ∈ line, P n := by
  induction ws generalizing l with
  | nil => exact hl
  | cons word ws ih =>
      obtain ⟨hword, hws⟩ := List.forall_mem_cons.1 hws
      exact ih (forall_mem_place hl hword) hws

include hchar

/-- Bringing a line within a width brings blanks and an ellipsis at most. -/
theorem forall_mem_trimmedTo (h : ∀ n ∈ line, P n) :
    ∀ n ∈ trimmedTo limit overflow line, P n := by
  unfold trimmedTo
  dsimp only
  have htake {k : Nat} : ∀ n ∈ line.take k, P n := fun n hn => h n (List.mem_of_mem_take hn)
  split_ifs
  · exact htake
  · cases overflow with
    | fold => exact Text.forall_mem_fitted hchar htake
    | ellipsis =>
        exact List.forall_mem_append.2
          ⟨Text.forall_mem_fitted hchar htake, List.forall_mem_singleton.2 (hchar '…')⟩

/-- The lines of a text without breaks. -/
theorem forall_mem_wrap (h : ∀ n ∈ line, P n) :
    ∀ out ∈ wrap limit overflow line, ∀ n ∈ out, P n := by
  have huntabbed : ∀ n ∈ untabbed line, P n := forall_mem_untabbedFrom hchar nofun h
  have hwords : ∀ word ∈ words (untabbed line), ∀ n ∈ word, P n := by
    intro word hword n hn
    refine huntabbed n ?_
    rw [← flatten_words (untabbed line)]
    exact List.mem_flatten_of_mem hword hn
  have hstart : ∀ line ∈ Layout.start.lines, ∀ n ∈ line, P n :=
    List.forall_mem_singleton.2 nofun
  exact List.forall_mem_map.2 fun out hout =>
    forall_mem_trimmedTo hchar (forall_mem_foldl_place hstart hwords out hout)

/-- **The lines of a paragraph** have code points of the text, blanks and ellipses. -/
theorem forall_mem_lines (h : ∀ n ∈ text, P n) :
    ∀ line ∈ lines limit overflow text, ∀ n ∈ line, P n := by
  unfold lines
  split_ifs
  · exact nofun
  · refine List.forall_mem_flatMap.2 fun part hpart => forall_mem_wrap hchar fun n hn => ?_
    exact h n (Text.mem_of_mem_splitAt hpart hn)

end Paragraph

/-! ## Tables -/

namespace Table

variable {e : Edges} {parts rows cell : List (List Nat)} {a : Alignment} {height width : Nat}

/-- What pairs give has a property if every pair gives something that has it. -/
theorem forall_mem_zipWith {α β γ : Type} {f : α → β → γ} {Q : γ → Prop} {as : List α}
    {bs : List β} (h : ∀ a ∈ as, ∀ b ∈ bs, Q (f a b)) : ∀ c ∈ List.zipWith f as bs, Q c := by
  rw [← List.map_uncurry_zip_eq_zipWith]
  refine List.forall_mem_map.2 ?_
  rintro ⟨x, y⟩ hmem
  exact h x (List.of_mem_zip hmem).1 y (List.of_mem_zip hmem).2

include hchar

/-- Edges are characters. -/
theorem forall_mem_enclose (h : ∀ part ∈ parts, ∀ n ∈ part, P n) : ∀ n ∈ e.enclose parts, P n := by
  refine List.forall_mem_append.2 ⟨List.forall_mem_cons.2 ⟨hchar e.left, ?_⟩, ?_⟩
  · exact Text.forall_mem_joinWith (List.forall_mem_singleton.2 (hchar e.between)) h
  · exact List.forall_mem_singleton.2 (hchar e.right)

/-- So is a rule. -/
theorem forall_mem_rule {c : Char} {widths : List Nat} : ∀ n ∈ e.rule c widths, P n := by
  refine forall_mem_enclose hchar (List.forall_mem_map.2 fun w _ n hn => ?_)
  obtain rfl := List.eq_of_mem_replicate hn
  exact hchar c

/-- The lines of a cell. -/
theorem forall_mem_cellLines (h : ∀ n ∈ text, P n) :
    ∀ line ∈ cellLines width text, ∀ n ∈ line, P n := by
  refine List.forall_mem_map.2 fun line hline => ?_
  have hline := Paragraph.forall_mem_lines hchar h line hline
  have hfilled : ∀ n ∈ filled (width - cellMargin) line, P n :=
    Text.forall_mem_padded hchar (Text.forall_mem_padded hchar hline)
  exact List.forall_mem_append.2
    ⟨List.forall_mem_cons.2 ⟨hchar ' ', hfilled⟩, List.forall_mem_singleton.2 (hchar ' ')⟩

/-- A cell is brought to the height of its row with blanks. -/
theorem forall_mem_align (h : ∀ line ∈ cell, ∀ n ∈ line, P n) :
    ∀ line ∈ a.align height width cell, ∀ n ∈ line, P n := by
  have hmissing : ∀ line ∈ List.replicate (height - cell.length) (Text.blanks width),
      ∀ n ∈ line, P n := by
    intro line hline n hn
    obtain rfl := List.eq_of_mem_replicate hline
    obtain rfl := List.eq_of_mem_replicate hn
    exact hchar ' '
  cases a with
  | top => exact List.forall_mem_append.2 ⟨h, hmissing⟩
  | bottom => exact List.forall_mem_append.2 ⟨hmissing, h⟩

/-- The lines of a row have what its cells have. -/
theorem forall_mem_rowLines {widths : List Nat} {texts : List (List Nat)}
    (h : ∀ cell ∈ List.zipWith cellLines widths texts, ∀ line ∈ cell, ∀ n ∈ line, P n) :
    ∀ line ∈ rowLines a e widths texts, ∀ n ∈ line, P n := by
  refine List.forall_mem_map.2 fun i _ => forall_mem_enclose hchar (List.forall_mem_map.2 ?_)
  refine forall_mem_zipWith fun w _ cell hcell => ?_
  rw [List.getD_eq_getElem?_getD]
  cases hline : (a.align _ w cell)[i]? with
  | none => exact nofun
  | some line =>
      exact forall_mem_align hchar (h cell hcell) line (List.mem_of_getElem? hline)

/-- The lines of a table have what the cells of its heading and its rows have. -/
theorem forall_mem_lines_of_cells {t : Grid}
    (hheading : ∀ cell ∈ List.zipWith cellLines (t.widths limit) t.heading,
      ∀ line ∈ cell, ∀ n ∈ line, P n)
    (hrows : ∀ row ∈ t.cleanRows, ∀ cell ∈ List.zipWith cellLines (t.widths limit) row,
      ∀ line ∈ cell, ∀ n ∈ line, P n) :
    ∀ line ∈ t.lines limit, ∀ n ∈ line, P n := by
  have hrule {e : Edges} {c : Char} {widths : List Nat} :
      ∀ line ∈ [e.rule c widths], ∀ n ∈ line, P n :=
    List.forall_mem_singleton.2 (forall_mem_rule hchar)
  unfold Grid.lines
  dsimp only
  split_ifs
  · exact nofun
  · simp only [List.forall_mem_append]
    exact ⟨⟨⟨⟨hrule, forall_mem_rowLines hchar hheading⟩, hrule⟩,
      List.forall_mem_flatMap.2 fun row hrow => forall_mem_rowLines hchar (hrows row hrow)⟩, hrule⟩

/-- **The lines of a table** have code points of its texts, blanks, ellipses and edges. -/
theorem forall_mem_lines {t : Grid} (hheading : ∀ text ∈ t.heading, ∀ n ∈ text, P n)
    (hrows : ∀ row ∈ t.rows, ∀ text ∈ row, ∀ n ∈ text, P n) :
    ∀ line ∈ t.lines limit, ∀ n ∈ line, P n := by
  refine forall_mem_lines_of_cells hchar ?_ (List.forall_mem_map.2 fun row hrow => ?_)
  · exact forall_mem_zipWith fun _ _ text htext => forall_mem_cellLines hchar (hheading text htext)
  · refine forall_mem_zipWith fun _ _ text htext => forall_mem_cellLines hchar ?_
    obtain ⟨cell, hcell, rfl⟩ := List.mem_map.1 htext
    exact Paragraph.forall_mem_clean (hrows row hrow cell hcell)

end Table

/-! ## Panels -/

namespace Panel

variable {width : Nat} {title : List Nat}

include hchar

/-- An edge is made of characters. -/
theorem forall_mem_edge {k : Nat} : ∀ n ∈ edge k, P n := by
  intro n hn
  obtain rfl := List.eq_of_mem_replicate hn
  exact hchar '─'

/-- The upper edge has the title. -/
theorem forall_mem_upperEdge {inner : Nat} (h : ∀ n ∈ title, P n) :
    ∀ n ∈ upperEdge inner title, P n := by
  have hedge {k : Nat} : ∀ n ∈ edge k, P n := forall_mem_edge hchar
  have htitle : ∀ n ∈ Text.space :: title ++ [Text.space], P n :=
    List.forall_mem_append.2
      ⟨List.forall_mem_cons.2 ⟨hchar ' ', h⟩, List.forall_mem_singleton.2 (hchar ' ')⟩
  have hcropped {k : Nat} : ∀ n ∈ Text.cropped k (Text.space :: title ++ [Text.space]), P n :=
    Text.forall_mem_cropped hchar htitle
  unfold upperEdge centred
  split_ifs
  · simp only [List.forall_mem_append, List.forall_mem_cons]
    exact ⟨⟨hchar '╭', hedge⟩, hchar '╮', nofun⟩
  · simp only [List.forall_mem_append, List.forall_mem_cons]
    exact ⟨⟨⟨⟨hchar '╭', hedge⟩, ⟨hedge, hcropped⟩, hedge⟩, hedge⟩, hchar '╮', nofun⟩

/-- **The lines of a panel** have code points of its texts, blanks and edges. -/
theorem forall_mem_lines {p : Panel} (htitle : ∀ n ∈ p.title, P n) (hbody : ∀ n ∈ p.body, P n) :
    ∀ line ∈ p.lines width, ∀ n ∈ line, P n := by
  unfold lines
  dsimp only
  split_ifs
  · exact nofun
  · refine List.forall_mem_cons.2 ⟨forall_mem_upperEdge hchar htitle, ?_⟩
    refine List.forall_mem_append.2 ⟨List.forall_mem_map.2 fun line hline => ?_, ?_⟩
    · have hline := Paragraph.forall_mem_lines hchar hbody line hline
      simp only [List.forall_mem_append, List.forall_mem_cons]
      exact ⟨⟨⟨hchar '│', hchar ' ', nofun⟩, Text.forall_mem_padded hchar hline⟩, hchar ' ',
        hchar '│', nofun⟩
    · refine List.forall_mem_singleton.2 (List.forall_mem_append.2 ⟨?_, ?_⟩)
      · exact List.forall_mem_cons.2 ⟨hchar '╰', forall_mem_edge hchar⟩
      · exact List.forall_mem_singleton.2 (hchar '╯')

end Panel

/-! ## What is written -/

namespace Command

variable {width : Nat} {lines : List (List Nat)} {s : String}

/-- What is written of lines has their code points, blanks and line breaks. -/
theorem forall_mem_flatMap_cropped (h : ∀ line ∈ lines, ∀ n ∈ line, P n)
    (hchar : ∀ c : Char, P c.toNat) :
    ∀ n ∈ lines.flatMap fun line => Text.cropped width line ++ [Paragraph.lineFeed], P n :=
  List.forall_mem_flatMap.2 fun line hline => List.forall_mem_append.2
    ⟨Text.forall_mem_cropped hchar (h line hline), List.forall_mem_singleton.2 (hchar '\n')⟩

/-- Lines without surrogates are written without. -/
theorem hasSurrogate_linesText (h : ∀ line ∈ lines, ∀ n ∈ line, n.isValidChar) :
    Text.hasSurrogate (linesText width lines) = false :=
  Text.hasSurrogate_ofCodes_of_isValidChar (forall_mem_flatMap_cropped h fun c => c.valid)

/-- A surrogate in a line that fits is written. -/
theorem hasSurrogate_linesText_of_mem (h : ∀ line ∈ lines, ∀ n ∈ line, n < 0x110000)
    {line : List Nat} (hline : line ∈ lines) (hfits : Text.width line ≤ width)
    (hbroken : line.any Text.isSurrogate = true) :
    Text.hasSurrogate (linesText width lines) = true := by
  have hcodes : ∀ n ∈ lines.flatMap fun line => Text.cropped width line ++ [Paragraph.lineFeed],
      n < 0x110000 := forall_mem_flatMap_cropped h Text.toNat_lt
  obtain ⟨n, hn, hsurrogate⟩ := List.any_eq_true.1 hbroken
  unfold linesText
  rw [Text.hasSurrogate_ofCodes hcodes, List.any_eq_true]
  refine ⟨n, List.mem_flatMap.2 ⟨line, hline, List.mem_append_left _ ?_⟩, hsurrogate⟩
  rwa [Text.cropped, if_pos hfits]

/-- **A paragraph of a text without surrogates** has none. -/
theorem hasSurrogate_paragraphText (h : Text.hasSurrogate s = false) :
    Text.hasSurrogate (paragraphText width s) = false := by
  have hclean : ∀ n ∈ Paragraph.clean (Text.codes s), n.isValidChar :=
    Paragraph.forall_mem_clean (Text.isValidChar_of_mem_codes h)
  exact hasSurrogate_linesText (Paragraph.forall_mem_lines (fun c => c.valid) hclean)

/-- **A table of texts without surrogates** has none. -/
theorem hasSurrogate_tableText {heading : List String} {rows : List (List String)}
    (hheading : ∀ text ∈ heading, Text.hasSurrogate text = false)
    (hrows : ∀ row ∈ rows, ∀ text ∈ row, Text.hasSurrogate text = false) :
    Text.hasSurrogate (tableText width heading rows) = false := by
  refine hasSurrogate_linesText (Table.forall_mem_lines (fun c => c.valid) ?_ ?_)
  · exact List.forall_mem_map.2 fun text htext =>
      Text.isValidChar_of_mem_codes (hheading text htext)
  · exact List.forall_mem_map.2 fun row hrow => List.forall_mem_map.2 fun text htext =>
      Text.isValidChar_of_mem_codes (hrows row hrow text htext)

/-- A table has a surrogate if a row has one in a line that fits. -/
theorem hasSurrogate_tableText_of_row {t : Table.Grid} (hwidth : width ≠ 0)
    (hheading : ∀ text ∈ t.heading, ∀ n ∈ text, n < 0x110000)
    (hrows : ∀ row ∈ t.rows, ∀ text ∈ row, ∀ n ∈ text, n < 0x110000)
    (hrow : ∃ row ∈ t.cleanRows, ∃ line ∈ Table.rowLines .top Table.rowEdges (t.widths width) row,
      Text.width line ≤ width ∧ line.any Text.isSurrogate = true) :
    Text.hasSurrogate (linesText width (t.lines width)) = true := by
  obtain ⟨row, hrow, line, hline, hfits, hbroken⟩ := hrow
  refine hasSurrogate_linesText_of_mem (Table.forall_mem_lines Text.toNat_lt hheading hrows) ?_
    hfits hbroken
  have hmem : line ∈ t.cleanRows.flatMap (Table.rowLines .top Table.rowEdges (t.widths width)) :=
    List.mem_flatMap.2 ⟨row, hrow, hline⟩
  unfold Table.Grid.lines
  dsimp only
  rw [if_neg hwidth]
  exact List.mem_append_left _ (List.mem_append_right _ hmem)

/-- **A panel of texts without surrogates** has none. -/
theorem hasSurrogate_panelText {p : Panel} (htitle : ∀ n ∈ p.title, n.isValidChar)
    (hbody : ∀ n ∈ p.body, n.isValidChar) : Text.hasSurrogate (panelText width p) = false :=
  hasSurrogate_linesText (Panel.forall_mem_lines (fun c => c.valid) htitle hbody)

end Command

end ColumnTypes
