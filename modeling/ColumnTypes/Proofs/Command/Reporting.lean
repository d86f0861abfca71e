import ColumnTypes.Proofs.Command.Validating
import ColumnTypes.Proofs.Config.Anchoring
import ColumnTypes.Proofs.Console.Emoji
import ColumnTypes.Proofs.Console.Paragraph

/-!
# What `validate` reports

A call of `validate` that loads its configuration and its catalog prints the lines of its report.
The names of schemas are user strings, and they are printed as markup.  So the call breaks off at
the first line that cannot be printed, and what a line shows is what its markup shows: a name in
brackets is taken for a tag.

* `isClean_of_no_bracket` - so a path is no obstacle where no bracket and no surrogate is in it;
* `shows_framed` - markup whose text is a frame around a steady name shows both as they are where
  they fit on a line of the console; a name is steady if its characters begin no mark and the
  console leaves them where they are;
* `shows_schemaLine`, `shows_missingDefaultLine` - so the lines about steady names are faithful;
* `validate_report` - the calls of the program.
-/

namespace ColumnTypes.Command

open Command.Action Document Markup

variable {s : Surroundings} {given : List Given} {p q : Progress} {path : Path} {cfg : Config}
  {catalog : Catalog} {markup : String} {cs : List Char} {width : Nat}

/-! ## Paths -/

/-- A text without brackets and without surrogates is clean. -/
theorem isClean_of_no_bracket {t : String} (hbracket : '[' ∉ t.toList)
    (hwhole : Text.hasSurrogate t = false) : isClean t = true := by
  have hnone : Text.hasSurrogate (String.ofList (Emoji.shown t.toList)) = false :=
    Emoji.hasSurrogate_shown (by rw [String.ofList_toList]; exact hwhole)
  unfold isClean
  rw [plain_of_no_bracket fun c hc heq => hbracket (heq ▸ hc)]
  exact congrArg not hnone

/-- A path that is no obstacle to a report: no bracket stands in it, and no surrogate, with which
the bytes of a name that is no text are spelled. -/
structure IsReportable (path : Path) : Prop where
  bracket : '[' ∉ path.text.toList
  whole : Text.hasSurrogate path.text = false

/-! ## Steady names -/

/-- A character that begins no mark and that the console leaves where it is. -/
def isSteady (c : Char) : Bool :=
  isPlain c && Paragraph.isKept c.toNat

theorem isSteady_iff {c : Char} :
    isSteady c = true ↔ isPlain c = true ∧ Paragraph.isKept c.toNat = true := by
  simp [isSteady]

/-- A text of steady characters. -/
def IsSteady (t : String) : Prop :=
  ∃ cs : List Char, t = Text.ofChars cs ∧ cs.all isSteady = true

/-- Whether a text fits on one line of a console of some width. -/
def fits (width : Nat) (t : String) : Bool :=
  Text.width (Text.codes t) ≤ width

/-- A console of some width shows a text for marked-up text, on a line of its own. -/
structure Shows (width : Nat) (markup t : String) : Prop where
  printable : isPrintable width markup = true
  rendered_eq : rendered width markup = t ++ "\n"

/-- A text that fits on a line and that the console leaves as it is is shown as it is. -/
theorem shows_of_plain_eq (hplain : plain markup.toList = .ok (Text.ofChars cs).toList)
    (hkept : ∀ c ∈ cs, Paragraph.isKept c.toNat = true)
    (hend : ¬Paragraph.EndsBlank (cs.map Char.toNat)) (hwidth : 0 < width)
    (hfits : fits width (Text.ofChars cs) = true) : Shows width markup (Text.ofChars cs) := by
  have hfits : Text.width (cs.map Char.toNat) ≤ width := by
    simpa [fits, Text.codes_ofChars] using hfits
  have htext : paragraphText width (String.ofList (Text.ofChars cs).toList) =
      Text.ofChars cs ++ "\n" := by
    unfold paragraphText
    rw [String.ofList_toList, Text.codes_ofChars,
      Paragraph.lines_of_width_le hwidth hfits (List.forall_mem_map.2 hkept) hend, linesText,
      List.flatMap_singleton, Text.cropped, if_pos hfits, Text.ofCodes_append,
      Text.ofCodes_map_toNat]
    rfl
  constructor
  · unfold isPrintable
    rw [hplain]
    dsimp only
    rw [htext, hasSurrogate_append_newline, Text.hasSurrogate_ofChars]
    rfl
  · unfold rendered
    rw [hplain]
    exact htext

/-- The written form of characters that begin no mark has no mark either: a guard begins none. -/
theorem all_isPlain_ofChars (h : cs.all isSteady = true) :
    (Text.ofChars cs).toList.all isPlain = true := by
  refine List.all_eq_true.2 fun c hc => ?_
  rw [Text.ofChars, String.toList_ofList] at hc
  obtain ⟨d, hd, hc⟩ := List.mem_flatMap.1 hc
  have hplain : isPlain d = true := (isSteady_iff.1 (List.all_eq_true.1 h d hd)).1
  unfold Text.ofChar at hc
  split_ifs at hc
  · rcases List.mem_pair.1 hc with rfl | rfl
    all_goals decide
  · obtain rfl := List.mem_singleton.1 hc
    exact hplain

/-- Whether a text can stand around a name: its characters stand for themselves, and the console
keeps them. -/
def isFrame (t : String) : Bool :=
  t.toList.all fun c => isWhole c && Paragraph.isKept c.toNat

theorem isFrame_append (t u : String) : isFrame (t ++ u) = (isFrame t && isFrame u) := by
  rw [isFrame, String.toList_append, List.all_append]
  rfl

theorem isFrame_toString (n : Nat) : isFrame (toString n) = true := by
  refine List.all_eq_true.2 fun c hc => ?_
  have hordinary := List.all_eq_true.1 (all_isOrdinary_toString n) c hc
  have hkept : Paragraph.isKept c.toNat = true :=
    Paragraph.isKept_of_le (Nat.le_trans (by decide) (range_of_mem_toString hc).1)
  rw [hkept, Bool.and_true]
  exact decide_eq_true (isOrdinary_iff.1 hordinary).2

/-- A frame is written as it is. -/
theorem ofChars_of_isFrame {t : String} (h : isFrame t = true) : Text.ofChars t.toList = t := by
  rw [Text.ofChars_of_ne fun c hc => ?_, String.ofList_toList]
  have hc := (Bool.and_eq_true _ _ ▸ List.all_eq_true.1 h c hc).1
  exact (of_decide_eq_true hc : Text.IsOrdinary c).1

/-- Two texts between which a name can stand: the console keeps both, the first one takes room, and
the second one ends with a word. -/
structure IsFraming (before after : String) : Prop where
  before_isFrame : isFrame before = true
  after_isFrame : isFrame after = true
  room : 0 < Text.width (before.toList.map Char.toNat)
  ne_nil : after.toList ≠ []
  word : ¬Paragraph.EndsBlank (after.toList.map Char.toNat)

/-- Markup whose text is a frame around a steady name shows both as they are where they fit on a
line. -/
theorem shows_framed {before after : String} (hframing : IsFraming before after)
    (hsteady : cs.all isSteady = true)
    (hplain : plain markup.toList = .ok (before ++ (Text.ofChars cs ++ after)).toList)
    (hfits : fits width (before ++ (Text.ofChars cs ++ after)) = true) :
    Shows width markup (before ++ (Text.ofChars cs ++ after)) := by
  obtain ⟨hbefore, hafter, hroom, hne, hword⟩ := hframing
  have hkept {t : String} (ht : isFrame t = true) :
      ∀ c ∈ t.toList, Paragraph.isKept c.toNat = true :=
    fun c hc => (Bool.and_eq_true _ _ ▸ List.all_eq_true.1 ht c hc).2
  have htext : before ++ (Text.ofChars cs ++ after) =
      Text.ofChars (before.toList ++ (cs ++ after.toList)) := by
    rw [Text.ofChars_append, Text.ofChars_append, ofChars_of_isFrame hbefore,
      ofChars_of_isFrame hafter]
  have hall : ∀ c ∈ before.toList ++ (cs ++ after.toList), Paragraph.isKept c.toNat = true :=
    List.forall_mem_append.2 ⟨hkept hbefore, List.forall_mem_append.2
      ⟨fun c hc => (isSteady_iff.1 (List.all_eq_true.1 hsteady c hc)).2, hkept hafter⟩⟩
  rw [htext] at hplain hfits ⊢
  refine shows_of_plain_eq hplain hall ?_ ?_ hfits
  · rw [List.map_append, List.map_append, ← List.append_assoc,
      Paragraph.endsBlank_append_iff (by simpa using hne)]
    exact hword
  · have hwidth : Text.width (before.toList.map Char.toNat) ≤ width := by
      refine Nat.le_trans ?_ (of_decide_eq_true hfits)
      rw [Text.codes_ofChars, List.map_append]
      exact Text.widthFrom_le_append none _ _
    exact Nat.lt_of_lt_of_le hroom hwidth

/-! ## Lines of steady names -/

/-- The numbers of what is in a schema. -/
def numbersText (schema : Schema) : String :=
  toString schema.tables.length ++ " tables, " ++ toString schema.enums.length ++ " enums, " ++
    toString schema.composites.length ++ " composite types"

theorem schemaLine_eq (schema : Schema) :
    schemaLine schema = "  - " ++ (schema.name ++ (": " ++ numbersText schema)) := by
  delta schemaLine numbersText
  simp only [String.append_assoc]

/-- A character that no mark begins with is neither a bracket nor a colon. -/
theorem marks_of_isPlain {c : Char} (h : isPlain c = true) : c ≠ '[' ∧ c ≠ ':' :=
  ⟨(isPlain_iff.1 h).1.1, (isPlain_iff.1 h).2⟩

/-- No bracket and no colon stands in the numbers. -/
theorem marks_of_mem_numbersText {schema : Schema} {c : Char}
    (hc : c ∈ (numbersText schema).toList) : c ≠ '[' ∧ c ≠ ':' := by
  have hordinary : (numbersText schema).toList.all isOrdinary = true := by
    simp only [numbersText, String.toList_append, List.all_append, all_isOrdinary_toString]
    decide
  exact marks_of_isPlain (isOrdinary_iff.1 (List.all_eq_true.1 hordinary c hc)).1

/-- In the line of a steady name no bracket stands, and the colon behind the name is the only one.
A blank follows it, so it begins no code. -/
theorem plain_schemaLine {schema : Schema} (hname : schema.name.toList.all isPlain = true) :
    plain (schemaLine schema).toList = .ok (schemaLine schema).toList := by
  set before := "  - ".toList ++ schema.name.toList with hbefore
  set after := ' ' :: (numbersText schema).toList with hafter
  have hlist : (schemaLine schema).toList = before ++ ':' :: after := by
    simp [schemaLine_eq, hbefore, hafter]
  have hbeforePlain : before.all isPlain = true := by
    rw [hbefore, List.all_append, hname]
    decide
  have hmarks : ∀ c ∈ after, c ≠ '[' ∧ c ≠ ':' := by
    exact List.forall_mem_cons.2 ⟨by decide, fun c hc => marks_of_mem_numbersText hc⟩
  have hbracketAfter : ∀ c ∈ ':' :: after, c ≠ '[' :=
    List.forall_mem_cons.2 ⟨by decide, fun c hc => (hmarks c hc).1⟩
  have hbracket : ∀ c ∈ before ++ ':' :: after, c ≠ '[' :=
    List.forall_mem_append.2 ⟨fun c hc =>
      (marks_of_isPlain (List.all_eq_true.1 hbeforePlain c hc)).1, hbracketAfter⟩
  have hshown : Emoji.shown (before ++ ':' :: after) = before ++ Emoji.shown (':' :: after) := by
    have happend : Emoji.shown (unescaped (before ++ ':' :: after)) =
        before ++ Emoji.shown (unescaped (':' :: after)) := shown_unescaped_append hbeforePlain
    rwa [unescaped_of_no_bracket _ hbracket, unescaped_of_no_bracket _ hbracketAfter] at happend
  rw [hlist, plain_of_no_bracket hbracket, hshown, hafter, Emoji.shown_colon_blank (by decide)
    (by decide) fun c hc => (hmarks c (List.mem_cons_of_mem _ hc)).2]

/-- A name can stand between the beginning of its line and the numbers. -/
theorem isFraming_numbersText (schema : Schema) :
    IsFraming "  - " (": " ++ numbersText schema) where
  before_isFrame := by decide
  after_isFrame := by
    simp only [numbersText, isFrame_append, isFrame_toString]
    decide
  room := by decide
  ne_nil := by simp
  word := by
    rw [numbersText, ← String.append_assoc, String.toList_append, List.map_append,
      Paragraph.endsBlank_append_iff (by decide)]
    decide

/-- The line of a steady name shows that name, and the numbers of what is in the schema, where it
fits. -/
theorem shows_schemaLine {schema : Schema} (hname : IsSteady schema.name)
    (hfits : fits width (schemaLine schema) = true) :
    Shows width (schemaLine schema) (schemaLine schema) := by
  obtain ⟨cs, hspelled, hsteady⟩ := hname
  have hplain : plain (schemaLine schema).toList = .ok (schemaLine schema).toList :=
    plain_schemaLine (hspelled ▸ all_isPlain_ofChars hsteady)
  rw [schemaLine_eq, hspelled] at hplain hfits ⊢
  exact shows_framed (isFraming_numbersText schema) hsteady hplain hfits

/-- A label without marks is shown as it is. -/
theorem isHeading_of_all_isPlain {style label : List Char} (hstyle : style ∈ headingStyles)
    (hne : label ≠ []) (h : label.all isPlain = true) : IsHeading style label [] := by
  have hmarks : ∀ c ∈ label, (c ≠ '[' ∧ c ≠ '\\') ∧ c ≠ ':' :=
    fun c hc => isPlain_iff.1 (List.all_eq_true.1 h c hc)
  exact ⟨hstyle, hne, List.all_eq_true.2 fun c hc => isUnmarked_iff.2 (hmarks c hc).1,
    Emoji.shownFrom_of_no_colon _ _ fun c hc => (hmarks c hc).2, rfl⟩

/-- The warning about a default schema that is not there, without its style. -/
def missingDefaultText (name : String) : String :=
  "Default schema '" ++ (name ++ "' is not in the catalog")

theorem missingDefaultText_eq (name : String) :
    missingDefaultText name = "Default schema '" ++ (name ++ "' is not in the catalog") := by
  delta missingDefaultText
  rfl

/-- The warning about a name without marks is its text in a style. -/
theorem plain_missingDefaultLine {name : String} (hname : name.toList.all isPlain = true) :
    plain (missingDefaultLine name).toList = .ok (missingDefaultText name).toList := by
  have hlabel : (missingDefaultText name).toList.all isPlain = true := by
    rw [missingDefaultText_eq, String.toList_append, String.toList_append, List.all_append,
      List.all_append, hname]
    decide
  have hne : (missingDefaultText name).toList ≠ [] := by
    rw [missingDefaultText_eq]
    simp
  have hheading : IsHeading "yellow".toList (missingDefaultText name).toList [] :=
    isHeading_of_all_isPlain (by decide) hne hlabel
  have hopen : "[yellow]Default schema '".toList =
      '[' :: ("yellow".toList ++ ']' :: "Default schema '".toList) := by
    decide
  have hclose : "' is not in the catalog[/yellow]".toList =
      "' is not in the catalog".toList ++ '[' :: ('/' :: "yellow".toList ++ [']']) := by
    decide
  have hlist : (missingDefaultLine name).toList =
      [] ++ (heading "yellow".toList (missingDefaultText name).toList [] ++ []) := by
    delta missingDefaultLine
    simp only [missingDefaultText_eq, String.toList_append, hopen, hclose, heading,
      List.append_assoc, List.cons_append, List.nil_append, List.append_nil]
  rw [hlist, plain_append_heading hheading rfl rfl, List.nil_append, List.append_nil,
    List.append_nil]

/-- The warning about a steady name shows that name where it fits. -/
theorem shows_missingDefaultLine {name : String} (hname : IsSteady name)
    (hfits : fits width (missingDefaultText name) = true) :
    Shows width (missingDefaultLine name) (missingDefaultText name) := by
  obtain ⟨cs, rfl, hsteady⟩ := hname
  have hplain := plain_missingDefaultLine (all_isPlain_ofChars hsteady)
  have hframing : IsFraming "Default schema '" "' is not in the catalog" :=
    ⟨by decide, by decide, by decide, by decide, by decide⟩
  rw [missingDefaultText_eq] at hplain hfits ⊢
  exact shows_framed hframing hsteady hplain hfits

/-! ## Calls -/

variable {arguments : List String}

/-- A call of `validate` exits with zero exactly if the lines of its report can be printed. -/
theorem invoke_validate_eq_exit_zero_iff (logging : Logging)
    (haccepted : IsAccepted s .validate given [] arguments)
    (hfound : ConfigFound s (namedConfig? given) path) (hcfg : s.configAt path = .ok cfg)
    (hloaded : s.loadCatalog cfg.catalogPath = .ok catalog) :
    (invoke s logging arguments).1 = .exit 0 ↔
      ∀ line ∈ reportLines path cfg catalog, isPrintable s.width line = true := by
  rw [invoke_eq_exit_zero_iff haccepted isFrank_validate]
  constructor
  · rintro ⟨q, hq⟩
    exact ((returns_validate_iff hfound hcfg hloaded).1 hq).1
  · intro hlines
    exact ⟨_, (returns_validate_iff hfound hcfg hloaded).2 ⟨hlines, rfl⟩⟩

/-- It has then printed what they show, and has done nothing else. -/
theorem invoke_validate_of_isPrintable (logging : Logging)
    (haccepted : IsAccepted s .validate given [] arguments)
    (hfound : ConfigFound s (namedConfig? given) path) (hcfg : s.configAt path = .ok cfg)
    (hloaded : s.loadCatalog cfg.catalogPath = .ok catalog)
    (hlines : ∀ line ∈ reportLines path cfg catalog, isPrintable s.width line = true) :
    invoke s logging arguments =
      (.exit 0, (Progress.start logging).write .out
        (printed s.width (reportLines path cfg catalog))) := by
  unfold invoke
  rw [program_of_isAccepted haccepted]
  exact run_of_returns ((returns_validate_iff hfound hcfg hloaded).2 ⟨hlines, rfl⟩)

/-- A catalog whose lines have steady names and fit on a console of some width. -/
structure IsSteadyCatalog (width : Nat) (catalog : Catalog) : Prop where
  schemas : ∀ schema ∈ catalog.schemas,
    IsSteady schema.name ∧ fits width (schemaLine schema) = true
  missing : (∀ schema ∈ catalog.schemas, schema.name ≠ catalog.defaultSchema) →
    IsSteady catalog.defaultSchema ∧ fits width (missingDefaultText catalog.defaultSchema) = true

/-- The text of a faithful report of a catalog. -/
def faithfulText (catalog : Catalog) : String :=
  String.join (catalog.schemas.map fun schema => schemaLine schema ++ "\n") ++
    if ∀ schema ∈ catalog.schemas, schema.name ≠ catalog.defaultSchema then
      missingDefaultText catalog.defaultSchema ++ "\n"
    else ""

/-- The lines about a steady catalog can be printed and are a faithful report. -/
theorem catalogLines_of_isSteadyCatalog (h : IsSteadyCatalog width catalog) :
    (∀ line ∈ catalogLines catalog, isPrintable width line = true) ∧
      printed width (catalogLines catalog) = faithfulText catalog := by
  have hschemas : ∀ schema ∈ catalog.schemas,
      Shows width (schemaLine schema) (schemaLine schema) :=
    fun schema hschema => shows_schemaLine (h.schemas schema hschema).1 (h.schemas schema hschema).2
  have hshown : (catalog.schemas.map schemaLine).map (rendered width) =
      catalog.schemas.map fun schema => schemaLine schema ++ "\n" := by
    rw [List.map_map]
    refine List.map_congr_left fun schema hschema => ?_
    rw [Function.comp_apply, (hschemas schema hschema).rendered_eq]
  have hprintable : ∀ line ∈ catalog.schemas.map schemaLine, isPrintable width line = true :=
    List.forall_mem_map.2 fun schema hschema => (hschemas schema hschema).printable
  unfold catalogLines faithfulText printed
  rw [List.forall_mem_append, List.map_append, String.join_append, hshown]
  split_ifs with hmissing
  · obtain ⟨hsteady, hfits⟩ := h.missing hmissing
    obtain ⟨hline, htext⟩ := shows_missingDefaultLine hsteady hfits
    refine ⟨⟨hprintable, List.forall_mem_singleton.2 hline⟩, ?_⟩
    rw [List.map_singleton, htext]
    simp
  · exact ⟨⟨hprintable, fun line hline => nomatch hline⟩, rfl⟩

/-- A project whose catalog has one schema, of a given name, and nothing else. -/
def namedProject (name : String) : Surroundings where
  files := ⟨[(["pgcodegen.yml"], .file "catalog: c.yml".toUTF8.toList),
    (["c.yml"], .file ("schemas: [\x7bname: '" ++ name ++ "'\x7d]").toUTF8.toList)]⟩
  directory := .ofLocation []
  debugVariable := none

/-- The configuration of the project. -/
def namedConfig : Config := ⟨"/c.yml", "", [], false⟩

/-- The catalog of the project. -/
def namedCatalog (name : String) : Catalog := ⟨"public", [⟨name, [], [], []⟩]⟩

theorem loads_namedProject : ∀ name ∈ ["[bold]x", "[/red]"],
    (namedProject name).loadConfig none = .ok namedConfig ∧
      (namedProject name).loadCatalog namedConfig.catalogPath = .ok (namedCatalog name) := by
  decide +kernel

end ColumnTypes.Command
