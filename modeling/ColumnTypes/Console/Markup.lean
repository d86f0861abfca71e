import ColumnTypes.Console.Emoji
import ColumnTypes.Console.Literal
import ColumnTypes.Console.Style
import ColumnTypes.Text.LetterTable

/-!
# Markup

Text for the console may hold tags in square brackets that set its style: `[bold]` opens a style,
`[/bold]` closes it, and `[/]` closes the one opened last.  `Markup.plain` is the text without the
tags, and with pictographs for their codes.  Brackets that do not begin like a tag stay, and a
backslash keeps a tag from being one.

It is an error to close a style that is not open, to give the handler of an event (`[@press=…]`) a
value that cannot be read, and to mix a colour from something that is no number.
-/

namespace ColumnTypes

/-- Why a text is not well-formed markup. -/
inductive MarkupError where
  /-- A closing tag whose style is not open. -/
  | unopened (style : String)
  /-- A closing tag without a style where none is open. -/
  | nothingOpen
  /-- A tag that names an event, with values that cannot be read. -/
  | handler
  /-- A style with a part of a colour that is not a number. -/
  | colour
  deriving DecidableEq, Repr

/-- The message of malformed markup. -/
def MarkupError.message : MarkupError → String
  | unopened style => "closing tag '[/" ++ style ++ "]' doesn't match any open tag"
  | nothingOpen => "closing tag '[/]' has nothing to close"
  | handler => "error parsing the parameters of a handler"
  | colour => "a part of a colour is not a number"

namespace Markup

/-- A piece of marked-up text. -/
inductive Piece where
  | text (cs : List Char)
  | tag (body : List Char)
  deriving DecidableEq, Repr

/-- Whether a character can come first in a tag. -/
def startsTag (c : Char) : Bool :=
  ('a' ≤ c && c ≤ 'z') || c == '#' || c == '/' || c == '@'

/-- The inside of a tag up to its bracket, and the text after it. -/
def tagBody? : List Char → Option (List Char × List Char)
  | [] => none
  | ']' :: rest => some ([], rest)
  | '[' :: _ => none
  | c :: rest => (tagBody? rest).map fun (body, rest) => (c :: body, rest)

/-- The tag that a text begins with. -/
def tag? : List Char → Option (List Char × List Char)
  | '[' :: c :: rest =>
    if startsTag c then (tagBody? rest).map fun (body, rest) => (c :: body, rest) else none
  | _ => none

/-- Text before a tag, if there is any. -/
def textPiece (cs : List Char) : List Piece :=
  if cs.isEmpty then [] else [.text cs]

/-- The pieces that a tag stands for after a number of backslashes: two of them are one backslash,
and a single one makes the tag a text. -/
def tagPieces (backslashes : Nat) (body : List Char) : List Piece :=
  textPiece (List.replicate (backslashes / 2) '\\') ++
    [if backslashes % 2 = 1 then .text ('[' :: body ++ [']']) else .tag body]

/-- The pieces of a text; `fuel` bounds the number of steps, each of which takes a character. -/
def piecesFrom : Nat → List Char → List Char → List Piece
  | 0, before, cs => textPiece (before.reverse ++ cs)
  | _, before, [] => textPiece before.reverse
  | fuel + 1, before, c :: cs =>
    let backslashes := ((c :: cs).takeWhile (· == '\\')).length
    match tag? ((c :: cs).drop backslashes) with
    | some (body, rest) =>
      textPiece before.reverse ++ (tagPieces backslashes body ++ piecesFrom fuel [] rest)
    | none => piecesFrom fuel (c :: before) cs

/-- The pieces of a text. -/
def pieces (cs : List Char) : List Piece :=
  piecesFrom cs.length [] cs

/-- Text with every backslash before a bracket left out. -/
def unescaped : List Char → List Char
  | '\\' :: '[' :: rest => '[' :: unescaped rest
  | c :: rest => c :: unescaped rest
  | [] => []

/-- A text that does not begin with a bracket does not begin with a tag. -/
theorem tag?_of_no_bracket {cs : List Char} (h : ∀ c ∈ cs, c ≠ '[') : tag? cs = none := by
  unfold tag?
  split
  · exact absurd rfl (h '[' (by simp))
  · rfl

/-- A text without brackets is a single piece. -/
theorem piecesFrom_of_no_bracket (fuel : Nat) (before cs : List Char) (h : ∀ c ∈ cs, c ≠ '[') :
    piecesFrom fuel before cs = textPiece (before.reverse ++ cs) := by
  induction fuel generalizing before cs with
  | zero => rfl
  | succ fuel ih =>
    cases cs with
    | nil => simp [piecesFrom]
    | cons c cs =>
      have hrest : ∀ d ∈ (c :: cs).drop ((c :: cs).takeWhile (· == '\\')).length, d ≠ '[' :=
        fun d hd => h d (List.mem_of_mem_drop hd)
      have hcs : ∀ d ∈ cs, d ≠ '[' := fun d hd => h d (List.mem_cons_of_mem _ hd)
      simp only [piecesFrom, tag?_of_no_bracket hrest]
      rw [ih _ _ hcs]
      simp

/-- Nothing is left out of a text without brackets. -/
theorem unescaped_of_no_bracket (cs : List Char) (h : ∀ c ∈ cs, c ≠ '[') : unescaped cs = cs := by
  fun_induction unescaped cs with
  | case1 rest _ => exact absurd rfl (h '[' (by simp))
  | case2 c rest _ ih => rw [ih fun d hd => h d (List.mem_cons_of_mem _ hd)]
  | case3 => rfl

/-! ## Handlers -/

/-- Whether a character can stand in the name of a handler. -/
def namesHandler (c : Char) : Bool :=
  c == '.' || c == '_' || ('0' ≤ c && c ≤ '9') || ('a' ≤ c && c ≤ 'z') || ('A' ≤ c && c ≤ 'Z') ||
    Text.isIn Text.letterRanges c

/-- The literal that gives a handler its values: the brackets after its name, or all of the text
where that is no name with brackets. -/
def handlerLiteral (cs : List Char) : List Char :=
  let brackets := cs.dropWhile namesHandler
  if brackets.isEmpty then ['(', ')']
  else if brackets.head? = some '(' ∧ brackets.getLast? = some ')' ∧ !brackets.contains '\n' then
    brackets
  else cs

/-- Whether the parameters of a tag that names an event can be read. -/
def isHandler (parameters : List Char) : Bool :=
  parameters.isEmpty || Literal.isReadable (handlerLiteral (Style.trimmed parameters))

/-! ## Tags -/

/-- An open tag: the name of its style, what follows its equals sign, and where it begins in the
text that is shown. -/
structure OpenTag where
  style : List Char
  parameters : Option (List Char)
  start : Nat
  deriving DecidableEq, Repr

/-- A stretch of the text that is shown, with the text of its style. -/
structure Span where
  start : Nat
  stop : Nat
  style : List Char
  deriving DecidableEq, Repr

/-- Whether a tag names an event. -/
def OpenTag.isEvent (t : OpenTag) : Bool :=
  t.style.head? == some '@'

/-- The stretch between a tag and the place where it ends. -/
def OpenTag.span (t : OpenTag) (stop : Nat) : Span :=
  ⟨t.start, stop, match t.parameters with
    | some parameters => t.style ++ ' ' :: parameters
    | none => t.style⟩

/-- The name in a tag, and what follows its equals sign. -/
def tagParts (body : List Char) : List Char × Option (List Char) :=
  (body.takeWhile (· != '='),
    if body.contains '=' then some ((body.dropWhile (· != '=')).drop 1) else none)

/-- The name of a style in a tag. -/
def styleName (cs : List Char) : Except MarkupError (List Char) :=
  match Style.name cs with
  | .ok name => .ok name
  | .error _ => .error .colour

/-! ## The text that is shown -/

/-- What has been read of a text: the characters to be shown, the tags still open, the last first,
and the stretches of those that are closed. -/
structure Shown where
  text : List Char
  openTags : List OpenTag
  spans : List Span
  deriving DecidableEq, Repr

namespace Shown

/-- Nothing. -/
def start : Shown := ⟨[], [], []⟩

/-- More characters. -/
def write (s : Shown) (cs : List Char) : Shown :=
  { s with text := s.text ++ cs }

/-- Opens a tag. -/
def openTag (s : Shown) (style : List Char) (parameters : Option (List Char)) : Shown :=
  { s with openTags := ⟨style, parameters, s.text.length⟩ :: s.openTags }

/-- Closes an open tag. -/
def closeTag (s : Shown) (t : OpenTag) : Except MarkupError Shown :=
  let s := { s with openTags := s.openTags.erase t }
  if t.isEvent then
    if isHandler (t.parameters.getD []) then .ok s else .error .handler
  else .ok { s with spans := s.spans ++ [t.span s.text.length] }

/-- Closes the tag that was opened last. -/
def closeLast (s : Shown) : Except MarkupError Shown :=
  match s.openTags with
  | t :: _ => s.closeTag t
  | [] => .error .nothingOpen

/-- Closes the tag of a style that was opened last. -/
def closeStyle (s : Shown) (style : List Char) : Except MarkupError Shown :=
  match s.openTags.find? (·.style == style) with
  | some t => s.closeTag t
  | none => .error (.unopened (String.ofList style))

/-- What has been read after a tag. -/
def afterTag (s : Shown) (body : List Char) : Except MarkupError Shown :=
  match tagParts body with
  | ('/' :: name, _) =>
    if (Style.trimmed name).isEmpty then s.closeLast
    else (styleName (Style.trimmed name)).bind s.closeStyle
  | (name, parameters) => (styleName name).map fun style => s.openTag style parameters

/-- What has been read after a piece.  Pictographs take the place of their codes in text. -/
def after (s : Shown) : Piece → Except MarkupError Shown
  | .text cs => .ok (s.write (Emoji.shown (unescaped cs)))
  | .tag body => s.afterTag body

/-- All stretches, where those of open tags reach up to the end. -/
def allSpans (s : Shown) : List Span :=
  s.spans ++ s.openTags.map (·.span s.text.length)

/-- Whether a stretch is on the screen.  An empty one is lost where line breaks or tabs cut the text
into parts, and so is one of line breaks alone. -/
def isVisible (s : Shown) (span : Span) : Bool :=
  !s.text.any (fun c => c == '\n' || c == '\t') ||
    ((s.text.take span.stop).drop span.start).any (· != '\n')

/-- Whether the styles on the screen have colours that can be read. -/
def hasReadableStyles (s : Shown) : Bool :=
  (s.allSpans.filter s.isVisible).all fun span =>
    match Style.parse span.style with
    | .error .notANumber => false
    | _ => true

end Shown

/-- The text that markup shows. -/
def plain (cs : List Char) : Except MarkupError (List Char) := do
  let shown ← (pieces cs).foldlM Shown.after .start
  if shown.hasReadableStyles then .ok shown.text else .error .colour

end Markup

end ColumnTypes
