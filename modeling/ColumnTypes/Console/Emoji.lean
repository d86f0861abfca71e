import ColumnTypes.Text.Blank
import ColumnTypes.Text.Case
import ColumnTypes.Text.EmojiTable

/-!
# Codes of pictographs

A text for the console can call a pictograph by a name between colons, `:smile:`.  A name may end in
the wish for one of the two forms that some pictographs have, `:heart-emoji:` and `:heart-text:`.
`Emoji.shown` is the text with pictographs for their codes; a code that names none stays as it is.
-/

namespace ColumnTypes.Emoji

/-- The pictograph of a name, in which case does not matter. -/
def pictograph? (name : List Char) : Option (List Char) :=
  (Text.emojiTable.lookup (String.ofList (Text.lowered name))).map String.toList

/-- The forms that a code can ask for, each with the mark that selects it. -/
def forms : List (List Char × Char) :=
  [("-emoji".toList, '\ufe0f'), ("-text".toList, '\ufe0e')]

/-- The name in a code, and the mark of the form that it asks for. -/
def named (code : List Char) : List Char × List Char :=
  match forms.find? fun (suffix, _) => suffix.isSuffixOf code with
  | some (suffix, mark) => (code.take (code.length - suffix.length), [mark])
  | none => (code, [])

/-- What a code between colons shows. -/
def ofCode (code : List Char) : List Char :=
  let (name, mark) := named code
  match pictograph? name with
  | some pictograph => pictograph ++ mark
  | none => ':' :: code ++ [':']

/-- The code up to the next colon, which has no blanks, and the text after it. -/
def code? : List Char → Option (List Char × List Char)
  | [] => none
  | c :: rest =>
    if c = ':' then some ([], rest)
    else if Text.isBlank c then none
    else (code? rest).map fun (code, rest) => (c :: code, rest)

/-- The text with pictographs for their codes; `fuel` bounds the number of steps. -/
def shownFrom : Nat → List Char → List Char
  | 0, cs => cs
  | _, [] => []
  | fuel + 1, c :: cs =>
    if c = ':' then
      match code? cs with
      | some (code, rest) => ofCode code ++ shownFrom fuel rest
      | none => c :: shownFrom fuel cs
    else c :: shownFrom fuel cs

/-- The text with pictographs for their codes. -/
def shown (cs : List Char) : List Char :=
  shownFrom cs.length cs

/-- A text without colons has no codes. -/
theorem shownFrom_of_no_colon (fuel : Nat) (cs : List Char) (h : ∀ c ∈ cs, c ≠ ':') :
    shownFrom fuel cs = cs := by
  induction fuel generalizing cs with
  | zero => rfl
  | succ fuel ih =>
    cases cs with
    | nil => rfl
    | cons c cs =>
      have hc : c ≠ ':' := h c (by simp)
      simp [shownFrom, hc, ih cs fun d hd => h d (by simp [hd])]

end ColumnTypes.Emoji
