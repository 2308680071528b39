import EdgeGateway.Text.Ends

/-!
# Lines of variables

A line of a `.env` file goes on behind a line break that stands in quotes, and it ends before a
comment. Both are decided character by character, without reading the name and the value. A quote
opens quotes wherever it stands, an apostrophe in a word too, and a comment begins with a number
sign behind a blank that does not follow another blank.
-/

namespace EdgeGateway.Settings.EnvironmentFile

/-- What the next character of a line means. -/
inductive LineState where
  /-- It may open quotes. -/
  | plain
  /-- It may open quotes or a comment. -/
  | blank
  /-- It is escaped by a backslash. -/
  | escaped
  /-- It stands in quotes with this mark, and is escaped by a backslash or not. -/
  | quoted (mark : Char) (escaped : Bool)
  deriving DecidableEq, Repr

namespace LineState

/-- The state behind a character outside of quotes that opens no comment. -/
def afterPlain (character : Char) : LineState :=
  if character = '\\' then escaped
  else if character = '"' ∨ character = '\x27' then quoted character false
  else plain

/-- The state behind a character, `none` if a comment begins with it. -/
def next? (character : Char) : LineState → Option LineState
  | plain =>
    if Text.isBlank character ∧ character ≠ '\n' ∧ character ≠ '\r' then some blank
    else some (afterPlain character)
  | blank => if character = '#' then none else some (afterPlain character)
  | escaped => some plain
  | quoted mark true => some (quoted mark false)
  | quoted mark false =>
    if character = '\\' then some (quoted mark true)
    else if character = mark then some plain
    else some (quoted mark false)

end LineState

/-- The characters up to a comment, and the state behind them, `none` if there is a comment. -/
def beforeComment (state : LineState) : List Char → List Char × Option LineState
  | [] => ([], some state)
  | character :: rest =>
    match state.next? character with
    | none => ([], none)
    | some next =>
      let (kept, final) := beforeComment next rest
      (character :: kept, final)

/-- A text cut behind its line breaks. -/
def physicalLines : List Char → List (List Char)
  | [] => []
  | character :: rest =>
    if character = '\n' then ['\n'] :: physicalLines rest
    else
      match physicalLines rest with
      | [] => [[character]]
      | line :: lines => (character :: line) :: lines

/-- Cutting a text loses nothing. -/
theorem flatten_physicalLines (text : List Char) : (physicalLines text).flatten = text := by
  induction text with
  | nil => rfl
  | cons character rest inductionHypothesis =>
    unfold physicalLines
    split
    · simp_all
    · split
      · rename_i noLines
        rw [noLines] at inductionHypothesis
        simp [← inductionHypothesis]
      · rename_i cut
        rw [cut] at inductionHypothesis
        simp [← inductionHypothesis]

/-- The cut lines put together where they go on, given the beginning of an unfinished line and the
state behind it. Lines that start with a number sign are left out, and so is a line that is still
unfinished where the text ends. -/
def joined (state : LineState) (beginning : List Char) : List (List Char) → List (List Char)
  | [] => []
  | line :: lines =>
    if ((beginning ++ line).dropWhile Text.isBlank).head? = some '#' then joined .plain [] lines
    else
      match beforeComment state line with
      | (kept, none) => (beginning ++ kept) :: joined .plain [] lines
      | (_, some .plain) => (beginning ++ line) :: joined .plain [] lines
      | (_, some state) => joined state (beginning ++ line) lines

/-- The lines of a text, without comments. -/
def lines (text : List Char) : List (List Char) := joined .plain [] (physicalLines text)

end EdgeGateway.Settings.EnvironmentFile
