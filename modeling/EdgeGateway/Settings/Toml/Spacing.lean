/-!
# Blanks, comments and line breaks in TOML

A line break is a line feed, with or without a carriage return in front. A comment may hold
anything but control characters other than the tab. Whatever skips a comment stops at such a
character, and then nothing but a line break may follow.
-/

namespace EdgeGateway.Settings.Toml

/-- Whether a character is a blank within a line. -/
def isBlank (character : Char) : Bool := character = ' ' || character = '\t'

/-- Whether a character may stand in a comment or in a string as it is. -/
def isPlain (character : Char) : Bool :=
  character = '\t' || (0x20 ≤ character.toNat && character.toNat ≠ 0x7f)

/-- A text without the blanks in front. -/
def skipBlanks (text : List Char) : List Char := text.dropWhile isBlank

/-- Takes a line break. -/
def takeLineBreak? : List Char → Option (List Char)
  | '\n' :: rest => some rest
  | '\r' :: '\n' :: rest => some rest
  | _ => none

/-- A text without the comment in front, if there is one. -/
def skipComment : List Char → List Char
  | '#' :: rest => rest.dropWhile isPlain
  | text => text

/-- A text without blanks, comments and line breaks in front. -/
def skipLines (text : List Char) : List Char :=
  go text.length text
where
  /-- Skips at most so many lines. -/
  go : Nat → List Char → List Char
    | 0, text => text
    | fuel + 1, text =>
      let behind := skipComment (skipBlanks text)
      (takeLineBreak? behind).elim behind (go fuel)

/-- Takes the end of a line: blanks, a comment, and the line break unless the text ends here. -/
def takeLineEnd? (text : List Char) : Option (List Char) :=
  match skipComment (skipBlanks text) with
  | [] => some []
  | rest => takeLineBreak? rest

/-- A text without blanks and line breaks in front. -/
def skipSpace : List Char → List Char
  | [] => []
  | '\r' :: '\n' :: rest => skipSpace rest
  | character :: rest =>
    if isBlank character ∨ character = '\n' then skipSpace rest else character :: rest

/-- Skipping only shortens a text. -/
theorem length_skipSpace_le (text : List Char) : (skipSpace text).length ≤ text.length := by
  fun_induction skipSpace text with
  | case1 => simp
  | case2 rest inductionHypothesis =>
    simp only [List.length_cons]
    omega
  | case3 character rest _ _ inductionHypothesis =>
    simp only [List.length_cons]
    omega
  | case4 => simp

end EdgeGateway.Settings.Toml
