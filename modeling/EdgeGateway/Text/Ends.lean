/-!
# Beginnings and ends of texts

What a text is without a given beginning, without a final delimiter, and without blanks at its ends.
Blank are the characters with the Unicode property `White_Space`.
-/

namespace EdgeGateway.Text

/-- What remains of a text behind a given beginning, if the text begins so. -/
def dropPrefix? : (beginning text : List Char) → Option (List Char)
  | [], text => some text
  | _ :: _, [] => none
  | expected :: beginning, character :: text =>
    if expected = character then dropPrefix? beginning text else none

/-- A text begins with `beginning` and continues with `rest` exactly when it is the two in a row. -/
theorem dropPrefix?_eq_some_iff {beginning text rest : List Char} :
    dropPrefix? beginning text = some rest ↔ text = beginning ++ rest := by
  induction beginning generalizing text with
  | nil => simp [dropPrefix?]
  | cons expected beginning inductionHypothesis =>
    cases text with
    | nil => simp [dropPrefix?]
    | cons character text =>
      by_cases same : expected = character
      · simp [dropPrefix?, same, inductionHypothesis]
      · simp [dropPrefix?, same, Ne.symm same]

/-! ## What is dropped at the ends -/

/-- A text without the byte order mark that may stand in front of it. -/
def dropByteOrderMark : List Char → List Char
  | '\ufeff' :: text => text
  | text => text

/-- A text without one final delimiter, if it ends with one. -/
def dropFinal (delimiter : Char) (text : List Char) : List Char :=
  if text.getLast? = some delimiter then text.dropLast else text

/-- Dropping a final delimiter undoes appending one. -/
@[simp] theorem dropFinal_append_singleton (delimiter : Char) (text : List Char) :
    dropFinal delimiter (text ++ [delimiter]) = text := by
  simp [dropFinal]

/-- A text that does not end with the delimiter stays as it is. -/
theorem dropFinal_of_getLast?_ne {delimiter : Char} {text : List Char}
    (other : text.getLast? ≠ some delimiter) : dropFinal delimiter text = text := by
  simp [dropFinal, other]

/-! ## Blanks -/

/-- The ranges of blank code points, both ends included. -/
def blankRanges : List (Nat × Nat) :=
  [(0x9, 0xd), (0x20, 0x20), (0x85, 0x85), (0xa0, 0xa0), (0x1680, 0x1680), (0x2000, 0x200a),
    (0x2028, 0x2029), (0x202f, 0x202f), (0x205f, 0x205f), (0x3000, 0x3000)]

/-- Whether a character is blank. -/
def isBlank (character : Char) : Bool :=
  blankRanges.any fun (first, last) => first ≤ character.toNat && character.toNat ≤ last

/-- Every ASCII blank is blank. -/
theorem isBlank_of_isWhitespace {character : Char} (blank : character.isWhitespace) :
    isBlank character := by
  simp only [Char.isWhitespace, Bool.or_eq_true, decide_eq_true_eq] at blank
  rcases blank with ((rfl | rfl) | rfl) | rfl <;> decide

/-- The characters without the blank ones at either end. -/
def trimmed (characters : List Char) : List Char :=
  ((characters.dropWhile isBlank).reverse.dropWhile isBlank).reverse

/-- A text without blank characters at either end. -/
def trim (text : String) : String := String.ofList (trimmed text.toList)

end EdgeGateway.Text
