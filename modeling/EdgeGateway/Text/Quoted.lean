import EdgeGateway.Text.Unprintable

/-!
# Quoted text

A text between quotes, as descriptions of the gateway's parts show it. The quote, the backslash
and four control characters have short escapes; every other unprintable character is shown by its
code in braces.
-/

namespace EdgeGateway.Text

/-- A character inside quotes. -/
def quotedCharacter (character : Char) : List Char :=
  match character with
  | '\x00' => ['\\', '0']
  | '\t' => ['\\', 't']
  | '\n' => ['\\', 'n']
  | '\r' => ['\\', 'r']
  | '"' => ['\\', '"']
  | '\\' => ['\\', '\\']
  | character =>
    if isUnprintable character then
      ['\\', 'u', '{'] ++ Nat.toDigits 16 character.toNat ++ ['}']
    else [character]

/-- A text between quotes. -/
def quoted (text : String) : String :=
  String.ofList ('"' :: text.toList.flatMap quotedCharacter ++ ['"'])

/-- A text of plain characters is quoted as it is. -/
theorem quoted_of_plain {text : String}
    (plain : ∀ character ∈ text.toList, quotedCharacter character = [character]) :
    (quoted text).toList = '"' :: text.toList ++ ['"'] := by
  have same : text.toList.flatMap quotedCharacter = text.toList := by
    generalize text.toList = characters at plain
    induction characters with
    | nil => rfl
    | cons character characters inductionHypothesis =>
      simp only [List.mem_cons, forall_eq_or_imp] at plain
      simp [plain.1, inductionHypothesis plain.2]
  simp [quoted, same]

end EdgeGateway.Text
