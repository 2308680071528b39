import EdgeGateway.Json.Reader
import EdgeGateway.Settings.Toml.Spacing

/-!
# TOML strings

A basic string stands in double quotes and may hold escapes; a literal string stands in single
quotes and holds none. With three quotes at either end a string may go on over several lines, and
its line breaks belong to it as they are written.
-/

namespace EdgeGateway.Settings.Toml

/-- The character with a code that is written in hexadecimal digits. It may not be half of a
surrogate pair. -/
def coded? (digits : List Char) : Option Char := do
  let code ← digits.foldlM (fun code digit => (Json.hexDigit? digit).map (16 * code + ·)) 0
  guard code.isValidChar
  return Char.ofNat code

/-- The character that a letter behind a backslash stands for. -/
def unescape? : Char → Option Char
  | 'b' => some '\x08'
  | 't' => some '\t'
  | 'n' => some '\n'
  | 'f' => some '\x0c'
  | 'r' => some '\r'
  | 'e' => some '\x1b'
  | '"' => some '"'
  | '\\' => some '\\'
  | _ => none

/-- Reads an escape behind its backslash. -/
def escape? : List Char → Option (Char × List Char)
  | 'x' :: a :: b :: rest => (coded? [a, b]).map (·, rest)
  | 'u' :: a :: b :: c :: d :: rest => (coded? [a, b, c, d]).map (·, rest)
  | 'U' :: a :: b :: c :: d :: e :: f :: g :: h :: rest =>
    (coded? [a, b, c, d, e, f, g, h]).map (·, rest)
  | letter :: rest => (unescape? letter).map (·, rest)
  | [] => none

/-- Reading an escape consumes some of the text. -/
theorem length_lt_of_escape? {text rest : List Char} {character : Char}
    (read : escape? text = some (character, rest)) : rest.length < text.length := by
  unfold escape? at read
  split at read <;> simp only [Option.map_eq_some_iff, Prod.mk.injEq, reduceCtorEq] at read
  all_goals
    obtain ⟨_, _, _, rfl⟩ := read
    simp only [List.length_cons]
    omega

/-- A character in front of what was read behind it. -/
def prepend (character : Char) (read : List Char × List Char) : List Char × List Char :=
  (character :: read.1, read.2)

/-- Reads a basic string behind its opening quote. -/
def basicString? (text : List Char) : Option (List Char × List Char) :=
  match text with
  | [] => none
  | '"' :: rest => some ([], rest)
  | '\\' :: rest =>
    match _read : escape? rest with
    | none => none
    | some (character, rest) => (basicString? rest).map (prepend character)
  | character :: rest =>
    if isPlain character then (basicString? rest).map (prepend character) else none
termination_by text.length
decreasing_by
  · have shorter := length_lt_of_escape? _read
    simp only [List.length_cons]
    omega
  · simp only [List.length_cons]
    omega

/-- Reads a literal string behind its opening quote. -/
def literalString? : List Char → Option (List Char × List Char)
  | [] => none
  | character :: rest =>
    if character = '\x27' then some ([], rest)
    else if isPlain character then (literalString? rest).map (prepend character)
    else none

/-- What follows three closing quotes: up to two more quotes still belong to the string. -/
def behindQuotes (quote : Char) : List Char → List Char × List Char
  | [] => ([], [])
  | [first] => if first = quote then ([quote], []) else ([], [first])
  | first :: second :: rest =>
    if first = quote ∧ second = quote then ([quote, quote], rest)
    else if first = quote then ([quote], second :: rest)
    else ([], first :: second :: rest)

/-- A text without the line break right behind opening quotes. -/
def skipLineBreak (text : List Char) : List Char := (takeLineBreak? text).getD text

/-- Reads a basic string over several lines. A backslash at the end of a line skips the line break
and all blanks and line breaks behind it. -/
def basicLines? (text : List Char) : Option (List Char × List Char) :=
  match text with
  | [] => none
  | '"' :: '"' :: '"' :: rest => some (behindQuotes '"' rest)
  | '\\' :: rest =>
    match _read : escape? rest with
    | some (character, rest) => (basicLines? rest).map (prepend character)
    | none =>
      if (takeLineBreak? (skipBlanks rest)).isSome then basicLines? (skipSpace rest) else none
  | '\r' :: '\n' :: rest => (basicLines? rest).map (prepend '\r' ∘ prepend '\n')
  | character :: rest =>
    if isPlain character ∨ character = '\n' then (basicLines? rest).map (prepend character)
    else none
termination_by text.length
decreasing_by
  · have shorter := length_lt_of_escape? _read
    simp only [List.length_cons]
    omega
  · have shorter := length_skipSpace_le rest
    simp only [List.length_cons]
    omega
  · simp only [List.length_cons]
    omega
  · simp only [List.length_cons]
    omega

/-- Reads a literal string over several lines. -/
def literalLines? : List Char → Option (List Char × List Char)
  | '\x27' :: '\x27' :: '\x27' :: rest => some (behindQuotes '\x27' rest)
  | '\r' :: '\n' :: rest => (literalLines? rest).map (prepend '\r' ∘ prepend '\n')
  | character :: rest =>
    if isPlain character ∨ character = '\n' then (literalLines? rest).map (prepend character)
    else none
  | [] => none

/-- Reads a string with its quotes. -/
def string? : List Char → Option (List Char × List Char)
  | '"' :: '"' :: '"' :: rest => basicLines? (skipLineBreak rest)
  | '\x27' :: '\x27' :: '\x27' :: rest => literalLines? (skipLineBreak rest)
  | '"' :: rest => basicString? rest
  | '\x27' :: rest => literalString? rest
  | _ => none

/-- Reads a string on one line with its quotes. -/
def stringOnLine? : List Char → Option (List Char × List Char)
  | '"' :: rest => basicString? rest
  | '\x27' :: rest => literalString? rest
  | _ => none

end EdgeGateway.Settings.Toml
