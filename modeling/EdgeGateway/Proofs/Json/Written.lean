import EdgeGateway.Json.Writer
import EdgeGateway.Proofs.Json.Number

/-!
# What is written is read back

`Written` says as which tree a value is read once it has been written: the value's characters spell
that tree, without a blank between tokens. The main statement is `ofText?_of_written`: the text of
a value is read as its tree.
-/

namespace EdgeGateway.Json

/-! ## Strings -/

/-- The unit as which a written character is read. The control characters without a short escape
are read as codes. -/
def unitOf (character : Char) : StringUnit :=
  if character.toNat < 0x20 ∧ character ∉ ['\x08', '\t', '\n', '\x0c', '\r'] then
    .code character.toNat
  else .character character

/-- The units as which a written text is read. -/
def unitsOf (text : String) : List StringUnit := text.toList.map unitOf

/-- A hexadecimal digit is worth what it was written for. -/
theorem hexDigit?_digitChar {digit : Nat} (small : digit < 16) :
    hexDigit? (Nat.digitChar digit) = some digit := by
  revert digit
  decide

/-- The code of a control character is worth the character's number. -/
theorem hexCode?_of_lt {number : Nat} (control : number < 0x20) :
    hexCode? '0' '0' (Nat.digitChar (number / 16)) (Nat.digitChar (number % 16)) =
      some number := by
  have zero : hexDigit? '0' = some 0 := rfl
  have high : hexDigit? (Nat.digitChar (number / 16)) = some (number / 16) :=
    hexDigit?_digitChar (by omega)
  have low : hexDigit? (Nat.digitChar (number % 16)) = some (number % 16) :=
    hexDigit?_digitChar (by omega)
  have whole : ((0 * 16 + 0) * 16 + number / 16) * 16 + number % 16 = number := by omega
  simp only [hexCode?, zero, high, low, Option.bind_eq_bind, Option.bind_some, Option.pure_def]
  rw [whole]

/-- An escaped character spells its unit. -/
theorem spelled_escape (character : Char) : (unitOf character).Spelled (escape character) := by
  unfold escape
  split
  case h_8 quote backslash backspace feed newline carriage tab =>
    have unshortened : character ∉ ['\x08', '\t', '\n', '\x0c', '\r'] := by
      simp only [List.mem_cons, List.not_mem_nil, or_false, not_or]
      exact ⟨backspace, tab, newline, feed, carriage⟩
    split
    · rename_i control
      rw [unitOf, if_pos ⟨control, unshortened⟩]
      exact .code (hexCode?_of_lt control)
    · rename_i printable
      rw [unitOf, if_neg fun escaped => printable escaped.1]
      exact .plain printable quote backslash
  all_goals exact .short rfl

/-- A written text spells its units between the quotes. -/
theorem unitsSpelled_unitsOf (text : String) :
    UnitsSpelled (unitsOf text) (text.toList.flatMap escape) := by
  unfold unitsOf
  induction text.toList with
  | nil => exact .nil
  | cons character characters inductionHypothesis =>
    exact .cons (spelled_escape character) inductionHypothesis

/-- Codes outside the surrogates stand for their character, whatever follows them. -/
theorem decodeUnits?_code {code : Nat} (scalar : code < 0xD800 ∨ 0xE000 ≤ code)
    (rest : List StringUnit) :
    decodeUnits? (.code code :: rest) = (decodeUnits? rest).map (Char.ofNat code :: ·) := by
  have notHigh : ¬ (0xD800 ≤ code ∧ code < 0xDC00) := by omega
  have notLow : ¬ (0xDC00 ≤ code ∧ code < 0xE000) := by omega
  have notSurrogate : ¬ (0xD800 ≤ code ∧ code < 0xE000) := by omega
  cases rest with
  | nil => simp [decodeUnits?, notSurrogate]
  | cons unit rest =>
    cases unit with
    | character value => simp [decodeUnits?, notSurrogate]
    | code value => simp [decodeUnits?, notHigh, notLow]

/-- A unit stands for the character that was written. -/
theorem decodeUnits?_unitOf (character : Char) (rest : List StringUnit) :
    decodeUnits? (unitOf character :: rest) = (decodeUnits? rest).map (character :: ·) := by
  unfold unitOf
  split
  · rename_i escaped
    rw [decodeUnits?_code (by omega), Char.ofNat_toNat]
  · simp [decodeUnits?]

/-- Decoding what is read gives the text that was written. -/
@[simp] theorem decodeText?_unitsOf (text : String) : decodeText? (unitsOf text) = some text := by
  have decoded : ∀ characters : List Char,
      decodeUnits? (characters.map unitOf) = some characters := by
    intro characters
    induction characters with
    | nil => rfl
    | cons character characters inductionHypothesis =>
      rw [List.map_cons, decodeUnits?_unitOf, inductionHypothesis]
      rfl
  rw [decodeText?, unitsOf, decoded]
  simp

/-! ## Values -/

mutual

/-- A tree is what a value is read as once it has been written. -/
inductive Written : Value → Tree → Prop where
  | null : Written .null .null
  | boolean (value : Bool) : Written (.boolean value) (.boolean value)
  | number {value : Number} {numeral : Numeral} (spelled : numeral.Spelled value.text) :
      Written (.number value) (.number numeral)
  | string (text : String) : Written (.string text) (.string (unitsOf text))
  | array {items : List Value} {trees : List Tree} (written : WrittenItems items trees) :
      Written (.array items) (.array trees)
  | object {members : List (String × Value)} {trees : List (List StringUnit × Tree)}
      (written : WrittenMembers members trees) : Written (.object members) (.object trees)

/-- Trees are what some items are read as. -/
inductive WrittenItems : List Value → List Tree → Prop where
  | nil : WrittenItems [] []
  | cons {item : Value} {tree : Tree} {items : List Value} {trees : List Tree}
      (first : Written item tree) (later : WrittenItems items trees) :
      WrittenItems (item :: items) (tree :: trees)

/-- Keys and trees are what some members are read as. -/
inductive WrittenMembers : List (String × Value) → List (List StringUnit × Tree) → Prop where
  | nil : WrittenMembers [] []
  | cons (key : String) {value : Value} {tree : Tree} {members : List (String × Value)}
      {trees : List (List StringUnit × Tree)} (first : Written value tree)
      (later : WrittenMembers members trees) :
      WrittenMembers ((key, value) :: members) ((unitsOf key, tree) :: trees)

end

/-- An integer is read as its numeral. -/
theorem Written.integer (value : Int) :
    Written (.number (.integer value)) (.number (numeralOf value)) :=
  .number (spelled_numeralOf value)

mutual

/-- Every value is written as some tree. -/
theorem exists_written (value : Value) : ∃ tree, Written value tree := by
  cases value with
  | null => exact ⟨_, .null⟩
  | boolean value => exact ⟨_, .boolean value⟩
  | number value =>
    obtain ⟨numeral, spelled⟩ := value.exists_spelled
    exact ⟨_, .number spelled⟩
  | string text => exact ⟨_, .string text⟩
  | array items =>
    obtain ⟨trees, written⟩ := exists_writtenItems items
    exact ⟨_, .array written⟩
  | object members =>
    obtain ⟨trees, written⟩ := exists_writtenMembers members
    exact ⟨_, .object written⟩

/-- All items are written as some trees. -/
theorem exists_writtenItems (items : List Value) : ∃ trees, WrittenItems items trees := by
  cases items with
  | nil => exact ⟨_, .nil⟩
  | cons item items =>
    obtain ⟨tree, first⟩ := exists_written item
    obtain ⟨trees, later⟩ := exists_writtenItems items
    exact ⟨_, .cons first later⟩

/-- All members are written as some keys and trees. -/
theorem exists_writtenMembers (members : List (String × Value)) :
    ∃ trees, WrittenMembers members trees := by
  cases members with
  | nil => exact ⟨_, .nil⟩
  | cons member members =>
    obtain ⟨key, value⟩ := member
    obtain ⟨tree, first⟩ := exists_written value
    obtain ⟨trees, later⟩ := exists_writtenMembers members
    exact ⟨_, .cons key first later⟩

end

/-- Items are written with a comma behind each but the last. -/
theorem itemCharacters_cons {items : List Value} (nonempty : items ≠ []) (item : Value) :
    Value.itemCharacters (item :: items) =
      item.characters ++ ',' :: Value.itemCharacters items := by
  obtain ⟨next, later, rfl⟩ := List.exists_cons_of_ne_nil nonempty
  rw [Value.itemCharacters]
  nofun

/-- Members are written with a comma behind each but the last. -/
theorem memberCharacters_cons {members : List (String × Value)} (nonempty : members ≠ [])
    (key : String) (value : Value) :
    Value.memberCharacters ((key, value) :: members) =
      (stringText key ++ ':' :: value.characters) ++ ',' :: Value.memberCharacters members := by
  obtain ⟨next, later, rfl⟩ := List.exists_cons_of_ne_nil nonempty
  rw [Value.memberCharacters]
  nofun

/-- An array is written as the texts of its items with commas between them. -/
theorem text_array (items : List Value) :
    (Value.array items).text = "[" ++ ",".intercalate (items.map Value.text) ++ "]" := by
  have inner : ∀ items : List Value,
      Value.itemCharacters items = [','].intercalate (items.map Value.characters) := by
    intro items
    induction items with
    | nil => rfl
    | cons item items inductionHypothesis =>
      by_cases last : items = []
      · subst last
        simp [Value.itemCharacters]
      · rw [itemCharacters_cons last, inductionHypothesis, List.map_cons,
          List.intercalate_cons_of_ne_nil (by simpa using last)]
        simp
  apply String.ext
  simp [Value.text, Value.characters, inner, Function.comp_def]

section

variable {blank : Char → Bool}

/-- No blank is needed where none stands. -/
theorem Blanks.nil : Blanks blank [] := nofun

/-- A spelled tree is padded by no blanks. -/
theorem Tree.Spelled.padded {tree : Tree} {text : List Char} (spelled : tree.Spelled blank text) :
    tree.Padded blank text := by
  have padded : tree.Padded blank ([] ++ (text ++ [])) := .intro .nil spelled .nil
  rwa [List.append_nil] at padded

/-- A written key and a padded value are a member. -/
theorem memberSpelled_stringText (key : String) {tree : Tree} {text : List Char}
    (padded : tree.Padded blank text) :
    MemberSpelled blank (unitsOf key, tree) (stringText key ++ ':' :: text) := by
  have member : MemberSpelled blank (unitsOf key, tree)
      ([] ++ '"' :: (key.toList.flatMap escape ++ '"' :: ([] ++ ':' :: text))) :=
    .intro .nil (unitsSpelled_unitsOf key) .nil padded
  simpa [stringText] using member

mutual

/-- The characters of a value spell its tree. -/
theorem Written.spelled {value : Value} {tree : Tree} (written : Written value tree) :
    tree.Spelled blank value.characters := by
  cases written with
  | null => exact .null
  | boolean value =>
    cases value with
    | false => exact .boolean false
    | true => exact .boolean true
  | number spelled => exact .number spelled
  | string text => exact .string (unitsSpelled_unitsOf text)
  | @array items trees written =>
    by_cases empty : items = []
    · subst empty
      cases written
      exact .emptyArray .nil
    · exact .array (written.spelled empty)
  | @object members trees written =>
    by_cases empty : members = []
    · subst empty
      cases written
      exact .emptyObject .nil
    · exact .object (written.spelled empty)

/-- The characters of some items spell their trees. -/
theorem WrittenItems.spelled {items : List Value} {trees : List Tree}
    (written : WrittenItems items trees) (nonempty : items ≠ []) :
    ItemsSpelled blank trees (Value.itemCharacters items) := by
  cases written with
  | nil => exact absurd rfl nonempty
  | @cons item tree items trees first later =>
    by_cases last : items = []
    · subst last
      cases later
      exact .last first.spelled.padded
    · rw [itemCharacters_cons last]
      exact .cons first.spelled.padded (later.spelled last)

/-- The characters of some members spell their keys and trees. -/
theorem WrittenMembers.spelled {members : List (String × Value)}
    {trees : List (List StringUnit × Tree)} (written : WrittenMembers members trees)
    (nonempty : members ≠ []) : MembersSpelled blank trees (Value.memberCharacters members) := by
  cases written with
  | nil => exact absurd rfl nonempty
  | @cons key value tree members trees first later =>
    have member := memberSpelled_stringText key (first.spelled.padded : tree.Padded blank _)
    by_cases last : members = []
    · subst last
      cases later
      exact .last member
    · rw [memberCharacters_cons last]
      exact .cons member (later.spelled last)

end

end

/-- The text of a value is read as the value's tree. -/
theorem ofText?_of_written {value : Value} {tree : Tree} (written : Written value tree) :
    Tree.ofText? value.text = some tree := by
  rw [Tree.ofText?_eq_some_iff, Value.text, String.toList_ofList]
  exact written.spelled.padded

end EdgeGateway.Json
