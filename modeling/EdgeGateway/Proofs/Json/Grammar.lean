import EdgeGateway.Json.Reader

/-!
# The grammar of JSON

Which texts spell a tree, as relations between trees and texts and without a reader. The blanks
that may stand between tokens are a parameter: a text without any is spelled where no character is
one. What `readTree?` and its companions read is spelled by the text in front of what they leave.
-/

namespace EdgeGateway.Json

/-! ## Spelling -/

/-- Text between tokens: blanks, none or more. -/
def Blanks (blank : Char → Bool) (text : List Char) : Prop :=
  ∀ character ∈ text, blank character = true

/-- One or more digits. -/
def IsDigits (text : List Char) : Prop :=
  text ≠ [] ∧ ∀ digit ∈ text, digit.isDigit = true

/-- Characters that are digits one by one are digits. -/
theorem isDigits_of_all {text : List Char} (filled : text ≠ [])
    (all : text.all Char.isDigit = true) : IsDigits text :=
  ⟨filled, List.all_eq_true.1 all⟩

/-- A lone zero is digits. -/
theorem isDigits_zero : IsDigits ['0'] := isDigits_of_all (List.cons_ne_nil _ _) rfl

/-- How a unit of a string is spelled. -/
inductive StringUnit.Spelled : StringUnit → List Char → Prop where
  /-- A character that stands for itself. -/
  | plain {character : Char} (printable : ¬ character.toNat < 0x20) (quote : character ≠ '"')
      (backslash : character ≠ '\\') : Spelled (.character character) [character]
  /-- A character behind a backslash. -/
  | short {mark character : Char} (short : unescape? mark = some character) :
      Spelled (.character character) ['\\', mark]
  /-- Four hexadecimal digits. -/
  | code {first second third fourth : Char} {code : Nat}
      (worth : hexCode? first second third fourth = some code) :
      Spelled (.code code) ['\\', 'u', first, second, third, fourth]

/-- How the units of a string are spelled between its quotes. -/
inductive UnitsSpelled : List StringUnit → List Char → Prop where
  | nil : UnitsSpelled [] []
  | cons {unit : StringUnit} {units : List StringUnit} {text later : List Char}
      (first : unit.Spelled text) (rest : UnitsSpelled units later) :
      UnitsSpelled (unit :: units) (text ++ later)

/-- How the digits behind a point are spelled, with the point. -/
inductive FractionSpelled : List Char → List Char → Prop where
  | absent : FractionSpelled [] []
  | present {digits : List Char} (isDigits : IsDigits digits) :
      FractionSpelled digits ('.' :: digits)

/-- How the sign of an exponent is spelled. -/
inductive SignSpelled : (negative : Bool) → List Char → Prop where
  | minus : SignSpelled true ['-']
  | plus : SignSpelled false ['+']
  | absent : SignSpelled false []

/-- How an exponent is spelled, with its mark. -/
inductive ExponentSpelled : Option (Bool × List Char) → List Char → Prop where
  | absent : ExponentSpelled none []
  | present {mark : Char} {negative : Bool} {sign digits : List Char}
      (marked : mark = 'e' ∨ mark = 'E') (signed : SignSpelled negative sign)
      (isDigits : IsDigits digits) :
      ExponentSpelled (some (negative, digits)) (mark :: (sign ++ digits))

/-- How a numeral is spelled: a sign, digits of which a leading zero is the only one, a fraction and
an exponent. -/
inductive Numeral.Spelled : Numeral → List Char → Prop where
  | intro {negative : Bool} {whole fraction point power : List Char}
      {exponent : Option (Bool × List Char)} (isDigits : IsDigits whole)
      (leading : whole.head? = some '0' → whole = ['0'])
      (fractionSpelled : FractionSpelled fraction point)
      (exponentSpelled : ExponentSpelled exponent power) :
      Spelled ⟨negative, whole, fraction, exponent⟩
        ((if negative then ['-'] else []) ++ (whole ++ (point ++ power)))

section

variable (blank : Char → Bool)

mutual

/-- How a tree is spelled, with blanks wherever the grammar lets them stand inside. -/
inductive Tree.Spelled : Tree → List Char → Prop where
  | null : Tree.Spelled .null ['n', 'u', 'l', 'l']
  | boolean (value : Bool) :
      Tree.Spelled (.boolean value)
        (if value then ['t', 'r', 'u', 'e'] else ['f', 'a', 'l', 's', 'e'])
  | number {numeral : Numeral} {text : List Char} (spelled : numeral.Spelled text) :
      Tree.Spelled (.number numeral) text
  | string {units : List StringUnit} {text : List Char} (spelled : UnitsSpelled units text) :
      Tree.Spelled (.string units) ('"' :: (text ++ ['"']))
  | emptyArray {inner : List Char} (blanks : Blanks blank inner) :
      Tree.Spelled (.array []) ('[' :: (inner ++ [']']))
  | array {items : List Tree} {text : List Char} (spelled : ItemsSpelled items text) :
      Tree.Spelled (.array items) ('[' :: (text ++ [']']))
  | emptyObject {inner : List Char} (blanks : Blanks blank inner) :
      Tree.Spelled (.object []) ('{' :: (inner ++ ['}']))
  | object {members : List (List StringUnit × Tree)} {text : List Char}
      (spelled : MembersSpelled members text) :
      Tree.Spelled (.object members) ('{' :: (text ++ ['}']))

/-- How a tree is spelled with blanks around it. -/
inductive Tree.Padded : Tree → List Char → Prop where
  | intro {tree : Tree} {before text after : List Char} (front : Blanks blank before)
      (spelled : Tree.Spelled tree text) (back : Blanks blank after) :
      Tree.Padded tree (before ++ (text ++ after))

/-- How one or more items of an array are spelled. -/
inductive ItemsSpelled : List Tree → List Char → Prop where
  | last {item : Tree} {text : List Char} (padded : Tree.Padded item text) :
      ItemsSpelled [item] text
  | cons {item : Tree} {items : List Tree} {text later : List Char}
      (padded : Tree.Padded item text) (rest : ItemsSpelled items later) :
      ItemsSpelled (item :: items) (text ++ ',' :: later)

/-- How one member of an object is spelled. -/
inductive MemberSpelled : List StringUnit × Tree → List Char → Prop where
  | intro {key : List StringUnit} {value : Tree} {before name between text : List Char}
      (front : Blanks blank before) (keySpelled : UnitsSpelled key name)
      (inner : Blanks blank between) (padded : Tree.Padded value text) :
      MemberSpelled (key, value) (before ++ '"' :: (name ++ '"' :: (between ++ ':' :: text)))

/-- How one or more members of an object are spelled. -/
inductive MembersSpelled : List (List StringUnit × Tree) → List Char → Prop where
  | last {member : List StringUnit × Tree} {text : List Char}
      (spelled : MemberSpelled member text) : MembersSpelled [member] text
  | cons {member : List StringUnit × Tree} {members : List (List StringUnit × Tree)}
      {text later : List Char} (spelled : MemberSpelled member text)
      (rest : MembersSpelled members later) :
      MembersSpelled (member :: members) (text ++ ',' :: later)

end

end

/-! ## What is read is spelled -/

/-- The units that are read are spelled up to the closing quote. -/
theorem unitsSpelled_of_readUnits? {text rest : List Char} {units : List StringUnit}
    (read : readUnits? text = some (units, rest)) :
    ∃ body, text = body ++ '"' :: rest ∧ UnitsSpelled units body := by
  fun_induction readUnits? text generalizing units rest with
  | case1 => cases read
  | case2 later =>
    obtain ⟨rfl, rfl⟩ := Prod.mk.inj (Option.some.inj read)
    exact ⟨[], rfl, .nil⟩
  | case3 first second third fourth text inductionHypothesis =>
    simp only [Option.bind_eq_bind, Option.bind_eq_some_iff, Option.pure_def, Option.some.injEq,
      Prod.mk.injEq] at read
    obtain ⟨code, worth, ⟨later, behind⟩, readLater, rfl, rfl⟩ := read
    obtain ⟨body, rfl, spelled⟩ := inductionHypothesis readLater
    exact ⟨_, rfl, .cons (.code worth) spelled⟩
  | case4 mark text uncoded inductionHypothesis =>
    simp only [Option.bind_eq_bind, Option.bind_eq_some_iff, Option.pure_def, Option.some.injEq,
      Prod.mk.injEq] at read
    obtain ⟨character, short, ⟨later, behind⟩, readLater, rfl, rfl⟩ := read
    obtain ⟨body, rfl, spelled⟩ := inductionHypothesis readLater
    exact ⟨_, rfl, .cons (.short short) spelled⟩
  | case5 => cases read
  | case6 character text quote _ _ printable inductionHypothesis =>
    simp only [Option.bind_eq_bind, Option.bind_eq_some_iff, Option.pure_def, Option.some.injEq,
      Prod.mk.injEq] at read
    obtain ⟨⟨later, behind⟩, readLater, rfl, rfl⟩ := read
    obtain ⟨body, rfl, spelled⟩ := inductionHypothesis readLater
    obtain ⟨visible, backslash⟩ := not_or.1 printable
    exact ⟨_, rfl, .cons (.plain visible quote backslash) spelled⟩

/-- The digits that are taken stand in front of what is left. -/
theorem isDigits_of_takeDigits {text digits rest : List Char} (filled : digits ≠ [])
    (taken : takeDigits text = (digits, rest)) : text = digits ++ rest ∧ IsDigits digits := by
  obtain ⟨rfl, rfl⟩ := Prod.mk.inj taken
  exact ⟨List.takeWhile_append_dropWhile.symm, isDigits_of_all filled List.all_takeWhile⟩

/-- The digits before the point are read as they are spelled. -/
theorem isDigits_of_readWhole? {text whole rest : List Char}
    (read : readWhole? text = some (whole, rest)) :
    text = whole ++ rest ∧ IsDigits whole ∧ (whole.head? = some '0' → whole = ['0']) := by
  unfold readWhole? at read
  split at read
  · obtain ⟨rfl, rfl⟩ := Prod.mk.inj (Option.some.inj read)
    exact ⟨rfl, isDigits_zero, fun _ => rfl⟩
  · rename_i unzeroed
    split at read
    · cases read
    · rename_i filled
      rw [Option.some.injEq] at read
      have nonempty : whole ≠ [] := by
        rintro rfl
        exact filled rest read
      obtain ⟨rfl, digits⟩ := isDigits_of_takeDigits nonempty read
      refine ⟨rfl, digits, fun zero => ?_⟩
      obtain ⟨first, later, rfl⟩ := List.exists_cons_of_ne_nil nonempty
      obtain rfl : first = '0' := by simpa using zero
      exact (unzeroed _ rfl).elim

/-- The digits behind the point are read as they are spelled. -/
theorem fractionSpelled_of_readFraction? {text fraction rest : List Char}
    (read : readFraction? text = some (fraction, rest)) :
    ∃ point, text = point ++ rest ∧ FractionSpelled fraction point := by
  unfold readFraction? at read
  split at read
  · split at read
    · cases read
    · rename_i filled
      rw [Option.some.injEq] at read
      have nonempty : fraction ≠ [] := by
        rintro rfl
        exact filled rest read
      obtain ⟨rfl, digits⟩ := isDigits_of_takeDigits nonempty read
      exact ⟨_, rfl, .present digits⟩
  · obtain ⟨rfl, rfl⟩ := Prod.mk.inj (Option.some.inj read)
    exact ⟨[], rfl, .absent⟩

/-- The sign and the digits of an exponent are read as they are spelled. -/
theorem exponentSpelled_of_readExponentDigits? {text digits rest : List Char} {negative : Bool}
    (read : readExponentDigits? text = some ((negative, digits), rest)) :
    ∃ sign, text = sign ++ (digits ++ rest) ∧ SignSpelled negative sign ∧ IsDigits digits := by
  unfold readExponentDigits? at read
  split at read
  rename_i found unsigned signed
  have digitsOf : negative = found ∧ unsigned = digits ++ rest ∧ IsDigits digits := by
    split at read
    · cases read
    · rename_i filled taken
      simp only [Option.some.injEq, Prod.mk.injEq] at read
      obtain ⟨⟨rfl, rfl⟩, rfl⟩ := read
      obtain ⟨whole, isDigits⟩ := isDigits_of_takeDigits filled taken
      exact ⟨rfl, whole, isDigits⟩
  obtain ⟨rfl, rfl, isDigits⟩ := digitsOf
  split at signed
  · cases signed
    exact ⟨_, rfl, .plus, isDigits⟩
  · cases signed
    exact ⟨_, rfl, .minus, isDigits⟩
  · cases signed
    exact ⟨[], rfl, .absent, isDigits⟩

/-- An exponent is read as it is spelled. -/
theorem exponentSpelled_of_readExponent? {text rest : List Char}
    {exponent : Option (Bool × List Char)} (read : readExponent? text = some (exponent, rest)) :
    ∃ power, text = power ++ rest ∧ ExponentSpelled exponent power := by
  have marked : ∀ {mark : Char} {later : List Char}, mark = 'e' ∨ mark = 'E' →
      (readExponentDigits? later).map (fun found => (some found.1, found.2)) =
        some (exponent, rest) →
      ∃ power, mark :: later = power ++ rest ∧ ExponentSpelled exponent power := by
    intro mark later known read
    obtain ⟨⟨⟨negative, digits⟩, behind⟩, readDigits, same⟩ := Option.map_eq_some_iff.1 read
    obtain ⟨rfl, rfl⟩ := Prod.mk.inj same
    obtain ⟨sign, rfl, signed, isDigits⟩ := exponentSpelled_of_readExponentDigits? readDigits
    exact ⟨mark :: (sign ++ digits), by simp, .present known signed isDigits⟩
  unfold readExponent? at read
  split at read
  · exact marked (.inl rfl) read
  · exact marked (.inr rfl) read
  · obtain ⟨rfl, rfl⟩ := Prod.mk.inj (Option.some.inj read)
    exact ⟨[], rfl, .absent⟩

/-- A numeral is read as it is spelled. -/
theorem spelled_of_readNumeral? {text rest : List Char} {numeral : Numeral}
    (read : readNumeral? text = some (numeral, rest)) :
    ∃ body, text = body ++ rest ∧ numeral.Spelled body := by
  unfold readNumeral? at read
  split at read
  rename_i negative unsigned signed
  simp only [Option.bind_eq_bind, Option.bind_eq_some_iff, Option.pure_def, Option.some.injEq,
    Prod.mk.injEq] at read
  obtain ⟨⟨whole, behindWhole⟩, readWhole, ⟨fraction, behindFraction⟩, readFraction,
    ⟨exponent, behindExponent⟩, readExponent, rfl, rfl⟩ := read
  obtain ⟨rfl, isDigits, leading⟩ := isDigits_of_readWhole? readWhole
  obtain ⟨point, rfl, fractionSpelled⟩ := fractionSpelled_of_readFraction? readFraction
  obtain ⟨power, rfl, exponentSpelled⟩ := exponentSpelled_of_readExponent? readExponent
  refine ⟨_, ?_, .intro isDigits leading fractionSpelled exponentSpelled⟩
  split at signed
  · cases signed
    simp
  · cases signed
    simp

/-- Blanks behind blanks are blanks. -/
theorem Blanks.append {blank : Char → Bool} {first second : List Char} (front : Blanks blank first)
    (back : Blanks blank second) : Blanks blank (first ++ second) := by
  intro character member
  rcases List.mem_append.1 member with early | late
  · exact front character early
  · exact back character late

/-- What is skipped in front of a text is blank. -/
theorem exists_blanks (text : List Char) :
    ∃ before, text = before ++ skipBlanks text ∧ Blanks isBlank before :=
  ⟨text.takeWhile isBlank, List.takeWhile_append_dropWhile.symm,
    List.all_eq_true.1 List.all_takeWhile⟩

section Pad

variable {blank : Char → Bool} {before text : List Char}

/-- More blanks may stand in front of a tree. -/
theorem Tree.Padded.pad {tree : Tree} (padded : tree.Padded blank text)
    (front : Blanks blank before) : tree.Padded blank (before ++ text) := by
  cases padded with
  | intro inner spelled back =>
    rw [← List.append_assoc]
    exact .intro (front.append inner) spelled back

/-- More blanks may stand in front of items. -/
theorem ItemsSpelled.pad {items : List Tree} (spelled : ItemsSpelled blank items text)
    (front : Blanks blank before) : ItemsSpelled blank items (before ++ text) := by
  cases spelled with
  | last padded => exact .last (padded.pad front)
  | cons padded rest =>
    rw [← List.append_assoc]
    exact .cons (padded.pad front) rest

/-- More blanks may stand in front of a member. -/
theorem MemberSpelled.pad {member : List StringUnit × Tree}
    (spelled : MemberSpelled blank member text) (front : Blanks blank before) :
    MemberSpelled blank member (before ++ text) := by
  cases spelled with
  | intro inner keySpelled between padded =>
    rw [← List.append_assoc]
    exact .intro (front.append inner) keySpelled between padded

/-- More blanks may stand in front of members. -/
theorem MembersSpelled.pad {members : List (List StringUnit × Tree)}
    (spelled : MembersSpelled blank members text) (front : Blanks blank before) :
    MembersSpelled blank members (before ++ text) := by
  cases spelled with
  | last spelled => exact .last (spelled.pad front)
  | cons spelled rest =>
    rw [← List.append_assoc]
    exact .cons (spelled.pad front) rest

end Pad

/-- A tree that is spelled behind blanks is padded, together with the blanks that follow it. -/
theorem exists_padded {tree : Tree} {text body rest : List Char}
    (found : skipBlanks text = body ++ rest) (spelled : tree.Spelled isBlank body) :
    ∃ padded, text = padded ++ skipBlanks rest ∧ tree.Padded isBlank padded := by
  obtain ⟨before, front, blanksBefore⟩ := exists_blanks text
  obtain ⟨after, back, blanksAfter⟩ := exists_blanks rest
  refine ⟨before ++ (body ++ after), ?_, .intro blanksBefore spelled blanksAfter⟩
  rw [List.append_assoc, List.append_assoc, ← back, ← found]
  exact front

mutual

/-- A tree is read as it is spelled, and what is left follows the blanks behind it. -/
theorem padded_of_readTree? {fuel : Nat} {text rest : List Char} {tree : Tree}
    (read : readTree? fuel text = some (tree, rest)) :
    ∃ body, text = body ++ skipBlanks rest ∧ tree.Padded isBlank body := by
  cases fuel with
  | zero => cases read
  | succ fuel =>
    -- blanks are dealt with once, so that each case has only to spell the tree itself
    suffices spelled : ∃ body, skipBlanks text = body ++ rest ∧ tree.Spelled isBlank body by
      obtain ⟨body, found, spelled⟩ := spelled
      exact exists_padded found spelled
    unfold readTree? at read
    split at read
    case h_1 inner opened =>
      obtain ⟨rfl, rfl⟩ := Prod.mk.inj (Option.some.inj read)
      exact ⟨_, opened, .null⟩
    case h_2 inner opened =>
      obtain ⟨rfl, rfl⟩ := Prod.mk.inj (Option.some.inj read)
      exact ⟨_, opened, .boolean true⟩
    case h_3 inner opened =>
      obtain ⟨rfl, rfl⟩ := Prod.mk.inj (Option.some.inj read)
      exact ⟨_, opened, .boolean false⟩
    case h_4 inner opened =>
      simp only [Option.bind_eq_bind, Option.bind_eq_some_iff, Option.pure_def, Option.some.injEq,
        Prod.mk.injEq] at read
      obtain ⟨⟨units, behind⟩, readUnits, rfl, rfl⟩ := read
      obtain ⟨body, rfl, spelled⟩ := unitsSpelled_of_readUnits? readUnits
      exact ⟨'"' :: (body ++ ['"']), by simp [opened], .string spelled⟩
    case h_5 inner opened =>
      obtain ⟨before, front, blanks⟩ := exists_blanks inner
      split at read
      · rename_i closed
        obtain ⟨rfl, rfl⟩ := Prod.mk.inj (Option.some.inj read)
        refine ⟨'[' :: (before ++ [']']), ?_, .emptyArray blanks⟩
        rw [opened, front, closed]
        simp
      · simp only [Option.bind_eq_bind, Option.bind_eq_some_iff, Option.pure_def,
          Option.some.injEq, Prod.mk.injEq] at read
        obtain ⟨⟨items, behind⟩, readItems, rfl, rfl⟩ := read
        obtain ⟨body, found, spelled⟩ := itemsSpelled_of_readItems? readItems
        refine ⟨'[' :: ((before ++ body) ++ [']']), ?_, .array (spelled.pad blanks)⟩
        rw [opened, front, found]
        simp
    case h_6 inner opened =>
      obtain ⟨before, front, blanks⟩ := exists_blanks inner
      split at read
      · rename_i closed
        obtain ⟨rfl, rfl⟩ := Prod.mk.inj (Option.some.inj read)
        refine ⟨'{' :: (before ++ ['}']), ?_, .emptyObject blanks⟩
        rw [opened, front, closed]
        simp
      · simp only [Option.bind_eq_bind, Option.bind_eq_some_iff, Option.pure_def,
          Option.some.injEq, Prod.mk.injEq] at read
        obtain ⟨⟨members, behind⟩, readMembers, rfl, rfl⟩ := read
        obtain ⟨body, found, spelled⟩ := membersSpelled_of_readMembers? readMembers
        refine ⟨'{' :: ((before ++ body) ++ ['}']), ?_, .object (spelled.pad blanks)⟩
        rw [opened, front, found]
        simp
    case h_7 =>
      simp only [Option.bind_eq_bind, Option.bind_eq_some_iff, Option.pure_def, Option.some.injEq,
        Prod.mk.injEq] at read
      obtain ⟨⟨numeral, behind⟩, readNumeral, rfl, rfl⟩ := read
      obtain ⟨body, found, spelled⟩ := spelled_of_readNumeral? readNumeral
      exact ⟨body, found, .number spelled⟩

/-- Items are read as they are spelled, up to the closing bracket. -/
theorem itemsSpelled_of_readItems? {fuel : Nat} {text rest : List Char} {items : List Tree}
    (read : readItems? fuel text = some (items, rest)) :
    ∃ body, text = body ++ ']' :: rest ∧ ItemsSpelled isBlank items body := by
  cases fuel with
  | zero => cases read
  | succ fuel =>
    simp only [readItems?, Option.bind_eq_bind, Option.bind_eq_some_iff] at read
    obtain ⟨⟨item, behind⟩, readItem, read⟩ := read
    obtain ⟨body, rfl, padded⟩ := padded_of_readTree? readItem
    split at read
    · rename_i later more
      simp only [Option.bind_eq_some_iff, Option.pure_def, Option.some.injEq,
        Prod.mk.injEq] at read
      obtain ⟨⟨others, behind⟩, readItems, rfl, rfl⟩ := read
      obtain ⟨others, rfl, spelled⟩ := itemsSpelled_of_readItems? readItems
      exact ⟨body ++ ',' :: others, by simp [more], .cons padded spelled⟩
    · rename_i closed
      obtain ⟨rfl, rfl⟩ := Prod.mk.inj (Option.some.inj read)
      exact ⟨body, by rw [closed], .last padded⟩
    · cases read

/-- Members are read as they are spelled, up to the closing brace. -/
theorem membersSpelled_of_readMembers? {fuel : Nat} {text rest : List Char}
    {members : List (List StringUnit × Tree)}
    (read : readMembers? fuel text = some (members, rest)) :
    ∃ body, text = body ++ '}' :: rest ∧ MembersSpelled isBlank members body := by
  cases fuel with
  | zero => cases read
  | succ fuel =>
    unfold readMembers? at read
    obtain ⟨before, front, blanksBefore⟩ := exists_blanks text
    split at read
    · rename_i quoted opened
      simp only [Option.bind_eq_bind, Option.bind_eq_some_iff] at read
      obtain ⟨⟨key, behindKey⟩, readKey, read⟩ := read
      obtain ⟨name, rfl, keySpelled⟩ := unitsSpelled_of_readUnits? readKey
      obtain ⟨between, inner, blanksBetween⟩ := exists_blanks behindKey
      split at read
      · rename_i valued colon
        simp only [Option.bind_eq_some_iff] at read
        obtain ⟨⟨value, behindValue⟩, readValue, read⟩ := read
        obtain ⟨body, rfl, padded⟩ := padded_of_readTree? readValue
        have spelled := MemberSpelled.intro blanksBefore keySpelled blanksBetween padded
        rw [opened, inner, colon] at front
        split at read
        · rename_i later more
          simp only [Option.bind_eq_some_iff, Option.pure_def, Option.some.injEq,
            Prod.mk.injEq] at read
          obtain ⟨⟨others, behind⟩, readMembers, rfl, rfl⟩ := read
          obtain ⟨othersText, rfl, rest⟩ := membersSpelled_of_readMembers? readMembers
          exact ⟨_, by simp [front, more], .cons spelled rest⟩
        · rename_i closed
          obtain ⟨rfl, rfl⟩ := Prod.mk.inj (Option.some.inj read)
          exact ⟨_, by simp [front, closed], .last spelled⟩
        · cases read
      · cases read
    · cases read

end

end EdgeGateway.Json
