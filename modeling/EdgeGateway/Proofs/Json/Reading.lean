import EdgeGateway.Proofs.Json.Grammar

/-!
# Reading what is spelled

The reader reads every text that the grammar lets spell a tree, and reads it as that tree:
`Tree.ofText?_eq_some_iff`. So no text spells two trees.

What follows a value decides where a numeral ends, so every statement about a part of a text speaks
of the rest. The fuel of a reader is bounded by the length of what it reads.
-/

namespace EdgeGateway.Json

/-! ## What is spelled is read -/

/-- One more unit in front of what a reader finds. -/
def consUnit (unit : StringUnit) : List StringUnit × List Char → List StringUnit × List Char
  | (units, rest) => (unit :: units, rest)

/-- A unit is read as it is spelled. -/
theorem readUnits?_append {unit : StringUnit} {text : List Char} (spelled : unit.Spelled text)
    (rest : List Char) :
    readUnits? (text ++ rest) = (readUnits? rest).map (consUnit unit) := by
  cases spelled with
  | @plain character printable quote backslash =>
    rw [List.singleton_append,
      readUnits?.eq_5 _ _ quote (fun _ _ _ _ _ slash => absurd slash backslash)
        (fun _ _ slash => absurd slash backslash),
      if_neg (not_or.2 ⟨printable, backslash⟩)]
    cases readUnits? rest <;> rfl
  | @short mark character short =>
    have unmarked : mark ≠ 'u' := by
      rintro rfl
      cases short
    rw [List.cons_append, List.singleton_append,
      readUnits?.eq_4 _ _ (fun _ _ _ _ _ code => absurd code unmarked), short]
    cases readUnits? rest <;> rfl
  | code worth =>
    simp only [List.cons_append, List.nil_append]
    rw [readUnits?.eq_3, worth]
    cases readUnits? rest <;> rfl

/-- The units of a string are read up to the closing quote. -/
theorem readUnits?_of_spelled {units : List StringUnit} {text : List Char}
    (spelled : UnitsSpelled units text) (rest : List Char) :
    readUnits? (text ++ '"' :: rest) = some (units, rest) := by
  induction spelled with
  | nil => rfl
  | cons first later inductionHypothesis =>
    rw [List.append_assoc, readUnits?_append first, inductionHypothesis]
    rfl

/-- Whether a run of digits ends before a text. -/
def EndsDigits (rest : List Char) : Prop :=
  ∀ character ∈ rest.head?, character.isDigit = false

/-- Whether a numeral ends before a text: the text does not go on with a digit, a point or the
mark of an exponent. -/
def EndsNumeral (rest : List Char) : Prop :=
  ∀ character ∈ rest.head?,
    character.isDigit = false ∧ character ≠ '.' ∧ character ≠ 'e' ∧ character ≠ 'E'

/-- A numeral ends where the text does. -/
theorem endsNumeral_nil : EndsNumeral [] := by
  intro character first
  cases first

/-- The longest run of digits in front of a text that ends it is taken. -/
theorem takeDigits_append {digits rest : List Char}
    (all : ∀ digit ∈ digits, digit.isDigit = true) (ends : EndsDigits rest) :
    takeDigits (digits ++ rest) = (digits, rest) := by
  have stops : rest.takeWhile Char.isDigit = [] ∧ rest.dropWhile Char.isDigit = rest := by
    cases rest with
    | nil => exact ⟨rfl, rfl⟩
    | cons character rest =>
      have other := ends character rfl
      simp [other]
  rw [takeDigits, List.takeWhile_append_of_pos all, List.dropWhile_append_of_pos all, stops.1,
    stops.2, List.append_nil]

/-- The digits before the point are read whole. -/
theorem readWhole?_append {whole rest : List Char} (isDigits : IsDigits whole)
    (leading : whole.head? = some '0' → whole = ['0']) (ends : EndsDigits rest) :
    readWhole? (whole ++ rest) = some (whole, rest) := by
  obtain ⟨filled, all⟩ := isDigits
  have taken := takeDigits_append all ends
  obtain ⟨first, later, rfl⟩ := List.exists_cons_of_ne_nil filled
  by_cases zero : first = '0'
  · subst zero
    rw [leading rfl]
    rfl
  · unfold readWhole?
    split
    · rename_i same
      exact absurd (List.cons.inj same).1 zero
    · rw [taken]

/-- A fraction is read whole where no digit and no point follows. -/
theorem readFraction?_append {fraction point rest : List Char}
    (spelled : FractionSpelled fraction point) (ends : EndsDigits rest)
    (pointless : rest.head? ≠ some '.') :
    readFraction? (point ++ rest) = some (fraction, rest) := by
  cases spelled with
  | absent =>
    rw [List.nil_append]
    unfold readFraction?
    split
    · exact absurd rfl pointless
    · rfl
  | present isDigits =>
    obtain ⟨first, later, rfl⟩ := List.exists_cons_of_ne_nil isDigits.1
    simp only [readFraction?, List.cons_append]
    rw [← List.cons_append, takeDigits_append isDigits.2 ends]

/-- The sign and the digits of an exponent are read whole. -/
theorem readExponentDigits?_append {negative : Bool} {sign digits rest : List Char}
    (signed : SignSpelled negative sign) (isDigits : IsDigits digits) (ends : EndsDigits rest) :
    readExponentDigits? (sign ++ (digits ++ rest)) = some ((negative, digits), rest) := by
  obtain ⟨filled, all⟩ := isDigits
  have taken := takeDigits_append all ends
  obtain ⟨first, later, rfl⟩ := List.exists_cons_of_ne_nil filled
  cases signed with
  | minus =>
    simp only [readExponentDigits?, List.cons_append, List.nil_append]
    rw [← List.cons_append, taken]
  | plus =>
    simp only [readExponentDigits?, List.cons_append, List.nil_append]
    rw [← List.cons_append, taken]
  | absent =>
    have digit : first.isDigit = true := all first List.mem_cons_self
    have unsigned : ∀ sign : Char, sign.isDigit = false → first ≠ sign := by
      rintro sign other rfl
      rw [digit] at other
      cases other
    rw [List.nil_append]
    unfold readExponentDigits?
    split
    rename_i found behind same
    split at same
    · rename_i plus
      exact absurd (List.cons.inj plus).1 (unsigned '+' (by decide))
    · rename_i minus
      exact absurd (List.cons.inj minus).1 (unsigned '-' (by decide))
    · obtain ⟨rfl, rfl⟩ := Prod.mk.inj same
      rw [taken]

/-- Where a numeral ends, digits end too. -/
theorem EndsNumeral.endsDigits {rest : List Char} (ends : EndsNumeral rest) : EndsDigits rest :=
  fun character first => (ends character first).1

/-- An exponent is read whole. -/
theorem readExponent?_append {exponent : Option (Bool × List Char)} {power rest : List Char}
    (spelled : ExponentSpelled exponent power) (ends : EndsNumeral rest) :
    readExponent? (power ++ rest) = some (exponent, rest) := by
  cases spelled with
  | absent =>
    rw [List.nil_append]
    unfold readExponent?
    split
    · exact absurd rfl (ends 'e' rfl).2.2.1
    · exact absurd rfl (ends 'E' rfl).2.2.2
    · rfl
  | present marked signed isDigits =>
    have read := readExponentDigits?_append signed isDigits ends.endsDigits
    rw [List.cons_append, List.append_assoc]
    rcases marked with rfl | rfl
    · simp only [readExponent?, read, Option.map_some]
    · simp only [readExponent?, read, Option.map_some]

/-- Digits end before an exponent, as they do where a numeral ends, and no point stands there. -/
theorem ExponentSpelled.ends {exponent : Option (Bool × List Char)} {power rest : List Char}
    (spelled : ExponentSpelled exponent power) (ends : EndsNumeral rest) :
    EndsDigits (power ++ rest) ∧ (power ++ rest).head? ≠ some '.' := by
  cases spelled with
  | absent => exact ⟨ends.endsDigits, fun point => (ends '.' point).2.1 rfl⟩
  | present marked signed isDigits =>
    rcases marked with rfl | rfl
    · exact ⟨by rintro character ⟨⟩; rfl, by simp⟩
    · exact ⟨by rintro character ⟨⟩; rfl, by simp⟩

/-- Digits end before a fraction, as they do behind it. -/
theorem FractionSpelled.ends {fraction point rest : List Char}
    (spelled : FractionSpelled fraction point) (ends : EndsDigits rest) :
    EndsDigits (point ++ rest) := by
  cases spelled with
  | absent => exact ends
  | present isDigits =>
    rintro character ⟨⟩
    rfl

/-- A numeral is read whole. -/
theorem readNumeral?_append {numeral : Numeral} {text rest : List Char}
    (spelled : numeral.Spelled text) (ends : EndsNumeral rest) :
    readNumeral? (text ++ rest) = some (numeral, rest) := by
  cases spelled with
  | @intro negative whole fraction point power exponent isDigits leading fractionSpelled
      exponentSpelled =>
    obtain ⟨endsWhole, pointless⟩ := exponentSpelled.ends ends
    have readWhole := readWhole?_append isDigits leading (fractionSpelled.ends endsWhole)
    have readFraction := readFraction?_append fractionSpelled endsWhole pointless
    have readExponent := readExponent?_append exponentSpelled ends
    cases negative with
    | true =>
      simp only [readNumeral?, if_true, List.cons_append, List.nil_append, List.append_assoc,
        readWhole, readFraction, readExponent, Option.bind_eq_bind, Option.bind_some,
        Option.pure_def]
    | false =>
      obtain ⟨filled, all⟩ := isDigits
      obtain ⟨first, later, rfl⟩ := List.exists_cons_of_ne_nil filled
      have unsigned : first ≠ '-' := by
        rintro rfl
        cases all '-' List.mem_cons_self
      rw [if_neg Bool.false_ne_true, List.nil_append, List.append_assoc, List.append_assoc]
      unfold readNumeral?
      split
      rename_i found behind same
      split at same
      · rename_i minus
        exact absurd (List.cons.inj minus).1 unsigned
      · obtain ⟨rfl, rfl⟩ := Prod.mk.inj same
        simp only [readWhole, readFraction, readExponent, Option.bind_eq_bind, Option.bind_some,
          Option.pure_def]

/-- A text spells at most one numeral. -/
theorem Numeral.Spelled.unique {numeral other : Numeral} {text : List Char}
    (spelled : numeral.Spelled text) (also : other.Spelled text) : numeral = other := by
  have same := (readNumeral?_append spelled endsNumeral_nil).symm.trans
    (readNumeral?_append also endsNumeral_nil)
  exact (Prod.mk.inj (Option.some.inj same)).1

/-! ### Trees -/

/-- Whether a value may begin with a character: it is no blank and closes nothing. -/
def Opens (character : Char) : Prop :=
  isBlank character = false ∧ character ≠ ']' ∧ character ≠ '}'

instance (character : Char) : Decidable (Opens character) :=
  inferInstanceAs (Decidable (_ ∧ _))

/-- A numeral begins with its sign or a digit. -/
def OpensNumeral (character : Char) : Prop := character = '-' ∨ character.isDigit = true

/-- A numeral begins like no other value. -/
theorem OpensNumeral.ne {character other : Char} (numeral : OpensNumeral character)
    (unsigned : other ≠ '-') (undigit : other.isDigit = false) : character ≠ other := by
  rintro rfl
  rcases numeral with sign | digit
  · exact unsigned sign
  · rw [undigit] at digit
    cases digit

/-- A numeral begins like a value. -/
theorem OpensNumeral.opens {character : Char} (numeral : OpensNumeral character) :
    Opens character := by
  refine ⟨?_, numeral.ne (by decide) (by decide), numeral.ne (by decide) (by decide)⟩
  have blank : ¬ (character = ' ' ∨ character = '\t' ∨ character = '\n' ∨ character = '\r') := by
    rintro (same | same | same | same) <;>
      exact numeral.ne (by decide) (by decide) same
  exact decide_eq_false blank

/-- Every spelled numeral begins like one. -/
theorem Numeral.Spelled.exists_first {numeral : Numeral} {text : List Char}
    (spelled : numeral.Spelled text) :
    ∃ first later, text = first :: later ∧ OpensNumeral first := by
  cases spelled with
  | @intro negative whole fraction point power exponent isDigits leading _ _ =>
    obtain ⟨filled, all⟩ := isDigits
    obtain ⟨first, later, rfl⟩ := List.exists_cons_of_ne_nil filled
    cases negative with
    | true => exact ⟨'-', _, rfl, .inl rfl⟩
    | false => exact ⟨first, _, rfl, .inr (all first List.mem_cons_self)⟩

/-- Every spelled tree begins like one. -/
theorem Tree.Spelled.exists_first {blank : Char → Bool} {tree : Tree} {text : List Char}
    (spelled : tree.Spelled blank text) : ∃ first later, text = first :: later ∧ Opens first := by
  cases spelled with
  | null => exact ⟨'n', _, rfl, by decide⟩
  | boolean value =>
    cases value with
    | false => exact ⟨'f', _, rfl, by decide⟩
    | true => exact ⟨'t', _, rfl, by decide⟩
  | number spelled =>
    obtain ⟨first, later, rfl, numeral⟩ := spelled.exists_first
    exact ⟨first, later, rfl, numeral.opens⟩
  | string => exact ⟨'"', _, rfl, by decide⟩
  | emptyArray => exact ⟨'[', _, rfl, by decide⟩
  | array => exact ⟨'[', _, rfl, by decide⟩
  | emptyObject => exact ⟨'{', _, rfl, by decide⟩
  | object => exact ⟨'{', _, rfl, by decide⟩

/-- There are no blanks to skip in front of a value. -/
theorem skipBlanks_of_opens (first : Char) (opens : Opens first) (later : List Char) :
    skipBlanks (first :: later) = first :: later :=
  List.dropWhile_cons_of_neg (Bool.eq_false_iff.1 opens.1)

/-- Blanks are skipped together with those that follow them. -/
theorem Blanks.skip {blanks : List Char} (all : Blanks isBlank blanks) (rest : List Char) :
    skipBlanks (blanks ++ rest) = skipBlanks rest :=
  List.dropWhile_append_of_pos all

/-- What follows blanks ends a numeral if it does without them. -/
theorem Blanks.endsNumeral {blanks rest : List Char} (all : Blanks isBlank blanks)
    (ends : EndsNumeral rest) : EndsNumeral (blanks ++ rest) := by
  cases blanks with
  | nil => exact ends
  | cons first later =>
    rintro character ⟨⟩
    have blank : first = ' ' ∨ first = '\t' ∨ first = '\n' ∨ first = '\r' :=
      of_decide_eq_true (all first List.mem_cons_self)
    rcases blank with rfl | rfl | rfl | rfl <;> decide

/-- A delimiter of JSON ends a numeral. -/
theorem endsNumeral_cons {delimiter : Char}
    (known : delimiter = ',' ∨ delimiter = ']' ∨ delimiter = '}') (rest : List Char) :
    EndsNumeral (delimiter :: rest) := by
  rintro character ⟨⟩
  rcases known with rfl | rfl | rfl <;> decide

/-- A delimiter is no blank. -/
theorem skipBlanks_delimiter {delimiter : Char}
    (known : delimiter = ',' ∨ delimiter = ']' ∨ delimiter = '\x7d') (rest : List Char) :
    skipBlanks (delimiter :: rest) = delimiter :: rest := by
  rcases known with rfl | rfl | rfl <;> rfl

/-- Blanks in front of a tree make no difference. -/
theorem readTree?_congr {text other : List Char} (same : skipBlanks text = skipBlanks other)
    (fuel : Nat) : readTree? fuel text = readTree? fuel other := by
  cases fuel with
  | zero => rfl
  | succ fuel => rw [readTree?.eq_2, readTree?.eq_2, same]

/-- What begins like a numeral is read as one. -/
theorem readTree?_of_opensNumeral {first : Char} (numeral : OpensNumeral first)
    (later : List Char) (fuel : Nat) :
    readTree? (fuel + 1) (first :: later) =
      (readNumeral? (first :: later)).map fun (numeral, rest) => (.number numeral, rest) := by
  rw [readTree?.eq_2, skipBlanks_of_opens _ numeral.opens]
  split
  case h_7 =>
    cases readNumeral? (first :: later) <;> rfl
  all_goals
    rename_i same
    obtain ⟨rfl, -⟩ := List.cons.inj same
    exact absurd rfl (numeral.ne (by decide) (by decide))

/-- Blanks in front of items make no difference. -/
theorem readItems?_congr {text other : List Char} (same : skipBlanks text = skipBlanks other)
    (fuel : Nat) : readItems? fuel text = readItems? fuel other := by
  cases fuel with
  | zero => rfl
  | succ fuel => rw [readItems?, readItems?, readTree?_congr same]

/-- Blanks in front of members make no difference. -/
theorem readMembers?_congr {text other : List Char} (same : skipBlanks text = skipBlanks other)
    (fuel : Nat) : readMembers? fuel text = readMembers? fuel other := by
  cases fuel with
  | zero => rfl
  | succ fuel => rw [readMembers?, readMembers?, same]

/-- Whether a value, a key or nothing that closes follows the blanks in front of a text. -/
def OpensBehind (text : List Char) : Prop :=
  ∃ first later, skipBlanks text = first :: later ∧ Opens first

/-- Skipping blanks twice is skipping them once. -/
theorem OpensBehind.skip {text : List Char} (opens : OpensBehind text) :
    skipBlanks (skipBlanks text) = skipBlanks text := by
  obtain ⟨first, later, skipped, opens⟩ := opens
  rw [skipped, skipBlanks_of_opens _ opens]

/-- An array with something in it is read as its items are. -/
theorem readTree?_bracket {text : List Char} (opens : OpensBehind text) (fuel : Nat) :
    readTree? (fuel + 1) ('[' :: text) =
      (readItems? fuel text).map fun (items, rest) => (.array items, rest) := by
  rw [← readItems?_congr opens.skip, readTree?.eq_2, skipBlanks_of_opens _ (by decide)]
  obtain ⟨first, later, skipped, opens⟩ := opens
  simp only [skipped]
  split
  · rename_i closing
    exact absurd (List.cons.inj closing).1 opens.2.1
  · cases readItems? fuel (first :: later) <;> rfl

/-- An object with something in it is read as its members are. -/
theorem readTree?_brace {text : List Char} (opens : OpensBehind text) (fuel : Nat) :
    readTree? (fuel + 1) ('\x7b' :: text) =
      (readMembers? fuel text).map fun (members, rest) => (.object members, rest) := by
  rw [← readMembers?_congr opens.skip, readTree?.eq_2, skipBlanks_of_opens _ (by decide)]
  obtain ⟨first, later, skipped, opens⟩ := opens
  simp only [skipped]
  split
  · rename_i closing
    exact absurd (List.cons.inj closing).1 opens.2.2
  · cases readMembers? fuel (first :: later) <;> rfl

/-- A padded tree opens behind its blanks. -/
theorem Tree.Padded.opensBehind {tree : Tree} {text : List Char} (padded : tree.Padded isBlank text)
    (rest : List Char) : OpensBehind (text ++ rest) := by
  cases padded with
  | @intro _ before body after front spelled back =>
    obtain ⟨first, later, rfl, opens⟩ := spelled.exists_first
    refine ⟨first, later ++ (after ++ rest), ?_, opens⟩
    rw [List.append_assoc, front.skip, List.append_assoc, List.cons_append,
      skipBlanks_of_opens _ opens]

/-- Items open behind their blanks. -/
theorem ItemsSpelled.opensBehind {items : List Tree} {text : List Char}
    (spelled : ItemsSpelled isBlank items text) (rest : List Char) :
    OpensBehind (text ++ rest) := by
  cases spelled with
  | last padded => exact padded.opensBehind rest
  | cons padded later =>
    rw [List.append_assoc]
    exact padded.opensBehind _

/-- A member opens with the quote of its key, behind its blanks. -/
theorem MemberSpelled.opensBehind {member : List StringUnit × Tree} {text : List Char}
    (spelled : MemberSpelled isBlank member text) (rest : List Char) :
    OpensBehind (text ++ rest) := by
  cases spelled with
  | @intro key value before name between text front keySpelled inner padded =>
    refine ⟨'"', (name ++ '"' :: (between ++ ':' :: text)) ++ rest, ?_, by decide⟩
    rw [List.append_assoc, front.skip, List.cons_append, skipBlanks_of_opens _ (by decide)]

/-- Members open behind their blanks. -/
theorem MembersSpelled.opensBehind {members : List (List StringUnit × Tree)} {text : List Char}
    (spelled : MembersSpelled isBlank members text) (rest : List Char) :
    OpensBehind (text ++ rest) := by
  cases spelled with
  | last member => exact member.opensBehind rest
  | cons member later =>
    rw [List.append_assoc]
    exact member.opensBehind _

mutual

/-- A tree is read as it is spelled, and what follows it is left. -/
theorem readTree?_of_spelled {tree : Tree} {text : List Char} (spelled : tree.Spelled isBlank text)
    (fuel : Nat) (enough : text.length ≤ fuel) {rest : List Char} (ends : EndsNumeral rest) :
    readTree? fuel (text ++ rest) = some (tree, rest) := by
  -- a spelled tree is never empty, so there is fuel for one step
  obtain ⟨first, later, opened, opens⟩ := spelled.exists_first
  obtain ⟨fuel, rfl⟩ : ∃ less, fuel = less + 1 := by
    rw [opened, List.length_cons] at enough
    exact ⟨fuel - 1, by omega⟩
  cases spelled with
  | null => rfl
  | boolean value => cases value <;> rfl
  | number numeralSpelled =>
    obtain ⟨first, later, rfl, numeral⟩ := numeralSpelled.exists_first
    rw [List.cons_append, readTree?_of_opensNumeral numeral, ← List.cons_append,
      readNumeral?_append numeralSpelled ends]
    rfl
  | string unitsSpelled =>
    rw [List.cons_append, List.append_assoc, List.singleton_append, readTree?.eq_2,
      skipBlanks_of_opens _ (by decide)]
    simp only [readUnits?_of_spelled unitsSpelled]
    rfl
  | emptyArray blanks =>
    rw [List.cons_append, List.append_assoc, List.singleton_append, readTree?.eq_2,
      skipBlanks_of_opens _ (by decide)]
    simp only [blanks.skip]
    rfl
  | @array items text itemsSpelled =>
    have bounded : text.length + 1 ≤ fuel := by
      simpa using enough
    rw [List.cons_append, List.append_assoc, List.singleton_append,
      readTree?_bracket (itemsSpelled.opensBehind _),
      readItems?_of_spelled itemsSpelled fuel bounded rest]
    rfl
  | emptyObject blanks =>
    rw [List.cons_append, List.append_assoc, List.singleton_append, readTree?.eq_2,
      skipBlanks_of_opens _ (by decide)]
    simp only [blanks.skip]
    rfl
  | @object members text membersSpelled =>
    have bounded : text.length + 1 ≤ fuel := by
      simpa using enough
    rw [List.cons_append, List.append_assoc, List.singleton_append,
      readTree?_brace (membersSpelled.opensBehind _),
      readMembers?_of_spelled membersSpelled fuel bounded rest]
    rfl

/-- A padded tree is read, and what is left is the rest of the text with blanks in front. -/
theorem readTree?_of_padded {tree : Tree} {text : List Char} (padded : tree.Padded isBlank text)
    (fuel : Nat) (enough : text.length ≤ fuel) {rest : List Char} (ends : EndsNumeral rest) :
    ∃ behind, readTree? fuel (text ++ rest) = some (tree, behind) ∧
      skipBlanks behind = skipBlanks rest := by
  cases padded with
  | @intro _ before body after front spelled back =>
    simp only [List.length_append] at enough
    refine ⟨after ++ rest, ?_, back.skip rest⟩
    rw [List.append_assoc, readTree?_congr (front.skip _), List.append_assoc]
    exact readTree?_of_spelled spelled fuel (by omega) (back.endsNumeral ends)

/-- Items are read up to the closing bracket. -/
theorem readItems?_of_spelled {items : List Tree} {text : List Char}
    (spelled : ItemsSpelled isBlank items text) (fuel : Nat) (enough : text.length + 1 ≤ fuel)
    (rest : List Char) : readItems? fuel (text ++ ']' :: rest) = some (items, rest) := by
  cases fuel with
  | zero => cases enough
  | succ fuel =>
    cases spelled with
    | last padded =>
      obtain ⟨behind, read, skipped⟩ := readTree?_of_padded padded fuel
        (Nat.le_of_succ_le_succ enough) (endsNumeral_cons (.inr (.inl rfl)) rest)
      rw [skipBlanks_delimiter (.inr (.inl rfl))] at skipped
      simp only [readItems?, read, Option.bind_eq_bind, Option.bind_some, skipped, Option.pure_def]
    | @cons item items text later padded more =>
      simp only [List.length_append, List.length_cons] at enough
      obtain ⟨behind, read, skipped⟩ := readTree?_of_padded padded fuel (by omega)
        (endsNumeral_cons (.inl rfl) (later ++ ']' :: rest))
      rw [skipBlanks_delimiter (.inl rfl)] at skipped
      have readLater := readItems?_of_spelled more fuel (by omega) rest
      rw [List.append_assoc, List.cons_append, readItems?, read]
      simp only [Option.bind_eq_bind, Option.bind_some, skipped, readLater, Option.pure_def]

/-- A member is read key first, then its colon, then its value. -/
theorem readMember_of_spelled {member : List StringUnit × Tree} {text : List Char}
    (spelled : MemberSpelled isBlank member text) (fuel : Nat) (enough : text.length ≤ fuel)
    {rest : List Char} (ends : EndsNumeral rest) :
    ∃ quoted behindKey valued behind, skipBlanks (text ++ rest) = '"' :: quoted ∧
      readUnits? quoted = some (member.1, behindKey) ∧ skipBlanks behindKey = ':' :: valued ∧
      readTree? fuel valued = some (member.2, behind) ∧ skipBlanks behind = skipBlanks rest := by
  cases spelled with
  | @intro key value before name between text front keySpelled inner padded =>
    simp only [List.length_append, List.length_cons] at enough
    obtain ⟨behind, read, skipped⟩ := readTree?_of_padded padded fuel (by omega) ends
    refine ⟨name ++ '"' :: (between ++ ':' :: (text ++ rest)), between ++ ':' :: (text ++ rest),
      text ++ rest, behind, ?_, readUnits?_of_spelled keySpelled _, ?_, read, skipped⟩
    · rw [List.append_assoc, front.skip, List.cons_append, skipBlanks_of_opens _ (by decide)]
      simp
    · rw [inner.skip, skipBlanks_of_opens _ (by decide)]

/-- Members are read up to the closing brace. -/
theorem readMembers?_of_spelled {members : List (List StringUnit × Tree)} {text : List Char}
    (spelled : MembersSpelled isBlank members text) (fuel : Nat) (enough : text.length + 1 ≤ fuel)
    (rest : List Char) : readMembers? fuel (text ++ '\x7d' :: rest) = some (members, rest) := by
  cases fuel with
  | zero => cases enough
  | succ fuel =>
    cases spelled with
    | last member =>
      obtain ⟨quoted, behindKey, valued, behind, opened, readKey, colon, read, skipped⟩ :=
        readMember_of_spelled member fuel (Nat.le_of_succ_le_succ enough)
          (endsNumeral_cons (.inr (.inr rfl)) rest)
      rw [skipBlanks_delimiter (.inr (.inr rfl))] at skipped
      simp only [readMembers?, opened, readKey, colon, read, skipped, Option.bind_eq_bind,
        Option.bind_some, Option.pure_def]
    | @cons member members text later first more =>
      simp only [List.length_append, List.length_cons] at enough
      obtain ⟨quoted, behindKey, valued, behind, opened, readKey, colon, read, skipped⟩ :=
        readMember_of_spelled first fuel (by omega)
          (endsNumeral_cons (.inl rfl) (later ++ '\x7d' :: rest))
      rw [skipBlanks_delimiter (.inl rfl)] at skipped
      have readLater := readMembers?_of_spelled more fuel (by omega) rest
      rw [List.append_assoc, List.cons_append]
      simp only [readMembers?, opened, readKey, colon, read, skipped, readLater,
        Option.bind_eq_bind, Option.bind_some, Option.pure_def]

end

/-- A text is read as a tree if and only if it spells the tree, with blanks around it. -/
theorem Tree.ofText?_eq_some_iff {text : String} {tree : Tree} :
    Tree.ofText? text = some tree ↔ tree.Padded isBlank text.toList := by
  constructor
  · intro found
    obtain ⟨⟨found, rest⟩, read, only⟩ := Option.bind_eq_some_iff.1 found
    change ((if skipBlanks rest = [] then some () else none).bind fun _ => some found) = some tree
      at only
    by_cases nothing : skipBlanks rest = []
    · rw [if_pos nothing] at only
      obtain rfl := Option.some.inj only
      obtain ⟨body, text, padded⟩ := padded_of_readTree? read
      rw [nothing, List.append_nil] at text
      rwa [text]
    · rw [if_neg nothing] at only
      cases only
  · intro padded
    obtain ⟨behind, read, skipped⟩ := readTree?_of_padded padded (2 * text.toList.length + 2)
      (by omega) endsNumeral_nil
    rw [List.append_nil] at read
    have nothing : skipBlanks behind = [] := skipped
    refine Option.bind_eq_some_iff.2 ⟨(tree, behind), read, ?_⟩
    change ((if skipBlanks behind = [] then some () else none).bind fun _ => some tree) = some tree
    rw [if_pos nothing]
    rfl

/-- A text spells at most one tree. -/
theorem Tree.Padded.unique {tree other : Tree} {text : String}
    (padded : tree.Padded isBlank text.toList) (also : other.Padded isBlank text.toList) :
    tree = other :=
  Option.some.inj ((Tree.ofText?_eq_some_iff.2 padded).symm.trans (Tree.ofText?_eq_some_iff.2 also))

end EdgeGateway.Json
