import EdgeGateway.Payload.Basic
import EdgeGateway.Proofs.Json.Worth

/-!
# What a command payload says

A payload that is JSON within the limits is read by its kind: an object gives a text that depends on
its last `value` member alone (`commandValue_object`), anything else is refused by name. Every other
text is no JSON to the reader. What a member carries that is neither null nor a string is compact
JSON text, and where its numbers are integers of 64 bits, reading that text again gives its value.

One object is open around a member, so a member may open 126 arrays and objects of the 127.
-/

namespace EdgeGateway.Json

/-! ## Values of texts -/

/-- A text has a value if it spells a tree that has one. -/
theorem Value.ofText?_eq_some_iff {text : String} {value : Value} :
    Value.ofText? text = some value ↔ ∃ tree : Tree, tree.Padded isBlank text.toList ∧
      Value.ofTree? Value.depthLimit tree = some value := by
  simp only [Value.ofText?, Option.bind_eq_bind, Option.bind_eq_some_iff,
    Tree.ofText?_eq_some_iff]

/-- A text has no value if it spells no tree within the limits. -/
theorem Value.ofText?_eq_none_iff {text : String} :
    Value.ofText? text = none ↔ ∀ tree : Tree, tree.Padded isBlank text.toList →
      ¬ tree.Within Value.depthLimit := by
  rw [Option.eq_none_iff_forall_ne_some]
  constructor
  · intro valueless tree padded within
    obtain ⟨value, worth⟩ := exists_ofTree?_iff.2 within
    exact valueless value (Value.ofText?_eq_some_iff.2 ⟨tree, padded, worth⟩)
  · intro beyond value found
    obtain ⟨tree, padded, worth⟩ := Value.ofText?_eq_some_iff.1 found
    exact beyond tree padded (exists_ofTree?_iff.1 ⟨value, worth⟩)

/-- Which kind of value a tree spells. -/
def Tree.kind : Tree → JsonKind
  | null => .null
  | boolean _ => .boolean
  | number _ => .number
  | string _ => .string
  | array _ => .array
  | object _ => .object

/-- A value is of the kind that its tree spells. -/
theorem Tree.kind_of_ofTree? {depth : Nat} {tree : Tree} {value : Value}
    (worth : Value.ofTree? depth tree = some value) : value.kind = tree.kind := by
  cases tree with
  | null =>
    cases worth
    rfl
  | boolean =>
    cases worth
    rfl
  | number =>
    obtain ⟨number, -, rfl⟩ := Option.map_eq_some_iff.1 worth
    rfl
  | string =>
    obtain ⟨text, -, rfl⟩ := Option.map_eq_some_iff.1 worth
    rfl
  | array =>
    obtain ⟨inner, values, -, -, rfl⟩ := Value.ofTree?_array_eq_some_iff.1 worth
    rfl
  | object =>
    obtain ⟨inner, rows, -, -, rfl⟩ := Value.ofTree?_object_eq_some_iff.1 worth
    rfl

/-! ## The last member of a name -/

/-- The last member of a name, where names are compared as they are decoded. -/
def lastMember? (name : String) (members : List (List StringUnit × Tree)) : Option Tree :=
  ((members.filter fun member => decodeText? member.1 = some name).getLast?).map Prod.snd

/-- The last elements of two lists are related if all of them are. -/
theorem rel_getLast? {First Second : Type} {related : First → Second → Prop} {firsts : List First}
    {seconds : List Second} (all : List.Forall₂ related firsts seconds) :
    Option.Rel related firsts.getLast? seconds.getLast? := by
  have reversed := List.forall₂_reverse_iff.2 all
  rw [List.getLast?_eq_head?_reverse, List.getLast?_eq_head?_reverse]
  generalize firsts.reverse = front, seconds.reverse = back at reversed
  cases reversed with
  | nil => exact .none
  | cons both more => exact .some both

/-- The value of a key in an object is that of the last member of the name. -/
theorem rel_lastMember? {depth : Nat} {members : List (List StringUnit × Tree)}
    {rows : List (String × Value)}
    (all : List.Forall₂ (fun member row => decodeText? member.1 = some row.1 ∧
      Value.ofTree? depth member.2 = some row.2) members rows) (name : String) :
    Option.Rel (fun tree value => Value.ofTree? depth tree = some value)
      (lastMember? name members) ((Table.ofList rows).find? name) := by
  have named : List.Forall₂ (fun member row => decodeText? member.1 = some row.1 ∧
      Value.ofTree? depth member.2 = some row.2)
      (members.filter fun member => decodeText? member.1 = some name)
      (rows.filter (·.1 = name)) := by
    refine List.rel_filter ?_ all
    rintro member row ⟨decoded, -⟩
    simp [decoded]
  have last := rel_getLast? named
  rw [Table.find?_ofList, lastMember?]
  generalize (members.filter _).getLast? = member, (rows.filter _).getLast? = row at last
  cases last with
  | none => exact .none
  | some both => exact .some both.2

/-- A value is read again as the same where more arrays and objects may be opened. -/
theorem Value.Rereads.mono {depth more : Nat} {value result : Value}
    (rereads : value.Rereads depth result) (le : depth ≤ more) : value.Rereads more result :=
  fun tree written => Value.ofTree?_mono le (rereads tree written)

end EdgeGateway.Json

namespace EdgeGateway.Payload

open EdgeGateway.Json

/-! ## Commands -/

/-- A space is a blank. -/
theorem blanks_space : Blanks isBlank [' '] := by
  intro character member
  rw [List.mem_singleton.1 member]
  rfl

/-- The payload of a command that sets what a JSON text stands for. -/
def command (text : String) : String := "\x7b\"value\": " ++ text ++ "\x7d"

/-- A command with the text of a value is an object of that value. -/
theorem ofText?_command {value : Value} (rereads : value.Rereads 126 value) :
    Value.ofText? (command value.text) = some (.object [("value", value)]) := by
  obtain ⟨tree, written⟩ := exists_written value
  have padded : tree.Padded isBlank (' ' :: value.characters) :=
    written.spelled.padded.pad blanks_space
  have spelled : (Tree.object [(unitsOf "value", tree)]).Spelled isBlank
      (command value.text).toList := by
    simpa [command, Value.text, stringText, escape] using
      Tree.Spelled.object (.last (memberSpelled_stringText "value" padded))
  refine Value.ofText?_eq_some_iff.2 ⟨_, spelled.padded, ?_⟩
  refine Value.ofTree?_object_eq_some_iff.2 ⟨126, [("value", value)], rfl, ?_, rfl⟩
  exact .cons ⟨decodeText?_unitsOf "value", rereads tree written⟩ .nil

/-- What a command says of its `value` member. -/
inductive Carries : Option Tree → String → Prop where
  /-- Nothing is carried without such a member. -/
  | absent : Carries none ""
  | null : Carries (some .null) ""
  | string {units : List StringUnit} {text : String} (decoded : decodeText? units = some text) :
      Carries (some (.string units)) text
  /-- Any other member is carried as JSON text without blanks. That text has the member's value,
  and so has a command with the text, where the member's numbers are integers of 64 bits. -/
  | other {tree : Tree} {text : String} (notNull : tree.kind ≠ .null)
      (notString : tree.kind ≠ .string)
      (compact : ∃ written : Tree, written.Spelled (fun _ => false) text.toList)
      (same : tree.Integral → ∃ value, Value.ofTree? 126 tree = some value ∧
        Value.ofText? text = some value ∧
        Value.ofText? (command text) = some (.object [("value", value)]) ∧
        commandValue (command text) = .ok text) : Carries (some tree) text

/-- Values other than null and strings are carried as their text. -/
theorem memberText_of_kind {value : Value} (notNull : value.kind ≠ .null)
    (notString : value.kind ≠ .string) : memberText (some value) = value.text := by
  cases value with
  | null => exact absurd rfl notNull
  | string => exact absurd rfl notString
  | _ => rfl

/-- A command with the text of a value carries that text. -/
theorem commandValue_command {value : Value} (rereads : value.Rereads 126 value) :
    commandValue (command value.text) = .ok (memberText (some value)) := by
  rw [commandValue, ofText?_command rereads]
  rfl

/-- A member that is neither null nor a string carries the text of its value. -/
theorem carries_text {tree : Tree} {value : Value} (worth : Value.ofTree? 126 tree = some value)
    (notNull : tree.kind ≠ .null) (notString : tree.kind ≠ .string) :
    Carries (some tree) (memberText (some value)) := by
  have kind := Tree.kind_of_ofTree? worth
  have text : memberText (some value) = value.text :=
    memberText_of_kind (by rwa [kind]) (by rwa [kind])
  obtain ⟨written, isWritten⟩ := exists_written value
  rw [text]
  refine .other notNull notString ⟨written, ?_⟩ fun integral => ?_
  · rw [Value.text, String.toList_ofList]
    exact isWritten.spelled
  · have rereads := integral.rereads worth
    refine ⟨value, worth, (rereads.mono (Nat.le_succ 126)).ofText?, ofText?_command rereads, ?_⟩
    rw [commandValue_command rereads, text]

/-- The text of a member is what the member carries. -/
theorem carries_memberText {tree : Option Tree} {value : Option Value}
    (worth : Option.Rel (fun tree value => Value.ofTree? 126 tree = some value) tree value) :
    Carries tree (memberText value) := by
  cases worth with
  | none => exact .absent
  | @some tree value worth =>
    cases tree with
    | null =>
      cases worth
      exact .null
    | string =>
      obtain ⟨text, decoded, rfl⟩ := Option.map_eq_some_iff.1 worth
      exact .string decoded
    | boolean => exact carries_text worth nofun nofun
    | number => exact carries_text worth nofun nofun
    | array => exact carries_text worth nofun nofun
    | object => exact carries_text worth nofun nofun

/-! ## Payloads -/

/-- What spells no tree within the limits is no JSON to the reader. -/
theorem commandValue_invalid {payload : String}
    (beyond : ∀ tree : Tree, tree.Padded isBlank payload.toList →
      ¬ tree.Within Value.depthLimit) : commandValue payload = .error .invalidJson := by
  rw [commandValue, Value.ofText?_eq_none_iff.2 beyond]

/-- What is JSON within the limits and no object is refused by its kind. -/
theorem commandValue_notAnObject {payload : String} {tree : Tree}
    (padded : tree.Padded isBlank payload.toList) (within : tree.Within Value.depthLimit)
    (notObject : tree.kind ≠ .object) :
    commandValue payload = .error (.notAnObject tree.kind) := by
  obtain ⟨value, worth⟩ := exists_ofTree?_iff.2 within
  have kind := Tree.kind_of_ofTree? worth
  rw [commandValue, Value.ofText?_eq_some_iff.2 ⟨tree, padded, worth⟩]
  rw [← kind] at notObject ⊢
  cases value with
  | object => exact absurd rfl notObject
  | _ => rfl

/-- An object within the limits gives the text of its last `value` member. -/
theorem commandValue_object {payload : String} {members : List (List StringUnit × Tree)}
    (padded : (Tree.object members).Padded isBlank payload.toList)
    (within : (Tree.object members).Within Value.depthLimit) :
    ∃ value, commandValue payload = .ok (memberText value) ∧
      Option.Rel (fun tree value => Value.ofTree? 126 tree = some value)
        (lastMember? "value" members) value := by
  obtain ⟨value, worth⟩ := exists_ofTree?_iff.2 within
  obtain ⟨_, rows, ⟨⟩, all, rfl⟩ := Value.ofTree?_object_eq_some_iff.1 worth
  refine ⟨(Table.ofList rows).find? "value", ?_, rel_lastMember? all "value"⟩
  rw [commandValue, Value.ofText?_eq_some_iff.2 ⟨_, padded, worth⟩]
  rfl

/-- The result depends on the last `value` member alone. -/
theorem commandValue_congr {payload other : String}
    {members others : List (List StringUnit × Tree)}
    (padded : (Tree.object members).Padded isBlank payload.toList)
    (within : (Tree.object members).Within Value.depthLimit)
    (otherPadded : (Tree.object others).Padded isBlank other.toList)
    (otherWithin : (Tree.object others).Within Value.depthLimit)
    (same : lastMember? "value" others = lastMember? "value" members) :
    commandValue other = commandValue payload := by
  obtain ⟨value, read, worth⟩ := commandValue_object padded within
  obtain ⟨otherValue, otherRead, otherWorth⟩ := commandValue_object otherPadded otherWithin
  rw [same] at otherWorth
  have equal : otherValue = value := by
    generalize lastMember? "value" members = last at worth otherWorth
    cases worth with
    | none =>
      cases otherWorth
      rfl
    | some worth =>
      cases otherWorth with
      | some otherWorth => rw [← worth, ← otherWorth]
  rw [read, otherRead, equal]

/-- A text that is no JSON within the limits is refused as such, and one that is no object by its
kind. Every object is read, and what is read of it is what its last `value` member carries. -/
theorem commandValue_reads (payload : String) :
    ((∀ tree : Tree, tree.Padded isBlank payload.toList → ¬ tree.Within Value.depthLimit) →
      commandValue payload = .error .invalidJson) ∧
    ∀ tree : Tree, tree.Padded isBlank payload.toList → tree.Within Value.depthLimit →
      (tree.kind ≠ .object → commandValue payload = .error (.notAnObject tree.kind)) ∧
      ∀ members, tree = .object members →
        (∃ text, commandValue payload = .ok text ∧
          Carries (lastMember? "value" members) text) ∧
        ∀ (other : String) (others : List (List StringUnit × Tree)),
          (Tree.object others).Padded isBlank other.toList →
          (Tree.object others).Within Value.depthLimit →
          lastMember? "value" others = lastMember? "value" members →
          commandValue other = commandValue payload := by
  refine ⟨commandValue_invalid, fun tree padded within =>
    ⟨commandValue_notAnObject padded within, ?_⟩⟩
  rintro members rfl
  refine ⟨?_, fun other others => commandValue_congr padded within⟩
  obtain ⟨value, read, worth⟩ := commandValue_object padded within
  exact ⟨_, read, carries_memberText worth⟩

/-- The empty text is refused, an array is refused by its name, and of an object the last `value`
member counts, whatever stands around it. -/
theorem commandValue_reads_by_kind :
    commandValue "" = .error .invalidJson ∧
      commandValue "[true]" = .error (.notAnObject .array) ∧
      commandValue " \x7b\"value\":[2]\x7d" =
        commandValue "\x7b\"value\":1,\"other\":true,\"value\":[2]\x7d" := by
  have two : Written (.array [.number (.integer 2)]) (.array [.number (numeralOf 2)]) :=
    .array (.cons (.integer 2) .nil)
  refine ⟨(commandValue_reads "").1 fun tree padded => ?_, ?_, ?_⟩
  · have found : Tree.ofText? "" = some tree := Tree.ofText?_eq_some_iff.2 padded
    cases found
  · have written : Written (.array [.boolean true]) (.array [.boolean true]) :=
      .array (.cons (.boolean true) .nil)
    have padded : (Tree.array [.boolean true]).Padded isBlank "[true]".toList :=
      written.spelled.padded
    have refused := ((commandValue_reads "[true]").2 _ padded (exists_ofTree?_iff.1 ⟨_, rfl⟩)).1
    exact refused JsonKind.noConfusion
  · have long : Written
        (.object [("value", .number (.integer 1)), ("other", .boolean true),
          ("value", .array [.number (.integer 2)])])
        (.object [(unitsOf "value", .number (numeralOf 1)), (unitsOf "other", .boolean true),
          (unitsOf "value", .array [.number (numeralOf 2)])]) :=
      .object (.cons _ (.integer 1) (.cons _ (.boolean true) (.cons _ two .nil)))
    have short : Written (.object [("value", .array [.number (.integer 2)])])
        (.object [(unitsOf "value", .array [.number (numeralOf 2)])]) :=
      .object (.cons _ two .nil)
    have longPadded : Tree.Padded isBlank _
        "\x7b\"value\":1,\"other\":true,\"value\":[2]\x7d".toList := long.spelled.padded
    have shortPadded : Tree.Padded isBlank _ " \x7b\"value\":[2]\x7d".toList :=
      short.spelled.padded.pad blanks_space
    have read := ((commandValue_reads _).2 _ longPadded (exists_ofTree?_iff.1 ⟨_, rfl⟩)).2 _ rfl
    exact read.2 _ _ shortPadded (exists_ofTree?_iff.1 ⟨_, rfl⟩) rfl

/-! ## Beyond the limits -/

/-- Arrays inside an array, one inside the other. -/
def nested : Nat → Tree
  | 0 => .array []
  | inner + 1 => .array [nested inner]

/-- Nested arrays are spelled by their brackets. -/
theorem spelled_nested (inner : Nat) :
    (nested inner).Spelled isBlank
      (List.replicate (inner + 1) '[' ++ List.replicate (inner + 1) ']') := by
  induction inner with
  | zero => exact .emptyArray .nil
  | succ inner inductionHypothesis =>
    have spelled := Tree.Spelled.array (.last inductionHypothesis.padded)
    rw [List.replicate_succ, List.replicate_succ' (n := inner + 1)]
    simpa [nested] using spelled

/-- Nested arrays are within no limit that they exceed. -/
theorem lt_of_within_nested {inner depth : Nat} (within : (nested inner).Within depth) :
    inner < depth := by
  induction inner generalizing depth with
  | zero =>
    cases within
    exact Nat.succ_pos _
  | succ inner inductionHypothesis =>
    cases within with
    | array within => exact Nat.succ_lt_succ (inductionHypothesis (within _ List.mem_cons_self))

/-- What is JSON beyond the limits is refused as if it were none. -/
theorem commandValue_beyond {payload : String} {tree : Tree}
    (padded : tree.Padded isBlank payload.toList) (beyond : ¬ tree.Within Value.depthLimit) :
    commandValue payload = .error .invalidJson := by
  refine commandValue_invalid fun other alsoPadded => ?_
  rwa [alsoPadded.unique padded]

/-- Whether a payload is an object without a `value` member. -/
def LacksValue (payload : String) : Prop :=
  ∃ members, (Tree.object members).Padded isBlank payload.toList ∧
    lastMember? "value" members = none

/-- A payload whose only member is not the one that counts. -/
def unvalued (text : String) : String := "\x7b\"other\":" ++ text ++ "\x7d"

/-- An object without a `value` member is refused because of what another member holds. -/
theorem commandValue_unvalued {tree : Tree} {text : String}
    (spelled : tree.Spelled isBlank text.toList) (beyond : ¬ tree.Within 126) :
    LacksValue (unvalued text) ∧ commandValue (unvalued text) = .error .invalidJson := by
  have object : (Tree.object [(unitsOf "other", tree)]).Spelled isBlank
      (unvalued text).toList := by
    simpa [unvalued, stringText, escape] using
      Tree.Spelled.object (.last (memberSpelled_stringText "other" spelled.padded))
  refine ⟨⟨_, object.padded, rfl⟩, commandValue_beyond object.padded fun within => ?_⟩
  cases within with
  | object keys within => exact beyond (within _ List.mem_cons_self)

/-- Half a surrogate pair has no text. -/
theorem not_within_unpaired (depth : Nat) :
    ¬ (Tree.string [.code 0xD800]).Within depth := by
  intro within
  cases within with
  | string paired =>
    cases paired with
    | code scalar rest => omega

/-- A number can be too large for binary64. -/
theorem not_within_large (depth : Nat) :
    ¬ (Tree.number ⟨false, ['1'], [], some (false, ['3', '0', '9'])⟩).Within depth := by
  intro within
  cases within with
  | number finite =>
    have infinite : Number.ofNumeral? ⟨false, ['1'], [], some (false, ['3', '0', '9'])⟩ = none := by
      rfl
    rw [infinite] at finite
    cases finite

/-- Objects without a `value` member are refused where another member nests too deeply, holds half
a surrogate pair or is a number too large for binary64. -/
theorem commandValue_refuses_objects :
    (LacksValue (unvalued (String.ofList (List.replicate 127 '[' ++ List.replicate 127 ']'))) ∧
      commandValue (unvalued (String.ofList (List.replicate 127 '[' ++ List.replicate 127 ']'))) =
        .error .invalidJson) ∧
    (LacksValue (unvalued "\"\\ud800\"") ∧
      commandValue (unvalued "\"\\ud800\"") = .error .invalidJson) ∧
    LacksValue (unvalued "1e309") ∧
      commandValue (unvalued "1e309") = .error .invalidJson := by
  refine ⟨?_, ?_, ?_⟩
  · have spelled := spelled_nested 126
    rw [← String.toList_ofList (l := List.replicate 127 '[' ++ List.replicate 127 ']')] at spelled
    exact commandValue_unvalued spelled fun within =>
      Nat.lt_irrefl 126 (lt_of_within_nested within)
  · refine commandValue_unvalued (.string (.cons (.code ?_) .nil)) (not_within_unpaired 126)
    rfl
  · have digit : IsDigits ['1'] := isDigits_of_all (List.cons_ne_nil _ _) rfl
    have digits : IsDigits ['3', '0', '9'] := isDigits_of_all (List.cons_ne_nil _ _) rfl
    have leading : ['1'].head? = some '0' → ['1'] = ['0'] := nofun
    exact commandValue_unvalued (.number (.intro digit leading .absent
      (.present (.inl rfl) .absent digits))) (not_within_large 126)

end EdgeGateway.Payload
