import EdgeGateway.Proofs.Channel.Grammar
import EdgeGateway.Proofs.Payload.Batch
import EdgeGateway.Proofs.Payload.Command

/-!
# A configuration comes back as it was set

A command sets a configuration item by one text, which is split at its commas. The payload that
reports the item joins the values again. `Joins` says what the two have in common, and
`splitValues_eq_iff` that splitting finds the one list of values that a text joins: the empty text
joins one empty value, and a text of commas only joins one empty value more than it has commas. So
what is reported is the text that was set, and every list of values that a text can join can be set.
-/

namespace EdgeGateway.Payload

open EdgeGateway.Json

/-- Whether a text joins some values: there is one at least, and none of them contains the
delimiter. -/
structure Joins (text : String) (values : List String) : Prop where
  filled : values ≠ []
  plain : ∀ value ∈ values, valueDelimiter ∉ value.toList
  joined : ",".intercalate values = text

/-- A text is split into the values that it joins. -/
theorem splitValues_eq_iff {text : String} {values : List String} :
    splitValues text = values ↔ Joins text values := by
  have comma : ",".toList = [valueDelimiter] := rfl
  refine (Text.splitOn_eq_iff comma).trans ⟨?_, ?_⟩
  · rintro ⟨filled, plain, joined⟩
    exact ⟨filled, plain, (String.toList_inj.1 joined).symm⟩
  · rintro ⟨filled, plain, rfl⟩
    exact ⟨filled, plain, rfl⟩

/-- Every text joins the values that it is split into. -/
theorem joins_splitValues (text : String) : Joins text (splitValues text) :=
  splitValues_eq_iff.1 rfl

/-- A command sets the values into which its text is split. -/
theorem configurationItem_of_commandValue {payload text : String}
    (read : commandValue payload = .ok text) (reference : String) :
    configurationItem reference payload = .ok { key := reference, values := splitValues text } := by
  rw [configurationItem, read]
  rfl

/-- A command that sets an item has a text. -/
theorem exists_commandValue {reference payload : String} {item : ConfigurationItem}
    (set : configurationItem reference payload = .ok item) :
    ∃ text, commandValue payload = .ok text ∧
      item = { key := reference, values := splitValues text } := by
  cases read : commandValue payload with
  | error cause =>
    rw [configurationItem, read] at set
    cases set
  | ok text =>
    rw [configurationItem_of_commandValue read] at set
    exact ⟨text, rfl, (Except.ok.inj set).symm⟩

/-- What is reported of an item decodes to one field with the text that joins its values. -/
theorem exists_report {text : String} {values : List String} (joins : Joins text values)
    (reference : String) :
    ∃ report, ofConfiguration { key := reference, values } = .ok report ∧
      Value.ofText? report = some (.object [("data", .string text)]) := by
  refine ⟨(dataObject 0 text).text, ?_, (rereads_dataObject 126 0 text).ofText?⟩
  rw [ofConfiguration, joinedValues, if_neg joins.filled, joins.joined]
  rfl

/-- An object gives the text of its last `value` member, if that is a string. -/
theorem commandValue_of_string {payload text : String} {members : List (List StringUnit × Tree)}
    {units : List StringUnit} (padded : (Tree.object members).Padded isBlank payload.toList)
    (within : (Tree.object members).Within Value.depthLimit)
    (last : lastMember? "value" members = some (.string units))
    (decoded : decodeText? units = some text) : commandValue payload = .ok text := by
  obtain ⟨value, read, worth⟩ := commandValue_object padded within
  rw [last] at worth
  cases worth with
  | some worth =>
    obtain ⟨same, decodes, rfl⟩ := Option.map_eq_some_iff.1 worth
    obtain rfl := Option.some.inj (decoded.symm.trans decodes)
    exact read

/-- **A configuration comes back as it was set.** Every payload with a text is accepted. What is
accepted sets an item under the reference, with the values that the text of the payload joins, and
what is reported of the item decodes to exactly this text under `data`. Conversely, all values that
a text joins are set by the command with that text, and by every other payload whose last `value`
member is a string of that text. -/
theorem configuration_comes_back :
    (∀ reference payload text, commandValue payload = .ok text →
      ∃ item, configurationItem reference payload = .ok item) ∧
    (∀ reference payload item, configurationItem reference payload = .ok item →
      ∃ text report, commandValue payload = .ok text ∧ item.key = reference ∧
        Joins text item.values ∧ ofConfiguration item = .ok report ∧
        Value.ofText? report = some (.object [("data", .string text)])) ∧
    ∀ reference text values, Joins text values →
      configurationItem reference (command (Value.string text).text) =
          .ok { key := reference, values } ∧
        ∀ payload members units, (Tree.object members).Padded isBlank payload.toList →
          (Tree.object members).Within Value.depthLimit →
          lastMember? "value" members = some (.string units) → decodeText? units = some text →
          configurationItem reference payload = .ok { key := reference, values } := by
  refine ⟨fun reference payload text read => ⟨_, configurationItem_of_commandValue read reference⟩,
    fun reference payload item set => ?_, fun reference text values joins => ?_⟩
  · obtain ⟨text, read, rfl⟩ := exists_commandValue set
    have joins := joins_splitValues text
    obtain ⟨report, reported, decodes⟩ := exists_report joins reference
    exact ⟨text, report, read, rfl, joins, reported, decodes⟩
  · -- Whichever payload the text is read from, it is split into these values.
    have split : splitValues text = values := splitValues_eq_iff.2 joins
    have read : ∀ payload, commandValue payload = .ok text →
        configurationItem reference payload = .ok { key := reference, values } := by
      intro payload read
      rw [configurationItem_of_commandValue read, split]
    refine ⟨read _ (commandValue_command (Value.rereads_string text)), ?_⟩
    exact fun payload members units padded within last decoded =>
      read payload (commandValue_of_string padded within last decoded)

/-- A text of two commas sets three empty values and is reported as it was set. -/
theorem configuration_comes_back_of_commas :
    Joins ",," ["", "", ""] ∧
      configurationItem "HB" (command (Value.string ",,").text) =
        .ok { key := "HB", values := ["", "", ""] } ∧
      ∃ report, ofConfiguration { key := "HB", values := ["", "", ""] } = .ok report ∧
        Value.ofText? report = some (.object [("data", .string ",,")]) := by
  have joins : Joins ",," ["", "", ""] := ⟨by decide, by decide, by decide⟩
  obtain ⟨set, -⟩ := configuration_comes_back.2.2 "HB" ",," ["", "", ""] joins
  obtain ⟨text, report, -, -, again, reported, decodes⟩ := configuration_comes_back.2.1 _ _ _ set
  obtain rfl : text = ",," := again.joined.symm.trans joins.joined
  exact ⟨joins, set, report, reported, decodes⟩

end EdgeGateway.Payload
