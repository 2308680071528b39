import EdgeGateway.Proofs.CommandLine.Given
import EdgeGateway.Proofs.Payload.Batch

/-!
# What can be published

A batch has a message if its reference forms a channel and each of its values has a payload
(`exists_batchMessage`). Readings that come with lines have payloads, and so have the configuration
items that commands set. The reference of a command was found in a well-formed channel
(`isReference_of_mem_handled`), so everything that a handled command reports can be published.
-/

namespace EdgeGateway

/-! ## Batches -/

namespace Lane

/-- Whether a value has a payload: readings and configuration items need values. -/
def Carries : (lane : Lane) → lane.Value → Prop
  | readings, reading => Reading.values reading ≠ []
  | configurations, item => ConfigurationItem.values item ≠ []
  | alarms, _ | statuses, _ => True

end Lane

/-- A payload travels on every reference that forms a channel. -/
theorem Outbound.exists_message {profile : Profile} {lane : Lane} {reference : String}
    {found : Address} (parsed : Address.parse (profile.channel lane reference) = .ok found)
    (payload : String) :
    ∃ message, Outbound.message lane.kind profile.ownAddressing reference (.ok payload) =
      .ok message := by
  rw [← channel_ownAddressing, Address.parse_eq_ok_iff] at parsed
  exact ⟨⟨_, payload⟩, Outbound.message_eq_ok_iff.2 ⟨⟨found, parsed⟩, rfl, rfl⟩⟩

/-- Values of a reference that forms a channel have a message together if each of them has a
payload. -/
theorem exists_batchMessage {profile : Profile} {lane : Lane} {reference : String} {found : Address}
    (parsed : Address.parse (profile.channel lane reference) = .ok found)
    {batch : List lane.Value} (nonempty : batch ≠ [])
    (own : ∀ value ∈ batch, lane.reference value = reference ∧ lane.Carries value) :
    ∃ message, profile.batchMessage lane reference batch = .ok message := by
  cases lane with
  | readings =>
    obtain ⟨payload, encoded⟩ :=
      Payload.exists_ofReadings_iff.2 fun reading member => (own reading member).2
    have built := Outbound.exists_message parsed payload
    rw [← encoded] at built
    exact built
  | alarms => exact Outbound.exists_message parsed _
  | statuses =>
    have same : ActuatorStatus.reference (batch.getLast nonempty) = reference :=
      (own _ (List.getLast_mem nonempty)).1
    simp only [Profile.batchMessage, List.getLast?_eq_some_getLast nonempty, Outbound.status, same]
    exact Outbound.exists_message parsed _
  | configurations =>
    obtain ⟨same, filled⟩ : ConfigurationItem.key (batch.getLast nonempty) = reference ∧
        ConfigurationItem.values (batch.getLast nonempty) ≠ [] := own _ (List.getLast_mem nonempty)
    simp only [Profile.batchMessage, List.getLast?_eq_some_getLast nonempty, Outbound.configuration,
      same, Payload.ofConfiguration, Payload.joinedValues, filled, if_false]
    exact Outbound.exists_message parsed _

/-- A reference forms a channel for every lane of a gateway with a proper key. -/
theorem Address.IsReference.parses {profile : Profile} {reference : String}
    (valid : Address.IsReference reference) (proper : Address.IsKey profile.gatewayKey)
    (lane : Lane) : ∃ found, Address.parse (profile.channel lane reference) = .ok found := by
  rw [← channel_ownAddressing]
  refine ⟨_, Address.parse_eq_ok_iff.2 ⟨⟨.inl rfl, ?_, ?_, valid⟩, .inl rfl⟩⟩
  · rintro key ⟨⟩
    exact proper
  · rintro key ⟨⟩

namespace CommandLine

/-! ## Lines -/

/-- The values that lines give on a reference are of that reference and have payloads. -/
theorem carries_of_mem_given {lane : Lane} {reference : String} {lines : List (UInt64 × String)}
    {value : lane.Value} (member : value ∈ given lane reference lines) :
    lane.reference value = reference ∧ lane.Carries value := by
  obtain ⟨⟨time, line⟩, -, told⟩ := List.mem_filterMap.1 member
  obtain ⟨report, reports, seen⟩ := Option.bind_eq_some_iff.1 told
  obtain ⟨input, -, tells⟩ := Option.bind_eq_some_iff.1 reports
  have own : report.1 = lane ∧ report.1.reference report.2 = reference := by
    by_contra different
    rw [Report.at?_of_ne different] at seen
    cases seen
  obtain ⟨other, same⟩ := report
  obtain ⟨rfl, rfl⟩ := own
  rw [Report.at?_self] at seen
  obtain rfl := Option.some.inj seen
  refine ⟨rfl, ?_⟩
  cases input with
  | message message => cases tells
  | reading told text =>
    cases tells
    exact List.cons_ne_nil _ _
  | alarm told active =>
    cases tells
    trivial

/-! ## Commands -/

/-- A command that a line gives to a gateway is for a reference, and what it sets a configuration
item to has values. -/
theorem isReference_of_mem_handled {router : Router} {lines : List (UInt64 × String)}
    {command : Command} (key : router.profile.gatewayKey ≠ "")
    (member : command ∈ handled router lines) :
    (∀ reference, command.actuator? = some reference → Address.IsReference reference) ∧
      ∀ item, command = .setConfiguration item →
        Address.IsReference item.key ∧ item.values ≠ [] := by
  obtain ⟨⟨time, line⟩, -, told⟩ := List.mem_filterMap.1 member
  obtain ⟨input, -, tells⟩ := Option.bind_eq_some_iff.1 told
  cases input with
  | reading told text => cases tells
  | alarm told active => cases tells
  | message inbound =>
    simp only [Input.command?] at tells
    split at tells
    · rename_i handled decided
      obtain rfl := Option.some.inj tells
      cases (Decision.ofMessage_eq_iff key).1 decided with
      | @ownCommand address _ spells commands own reading =>
        have valid := Address.isReference_textualReference spells
        generalize Address.textualReference inbound.channel = reference at reading valid
        generalize address.kind = kind at reading
        cases reading with
        | setActuator decoded => exact ⟨by rintro _ ⟨⟩; exact valid, by rintro _ ⟨⟩⟩
        | getActuator => exact ⟨by rintro _ ⟨⟩; exact valid, by rintro _ ⟨⟩⟩
        | setConfiguration decoded =>
          refine ⟨by rintro _ ⟨⟩, ?_⟩
          rintro _ ⟨⟩
          exact ⟨valid, by simp [Payload.splitValues, List.splitOn_ne_nil]⟩
        | getConfiguration => exact ⟨by rintro _ ⟨⟩, by rintro _ ⟨⟩⟩
    · cases tells

end CommandLine

end EdgeGateway
