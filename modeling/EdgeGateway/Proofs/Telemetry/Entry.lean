import EdgeGateway.Outbox.Lane
import EdgeGateway.Proofs.Json.Written

/-!
# Entries decode to what was encoded

A value that is kept as a journal entry comes back as it was, whatever texts, timestamps and states
it holds. `Recorded` is what has to be shown of each kind of value: its record is written as a tree
that is read as the value.
-/

namespace EdgeGateway

open EdgeGateway.Json

/-! ## Reading fields -/

namespace Json

/-- The text of a written string. -/
@[simp] theorem Tree.text?_unitsOf (text : String) :
    Tree.text? (.string (unitsOf text)) = some text :=
  decodeText?_unitsOf text

/-- The texts of written strings. -/
@[simp] theorem Tree.texts?_unitsOf (texts : List String) :
    Tree.texts? (.array (texts.map fun text => .string (unitsOf text))) = some texts := by
  unfold Tree.texts?
  induction texts with
  | nil => rfl
  | cons text texts inductionHypothesis =>
    simp [List.mapM_cons, inductionHypothesis]

/-- An array of strings is written as their units. -/
theorem written_textsValue (texts : List String) :
    Written (textsValue texts) (.array (texts.map fun text => .string (unitsOf text))) := by
  refine .array ?_
  induction texts with
  | nil => exact .nil
  | cons text texts inductionHypothesis => exact .cons (.string text) inductionHypothesis

/-- A timestamp is read as the natural number that it is. -/
@[simp] theorem Tree.natural64?_timestamp (timestamp : UInt64) :
    Tree.natural64? (.number (numeralOf timestamp.toNat)) = some timestamp := by
  simp [Tree.natural64?, ofNumeral?_toNat timestamp]

end Json

/-! ## Reading values -/

/-- Whether the record of every value is read as the value. -/
def Recorded (Value : Type) [JsonRecord Value] : Prop :=
  ∀ value : Value, ∃ tree, Written (JsonRecord.toJson value) tree ∧
    JsonRecord.ofTree? tree = some value

theorem recorded_reading : Recorded Reading := by
  intro reading
  refine ⟨_, .object (.cons _ (.string _) (.cons _ (written_textsValue _)
    (.cons _ (.integer _) .nil))), ?_⟩
  simp [JsonRecord.ofTree?, Reading.ofTree?, Tree.record?, Tree.decodedMembers?, Tree.field?]

theorem recorded_alarm : Recorded Alarm := by
  intro alarm
  refine ⟨_, .object (.cons _ (.string _) (.cons _ (.boolean _) (.cons _ (.integer _) .nil))), ?_⟩
  simp [JsonRecord.ofTree?, Alarm.ofTree?, Tree.record?, Tree.decodedMembers?, Tree.field?,
    Tree.boolean?]

/-- Every state is read as itself, also one that was reported under the name of another. -/
theorem exists_written_state (state : ActuatorState) :
    ∃ tree, Written state.toJson tree ∧ ActuatorState.ofTree? tree = some state := by
  cases state with
  | ready => exact ⟨_, .string _, by simp [ActuatorState.ofTree?, ActuatorState.ofName?]⟩
  | busy => exact ⟨_, .string _, by simp [ActuatorState.ofTree?, ActuatorState.ofName?]⟩
  | error => exact ⟨_, .string _, by simp [ActuatorState.ofTree?, ActuatorState.ofName?]⟩
  | unknown reported =>
    exact ⟨_, .object (.cons _ (.string _) .nil), by simp [ActuatorState.ofTree?]⟩

theorem recorded_status : Recorded ActuatorStatus := by
  intro status
  obtain ⟨tree, written, read⟩ := exists_written_state status.state
  refine ⟨_, .object (.cons _ (.string _) (.cons _ (.string _) (.cons _ written .nil))), ?_⟩
  simp [JsonRecord.ofTree?, ActuatorStatus.ofTree?, Tree.record?, Tree.decodedMembers?,
    Tree.field?, read]

theorem recorded_configuration : Recorded ConfigurationItem := by
  intro item
  refine ⟨_, .object (.cons _ (.string _) (.cons _ (written_textsValue _) .nil)), ?_⟩
  simp [JsonRecord.ofTree?, ConfigurationItem.ofTree?, Tree.record?, Tree.decodedMembers?,
    Tree.field?]

/-- What is encoded of a recorded value decodes to it. -/
theorem Recorded.decode?_encode {Value : Type} [JsonRecord Value] (recorded : Recorded Value)
    (value : Value) : Entry.decode? (Entry.encode value) = some value := by
  obtain ⟨tree, written, read⟩ := recorded value
  simp [Entry.decode?, Entry.encode, ofText?_of_written written, read]

/-- What is encoded of a value of any lane decodes to it. -/
theorem Lane.decode?_encode (lane : Lane) (value : lane.Value) :
    Entry.decode? (Entry.encode value) = some value := by
  cases lane with
  | readings => exact recorded_reading.decode?_encode value
  | alarms => exact recorded_alarm.decode?_encode value
  | statuses => exact recorded_status.decode?_encode value
  | configurations => exact recorded_configuration.decode?_encode value

end EdgeGateway
