import EdgeGateway.Payload.Basic
import EdgeGateway.Proofs.Json.Worth

/-!
# What a batch payload carries

The payload of a batch decodes to one object for each reading or alarm, in their order, and is the
payloads of the single values with commas between them. A reading without values is what keeps a
batch from being encoded, and the first one is the one that is named.
-/

namespace EdgeGateway.Payload

open EdgeGateway.Json

/-! ## Objects -/

/-- What the object of a timestamp and a text is read as: an unset timestamp is left out. -/
def rowValue (row : UInt64 × String) : Value :=
  .object <|
    ("data", .string row.2) ::
      if row.1 = 0 then [] else [("utc", .number (.integer row.1.toNat))]

/-- A timestamp is read again as itself. -/
theorem rereads_timestamp (depth : Nat) (timestamp : UInt64) :
    Value.Rereads depth (.number (.integer timestamp.toNat))
      (.number (.integer timestamp.toNat)) := by
  refine Value.rereads_number fun numeral spelled => ?_
  rw [spelled.unique (spelled_numeralOf _)]
  exact ofNumeral?_toNat timestamp

/-- A timestamp is written before the text and read behind it. -/
theorem rows_ofList_stamped (stamp text : Value) :
    (Table.ofList [("utc", stamp), ("data", text)]).rows = [("data", text), ("utc", stamp)] := by
  have before : "data" < "utc" := by decide
  change Table.insertRow "data" text [("utc", stamp)] = _
  rw [Table.insertRow, if_pos before]

/-- The object of a timestamp and a text is read again as their row. -/
theorem rereads_dataObject (depth : Nat) (timestamp : UInt64) (data : String) :
    Value.Rereads (depth + 1) (dataObject timestamp data) (rowValue (timestamp, data)) := by
  have text : Value.Rereads depth (.string data) (.string data) := Value.rereads_string data
  unfold dataObject rowValue
  by_cases unset : timestamp = 0
  · rw [if_pos unset]
    exact Value.rereads_object (.cons ⟨rfl, text⟩ .nil)
  · rw [if_neg unset]
    rw [← rows_ofList_stamped]
    exact Value.rereads_object (.cons ⟨rfl, rereads_timestamp depth timestamp⟩
      (.cons ⟨rfl, text⟩ .nil))

/-- Different rows are read as different objects. -/
theorem rowValue_injective : Function.Injective rowValue := by
  rintro ⟨timestamp, data⟩ ⟨other, text⟩ same
  simp only [rowValue, Value.object.injEq, List.cons.injEq, Prod.mk.injEq, Value.string.injEq,
    true_and] at same
  obtain ⟨rfl, stamped⟩ := same
  have stamps : timestamp = other := by
    split at stamped
    · rename_i unset
      split at stamped
      · rename_i alsoUnset
        rw [unset, alsoUnset]
      · cases stamped
    · split at stamped
      · cases stamped
      · simp only [List.cons.injEq, Prod.mk.injEq, Value.number.injEq, Number.integer.injEq,
          Int.natCast_inj, and_true, true_and] at stamped
        exact UInt64.toNat_inj.1 stamped
  rw [stamps]

/-! ## Batches -/

/-- The timestamp and the text that a reading is sent with. -/
def readingRow (reading : Reading) : UInt64 × String :=
  (reading.timestamp, ",".intercalate reading.values)

/-- The timestamp and the text that an alarm is sent with. -/
def alarmRow (alarm : Alarm) : UInt64 × String :=
  (alarm.timestamp, if alarm.active then "ON" else "OFF")

/-- The object of a timestamp and a text, as it is written. -/
def rowObject (row : UInt64 × String) : Value := dataObject row.1 row.2

/-- What a batch payload says: it decodes to the rows in their order, without any other field, and
is the given single payloads with commas between them. -/
structure Lists (payload : String) (rows : List (UInt64 × String)) (singles : List String) :
    Prop where
  decodes : Value.ofText? payload = some (.array (rows.map rowValue))
  pieces : payload = "[" ++ ",".intercalate singles ++ "]"

/-- A payload lists one sequence of rows. -/
theorem Lists.rows_unique {payload : String} {rows others : List (UInt64 × String)}
    {singles pieces : List String} (lists : Lists payload rows singles)
    (also : Lists payload others pieces) : rows = others := by
  have same := lists.decodes.symm.trans also.decodes
  simp only [Option.some.injEq, Value.array.injEq] at same
  exact rowValue_injective.list_map same

/-- The array of the objects of rows lists them. -/
theorem lists_rowObjects (rows : List (UInt64 × String)) :
    Lists (Value.array (rows.map rowObject)).text rows (rows.map fun row => (rowObject row).text) := by
  have all : List.Forall₂ (Value.Rereads 126) (rows.map rowObject) (rows.map rowValue) := by
    rw [List.forall₂_map_left_iff, List.forall₂_map_right_iff, List.forall₂_same]
    exact fun row _ => rereads_dataObject 125 row.1 row.2
  refine ⟨(Value.rereads_array all).ofText?, ?_⟩
  rw [text_array, List.map_map]
  rfl

/-- Readings are encoded one by one, up to the first without values. -/
theorem mapM_readingValue (readings : List Reading) :
    readings.mapM readingValue =
      match readings.find? (·.values = []) with
      | some reading => .error (.encode (.emptyReading reading.reference))
      | none => .ok (readings.map (rowObject ∘ readingRow)) := by
  induction readings with
  | nil => rfl
  | cons reading readings inductionHypothesis =>
    rw [List.mapM_cons, inductionHypothesis]
    by_cases empty : reading.values = []
    · rw [readingValue, joinedValues, if_pos empty, List.find?_cons_of_pos (by simpa using empty)]
      rfl
    · rw [readingValue, joinedValues, if_neg empty, List.find?_cons_of_neg (by simpa using empty)]
      cases readings.find? (·.values = []) with
      | some first => rfl
      | none => rfl

/-- The payload of readings, or the error that names the first of them without values. -/
theorem ofReadings_eq (readings : List Reading) :
    ofReadings readings =
      match readings.find? (·.values = []) with
      | some reading => .error (.encode (.emptyReading reading.reference))
      | none => .ok (Value.array ((readings.map readingRow).map rowObject)).text := by
  rw [ofReadings, mapM_readingValue]
  cases readings.find? (·.values = []) with
  | some reading => rfl
  | none =>
    rw [List.map_map]
    rfl

/-- Readings have a payload together exactly if each of them has values. -/
theorem exists_ofReadings_iff {batch : List Reading} :
    (∃ payload, ofReadings batch = .ok payload) ↔ ∀ reading ∈ batch, reading.values ≠ [] := by
  rw [ofReadings_eq]
  cases first : batch.find? (·.values = []) with
  | some reading =>
    have empty : reading.values = [] := by simpa using List.find?_some first
    have member := List.mem_of_find?_eq_some first
    exact iff_of_false (by rintro ⟨payload, ⟨⟩⟩) fun filled => filled reading member empty
  | none =>
    refine iff_of_true ⟨_, rfl⟩ fun reading member empty => ?_
    exact List.find?_eq_none.1 first reading member (decide_eq_true empty)

/-- A reading with values has a payload of its own. -/
theorem ofReading_eq {reading : Reading} (filled : reading.values ≠ []) :
    ofReading reading = .ok (rowObject (readingRow reading)).text := by
  rw [ofReading, readingValue, joinedValues, if_neg filled]
  rfl

/-- A batch of either kind has been encoded: the rows that are sent, and the payload. -/
inductive Encodes : List (UInt64 × String) → String → Prop where
  | readings {batch : List Reading} {payload : String} (built : ofReadings batch = .ok payload) :
      Encodes (batch.map readingRow) payload
  | alarms {batch : List Alarm} {payload : String} (built : ofAlarms batch = .ok payload) :
      Encodes (batch.map alarmRow) payload

/-- The payload of readings lists them, each as the payload that it has alone. -/
theorem lists_ofReadings {readings : List Reading} {payload : String}
    (built : ofReadings readings = .ok payload) :
    ∃ singles, readings.map ofReading = singles.map .ok ∧
      Lists payload (readings.map readingRow) singles := by
  have filled := exists_ofReadings_iff.1 ⟨payload, built⟩
  rw [ofReadings_eq] at built
  cases first : readings.find? (·.values = []) with
  | some reading =>
    rw [first] at built
    cases built
  | none =>
    rw [first] at built
    cases built
    refine ⟨_, ?_, lists_rowObjects _⟩
    rw [List.map_map, List.map_map]
    exact List.map_congr_left fun reading member => ofReading_eq (filled reading member)

/-- The payload of alarms lists them, each as the payload that it has alone. -/
theorem lists_ofAlarms (alarms : List Alarm) :
    ∃ payload singles, ofAlarms alarms = .ok payload ∧ alarms.map ofAlarm = singles.map .ok ∧
      Lists payload (alarms.map alarmRow) singles := by
  have lists := lists_rowObjects (alarms.map alarmRow)
  rw [List.map_map] at lists
  refine ⟨_, _, rfl, ?_, lists⟩
  rw [List.map_map, List.map_map]
  rfl

/-- An encoded batch lists its rows. -/
theorem Encodes.lists {rows : List (UInt64 × String)} {payload : String}
    (encodes : Encodes rows payload) : ∃ singles, Lists payload rows singles := by
  cases encodes with
  | readings built =>
    obtain ⟨singles, -, lists⟩ := lists_ofReadings built
    exact ⟨singles, lists⟩
  | @alarms batch _ built =>
    obtain ⟨payload, singles, same, -, lists⟩ := lists_ofAlarms batch
    obtain rfl := Except.ok.inj (built.symm.trans same)
    exact ⟨singles, lists⟩

/-- Batches of readings are encoded unless a reading has no values, and then the first such reading
is named; batches of alarms are always encoded. The payload lists the values one by one, each with
its timestamp only where one is set, and so tells batches apart by their timestamps and texts. -/
theorem batch_lossless :
    (∀ readings : List Reading,
      ((∃ cause, ofReadings readings = .error cause) ↔
        ∃ reading ∈ readings, reading.values = []) ∧
      match readings.find? (·.values = []) with
      | some reading => ofReadings readings = .error (.encode (.emptyReading reading.reference))
      | none => ∃ payload singles, ofReadings readings = .ok payload ∧
          readings.map ofReading = singles.map .ok ∧
          Lists payload (readings.map readingRow) singles) ∧
    (∀ alarms : List Alarm, ∃ payload singles, ofAlarms alarms = .ok payload ∧
      alarms.map ofAlarm = singles.map .ok ∧ Lists payload (alarms.map alarmRow) singles) ∧
    ∀ rows others payload, Encodes rows payload → Encodes others payload → rows = others := by
  refine ⟨fun readings => ⟨?_, ?_⟩, lists_ofAlarms, fun rows others payload encodes also => ?_⟩
  · constructor
    · rintro ⟨cause, failed⟩
      by_contra filled
      obtain ⟨payload, built⟩ := exists_ofReadings_iff.2 (by simpa using filled)
      rw [built] at failed
      cases failed
    · rintro ⟨reading, member, empty⟩
      cases outcome : ofReadings readings with
      | error cause => exact ⟨cause, rfl⟩
      | ok payload => exact absurd empty (exists_ofReadings_iff.1 ⟨payload, outcome⟩ reading member)
  · cases first : readings.find? (·.values = []) with
    | some reading =>
      dsimp only
      rw [ofReadings_eq, first]
    | none =>
      have built := ofReadings_eq readings
      rw [first] at built
      obtain ⟨singles, same, lists⟩ := lists_ofReadings built
      exact ⟨_, singles, built, same, lists⟩
  · obtain ⟨singles, lists⟩ := encodes.lists
    obtain ⟨pieces, alsoLists⟩ := also.lists
    exact lists.rows_unique alsoLists

/-- How a reading's text is split into values makes no difference to the payload, and none to what
is told apart. -/
theorem batch_lossless_of_split_values :
    ofReadings [⟨"T", ["1", "2"], 5⟩] = .ok "[\x7b\"utc\":5,\"data\":\"1,2\"\x7d]" ∧
      ofReadings [⟨"T", ["1,2"], 5⟩] = .ok "[\x7b\"utc\":5,\"data\":\"1,2\"\x7d]" ∧
      [readingRow ⟨"T", ["1", "2"], 5⟩] = [readingRow ⟨"T", ["1,2"], 5⟩] := by
  have first : ofReadings [⟨"T", ["1", "2"], 5⟩] =
      .ok "[\x7b\"utc\":5,\"data\":\"1,2\"\x7d]" := by rfl
  have second : ofReadings [⟨"T", ["1,2"], 5⟩] =
      .ok "[\x7b\"utc\":5,\"data\":\"1,2\"\x7d]" := by rfl
  exact ⟨first, second, batch_lossless.2.2 _ _ _ (.readings first) (.readings second)⟩

end EdgeGateway.Payload
