import EdgeGateway.Proofs.CommandLine.Publishable
import EdgeGateway.Proofs.Drain.Gate

/-!
# What becomes of the batches of a key

A pass takes the queue of a key in consecutive parts of a limited size (`chunks`). Each part has a
fate, which the profile and a sink that judges by the message alone decide between them: it is
dropped, sent or refused. The parts up to the first that is refused are taken up, and that one and
all behind it are kept.

`exists_batchMessage_iff` says for which batches there is a message: those whose reference forms a
channel, unless a reading or a configuration item among them has no values.
-/

namespace EdgeGateway

/-! ## Cutting a queue -/

/-- A list cut from the front into consecutive parts of a size, the last of which may be shorter. A
part has a value at least, whatever the size. -/
def chunks {Value : Type} (size : Nat) : List Value → List (List Value)
  | [] => []
  | value :: values => (value :: values.take (size - 1)) :: chunks size (values.drop (size - 1))
termination_by values => values.length
decreasing_by
  rw [List.length_drop, List.length_cons]
  omega

section Chunks

variable {Value : Type} {size : Nat} {values chunk : List Value}

/-- The first part is the front of the list. -/
theorem chunks_of_ne_nil (positive : 0 < size) (filled : values ≠ []) :
    chunks size values = values.take size :: chunks size (values.drop size) := by
  obtain ⟨value, values, rfl⟩ := List.exists_cons_of_ne_nil filled
  obtain ⟨less, rfl⟩ := Nat.exists_eq_add_of_lt positive
  rw [chunks]
  simp

/-- The parts together are the list. -/
@[simp] theorem flatten_chunks (size : Nat) (values : List Value) :
    (chunks size values).flatten = values := by
  fun_induction chunks size values with
  | case1 => rfl
  | case2 value values inductionHypothesis =>
    rw [List.flatten_cons, inductionHypothesis, List.cons_append, List.take_append_drop]

/-- Only the empty list has no parts. -/
@[simp] theorem chunks_eq_nil_iff : chunks size values = [] ↔ values = [] := by
  cases values with
  | nil => simp [chunks]
  | cons value values => simp [chunks]

/-- No part is empty. -/
theorem ne_nil_of_mem_chunks (member : chunk ∈ chunks size values) : chunk ≠ [] := by
  fun_induction chunks size values with
  | case1 => cases member
  | case2 value values inductionHypothesis =>
    rcases List.mem_cons.1 member with rfl | later
    · exact List.cons_ne_nil _ _
    · exact inductionHypothesis later

/-- No part is longer than the size. -/
theorem length_le_of_mem_chunks (positive : 0 < size) (member : chunk ∈ chunks size values) :
    chunk.length ≤ size := by
  fun_induction chunks size values with
  | case1 => cases member
  | case2 value values inductionHypothesis =>
    rcases List.mem_cons.1 member with rfl | later
    · rw [List.length_cons, List.length_take]
      omega
    · exact inductionHypothesis later

/-- Every part but the last has the size. -/
theorem length_of_mem_dropLast_chunks (positive : 0 < size)
    (member : chunk ∈ (chunks size values).dropLast) : chunk.length = size := by
  fun_induction chunks size values with
  | case1 => cases member
  | case2 value values inductionHypothesis =>
    by_cases last : values.drop (size - 1) = []
    · rw [chunks_eq_nil_iff.2 last] at member
      cases member
    · rw [List.dropLast_cons_of_ne_nil (mt chunks_eq_nil_iff.1 last)] at member
      rcases List.mem_cons.1 member with rfl | later
      · have longer : size - 1 < values.length := by
          by_contra shorter
          exact last (List.drop_eq_nil_of_le (Nat.le_of_not_lt shorter))
        rw [List.length_cons, List.length_take]
        omega
      · exact inductionHypothesis later

end Chunks

/-! ## Batches with a message -/

/-- A configuration item has a payload exactly if it has values. -/
theorem Payload.exists_ofConfiguration_iff {item : ConfigurationItem} :
    (∃ payload, ofConfiguration item = .ok payload) ↔ item.values ≠ [] := by
  unfold ofConfiguration joinedValues
  split
  · rename_i empty
    exact iff_of_false (by rintro ⟨payload, ⟨⟩⟩) (not_not_intro empty)
  · rename_i filled
    exact iff_of_true ⟨_, rfl⟩ filled

/-- There is a message for a reference that forms a channel and a payload, and for nothing else. -/
theorem Outbound.exists_message_iff (profile : Profile) (lane : Lane) (reference : String)
    (payload : Except PayloadError String) :
    (∃ message,
        Outbound.message lane.kind profile.ownAddressing reference payload = .ok message) ↔
      (∃ found, Address.parse (profile.channel lane reference) = .ok found) ∧
        ∃ text, payload = .ok text := by
  simp only [Outbound.message_eq_ok_iff, ← channel_ownAddressing, Address.parse_eq_ok_iff]
  constructor
  · rintro ⟨message, parses, -, encoded⟩
    exact ⟨parses, _, encoded⟩
  · rintro ⟨parses, text, encoded⟩
    exact ⟨⟨_, text⟩, parses, rfl, encoded⟩

/-- A batch that a pass may take up has a message exactly if each of its values is bound for a
reference that forms a channel and has a payload. -/
theorem exists_batchMessage_iff {profile : Profile} {lane : Lane} {key : String}
    {batch : List lane.Value} (filled : batch ≠ [])
    (limited : batch.length ≤ profile.batchLimit lane) :
    (∃ message, profile.batchMessage lane key batch = .ok message) ↔
      ∀ value ∈ batch,
        (∃ found, Address.parse (profile.channel lane (lane.destination key value)) = .ok found) ∧
          lane.Carries value := by
  -- Readings and alarms share the reference of their key; the other lanes have one value at most.
  obtain ⟨first, later, rfl⟩ := List.exists_cons_of_ne_nil filled
  have alone : (first :: later).length ≤ 1 → later = [] := fun single =>
    List.length_eq_zero_iff.1 (Nat.le_zero.1 (Nat.le_of_succ_le_succ single))
  cases lane with
  | readings =>
    have built : profile.batchMessage .readings key (first :: later) =
        Outbound.message Lane.readings.kind profile.ownAddressing key
          (Payload.ofReadings (first :: later)) := rfl
    rw [built, Outbound.exists_message_iff, Payload.exists_ofReadings_iff]
    exact ⟨fun ⟨parses, carries⟩ value member => ⟨parses, carries value member⟩,
      fun own => ⟨(own first List.mem_cons_self).1, fun value member => (own value member).2⟩⟩
  | alarms =>
    have built : profile.batchMessage .alarms key (first :: later) =
        Outbound.message Lane.alarms.kind profile.ownAddressing key
          (Payload.ofAlarms (first :: later)) := rfl
    rw [built, Outbound.exists_message_iff]
    exact ⟨fun ⟨parses, _⟩ value member => ⟨parses, trivial⟩,
      fun own => ⟨(own first List.mem_cons_self).1, _, rfl⟩⟩
  | statuses =>
    obtain rfl : later = [] := alone limited
    have built : profile.batchMessage .statuses key [first] =
        Outbound.message Lane.statuses.kind profile.ownAddressing (Lane.statuses.reference first)
          (Payload.ofStatus first) := rfl
    rw [built, Outbound.exists_message_iff, List.forall_mem_singleton]
    exact and_congr_right fun _ => iff_of_true ⟨_, rfl⟩ trivial
  | configurations =>
    obtain rfl : later = [] := alone limited
    have built : profile.batchMessage .configurations key [first] =
        Outbound.message Lane.configurations.kind profile.ownAddressing
          (Lane.configurations.reference first) (Payload.ofConfiguration first) := rfl
    rw [built, Outbound.exists_message_iff, List.forall_mem_singleton,
      Payload.exists_ofConfiguration_iff]
    rfl

namespace Drain

/-! ## Fates -/

/-- What becomes of a batch that is taken up. -/
inductive Fate where
  /-- There is no message for it. It is removed. -/
  | dropped
  /-- Its message is accepted. It is removed. -/
  | sent (message : Message)
  /-- Its message is refused. It stays. -/
  | refused (message : Message)
  deriving DecidableEq

namespace Fate

/-- Whether a batch with this fate is removed. -/
def removes : Fate → Bool
  | dropped | sent _ => true
  | refused _ => false

/-- What a pass does with a batch of this fate. -/
def deeds (lane : Lane) (key : String) (batch : List lane.Value) : Fate → List Deed
  | dropped => [.asked true, .removed lane key batch]
  | sent message => [.asked true, .offered message true, .removed lane key batch]
  | refused message => [.asked true, .offered message false]

end Fate

namespace Report

/-- The report of batches with these fates. -/
def ofFates (fates : List Fate) : Report where
  published := fates.countP (· matches .sent _)
  failed := fates.countP (· matches .refused _)
  dropped := fates.countP (· matches .dropped)

/-- No batches, no change. -/
@[simp] theorem merge_ofFates_nil (report : Report) : report.merge (ofFates []) = report := rfl

/-- Batches are reported one after another. -/
theorem merge_ofFates_append (report : Report) (first second : List Fate) :
    report.merge (ofFates (first ++ second)) =
      (report.merge (ofFates first)).merge (ofFates second) := by
  simp [merge, ofFates, List.countP_append, Nat.add_assoc]

end Report

section Key

variable (profile : Profile) (accepts : Message → Bool) (lane : Lane) (key : String)

/-- What becomes of a batch if a sink judges by the message alone. -/
def fate (batch : List lane.Value) : Fate :=
  match profile.batchMessage lane key batch with
  | .error _ => .dropped
  | .ok message => if accepts message then .sent message else .refused message

/-- Whether a batch that is taken up leaves its queue. -/
def departs (batch : List lane.Value) : Bool := (fate profile accepts lane key batch).removes

/-- The batches that are kept: the first that is refused, and all behind it. -/
def kept (batches : List (List lane.Value)) : List (List lane.Value) :=
  batches.dropWhile (departs profile accepts lane key)

/-- The batches that are taken up: all up to the first that is refused. -/
def taken (batches : List (List lane.Value)) : List (List lane.Value) :=
  batches.takeWhile (departs profile accepts lane key) ++
    (kept profile accepts lane key batches).take 1

/-- The fates of the batches that are taken up. -/
def fates (batches : List (List lane.Value)) : List Fate :=
  (taken profile accepts lane key batches).map (fate profile accepts lane key)

/-- What a pass does for a key. Once all batches are removed it asks once more and finds nothing. -/
def keyDeeds (batches : List (List lane.Value)) : List Deed :=
  (taken profile accepts lane key batches).flatMap
      (fun batch => (fate profile accepts lane key batch).deeds lane key batch) ++
    if kept profile accepts lane key batches = [] then [.asked true] else []

end Key

section Cons

variable {profile : Profile} {accepts : Message → Bool} {lane : Lane} {key : String}
  {batch : List lane.Value}

variable (profile accepts lane key batch) in
/-- A batch without a message is dropped, and one with a message fares as the message does. -/
theorem fate_cases :
    (∃ cause, profile.batchMessage lane key batch = .error cause ∧
        fate profile accepts lane key batch = .dropped) ∨
      (∃ message, profile.batchMessage lane key batch = .ok message ∧ accepts message = true ∧
        fate profile accepts lane key batch = .sent message) ∨
      ∃ message, profile.batchMessage lane key batch = .ok message ∧ accepts message = false ∧
        fate profile accepts lane key batch = .refused message := by
  unfold fate
  cases profile.batchMessage lane key batch with
  | error cause => exact .inl ⟨cause, rfl, rfl⟩
  | ok message =>
    cases accepted : accepts message with
    | true => exact .inr (.inl ⟨message, rfl, accepted, if_pos accepted⟩)
    | false => exact .inr (.inr ⟨message, rfl, accepted, if_neg (Bool.eq_false_iff.1 accepted)⟩)

/-- Behind a batch that leaves its queue, a key goes on. -/
theorem kept_of_departs (departs : departs profile accepts lane key batch = true)
    (later : List (List lane.Value)) :
    kept profile accepts lane key (batch :: later) = kept profile accepts lane key later :=
  List.dropWhile_cons_of_pos departs

/-- A batch that leaves its queue is taken up. -/
theorem taken_of_departs (departs : departs profile accepts lane key batch = true)
    (later : List (List lane.Value)) :
    taken profile accepts lane key (batch :: later) =
      batch :: taken profile accepts lane key later := by
  rw [taken, List.takeWhile_cons_of_pos departs, kept_of_departs departs]
  rfl

/-- The fate of a batch that leaves its queue comes first. -/
theorem fates_of_departs (departs : departs profile accepts lane key batch = true)
    (later : List (List lane.Value)) :
    fates profile accepts lane key (batch :: later) =
      [fate profile accepts lane key batch] ++ fates profile accepts lane key later := by
  rw [fates, taken_of_departs departs]
  rfl

/-- A pass takes a batch that leaves its queue through, and then the others. -/
theorem keyDeeds_of_departs (departs : departs profile accepts lane key batch = true)
    (later : List (List lane.Value)) :
    keyDeeds profile accepts lane key (batch :: later) =
      (fate profile accepts lane key batch).deeds lane key batch ++
        keyDeeds profile accepts lane key later := by
  rw [keyDeeds, taken_of_departs departs, kept_of_departs departs, List.flatMap_cons,
    List.append_assoc]
  rfl

/-- A batch that is refused ends its key. -/
theorem kept_of_stays (stays : departs profile accepts lane key batch = false)
    (later : List (List lane.Value)) :
    kept profile accepts lane key (batch :: later) = batch :: later :=
  List.dropWhile_cons_of_neg (Bool.eq_false_iff.1 stays)

/-- A batch that is refused is the last that is taken up. -/
theorem taken_of_stays (stays : departs profile accepts lane key batch = false)
    (later : List (List lane.Value)) :
    taken profile accepts lane key (batch :: later) = [batch] := by
  rw [taken, List.takeWhile_cons_of_neg (Bool.eq_false_iff.1 stays), kept_of_stays stays]
  rfl

/-- The fate of a batch that is refused is the last. -/
theorem fates_of_stays (stays : departs profile accepts lane key batch = false)
    (later : List (List lane.Value)) :
    fates profile accepts lane key (batch :: later) = [fate profile accepts lane key batch] := by
  rw [fates, taken_of_stays stays]
  rfl

/-- A pass leaves a key once a batch is refused. -/
theorem keyDeeds_of_stays (stays : departs profile accepts lane key batch = false)
    (later : List (List lane.Value)) :
    keyDeeds profile accepts lane key (batch :: later) =
      (fate profile accepts lane key batch).deeds lane key batch := by
  rw [keyDeeds, taken_of_stays stays, kept_of_stays stays, List.flatMap_singleton, if_neg nofun,
    List.append_nil]

end Cons

end Drain

end EdgeGateway
