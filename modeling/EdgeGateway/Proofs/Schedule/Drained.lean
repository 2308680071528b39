import EdgeGateway.Proofs.Schedule.Fifo
import EdgeGateway.Proofs.Schedule.Slot

/-!
# What a drained key has delivered

When nothing waits under a key any more, everything that was put has been settled. If messages can
be built, it was accepted: in a queue every value in its batch, in the order of the puts
(`KeyRun.delivered_of_drained`), and in a slot the newest value last (`KeyRun.last_of_drained`).
-/

namespace EdgeGateway.Schedule

variable {Value : Type} {rules : KeyRules Value} {events : List (KeyEvent Value)}
  {state : KeyState Value}

/-- Every batch that was accepted may be taken up, and its message is built of it. -/
theorem KeyRun.admits_of_mem_acceptances (run : KeyRun rules events state) {batch : List Value}
    {message : Message} (accepted : (batch, message) ∈ acceptances events) :
    rules.Admits batch ∧ rules.build batch = .ok message := by
  obtain ⟨event, member, selected⟩ := List.mem_filterMap.1 accepted
  have admitted := run.admits.1 event member
  cases event with
  | accepted other sent =>
    cases selected
    exact admitted
  | _ => cases selected

/-- If no batch was given up, the batches that were settled are those that were accepted. -/
theorem settlements_eq_of_undropped (undropped : ∀ batch, .dropped batch ∉ events) :
    settlements events = (acceptances events).map Prod.fst := by
  unfold settlements acceptances
  rw [List.map_filterMap]
  refine List.filterMap_congr fun event member => ?_
  cases event with
  | dropped batch => exact absurd member (undropped batch)
  | _ => rfl

/-- No batch is in flight from an empty queue. -/
theorem KeyRun.settling_eq_nil (run : KeyRun rules events state) (fifo : rules.retention = .fifo)
    (drained : state.queue = []) : state.settling = [] := by
  obtain ⟨queue, flight?⟩ := state
  obtain rfl : queue = [] := drained
  match flight? with
  | none => rfl
  | some (.offered batch message) => rfl
  | some (.settled batch) =>
    have front : batch <+: [] := (run.fifoLedger fifo).front batch (List.mem_singleton.2 rfl)
    have admitted : rules.Admits batch := run.admits.2 _ rfl
    exact absurd (List.prefix_nil.1 front) admitted.1

/-- Once nothing waits in a queue, its values have been accepted in the order in which they were
put, if a message can be built of every batch of them. -/
theorem KeyRun.delivered_of_drained (run : KeyRun rules events state)
    (fifo : rules.retention = .fifo) (drained : state.queue = [])
    (buildable : ∀ batch, batch ≠ [] → (∀ value ∈ batch, value ∈ puts events) →
      ∃ message, rules.build batch = .ok message) :
    delivered events = puts events := by
  have ledger := run.fifoLedger fifo
  have conserved : puts events = (removals events).flatten := by
    rw [ledger.conserved, drained, List.append_nil]
  have settled : settlements events = removals events := by
    rw [ledger.settled, run.settling_eq_nil fifo drained, List.append_nil]
  have undropped : ∀ batch, .dropped batch ∉ events := by
    intro batch dropped
    obtain ⟨⟨nonempty, -⟩, cause, unbuilt⟩ := run.admits.1 _ dropped
    have removed : batch ∈ removals events := by
      rw [← settled]
      exact List.mem_filterMap.2 ⟨_, dropped, rfl⟩
    obtain ⟨message, built⟩ := buildable batch nonempty fun value member => by
      rw [conserved]
      exact List.mem_flatten.2 ⟨batch, removed, member⟩
    rw [unbuilt] at built
    cases built
  calc
    delivered events = ((acceptances events).map Prod.fst).flatten := List.flatMap_def
    _ = (removals events).flatten := by rw [← settlements_eq_of_undropped undropped, settled]
    _ = puts events := conserved.symm

/-- Once nothing waits in a slot, its newest value has been accepted last, if a message can be built
of it. -/
theorem KeyRun.last_of_drained (run : KeyRun rules events state)
    (slot : rules.retention = .lastValue) (single : rules.limit = 1) (drained : state.queue = [])
    {value : Value} (newest : (puts events).getLast? = some value) {message : Message}
    (built : rules.build [value] = .ok message) :
    (acceptances events).getLast? = some ([value], message) := by
  have ledger := run.slotLedger slot single
  rw [← puts_track] at newest
  have last : (delivered events).getLast? = some value := by
    rw [← delivered_track]
    refine (ledger.exhausted drained value newest).resolve_right ?_
    rintro ⟨cause, unbuilt⟩
    rw [unbuilt] at built
    cases built
  rcases List.eq_nil_or_concat (acceptances events) with none | ⟨earlier, ⟨batch, sent⟩, accepted⟩
  · rw [delivered, none] at last
    cases last
  · rw [List.concat_eq_append] at accepted
    have member : (batch, sent) ∈ acceptances events := by simp [accepted]
    obtain ⟨⟨nonempty, bounded⟩, builtLast⟩ := run.admits_of_mem_acceptances member
    rw [single] at bounded
    obtain ⟨only, rfl⟩ : ∃ only, batch = [only] :=
      List.length_eq_one_iff.1 (Nat.le_antisymm bounded (List.length_pos_iff.2 nonempty))
    obtain rfl : only = value := by simpa [delivered, accepted] using last
    rw [built] at builtLast
    cases builtLast
    rw [accepted, List.getLast?_concat]

end EdgeGateway.Schedule
