import EdgeGateway.Proofs.Schedule.Batch
import EdgeGateway.Proofs.Schedule.View

/-!
# Queues lose nothing

In a lane that queues up its values, what was put under a key is what was removed from it followed
by what waits, in the same order. Batches are removed in the order in which they were settled, each
of them once, and a batch that a sink refused stays in front. `FifoLedger` is the invariant that
says so of one key; it needs that the batch in flight is the front of its queue.
-/

namespace EdgeGateway.Schedule

section Key

variable {Value : Type} {rules : KeyRules Value} {events : List (KeyEvent Value)}
  {state next : KeyState Value} {event : KeyEvent Value}

/-- The account of a queue: what was put under it against what was taken from it. -/
structure FifoLedger (events : List (KeyEvent Value)) (state : KeyState Value) : Prop where
  /-- What was put was removed or waits. -/
  conserved : puts events = (removals events).flatten ++ state.queue
  /-- What was settled was removed or is about to be. -/
  settled : settlements events = removals events ++ state.settling
  /-- The batch in flight is the front of the queue. -/
  front : ∀ batch ∈ state.flying, batch <+: state.queue

/-- Nothing is owed to a fresh queue. -/
theorem fifoLedger_fresh : FifoLedger ([] : List (KeyEvent Value)) {} where
  conserved := rfl
  settled := rfl
  front := nofun

/-- Every step of a queue keeps its account. -/
theorem FifoLedger.preserved (ledger : FifoLedger events state) (fifo : rules.retention = .fifo)
    (stepped : KeyStep rules state event next) : FifoLedger (events ++ [event]) next := by
  obtain ⟨conserved, settled, front⟩ := ledger
  cases stepped with
  | @put queue flight? value =>
    have pushed : rules.retention.push queue value = queue ++ [value] := by rw [fifo]; rfl
    rw [pushed]
    refine ⟨?_, ?_, ?_⟩
    · simp [conserved]
    · simpa [KeyState.settling] using settled
    · intro batch flying
      exact (front batch flying).trans (List.prefix_append queue [value])
  | @looked queue batch message taken nonempty built =>
    refine ⟨by simpa using conserved, by simpa [KeyState.settling] using settled, ?_⟩
    intro _ flying
    rw [List.mem_singleton.1 flying, ← taken]
    exact List.take_prefix rules.limit queue
  | @dropped queue batch cause taken nonempty unbuilt =>
    refine ⟨by simpa using conserved, by simpa [KeyState.settling] using settled, ?_⟩
    intro _ flying
    rw [List.mem_singleton.1 flying, ← taken]
    exact List.take_prefix rules.limit queue
  | accepted =>
    exact ⟨by simpa using conserved, by simpa [KeyState.settling] using settled, front⟩
  | refused =>
    exact ⟨by simpa using conserved, by simpa [KeyState.settling] using settled, nofun⟩
  | @removed queue batch taken =>
    have parted : batch ++ queue.drop batch.length = queue := by
      have whole := List.take_append_drop batch.length queue
      rw [taken] at whole
      exact whole
    refine ⟨?_, by simpa [KeyState.settling] using settled, nofun⟩
    rw [puts_concat, removals_concat, conserved]
    simp [parted]
  | @kept queue batch changed =>
    have prefixed : batch <+: queue := front batch (List.mem_singleton.2 rfl)
    exact absurd (List.prefix_iff_eq_take.1 prefixed).symm changed

/-- Every run of a queue keeps its account. -/
theorem KeyRun.fifoLedger (run : KeyRun rules events state) (fifo : rules.retention = .fifo) :
    FifoLedger events state := by
  induction run with
  | fresh => exact fifoLedger_fresh
  | step run stepped inductionHypothesis => exact inductionHypothesis.preserved fifo stepped

/-- A batch that a sink refused stays in front until something is removed. -/
theorem KeyRun.refused_prefix {before after : List (KeyEvent Value)} {batch : List Value}
    {message : Message} (run : KeyRun rules (before ++ .refused batch message :: after) state)
    (fifo : rules.retention = .fifo) (unremoved : removals after = []) :
    batch <+: state.queue := by
  rw [List.append_cons] at run
  -- At the refusal the batch is in front; afterwards values are only put.
  obtain ⟨refusal, runBefore⟩ := run.before
  have front : batch <+: refusal.queue := by
    generalize happened : before ++ [KeyEvent.refused batch message] = events at runBefore
    cases runBefore with
    | fresh => simp at happened
    | step earlier stepped =>
      obtain ⟨rfl, last⟩ := List.append_inj' happened rfl
      obtain rfl := List.singleton_inj.1 last
      cases stepped with
      | refused => exact (earlier.fifoLedger fifo).front batch (List.mem_singleton.2 rfl)
  have conservedBefore := (runBefore.fifoLedger fifo).conserved
  have conserved := (run.fifoLedger fifo).conserved
  have grown : state.queue = refusal.queue ++ puts after := by
    rw [puts_append, removals_append, conservedBefore, unremoved, List.append_nil,
      List.append_assoc] at conserved
    exact (List.append_cancel_left conserved).symm
  rw [grown]
  exact front.trans (List.prefix_append refusal.queue (puts after))

end Key

variable {profile : Profile} {events : List Event} {system : System}

/-- **Conservation of queues.** Let anything happen around an outbox in any order. In a lane that
queues up its values, under every key:

* what was put is, in order, what the removed batches hold followed by what waits;
* every removed batch has between one value and as many as the batch size allows;
* batches are removed in the order in which they were settled, that is accepted by a sink or given
  up, each as often as it was settled; only a batch that a pass is about to acknowledge may be
  settled and not removed yet;
* a batch is accepted with the message that is built of it, and given up only if none can be built;
* a batch that was refused is the front of what waits until something is removed.

The report of every pass counts the batches that it has had accepted, refused or given up. -/
theorem Run.conserves_queues (run : Run profile events system) {lane : Lane}
    (fifo : lane.retention = .fifo) (key : String) :
    puts (history lane key events) =
        (removals (history lane key events)).flatten ++ system.outbox.queue lane key ∧
      (∀ batch ∈ removals (history lane key events),
        1 ≤ batch.length ∧ batch.length ≤ max profile.batchSize 1) ∧
      (∃ settling, settlements (history lane key events) =
          removals (history lane key events) ++ settling ∧ settling.length ≤ 1 ∧
        ∀ batch ∈ settling, ∃ agent later,
          (system.pass agent).stage = .acknowledge lane key later batch) ∧
      (∀ batch message, .accepted batch message ∈ history lane key events →
        profile.batchMessage lane key batch = .ok message) ∧
      (∀ batch, .dropped batch ∈ history lane key events →
        ∃ cause, profile.batchMessage lane key batch = .error cause) ∧
      (∀ before batch message after,
        history lane key events = before ++ .refused batch message :: after →
          removals after = [] → batch <+: system.outbox.queue lane key) ∧
      ∀ agent, (system.pass agent).report = tally agent events := by
  have keyRun := run.keyRun lane key
  have ledger := keyRun.fifoLedger fifo
  obtain ⟨happened, -⟩ := keyRun.admits
  have limit : (keyRules profile lane key).limit = max profile.batchSize 1 := by
    cases lane <;> first | rfl | cases fifo
  refine ⟨ledger.conserved, ?_, ⟨_, ledger.settled, ?_, ?_⟩, ?_, ?_, ?_, run.report_eq_tally⟩
  · intro batch removed
    have admitted := keyRun.admits_of_mem_removals removed
    rw [← limit]
    exact ⟨List.length_pos_iff.2 admitted.1, admitted.2⟩
  · exact KeyState.length_settling_le _
  · intro batch settling
    exact System.exists_acknowledge_of_settling settling
  · intro batch message accepted
    exact (happened _ accepted).2
  · intro batch dropped
    exact (happened _ dropped).2
  · intro before batch message after same unremoved
    rw [same] at keyRun
    exact keyRun.refused_prefix fifo unremoved

/-- A gateway that publishes two alarms at a time. -/
def pairingGateway : Profile := { gatewayKey := "gateway", batchSize := 2 }

/-- Three alarms are put. One caller's sink refuses the first two while a fourth alarm is put, and
another caller's sink accepts them. -/
def refusalSchedule : List Move :=
  [.put .alarms "door" ⟨"door", true, 1⟩, .put .alarms "door" ⟨"door", false, 2⟩,
    .put .alarms "door" ⟨"door", true, 3⟩,
    .call 0 [.alarms], .drain 0 true, .drain 0 true, .drain 0 true,
    .put .alarms "door" ⟨"door", false, 4⟩, .drain 0 false,
    .call 1 [.alarms], .drain 1 true, .drain 1 true, .drain 1 true, .drain 1 true, .drain 1 true]

/-- The refused alarms are removed once they are accepted, and the other two wait in order. -/
theorem conserves_queues_of_refusalSchedule :
    ∃ events system, System.fresh.perform pairingGateway refusalSchedule = some (events, system) ∧
      removals (history .alarms "door" events) = [[⟨"door", true, 1⟩, ⟨"door", false, 2⟩]] ∧
      puts (history .alarms "door" events) =
        [⟨"door", true, 1⟩, ⟨"door", false, 2⟩] ++ system.outbox.queue .alarms "door" ∧
      system.outbox.queue .alarms "door" = [⟨"door", true, 3⟩, ⟨"door", false, 4⟩] := by
  have possible : (System.fresh.perform pairingGateway refusalSchedule).isSome = true := by
    decide +kernel
  have outcome : (System.fresh.perform pairingGateway refusalSchedule).map (fun result =>
      (removals (history .alarms "door" result.1), result.2.outbox.queue .alarms "door")) =
        some ([[⟨"door", true, 1⟩, ⟨"door", false, 2⟩]],
          [⟨"door", true, 3⟩, ⟨"door", false, 4⟩]) := by
    decide +kernel
  obtain ⟨⟨events, system⟩, made⟩ := Option.isSome_iff_exists.1 possible
  rw [made] at outcome
  obtain ⟨removed, waiting⟩ := Prod.mk.inj (Option.some.inj outcome)
  have run : Run pairingGateway events system := Run.fresh.perform made
  have fifo : Lane.alarms.retention = .fifo := rfl
  obtain ⟨conserved, -⟩ := Run.conserves_queues run fifo "door"
  refine ⟨events, system, made, removed, ?_, waiting⟩
  rw [removed] at conserved
  exact conserved

end EdgeGateway.Schedule
