import EdgeGateway.Proofs.Drain.Course

/-!
# A drain in closed form

Over queues in memory, what a drain of all lanes does, what it reports and what it leaves is a
function of the queues, the profile and the verdicts of the sink: `drain_in_closed_form`. Nothing in
the description runs. The queue of each key is cut into batches, these have their fates, and the
batches up to the first that is refused are taken up.
-/

namespace EdgeGateway.Drain

/-- A batch is dropped exactly if one of its values is bound for a reference that forms no channel,
or has no payload. -/
theorem fate_eq_dropped_iff {profile : Profile} (accepts : Message → Bool) {lane : Lane}
    {key : String} {batch : List lane.Value} (filled : batch ≠ [])
    (limited : batch.length ≤ profile.batchLimit lane) :
    fate profile accepts lane key batch = .dropped ↔
      ∃ value ∈ batch,
        (∀ found, Address.parse (profile.channel lane (lane.destination key value)) ≠ .ok found) ∨
          ¬ lane.Carries value := by
  have dropped : fate profile accepts lane key batch = .dropped ↔
      ¬ ∃ message, profile.batchMessage lane key batch = .ok message := by
    obtain ⟨cause, unbuilt, fate⟩ | ⟨message, built, -, fate⟩ | ⟨message, built, -, fate⟩ :=
      fate_cases profile accepts lane key batch
    · exact iff_of_true fate fun ⟨message, built⟩ => nomatch unbuilt.symm.trans built
    · exact iff_of_false (fate ▸ nofun) (not_not_intro ⟨message, built⟩)
    · exact iff_of_false (fate ▸ nofun) (not_not_intro ⟨message, built⟩)
  rw [dropped, exists_batchMessage_iff filled limited]
  push Not
  refine exists_congr fun value => and_congr_right fun _ => ?_
  rw [imp_iff_not_or, not_exists]

/-- **A drain in closed form.** For every outbox over queues in memory, every profile and every sink
that judges by the message alone, a drain of all lanes behind an open gate ends.

* It takes the lanes in the order of a full pass, and in each lane the keys under which something
  waits in ascending order. For each key it takes up batches as `keyDeeds` has it.
* The batches of a key are its queue, cut from the front: all of them but the last are as long as
  the limit of the lane, and the last is no longer.
* What it leaves of each queue are the batches that are kept, whatever happens to other queues.
  Nothing else is changed.
* It reports as published, failed and dropped the batches taken up that are sent, refused and
  dropped.
* A batch is dropped exactly if one of its values is bound for a reference that forms no channel, or
  has no payload; the message of any other batch travels on the channel of each of its values. -/
theorem drain_in_closed_form (profile : Profile) (accepts : Message → Bool)
    {outbox : Outbox Queues} (compact : outbox.Compact) {fuel : Nat}
    (enough : stepBound outbox 0 ≤ fuel) :
    let start : Running Queues Unit := { outbox, world := (), pass := { lanes := Lane.drainOrder } }
    let final := start.finish profile (judging accepts) fuel
    let batches (lane : Lane) (key : String) :=
      chunks (profile.batchLimit lane) (outbox.queue lane key)
    let dealt := Lane.drainOrder.flatMap fun lane =>
      (outbox.keys lane).flatMap fun key => fates profile accepts lane key (batches lane key)
    final.pass.isFinished = true ∧
      run profile (judging accepts) Lane.drainOrder 0 outbox () =
        (final.pass.report, final.outbox, ()) ∧
      start.deeds profile (judging accepts) fuel =
        (Lane.drainOrder.flatMap fun lane =>
          (outbox.keys lane).flatMap fun key =>
            keyDeeds profile accepts lane key (batches lane key)) ∧
      (∀ lane, (outbox.keys lane).Pairwise (· < ·) ∧
        ∀ key, key ∈ outbox.keys lane ↔ outbox.queue lane key ≠ []) ∧
      (∀ lane key, (batches lane key).flatten = outbox.queue lane key ∧
        (∀ batch ∈ (batches lane key).dropLast, batch.length = profile.batchLimit lane) ∧
        ∀ batch ∈ batches lane key, batch ≠ [] ∧ batch.length ≤ profile.batchLimit lane) ∧
      (∀ lane key, final.outbox.queue lane key =
        (kept profile accepts lane key (batches lane key)).flatten) ∧
      ({ final.outbox with lanes := outbox.lanes } = outbox ∧ final.outbox.Compact ∧
        ∀ lane, (final.outbox.lanes.get lane).retention = (outbox.lanes.get lane).retention) ∧
      final.pass.report =
        { published := dealt.countP (· matches .sent _)
          failed := dealt.countP (· matches .refused _)
          dropped := dealt.countP (· matches .dropped) } ∧
      ∀ lane key, ∀ batch ∈ batches lane key,
        (fate profile accepts lane key batch = .dropped ↔
          ∃ value ∈ batch,
            (∀ found,
              Address.parse (profile.channel lane (lane.destination key value)) ≠ .ok found) ∨
              ¬ lane.Carries value) ∧
        ∀ message, profile.batchMessage lane key batch = .ok message →
          ∀ value ∈ batch, message.channel = profile.channel lane (lane.destination key value) := by
  intro start final batches dealt
  have once : Lane.drainOrder.Nodup := by decide
  have every : ∀ lane, lane ∈ Lane.drainOrder := by
    intro lane
    cases lane <;> decide
  have orderly : ∀ lane ∈ Lane.drainOrder, Queued.Orderly (outbox.lanes.get lane) :=
    fun lane _ => compact lane
  obtain ⟨after, drained, ends⟩ := exists_drained profile accepts once orderly
  obtain ⟨deeds, finish⟩ := ends fuel enough
  have finishRun := (ends _ (Nat.le_refl _)).2
  have reached : final = _ := finish
  rw [reached]
  refine ⟨rfl, ?_, deeds, fun lane => ⟨?_, fun key => compact.mem_keys_iff⟩,
    fun lane key => ⟨flatten_chunks _ _, fun batch => ?_, fun batch member => ⟨?_, ?_⟩⟩,
    fun lane key => ?_, ⟨drained.flags, fun lane => ?_, fun lane => ?_⟩, rfl,
    fun lane key batch member => ⟨?_, fun message built value => ?_⟩⟩
  · rw [run, finishRun]
  · exact LawfulQueued.ascending_keys (compact lane)
  · exact length_of_mem_dropLast_chunks (batchLimit_pos profile lane)
  · exact ne_nil_of_mem_chunks member
  · exact length_le_of_mem_chunks (batchLimit_pos profile lane) member
  · exact (drained.drained lane (every lane)).waiting key trivial
  · exact (drained.drained lane (every lane)).orderly
  · exact (drained.drained lane (every lane)).retention
  · exact fate_eq_dropped_iff accepts (ne_nil_of_mem_chunks member)
      (length_le_of_mem_chunks (batchLimit_pos profile lane) member)
  · exact channel_of_batchMessage built
      (length_le_of_mem_chunks (batchLimit_pos profile lane) member)

/-- An outbox in which readings wait under two keys, one of them without values and one under a key
that forms no channel, together with an alarm and a status. -/
def mixed : Outbox Queues :=
  (((((Outbox.fresh.add .readings ⟨"meter", ["1"], 0⟩).add .readings ⟨"meter", [], 0⟩).add
    .readings ⟨"meter", ["2"], 0⟩).add .readings ⟨"a//b", ["3"], 0⟩).add
    .alarms ⟨"smoke", true, 0⟩).add .statuses ⟨"pump", "on", .ready⟩

/-- A sink that refuses alarms. -/
def acceptsOthers (message : Message) : Bool := message.channel ≠ "d2p/events/g/GW/r/smoke"

/-- The mixed outbox is drained, and what it leaves are the batches that are kept. -/
theorem drain_in_closed_form_of_mixed :
    mixed.Compact ∧ stepBound mixed 0 ≤ 56 ∧
      let start : Running Queues Unit :=
        { outbox := mixed, world := (), pass := { lanes := Lane.drainOrder } }
      let profile : Profile := { gatewayKey := "GW", batchSize := 1 }
      let final := start.finish profile (judging acceptsOthers) 56
      final.pass.isFinished = true ∧
        ∀ lane key, final.outbox.queue lane key =
          (kept profile acceptsOthers lane key
            (chunks (profile.batchLimit lane) (mixed.queue lane key))).flatten :=
  have compact : mixed.Compact :=
    (((((Outbox.compact_fresh.put _ _ _).put _ _ _).put _ _ _).put _ _ _).put _ _ _).put _ _ _
  have enough : stepBound mixed 0 ≤ 56 := by decide
  have closed :=
    drain_in_closed_form { gatewayKey := "GW", batchSize := 1 } acceptsOthers compact enough
  ⟨compact, enough, closed.1, closed.2.2.2.2.2.1⟩

/-- One by one, three of its batches are published, the alarm is refused, and two are dropped. -/
example :
    (run { gatewayKey := "GW", batchSize := 1 } (judging acceptsOthers) Lane.drainOrder 0 mixed
      ()).1 = { published := 3, failed := 1, dropped := 2 } := by
  decide +kernel

end EdgeGateway.Drain
