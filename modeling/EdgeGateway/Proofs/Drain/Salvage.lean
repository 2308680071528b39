import EdgeGateway.Proofs.Drain.Course

/-!
# Draining a journal with arbitrary entries

A journal may hold anything: entries that decode to nothing, in front of others, between them and
behind them, and entries that belong to no key. Drained into a sink that accepts everything, a lane
gives up the values of every key in the order of their entry keys, each once, and nothing else; and
what is left of the journal are the entries that belong to no key (`drain_of_any_entries`).
-/

namespace EdgeGateway.Drain

/-! ## Sinks that accept everything -/

section Accepting

variable (profile : Profile) {lane : Lane} (key : String)

/-- No batch is refused by a sink that accepts everything. -/
theorem fate_of_accepting (batch : List lane.Value) :
    fate profile (fun _ => true) lane key batch = .dropped ∨
      ∃ message, profile.batchMessage lane key batch = .ok message ∧
        fate profile (fun _ => true) lane key batch = .sent message := by
  obtain ⟨-, -, dropped⟩ | ⟨message, built, -, sent⟩ | ⟨message, -, refused, -⟩ :=
    fate_cases profile (fun _ => true) lane key batch
  · exact .inl dropped
  · exact .inr ⟨message, built, sent⟩
  · cases refused

/-- A sink that accepts everything keeps no batch in its queue. -/
theorem departs_of_accepting (batch : List lane.Value) :
    departs profile (fun _ => true) lane key batch = true := by
  unfold departs
  rcases fate_of_accepting profile key batch with dropped | ⟨message, -, sent⟩
  · rw [dropped]
    rfl
  · rw [sent]
    rfl

variable (batches : List (List lane.Value))

/-- A sink that accepts everything keeps no batches. -/
theorem kept_of_accepting : kept profile (fun _ => true) lane key batches = [] :=
  List.dropWhile_eq_nil_iff.2 fun batch _ => departs_of_accepting profile key batch

/-- A sink that accepts everything lets all batches be taken up. -/
theorem taken_of_accepting : taken profile (fun _ => true) lane key batches = batches := by
  have all := List.takeWhile_eq_self_iff.2 fun batch (_ : batch ∈ batches) =>
    departs_of_accepting profile key batch
  rw [taken, kept_of_accepting, all]
  exact List.append_nil _

/-- If everything is accepted, a pass deals with all batches of a key, and then finds nothing. -/
theorem keyDeeds_of_accepting :
    keyDeeds profile (fun _ => true) lane key batches =
      (batches.flatMap fun batch =>
        (fate profile (fun _ => true) lane key batch).deeds lane key batch) ++ [.asked true] := by
  rw [keyDeeds, taken_of_accepting, if_pos (kept_of_accepting profile key batches)]

end Accepting

/-- A drain of a lane without keys does nothing. -/
theorem deeds_of_no_keys {Backlog : Type → Type} [Store Backlog] {World : Type} {lane : Lane}
    {outbox : Outbox Backlog} (none : outbox.keys lane = []) (profile : Profile)
    (surroundings : Surroundings Backlog World) (world : World) (fuel : Nat) :
    ({ outbox, world, pass := { lanes := [lane] } } : Running Backlog World).deeds profile
      surroundings fuel = [] := by
  cases fuel with
  | zero => rfl
  | succ fuel =>
    have entered : Running.Proceeds profile surroundings
        { outbox, world, pass := { lanes := [lane] } } 1 []
        { outbox, world, pass := { lanes := [] } } :=
      .step rfl Option.none rfl (by simp [Running.advance, Pass.step, none, Stage.next])
    exact (entered.finished rfl (Nat.succ_le_succ (Nat.zero_le fuel))).1

/-! ## Journals -/

/-- A journal of which every key is gone has nothing but the entries that belong to none. -/
theorem rows_eq_strays {Value : Type} {journal : Journal Value} (gone : journal.keys = []) :
    journal.entries.rows = journal.strays := by
  refine (List.filter_eq_self.2 fun row member => ?_).symm
  cases keyed : Journal.keyOf? row.1 with
  | none => rfl
  | some key =>
    have listed : key ∈ journal.keys := mem_ascendingTexts.2
      (List.mem_filterMap.2 ⟨row, member, keyed⟩)
    rw [gone] at listed
    cases listed

/-- **Entries that decode to nothing do no harm.** Whatever entries a journal holds, a drain of its
lane into a sink that accepts everything ends.

* It takes up the keys of the entries, each once. The batches of a key are the values of its entries
  that decode, in the order of their entry keys.
* Each batch is either sent, which means that its message is offered and accepted, or dropped as it
  has no message, and then removed. It is counted as published or as dropped.
* The entries left are those that belong to no key, as they were. The other lanes are left alone.
* Another drain of the lane, with any gate and any sink, does nothing. -/
theorem drain_of_any_entries (profile : Profile) (lane : Lane) {outbox : Outbox Journal}
    (ascending : (outbox.lanes.get lane).entries.Ascending) {fuel : Nat}
    (enough : stepBound outbox 0 ≤ fuel) :
    let journal := outbox.lanes.get lane
    let start : Running Journal Unit := { outbox, world := (), pass := { lanes := [lane] } }
    let final := start.finish profile (judging fun _ => true) fuel
    let batches (key : String) :=
      chunks (profile.batchLimit lane) (Journal.decoded (journal.entriesOf key))
    let fate (key : String) := fate profile (fun _ => true) lane key
    let dealt := journal.keys.flatMap fun key => (batches key).map (fate key)
    final.pass.isFinished = true ∧
      start.deeds profile (judging fun _ => true) fuel =
        (journal.keys.flatMap fun key =>
          ((batches key).flatMap fun batch => (fate key batch).deeds lane key batch) ++
            [.asked true]) ∧
      (journal.keys.Pairwise (· < ·) ∧
        ∀ key, key ∈ journal.keys ↔
          ∃ row ∈ journal.entries.rows, Journal.keyOf? row.1 = some key) ∧
      (∀ key, (batches key).flatten = Journal.decoded (journal.entriesOf key) ∧
        ∀ batch ∈ batches key, batch ≠ [] ∧ batch.length ≤ profile.batchLimit lane ∧
          (fate key batch = .dropped ∨
            ∃ message, profile.batchMessage lane key batch = .ok message ∧
              fate key batch = .sent message)) ∧
      final.pass.report =
        { published := dealt.countP (· matches .sent _)
          failed := 0
          dropped := dealt.countP (· matches .dropped) } ∧
      (final.outbox.lanes.get lane).entries.rows =
        journal.entries.rows.filter (fun row => Journal.keyOf? row.1 = none) ∧
      (∀ other, other ≠ lane → final.outbox.lanes.get other = outbox.lanes.get other) ∧
      ∀ {World : Type} (surroundings : Surroundings Journal World) (world : World) (fuel : Nat),
        ({ outbox := final.outbox, world, pass := { lanes := [lane] } } :
          Running Journal World).deeds profile surroundings fuel = [] := by
  intro journal start final batches fate dealt
  have orderly : ∀ other ∈ [lane], Queued.Orderly (outbox.lanes.get other) :=
    List.forall_mem_singleton.2 ascending
  obtain ⟨after, drained, ends⟩ :=
    exists_drained profile (fun _ => true) (List.nodup_singleton lane) orderly
  obtain ⟨deeds, finish⟩ := ends fuel enough
  have drainedLane := drained.drained lane (List.mem_singleton_self lane)
  have gone : after.keys lane = [] := drainedLane.exhausted fun _ _ => kept_of_accepting _ _ _
  have cut : ∀ key ∈ journal.keys,
      chunks (profile.batchLimit lane) (Queued.waiting journal key) = batches key := by
    intro key listed
    have under : journal.entriesUnder key = journal.entriesOf key :=
      (Journal.scan_eq_entriesUnder journal key).symm.trans
        (Journal.scan_eq_entriesOf (Journal.zeroFree_of_mem_keys listed))
    exact congrArg (fun rows => chunks (profile.batchLimit lane) (Journal.decoded rows)) under
  have deals : ([lane].flatMap fun lane =>
      laneFates profile (fun _ => true) (outbox.lanes.get lane)) = dealt := by
    rw [List.flatMap_singleton]
    refine List.flatMap_congr fun key listed => ?_
    refine (congrArg (fates profile (fun _ => true) lane key) (cut key listed)).trans ?_
    rw [fates, taken_of_accepting]
  have reached : final = _ := finish
  rw [reached, deals]
  refine ⟨rfl, deeds.trans ?_, ⟨ascendingTexts_pairwise _, fun key => ?_⟩,
    fun key => ⟨flatten_chunks _ _, fun batch member => ⟨?_, ?_, ?_⟩⟩, ?_, ?_,
    fun other different => ?_, fun surroundings world fuel => ?_⟩
  · rw [List.flatMap_singleton]
    refine List.flatMap_congr fun key listed => ?_
    exact (congrArg (keyDeeds profile (fun _ => true) lane key) (cut key listed)).trans
      (keyDeeds_of_accepting profile key _)
  · rw [Journal.keys, mem_ascendingTexts, List.mem_filterMap]
  · exact ne_nil_of_mem_chunks member
  · exact length_le_of_mem_chunks (batchLimit_pos profile lane) member
  · exact fate_of_accepting profile key batch
  · have none : (Report.ofFates dealt).failed = 0 := by
      refine List.countP_eq_zero.2 fun found member => ?_
      obtain ⟨key, -, member⟩ := List.mem_flatMap.1 member
      obtain ⟨batch, -, rfl⟩ := List.mem_map.1 member
      rcases fate_of_accepting profile key batch with dropped | ⟨message, -, sent⟩
      · simp [fate, dropped]
      · simp [fate, sent]
    exact congrArg (fun failed => { Report.ofFates dealt with failed }) none
  · exact (rows_eq_strays gone).trans drainedLane.strays
  · exact drained.others other (mt List.mem_singleton.1 different)
  · exact deeds_of_no_keys gone profile surroundings world fuel

/-- An outbox whose readings are in a journal with entries of two keys and of none. Of the entries
of the first key the first and the last decode to nothing, and so do all of the second. -/
def littered : Outbox Journal :=
  Outbox.fresh.withStore .readings
    { retention := .fifo
      entries := .ofList [
        (Journal.entryKey "A" 1, [0x7b]),
        (Journal.entryKey "A" 2, Entry.encode (⟨"A", ["1"], 0⟩ : Reading)),
        (Journal.entryKey "A" 3, Entry.encode (⟨"A", [], 0⟩ : Reading)),
        (Journal.entryKey "A" 4, [0xff]),
        (Journal.entryKey "B" 5, []),
        ([0x41], Entry.encode (⟨"A", ["2"], 0⟩ : Reading)),
        ([0xff, 0x00], [0x7b])] }

/-- The littered readings are drained once, and then no more. -/
theorem drain_of_any_entries_of_littered :
    (littered.lanes.get .readings).entries.Ascending ∧ stepBound littered 0 ≤ 64 ∧
      let start : Running Journal Unit :=
        { outbox := littered, world := (), pass := { lanes := [.readings] } }
      let final := start.finish { gatewayKey := "GW", batchSize := 1 } (judging fun _ => true) 64
      final.pass.isFinished = true ∧
        (final.outbox.lanes.get .readings).entries.rows =
          (littered.lanes.get .readings).entries.rows.filter
            (fun row => Journal.keyOf? row.1 = none) ∧
        ({ final with pass := { lanes := [.readings] } } : Running Journal Unit).deeds
          { gatewayKey := "GW", batchSize := 1 } (judging fun _ => true) 64 = [] :=
  have ascending : (littered.lanes.get .readings).entries.Ascending := Table.ascending_ofList _
  have enough : stepBound littered 0 ≤ 64 := by decide +kernel
  have drained :=
    drain_of_any_entries { gatewayKey := "GW", batchSize := 1 } .readings ascending enough
  ⟨ascending, enough, drained.1, drained.2.2.2.2.2.1, drained.2.2.2.2.2.2.2 _ _ _⟩

/-- The reading with a value is published, and the one without is dropped. The entries that belong
to no key are left. -/
example :
    let drained := run { gatewayKey := "GW", batchSize := 1 } (judging fun _ => true) [.readings] 0
      littered ()
    drained.1 = { published := 1, failed := 0, dropped := 1 } ∧
      (drained.2.1.lanes.get .readings).entries.keys = [[0x41], [0xff, 0x00]] := by
  decide +kernel

end EdgeGateway.Drain
