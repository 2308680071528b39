import EdgeGateway.Proofs.Drain.Fuel
import EdgeGateway.Proofs.Drain.Round

/-!
# The course of a drain

What a drain does is told from the inside outwards: for a key (`exists_keyDrained`), for the keys of
a lane (`exists_laneDrained`), and for some lanes (`exists_lanesDrained`). Each piece comes with what
it leaves of the store, and with a number of steps. All steps together are no more than a drain
allows, so a drain takes its whole course: `exists_drained`.
-/

namespace EdgeGateway.Drain

open Running (Proceeds)

variable {Backlog : Type → Type} [Store Backlog] [Queued Backlog] [LawfulQueued Backlog]
  {profile : Profile} {accepts : Message → Bool} {outbox : Outbox Backlog} {lanes : List Lane}
  {lane : Lane} {key : String} {store : Backlog lane.Value}

/-! ## One key -/

variable (profile accepts) in
/-- What a drain leaves of a key. -/
structure KeyDrained (lane : Lane) (key : String) (before after : Backlog lane.Value) : Prop where
  spares : Queued.Spares key before after
  /-- The batches that are kept stay as they are. -/
  waiting : Queued.waiting after key =
    (kept profile accepts lane key
      (chunks (profile.batchLimit lane) (Queued.waiting before key))).flatten
  /-- If none is kept, nothing else that was counted is left either. -/
  exhausted :
    kept profile accepts lane key
        (chunks (profile.batchLimit lane) (Queued.waiting before key)) = [] →
      Store.count after key = 0

variable (profile accepts) in
/-- A key is drained batch by batch, in four steps for each value and four more at most. -/
theorem exists_keyDrained (orderly : Queued.Orderly store) (isKey : Queued.IsKey Backlog key)
    {batches : List (List lane.Value)}
    (cut : chunks (profile.batchLimit lane) (Queued.waiting store key) = batches) :
    ∃ steps after, steps ≤ 4 * ((Queued.waiting store key).length + 1) ∧
      KeyDrained profile accepts lane key store after ∧
      ∀ outbox lanes later report,
        Proceeds profile (judging accepts)
          (standing outbox lanes store (.ask lane key later) report) steps
          (keyDeeds profile accepts lane key batches)
          (standing outbox lanes after (.next lane later)
            (report.merge (.ofFates (fates profile accepts lane key batches)))) := by
  have positive := batchLimit_pos profile lane
  induction batches generalizing store with
  | nil =>
    have empty : Queued.waiting store key = [] := chunks_eq_nil_iff.1 cut
    have fewer : (Queued.waiting store key).length < profile.batchLimit lane := by
      rw [empty]
      exact positive
    refine ⟨2, _, by omega, ⟨?_, ?_, fun _ => ?_⟩, fun _ _ _ _ => proceeds_exhausted empty⟩
    · exact LawfulQueued.spares_peek orderly isKey _
    · rw [LawfulQueued.waiting_peek orderly, cut]
      exact empty
    · rw [LawfulQueued.count_peek orderly fewer, empty]
      rfl
  | cons batch rest inductionHypothesis =>
    have filled : Queued.waiting store key ≠ [] := by
      intro empty
      rw [chunks_eq_nil_iff.2 empty] at cut
      cases cut
    have nonempty : batch ≠ [] := ne_nil_of_mem_chunks (cut ▸ List.mem_cons_self)
    obtain ⟨front, behind⟩ := List.cons.inj ((chunks_of_ne_nil positive filled).symm.trans cut)
    cases departs : departs profile accepts lane key batch with
    | true =>
      obtain ⟨steps, few, departed⟩ := exists_proceeds_departed orderly front nonempty departs
      have spares := spares_without orderly isKey (profile.batchLimit lane) batch
      have left := waiting_without orderly isKey _ front
      have cutLater := (congrArg (chunks (profile.batchLimit lane)) left).trans behind
      obtain ⟨more, after, fewLater, drained, proceeds⟩ :=
        inductionHypothesis spares.orderly cutLater
      refine ⟨steps + more, after, ?_, ⟨spares.trans drained.spares, ?_, fun none => ?_⟩, ?_⟩
      · have some : 0 < (Queued.waiting store key).length := List.length_pos_iff.2 filled
        rw [left, List.length_drop] at fewLater
        omega
      · rw [drained.waiting, cutLater, cut, kept_of_departs departs]
      · rw [cut, kept_of_departs departs] at none
        exact drained.exhausted (cutLater ▸ none)
      · intro outbox lanes later report
        rw [keyDeeds_of_departs departs, fates_of_departs departs, Report.merge_ofFates_append]
        exact (departed outbox lanes later report).trans (proceeds outbox lanes later _)
    | false =>
      refine ⟨3, (Store.peek store key (profile.batchLimit lane)).2, by omega,
        ⟨?_, ?_, fun none => ?_⟩, fun _ _ _ _ => ?_⟩
      · exact LawfulQueued.spares_peek orderly isKey _
      · rw [LawfulQueued.waiting_peek orderly, cut, kept_of_stays departs, ← cut, flatten_chunks]
      · rw [cut, kept_of_stays departs] at none
        cases none
      · rw [keyDeeds_of_stays departs, fates_of_stays departs]
        exact proceeds_stayed front nonempty departs

/-! ## One lane -/

variable (profile accepts) in
/-- What a drain leaves of a lane when it takes up some keys. -/
structure KeysDrained (keys : List String) {lane : Lane} (before after : Backlog lane.Value) :
    Prop where
  orderly : Queued.Orderly after
  retention : Store.retention after = Store.retention before
  strays : Queued.strays after = Queued.strays before
  /-- What waits under a key that is taken up are the batches that are kept. -/
  waiting : ∀ key ∈ keys, Queued.waiting after key =
    (kept profile accepts lane key
      (chunks (profile.batchLimit lane) (Queued.waiting before key))).flatten
  exhausted : ∀ key ∈ keys,
    kept profile accepts lane key
        (chunks (profile.batchLimit lane) (Queued.waiting before key)) = [] →
      Store.count after key = 0
  others : ∀ key, Queued.IsKey Backlog key → key ∉ keys →
    Queued.waiting after key = Queued.waiting before key ∧
      Store.count after key = Store.count before key

omit [LawfulQueued Backlog] in
/-- Draining a key and then others is draining all of them. -/
theorem KeyDrained.cons {keys : List String} {middle after : Backlog lane.Value}
    (first : KeyDrained profile accepts lane key store middle)
    (later : KeysDrained profile accepts keys middle after) (isKey : Queued.IsKey Backlog key)
    (areKeys : ∀ other ∈ keys, Queued.IsKey Backlog other) (fresh : key ∉ keys) :
    KeysDrained profile accepts (key :: keys) store after where
  orderly := later.orderly
  retention := later.retention.trans first.spares.retention
  strays := later.strays.trans first.spares.strays
  waiting := by
    refine List.forall_mem_cons.2 ⟨?_, fun other member => ?_⟩
    · rw [(later.others key isKey fresh).1, first.waiting]
    · have different : other ≠ key := ne_of_mem_of_not_mem member fresh
      rw [later.waiting other member, first.spares.waiting other (areKeys other member) different]
  exhausted := by
    refine List.forall_mem_cons.2 ⟨fun none => ?_, fun other member none => ?_⟩
    · rw [(later.others key isKey fresh).2, first.exhausted none]
    · have different : other ≠ key := ne_of_mem_of_not_mem member fresh
      rw [← first.spares.waiting other (areKeys other member) different] at none
      exact later.exhausted other member none
  others other otherKey outside := by
    obtain ⟨different, outside⟩ := not_or.1 (mt List.mem_cons.2 outside)
    obtain ⟨waiting, count⟩ := later.others other otherKey outside
    exact ⟨waiting.trans (first.spares.waiting other otherKey different),
      count.trans (first.spares.count other otherKey different)⟩

variable (profile accepts) in
/-- The keys of a lane are drained one after another. -/
theorem exists_keysDrained {keys : List String} (once : keys.Nodup)
    (areKeys : ∀ key ∈ keys, Queued.IsKey Backlog key) (orderly : Queued.Orderly store) :
    let batches key := chunks (profile.batchLimit lane) (Queued.waiting store key)
    ∃ steps after,
      steps ≤ 4 * (keys.map fun key => (Queued.waiting store key).length + 1).sum ∧
      KeysDrained profile accepts keys store after ∧
      ∀ outbox lanes report,
        Proceeds profile (judging accepts)
          (standing outbox lanes store (.next lane keys) report) steps
          (keys.flatMap fun key => keyDeeds profile accepts lane key (batches key))
          (standing outbox lanes after .enter
            (report.merge (.ofFates
              (keys.flatMap fun key => fates profile accepts lane key (batches key))))) := by
  induction keys generalizing store with
  | nil =>
    refine ⟨0, store, Nat.zero_le _, ⟨orderly, rfl, rfl, nofun, nofun, ?_⟩, fun _ _ _ => .refl _⟩
    exact fun _ _ _ => ⟨rfl, rfl⟩
  | cons key keys inductionHypothesis =>
    obtain ⟨fresh, onceLater⟩ := List.nodup_cons.1 once
    obtain ⟨isKey, areKeysLater⟩ := List.forall_mem_cons.1 areKeys
    obtain ⟨steps, middle, few, drained, proceeds⟩ :=
      exists_keyDrained profile accepts orderly isKey rfl
    obtain ⟨more, after, fewLater, drainedLater, proceedsLater⟩ :=
      inductionHypothesis onceLater areKeysLater drained.spares.orderly
    have same : ∀ other ∈ keys, Queued.waiting middle other = Queued.waiting store other :=
      fun other member => drained.spares.waiting other (areKeysLater other member)
        (ne_of_mem_of_not_mem member fresh)
    refine ⟨steps + more, after, ?_, drained.cons drainedLater isKey areKeysLater fresh, ?_⟩
    · rw [List.map_congr_left fun other member => congrArg (·.length + 1) (same other member)]
        at fewLater
      rw [List.map_cons, List.sum_cons]
      omega
    · intro outbox lanes report
      have deeds := List.flatMap_congr fun other member =>
        congrArg (fun queue => keyDeeds profile accepts lane other
          (chunks (profile.batchLimit lane) queue)) (same other member)
      have fates := List.flatMap_congr fun other member =>
        congrArg (fun queue => fates profile accepts lane other
          (chunks (profile.batchLimit lane) queue)) (same other member)
      rw [List.flatMap_cons, List.flatMap_cons, Report.merge_ofFates_append, ← deeds, ← fates]
      exact (proceeds outbox lanes keys report).trans (proceedsLater outbox lanes _)

variable (profile accepts) in
/-- What a drain does for a lane: key by key, in their order. -/
def laneDeeds (store : Backlog lane.Value) : List Deed :=
  (Store.keys store).flatMap fun key =>
    keyDeeds profile accepts lane key
      (chunks (profile.batchLimit lane) (Queued.waiting store key))

variable (profile accepts) in
/-- The fates of the batches that a drain takes up in a lane. -/
def laneFates (store : Backlog lane.Value) : List Fate :=
  (Store.keys store).flatMap fun key =>
    fates profile accepts lane key (chunks (profile.batchLimit lane) (Queued.waiting store key))

variable (profile accepts) in
/-- What a drain leaves of a lane. -/
structure LaneDrained {lane : Lane} (before after : Backlog lane.Value) : Prop where
  orderly : Queued.Orderly after
  retention : Store.retention after = Store.retention before
  strays : Queued.strays after = Queued.strays before
  /-- What waits are the batches that are kept. -/
  waiting : ∀ key, Queued.IsKey Backlog key → Queued.waiting after key =
    (kept profile accepts lane key
      (chunks (profile.batchLimit lane) (Queued.waiting before key))).flatten
  /-- If none is kept, nothing at all is left under any key. -/
  exhausted :
    (∀ key ∈ Store.keys before,
      kept profile accepts lane key
        (chunks (profile.batchLimit lane) (Queued.waiting before key)) = []) →
      Store.keys after = []

/-- A lane is drained once all of its keys are. -/
theorem KeysDrained.laneDrained {after : Backlog lane.Value} (orderly : Queued.Orderly store)
    (drained : KeysDrained profile accepts (Store.keys store) store after) :
    LaneDrained profile accepts store after where
  orderly := drained.orderly
  retention := drained.retention
  strays := drained.strays
  waiting key isKey := by
    by_cases listed : key ∈ Store.keys store
    · exact drained.waiting key listed
    · have empty := Queued.waiting_of_not_mem_keys orderly isKey listed
      rw [(drained.others key isKey listed).1, empty, chunks_eq_nil_iff.2 rfl]
      rfl
  exhausted none := by
    refine List.eq_nil_iff_forall_not_mem.2 fun key left => ?_
    have isKey : Queued.IsKey Backlog key := LawfulQueued.isKey_of_mem_keys left
    have counted := (LawfulQueued.mem_keys_iff drained.orderly isKey).1 left
    by_cases listed : key ∈ Store.keys store
    · exact counted (drained.exhausted key listed (none key listed))
    · rw [(drained.others key isKey listed).2] at counted
      exact listed ((LawfulQueued.mem_keys_iff orderly isKey).2 counted)

variable (profile accepts) in
/-- A lane is drained in eight steps for each of its entries at most. -/
theorem exists_laneDrained (orderly : Queued.Orderly store) :
    ∃ steps after, steps ≤ 8 * Store.size store ∧ LaneDrained profile accepts store after ∧
      ∀ outbox lanes report,
        Proceeds profile (judging accepts)
          (standing outbox lanes store (.next lane (Store.keys store)) report) steps
          (laneDeeds profile accepts store)
          (standing outbox lanes after .enter
            (report.merge (.ofFates (laneFates profile accepts store)))) := by
  have once : (Store.keys store).Nodup :=
    (LawfulQueued.ascending_keys orderly).imp fun less => String.ne_of_lt less
  obtain ⟨steps, after, few, drained, proceeds⟩ :=
    exists_keysDrained profile accepts once (fun _ => LawfulQueued.isKey_of_mem_keys) orderly
  have occasions := Queued.sum_occasions_le orderly
  exact ⟨steps, after, by omega, drained.laneDrained orderly, proceeds⟩

/-! ## All lanes -/

variable (profile accepts) in
/-- What a drain leaves of an outbox when it enters some lanes. -/
structure LanesDrained (lanes : List Lane) (before after : Outbox Backlog) : Prop where
  /-- Nothing but the lanes is changed. -/
  flags : { after with lanes := before.lanes } = before
  drained : ∀ lane ∈ lanes,
    LaneDrained profile accepts (before.lanes.get lane) (after.lanes.get lane)
  others : ∀ lane, lane ∉ lanes → after.lanes.get lane = before.lanes.get lane

omit [LawfulQueued Backlog] in
/-- Draining a lane and then others is draining all of them. -/
theorem LaneDrained.cons {after : Outbox Backlog}
    (first : LaneDrained profile accepts (outbox.lanes.get lane) store)
    (later : LanesDrained profile accepts lanes (outbox.withStore lane store) after)
    (fresh : lane ∉ lanes) : LanesDrained profile accepts (lane :: lanes) outbox after where
  flags := congrArg (fun other : Outbox Backlog => { other with lanes := outbox.lanes }) later.flags
  drained := by
    refine List.forall_mem_cons.2 ⟨?_, fun other member => ?_⟩
    · rw [later.others lane fresh, Outbox.get_lanes_withStore]
      exact first
    · have drained := later.drained other member
      rwa [Outbox.get_lanes_withStore_of_ne _ _ _ (ne_of_mem_of_not_mem member fresh)] at drained
  others other outside := by
    obtain ⟨different, outside⟩ := not_or.1 (mt List.mem_cons.2 outside)
    rw [later.others other outside, Outbox.get_lanes_withStore_of_ne _ _ _ different]

variable (profile accepts) in
/-- Lanes are drained one after another. -/
theorem exists_lanesDrained (once : lanes.Nodup)
    (orderly : ∀ lane ∈ lanes, Queued.Orderly (outbox.lanes.get lane)) :
    ∃ steps after,
      steps ≤ (lanes.map fun lane => 8 * Store.size (outbox.lanes.get lane) + 1).sum ∧
      LanesDrained profile accepts lanes outbox after ∧
      ∀ report,
        Proceeds profile (judging accepts)
          { outbox, world := (), pass := { lanes, report } } steps
          (lanes.flatMap fun lane => laneDeeds profile accepts (outbox.lanes.get lane))
          { outbox := after
            world := ()
            pass :=
              { lanes := []
                report := report.merge (.ofFates
                  (lanes.flatMap fun lane =>
                    laneFates profile accepts (outbox.lanes.get lane))) } } := by
  induction lanes generalizing outbox with
  | nil =>
    exact ⟨0, outbox, Nat.zero_le _, ⟨rfl, nofun, fun _ _ => rfl⟩, fun _ => .refl _⟩
  | cons lane lanes inductionHypothesis =>
    obtain ⟨fresh, onceLater⟩ := List.nodup_cons.1 once
    obtain ⟨orderlyFirst, orderlyLater⟩ := List.forall_mem_cons.1 orderly
    obtain ⟨steps, store, few, drained, proceeds⟩ :=
      exists_laneDrained profile accepts orderlyFirst
    have same : ∀ other ∈ lanes,
        (outbox.withStore lane store).lanes.get other = outbox.lanes.get other :=
      fun other member =>
        Outbox.get_lanes_withStore_of_ne _ _ _ (ne_of_mem_of_not_mem member fresh)
    have orderlyStill : ∀ other ∈ lanes,
        Queued.Orderly ((outbox.withStore lane store).lanes.get other) :=
      fun other member => (same other member).symm ▸ orderlyLater other member
    obtain ⟨more, after, fewLater, drainedLater, proceedsLater⟩ :=
      inductionHypothesis onceLater orderlyStill
    refine ⟨1 + steps + more, after, ?_, drained.cons drainedLater fresh, fun report => ?_⟩
    · rw [List.map_congr_left fun other member =>
        congrArg (fun store : Backlog other.Value => 8 * Store.size store + 1) (same other member)]
        at fewLater
      rw [List.map_cons, List.sum_cons]
      omega
    · have deeds := List.flatMap_congr fun other member =>
        congrArg (laneDeeds profile accepts) (same other member)
      have fates := List.flatMap_congr fun other member =>
        congrArg (laneFates profile accepts) (same other member)
      have entered : Proceeds profile (judging accepts)
          { outbox, world := (), pass := { lanes := lane :: lanes, report } } 1 []
          (standing outbox lanes (outbox.lanes.get lane)
            (.next lane (Store.keys (outbox.lanes.get lane))) report) :=
        .step rfl none rfl (by simp [standing, Running.advance, Pass.step, Outbox.keys])
      rw [List.flatMap_cons, List.flatMap_cons, Report.merge_ofFates_append, ← deeds, ← fates]
      exact (entered.trans (proceeds outbox lanes report)).trans (proceedsLater _)

/-! ## A whole drain -/

omit [Queued Backlog] [LawfulQueued Backlog] in
/-- Eight steps for each entry, and one for each lane, are no more than a drain allows. -/
theorem sum_lanes_le_stepBound (once : lanes.Nodup) (outbox : Outbox Backlog) :
    (lanes.map fun lane => 8 * Store.size (outbox.lanes.get lane) + 1).sum ≤
      stepBound outbox 0 := by
  have all := sum_le_of_subset (fun lane => 8 * Store.size (outbox.lanes.get lane) + 1) once
    fun lane _ => (by cases lane <;> decide : lane ∈ Lane.all)
  simp only [Lane.all, List.map_cons, List.map_nil, List.sum_cons, List.sum_nil] at all
  simp only [stepBound, Outbox.size, Lanes.size, Lane.all, List.foldl_cons, List.foldl_nil]
  omega

variable (profile accepts) in
/-- A drain over some lanes ends, and does and leaves what is told of each lane. -/
theorem exists_drained (once : lanes.Nodup)
    (orderly : ∀ lane ∈ lanes, Queued.Orderly (outbox.lanes.get lane)) :
    ∃ after, LanesDrained profile accepts lanes outbox after ∧
      ∀ fuel, stepBound outbox 0 ≤ fuel →
        let start : Running Backlog Unit := { outbox, world := (), pass := { lanes } }
        start.deeds profile (judging accepts) fuel =
            (lanes.flatMap fun lane => laneDeeds profile accepts (outbox.lanes.get lane)) ∧
          start.finish profile (judging accepts) fuel =
            { outbox := after
              world := ()
              pass :=
                { lanes := []
                  report := .ofFates
                    (lanes.flatMap fun lane =>
                      laneFates profile accepts (outbox.lanes.get lane)) } } := by
  obtain ⟨steps, after, few, drained, proceeds⟩ :=
    exists_lanesDrained profile accepts once orderly
  have bound := few.trans (sum_lanes_le_stepBound once outbox)
  refine ⟨after, drained, fun fuel enough => ?_⟩
  obtain ⟨deeds, finish⟩ := (proceeds {}).finished rfl (bound.trans enough)
  have report : ∀ other : Report, ({} : Report).merge other = other := fun other => by
    simp [Report.merge]
  rw [report] at finish
  exact ⟨deeds, finish⟩

end EdgeGateway.Drain
