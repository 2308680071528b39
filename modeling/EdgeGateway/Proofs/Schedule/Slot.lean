import EdgeGateway.Proofs.Schedule.Batch
import EdgeGateway.Proofs.Schedule.View
import Mathlib.Data.List.Forall2
import Mathlib.Data.List.Induction

/-!
# Slots never lose the newest value

In a lane that holds the newest value only, a value may be replaced while it is on its way to a
sink, also by an equal one, and an acknowledgement only compares values. `SlotLedger` is the
invariant that shows this to be harmless: it follows which put each acceptance delivers, and says
that a value that still waits has not been delivered.

A put is named by its position among all puts of its key. A look at a slot finds the value of the
newest put, so an acceptance delivers the put that was the newest at the last look.
-/

namespace EdgeGateway.Schedule

section Key

variable {Value : Type}

/-- What a history of a key has come to. -/
structure Track (Value : Type) where
  /-- The values put, in order. -/
  puts : List Value := []
  /-- How many values had been put when the key was last looked at. -/
  seen : Nat := 0
  /-- The positions of the puts that were delivered, in the order of their acceptance. -/
  deliveries : List Nat := []
  /-- The values that accepted messages have carried, in the order of their acceptance. -/
  delivered : List Value := []

/-- The track after one more event. -/
def Track.after (track : Track Value) : KeyEvent Value → Track Value
  | .put value => { track with puts := track.puts ++ [value] }
  | .looked _ _ => { track with seen := track.puts.length }
  | .accepted batch _ =>
    { track with
      deliveries := track.deliveries ++ [track.seen - 1]
      delivered := track.delivered ++ batch }
  | .dropped _ | .refused _ _ | .removed _ | .kept _ => track

/-- What a history has come to. -/
def track (events : List (KeyEvent Value)) : Track Value := events.foldl Track.after {}

/-- The puts that were delivered, in the order of their acceptance. -/
def deliveries (events : List (KeyEvent Value)) : List Nat := (track events).deliveries

/-- The values that accepted messages have carried, in the order of their acceptance. -/
def delivered (events : List (KeyEvent Value)) : List Value :=
  (acceptances events).flatMap Prod.fst

/-- One more event takes the track one further. -/
theorem track_concat (events : List (KeyEvent Value)) (event : KeyEvent Value) :
    track (events ++ [event]) = (track events).after event := by
  unfold track
  rw [List.foldl_append]
  rfl

/-- A track keeps the values that are put. -/
theorem puts_track (events : List (KeyEvent Value)) : (track events).puts = puts events := by
  induction events using List.reverseRecOn with
  | nil => rfl
  | append_singleton events event inductionHypothesis =>
    rw [track_concat, puts_concat, ← inductionHypothesis]
    cases event <;> simp [Track.after]

/-- A track keeps the values that are delivered. -/
theorem delivered_track (events : List (KeyEvent Value)) :
    (track events).delivered = delivered events := by
  induction events using List.reverseRecOn with
  | nil => rfl
  | append_singleton events event inductionHypothesis =>
    unfold delivered at inductionHypothesis ⊢
    rw [track_concat, acceptances_concat, List.flatMap_append, ← inductionHypothesis]
    cases event <;> simp [Track.after]

/-- The values at ascending positions of a list, from some position on, are a sublist of what the
list holds from there. -/
theorem sublist_drop_of_positions {positions : List Nat} {values items : List Value}
    (carried : List.Forall₂ (fun position value => items[position]? = some value) positions values)
    (ascending : positions.Pairwise (· < ·)) (start : Nat)
    (later : ∀ position ∈ positions, start ≤ position) :
    values.Sublist (items.drop start) := by
  induction carried generalizing start with
  | nil => exact List.nil_sublist _
  | @cons position value positions values found carried inductionHypothesis =>
    obtain ⟨behind, ascending⟩ := List.pairwise_cons.1 ascending
    have rest : values.Sublist (items.drop (position + 1)) :=
      inductionHypothesis ascending (position + 1) behind
    obtain ⟨bounded, rfl⟩ := List.getElem?_eq_some_iff.1 found
    have here : items.drop position = items[position] :: items.drop (position + 1) :=
      List.drop_eq_getElem_cons bounded
    have taken : (items[position] :: values).Sublist (items.drop position) := by
      rw [here]
      exact rest.cons_cons _
    have started : start ≤ position := later position List.mem_cons_self
    exact taken.trans (List.drop_sublist_drop_left items started)

/-- Whether every put that was delivered comes before the last of so many puts. -/
def Track.DeliveredBefore (track : Track Value) (count : Nat) : Prop :=
  ∀ position ∈ track.deliveries, position + 1 < count

/-- The account of a slot: which puts were delivered, against what waits. -/
structure SlotLedger (rules : KeyRules Value) (track : Track Value) (state : KeyState Value) :
    Prop where
  /-- At most the newest value waits. -/
  newest : state.queue = [] ∨ ∃ value, state.queue = [value] ∧ track.puts.getLast? = some value
  /-- No put is delivered twice or after a later one. -/
  ascending : track.deliveries.Pairwise (· < ·)
  /-- Every acceptance carries the value of the put that it delivers. -/
  carried : List.Forall₂ (fun position value => track.puts[position]? = some value)
    track.deliveries track.delivered
  /-- Only puts that were made are delivered. -/
  made : track.DeliveredBefore (track.puts.length + 1)
  /-- An empty slot means that the newest value was delivered, or never can be. -/
  exhausted : state.queue = [] → ∀ value, track.puts.getLast? = some value →
    track.delivered.getLast? = some value ∨ ∃ cause, rules.build [value] = .error cause
  /-- While nothing is in flight, a value that waits has not been delivered. -/
  idle : state.flight? = none → state.queue ≠ [] → track.DeliveredBefore track.puts.length
  /-- A value that is offered has not been delivered. -/
  offered : ∀ batch message, state.flight? = some (.offered batch message) →
    ∃ value, batch = [value] ∧ state.queue ≠ [] ∧
      0 < track.seen ∧ track.seen ≤ track.puts.length ∧
      track.puts[track.seen - 1]? = some value ∧ track.DeliveredBefore track.seen
  /-- A value that was settled was delivered or never can be. If another value waits by now, that
  one has not been delivered. -/
  settled : ∀ batch, state.flight? = some (.settled batch) →
    ∃ value, batch = [value] ∧ state.queue ≠ [] ∧
      (state.queue ≠ [value] → track.DeliveredBefore track.puts.length) ∧
      (track.delivered.getLast? = some value ∨ ∃ cause, rules.build [value] = .error cause)

/-- Nothing is owed to a fresh slot. -/
theorem slotLedger_fresh (rules : KeyRules Value) : SlotLedger rules {} {} where
  newest := .inl rfl
  ascending := .nil
  carried := .nil
  made := nofun
  exhausted := nofun
  idle _ waiting := absurd rfl waiting
  offered := nofun
  settled := nofun

variable {rules : KeyRules Value} {track : Track Value} {queue batch : List Value}
  {flight? : Option (Flight Value)} {message : Message}

/-- What was delivered before a put was delivered before every later one. -/
theorem Track.DeliveredBefore.mono {count more : Nat} (before : track.DeliveredBefore count)
    (fewer : count ≤ more) : track.DeliveredBefore more := by
  intro position delivered
  have bounded := before position delivered
  omega

/-- A value keeps its position when another one is put. -/
theorem getElem?_concat_of_some {items : List Value} {position : Nat} {value : Value}
    (found : items[position]? = some value) (last : Value) :
    (items ++ [last])[position]? = some value := by
  obtain ⟨bounded, -⟩ := List.getElem?_eq_some_iff.1 found
  rw [List.getElem?_append_left bounded]
  exact found

/-- Every delivered put comes before one that is put now. -/
theorem SlotLedger.made_before_put {state : KeyState Value} (ledger : SlotLedger rules track state)
    (value : Value) :
    (track.after (.put value)).DeliveredBefore (track.after (.put value)).puts.length := by
  have length : (track.after (.put value)).puts.length = track.puts.length + 1 :=
    List.length_append
  rw [length]
  exact ledger.made

/-- The account after a put: the slot holds the value that is put. -/
theorem SlotLedger.put (ledger : SlotLedger rules track ⟨queue, flight?⟩) (value : Value) :
    SlotLedger rules (track.after (.put value)) ⟨[value], flight?⟩ where
  newest := .inr ⟨value, rfl, List.getLast?_concat⟩
  ascending := ledger.ascending
  carried := ledger.carried.imp fun _ _ found => getElem?_concat_of_some found value
  made := (ledger.made_before_put value).mono (Nat.le_succ _)
  exhausted empty := nomatch empty
  idle _ _ := ledger.made_before_put value
  offered batch message offer := by
    obtain ⟨sent, same, -, positive, seen, found, before⟩ := ledger.offered batch message offer
    refine ⟨sent, same, List.cons_ne_nil _ _, positive, ?_, getElem?_concat_of_some found value,
      before⟩
    simp only [Track.after, List.length_append, List.length_singleton]
    exact Nat.le_succ_of_le seen
  settled batch settling := by
    obtain ⟨sent, same, -, -, outcome⟩ := ledger.settled batch settling
    exact ⟨sent, same, List.cons_ne_nil _ _, fun _ => ledger.made_before_put value, outcome⟩

/-- A look that finds something finds the newest value, and nothing else. -/
theorem SlotLedger.exists_newest (ledger : SlotLedger rules track ⟨queue, flight?⟩)
    (single : rules.limit = 1) (front : queue.take rules.limit = batch) (nonempty : batch ≠ []) :
    ∃ value, batch = [value] ∧ queue = [value] ∧ track.puts.getLast? = some value := by
  rcases ledger.newest with empty | ⟨value, waiting, last⟩
  · obtain rfl : queue = [] := empty
    rw [List.take_nil] at front
    exact absurd front.symm nonempty
  · obtain rfl : queue = [value] := waiting
    rw [single] at front
    exact ⟨value, front.symm, rfl, last⟩

/-- The account after a look: the newest value is offered. -/
theorem SlotLedger.looked (ledger : SlotLedger rules track ⟨queue, none⟩)
    (single : rules.limit = 1) (front : queue.take rules.limit = batch) (nonempty : batch ≠ []) :
    SlotLedger rules (track.after (.looked batch message))
      ⟨queue, some (.offered batch message)⟩ := by
  obtain ⟨value, rfl, rfl, last⟩ := ledger.exists_newest single front nonempty
  have undelivered : track.DeliveredBefore track.puts.length :=
    ledger.idle rfl (List.cons_ne_nil _ _)
  have found : track.puts[track.puts.length - 1]? = some value := by
    rw [← List.getLast?_eq_getElem?]
    exact last
  have positive : 0 < track.puts.length := by
    obtain ⟨bounded, -⟩ := List.getElem?_eq_some_iff.1 found
    omega
  exact {
    newest := ledger.newest
    ascending := ledger.ascending
    carried := ledger.carried
    made := ledger.made
    exhausted := ledger.exhausted
    idle := nofun
    offered := by
      rintro _ _ ⟨⟩
      exact ⟨value, rfl, List.cons_ne_nil _ _, positive, Nat.le_refl _, found, undelivered⟩
    settled := nofun }

/-- The account after a value is given up. -/
theorem SlotLedger.dropped (ledger : SlotLedger rules track ⟨queue, none⟩)
    (single : rules.limit = 1) (front : queue.take rules.limit = batch) (nonempty : batch ≠ [])
    {cause : BuildError} (unbuilt : rules.build batch = .error cause) :
    SlotLedger rules (track.after (.dropped batch)) ⟨queue, some (.settled batch)⟩ := by
  obtain ⟨value, rfl, rfl, -⟩ := ledger.exists_newest single front nonempty
  exact {
    newest := ledger.newest
    ascending := ledger.ascending
    carried := ledger.carried
    made := ledger.made
    exhausted := ledger.exhausted
    idle := nofun
    offered := nofun
    settled := by
      rintro _ ⟨⟩
      exact ⟨value, rfl, List.cons_ne_nil _ _, fun other => absurd rfl other,
        .inr ⟨cause, unbuilt⟩⟩ }

/-- If a slot holds another value than the one that is offered, a value was put since the look. -/
theorem SlotLedger.seen_lt_of_replaced {value : Value}
    (ledger : SlotLedger rules track ⟨queue, some (.offered [value] message)⟩)
    (replaced : queue ≠ [value]) : track.seen < track.puts.length := by
  obtain ⟨offered, same, waiting, positive, seen, found, -⟩ := ledger.offered _ _ rfl
  obtain rfl : value = offered := List.singleton_inj.1 same
  obtain ⟨current, held, last⟩ := ledger.newest.resolve_left waiting
  by_contra latest
  have seenAll : track.seen = track.puts.length := by omega
  rw [seenAll, ← List.getLast?_eq_getElem?, last] at found
  rw [Option.some.inj found] at held
  exact replaced held

/-- The account after an acceptance: the newest put at the last look is delivered. -/
theorem SlotLedger.accepted
    (ledger : SlotLedger rules track ⟨queue, some (.offered batch message)⟩) :
    SlotLedger rules (track.after (.accepted batch message)) ⟨queue, some (.settled batch)⟩ := by
  obtain ⟨value, rfl, waiting, positive, seen, found, before⟩ := ledger.offered batch message rfl
  have deliveredBefore : ∀ count, track.seen < count →
      (track.after (.accepted [value] message)).DeliveredBefore count := by
    intro count behind position delivered
    rcases List.mem_append.1 delivered with earlier | latest
    · have counted := before position earlier
      omega
    · rw [List.mem_singleton.1 latest]
      omega
  exact {
    newest := ledger.newest
    ascending := by
      refine List.pairwise_append.2 ⟨ledger.ascending, List.pairwise_singleton _ _, ?_⟩
      intro position delivered latest isLatest
      have earlier := before position delivered
      rw [List.mem_singleton.1 isLatest]
      omega
    carried := List.rel_append ledger.carried (.cons found .nil)
    made := deliveredBefore _ (Nat.lt_succ_of_le seen)
    exhausted := fun empty => absurd empty waiting
    idle := nofun
    offered := nofun
    settled := by
      rintro _ ⟨⟩
      refine ⟨value, rfl, waiting, ?_, .inl List.getLast?_concat⟩
      intro replaced
      exact deliveredBefore _ (ledger.seen_lt_of_replaced replaced) }

/-- The account after a refusal: the value waits as before. -/
theorem SlotLedger.refused
    (ledger : SlotLedger rules track ⟨queue, some (.offered batch message)⟩) :
    SlotLedger rules (track.after (.refused batch message)) ⟨queue, none⟩ := by
  obtain ⟨value, -, waiting, -, seen, -, before⟩ := ledger.offered batch message rfl
  exact {
    newest := ledger.newest
    ascending := ledger.ascending
    carried := ledger.carried
    made := ledger.made
    exhausted := fun empty => absurd empty waiting
    idle := fun _ _ => before.mono seen
    offered := nofun
    settled := nofun }

/-- The account after a removal: the newest value was delivered, or never can be. -/
theorem SlotLedger.removed (ledger : SlotLedger rules track ⟨queue, some (.settled batch)⟩)
    (front : queue.take batch.length = batch) :
    SlotLedger rules (track.after (.removed batch)) ⟨queue.drop batch.length, none⟩ := by
  obtain ⟨value, rfl, waiting, -, outcome⟩ := ledger.settled batch rfl
  obtain ⟨current, same, last⟩ := ledger.newest.resolve_left waiting
  obtain rfl : queue = [current] := same
  obtain rfl : current = value := List.singleton_inj.1 front
  exact {
    newest := .inl rfl
    ascending := ledger.ascending
    carried := ledger.carried
    made := ledger.made
    exhausted := by
      intro _ newest isNewest
      rw [Option.some.inj (isNewest.symm.trans last)]
      exact outcome
    idle := fun _ occupied => absurd rfl occupied
    offered := nofun
    settled := nofun }

/-- The account after an acknowledgement that comes too late: another value waits by now. -/
theorem SlotLedger.kept (ledger : SlotLedger rules track ⟨queue, some (.settled batch)⟩)
    (changed : queue.take batch.length ≠ batch) :
    SlotLedger rules (track.after (.kept batch)) ⟨queue, none⟩ := by
  obtain ⟨value, rfl, waiting, undelivered, -⟩ := ledger.settled batch rfl
  have replaced : queue ≠ [value] := by
    rintro rfl
    exact changed rfl
  exact {
    newest := ledger.newest
    ascending := ledger.ascending
    carried := ledger.carried
    made := ledger.made
    exhausted := fun empty => absurd empty waiting
    idle := fun _ _ => undelivered replaced
    offered := nofun
    settled := nofun }

variable {events : List (KeyEvent Value)} {state next : KeyState Value} {event : KeyEvent Value}

/-- Every step of a slot keeps its account. -/
theorem SlotLedger.preserved (ledger : SlotLedger rules track state)
    (slot : rules.retention = .lastValue) (single : rules.limit = 1)
    (stepped : KeyStep rules state event next) : SlotLedger rules (track.after event) next := by
  cases stepped with
  | @put queue flight? value =>
    have pushed : rules.retention.push queue value = [value] := by rw [slot]; rfl
    rw [pushed]
    exact ledger.put value
  | looked front nonempty built => exact ledger.looked single front nonempty
  | dropped front nonempty unbuilt => exact ledger.dropped single front nonempty unbuilt
  | accepted => exact ledger.accepted
  | refused => exact ledger.refused
  | removed front => exact ledger.removed front
  | kept changed => exact ledger.kept changed

/-- Every run of a slot keeps its account. -/
theorem KeyRun.slotLedger (run : KeyRun rules events state) (slot : rules.retention = .lastValue)
    (single : rules.limit = 1) : SlotLedger rules (Schedule.track events) state := by
  induction run with
  | fresh => exact slotLedger_fresh rules
  | step run stepped inductionHypothesis =>
    rw [track_concat]
    exact inductionHypothesis.preserved slot single stepped

end Key

variable {profile : Profile} {events : List Event} {system : System}

/-- **Slots never lose the newest value.** Let anything happen around an outbox in any order. In a
lane that holds the newest value only, for every key:

* the puts that were delivered are in the order in which they were made, and none is delivered
  twice, so the accepted values are a subsequence of the values put;
* every accepted message is that of one value;
* at most one value waits, and it is the newest;
* if nothing waits, the newest value is what the last accepted message carried, or no message can
  be built of it. -/
theorem Run.keeps_newest (run : Run profile events system) {lane : Lane}
    (slot : lane.retention = .lastValue) (key : String) :
    (deliveries (history lane key events)).Pairwise (· < ·) ∧
      List.Forall₂ (fun position value => (puts (history lane key events))[position]? = some value)
        (deliveries (history lane key events)) (delivered (history lane key events)) ∧
      (delivered (history lane key events)).Sublist (puts (history lane key events)) ∧
      (∀ batch message, .accepted batch message ∈ history lane key events →
        ∃ value, batch = [value] ∧ profile.batchMessage lane key [value] = .ok message) ∧
      (system.outbox.queue lane key).length ≤ 1 ∧
      (∀ value ∈ system.outbox.queue lane key,
        (puts (history lane key events)).getLast? = some value) ∧
      (system.outbox.queue lane key = [] →
        ∀ value, (puts (history lane key events)).getLast? = some value →
          (delivered (history lane key events)).getLast? = some value ∨
            ∃ cause, profile.batchMessage lane key [value] = .error cause) := by
  have keyRun := run.keyRun lane key
  have single : (keyRules profile lane key).limit = 1 := by
    cases lane <;> first | rfl | cases slot
  obtain ⟨newest, ascending, carried, -, exhausted, -, -, -⟩ := keyRun.slotLedger slot single
  have queue : (system.view lane key).queue = system.outbox.queue lane key := rfl
  rw [puts_track, queue] at newest exhausted
  rw [puts_track] at carried
  rw [delivered_track] at carried exhausted
  have sublist := sublist_drop_of_positions carried ascending 0 fun _ _ => Nat.zero_le _
  rw [List.drop_zero] at sublist
  refine ⟨ascending, carried, sublist, ?_, ?_, ?_, exhausted⟩
  · intro batch message accepted
    obtain ⟨⟨nonempty, bounded⟩, built⟩ := keyRun.admits.1 _ accepted
    rw [single] at bounded
    obtain ⟨value, rfl⟩ : ∃ value, batch = [value] :=
      List.length_eq_one_iff.1 (Nat.le_antisymm bounded (List.length_pos_iff.2 nonempty))
    exact ⟨value, rfl, built⟩
  · rcases newest with empty | ⟨value, waiting, -⟩
    · rw [empty]
      exact Nat.zero_le 1
    · rw [waiting]
      exact Nat.le_refl 1
  · intro value waits
    rcases newest with empty | ⟨newest, waiting, last⟩
    · rw [empty] at waits
      cases waits
    · rw [waiting] at waits
      rw [List.mem_singleton.1 waits]
      exact last

/-- A gateway with one actuator. -/
def valveGateway : Profile := { gatewayKey := "gateway" }

/-- While an actuator's status is on its way, another one is put and then the first one again. The
sink accepts what it was offered, and the pass acknowledges it. -/
def relapseSchedule : List Move :=
  [.put .statuses "valve" ⟨"valve", "open", .ready⟩,
    .call 0 [.statuses], .drain 0 true, .drain 0 true, .drain 0 true,
    .put .statuses "valve" ⟨"valve", "shut", .busy⟩,
    .put .statuses "valve" ⟨"valve", "open", .ready⟩,
    .drain 0 true, .drain 0 true]

/-- The status that came back is not published again, and nothing newer is lost: the slot is empty
and the newest status is the one that was accepted. -/
theorem keeps_newest_of_relapseSchedule :
    ∃ events system, System.fresh.perform valveGateway relapseSchedule = some (events, system) ∧
      deliveries (history .statuses "valve" events) = [0] ∧
      (puts (history .statuses "valve" events)).length = 3 ∧
      system.outbox.queue .statuses "valve" = [] ∧
      (delivered (history .statuses "valve" events)).Sublist
        (puts (history .statuses "valve" events)) := by
  have possible : (System.fresh.perform valveGateway relapseSchedule).isSome = true := by
    decide +kernel
  have outcome : (System.fresh.perform valveGateway relapseSchedule).map (fun result =>
      (deliveries (history .statuses "valve" result.1),
        (puts (history .statuses "valve" result.1)).length,
        result.2.outbox.queue .statuses "valve")) = some ([0], 3, []) := by
    decide +kernel
  obtain ⟨⟨events, system⟩, made⟩ := Option.isSome_iff_exists.1 possible
  rw [made] at outcome
  obtain ⟨positions, others⟩ := Prod.mk.inj (Option.some.inj outcome)
  obtain ⟨count, waiting⟩ := Prod.mk.inj others
  have run : Run valveGateway events system := Run.fresh.perform made
  have slot : Lane.statuses.retention = .lastValue := rfl
  obtain ⟨-, -, sublist, -⟩ := Run.keeps_newest run slot "valve"
  exact ⟨events, system, made, positions, count, waiting, sublist⟩

end EdgeGateway.Schedule
