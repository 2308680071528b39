import EdgeGateway.Proofs.Schedule.Refusal
import Mathlib.Algebra.Order.BigOperators.Group.Finset

/-!
# The worker never polls

The signal is what a worker waits for: it takes the signal down when it begins a pass, and only a
put, a start and the transport coming up raise it. So over any stretch of a run the worker begins at
most one pass more than it was given such reasons (`Run.wakeups_le`), and a transport that is already
connected gives none by being connected again (`Run.without_repeat`).

A pass meets at most one refusal of each key. Against a sink that refuses everything the worker thus
tries no more often than it wakes up times the keys under which something arrived.

`Budget` holds both balances of a stretch: wake-ups against reasons, and refusals against wake-ups.
-/

namespace EdgeGateway.Schedule

/-! ## Reasons to wake up -/

namespace Event

/-- Whether the transport is connected after an event, `up` being whether it was before. -/
def link (up : Bool) : Event → Bool
  | connected now => now
  | _ => up

/-- Whether the signal is up after an event, given whether the transport was connected and the
signal up before. -/
def signal (up signalled : Bool) : Event → Bool
  | put _ _ _ | started => true
  | connected now => signalled || (now && !up)
  | began .worker => false
  | _ => signalled

end Event

/-- Whether the transport is connected after some events. It is not at first. -/
def isConnected (events : List Event) : Bool := events.foldl Event.link false

/-- How often the transport comes up, `up` being whether it is connected at first. -/
def connections (up : Bool) : List Event → Nat
  | [] => 0
  | event :: events => (event.link up && !up).toNat + connections (event.link up) events

/-- How often publishing is started. -/
def starts (events : List Event) : Nat := events.countP fun event => event matches .started

/-- The transport comes up in one stretch and then in the next. -/
theorem connections_append (up : Bool) (first second : List Event) :
    connections up (first ++ second) =
      connections up first + connections (first.foldl Event.link up) second := by
  induction first generalizing up with
  | nil => exact (Nat.zero_add _).symm
  | cons event first inductionHypothesis =>
    rw [List.cons_append, connections, connections, inductionHypothesis, List.foldl_cons,
      Nat.add_assoc]

/-- A wake-up takes the signal down, and whatever raises it is a reason. -/
theorem Event.signal_le (event : Event) (up signalled : Bool)
    (woken : event = .began .worker → signalled = true) :
    wakeups [event] + (event.signal up signalled).toNat ≤
      (arrivals [event]).length + connections up [event] + starts [event] + signalled.toNat := by
  cases event with
  | put lane key value => cases up <;> exact Nat.le_add_right_of_le (Nat.le_refl 1)
  | connected now => cases up <;> cases now <;> cases signalled <;> decide
  | started => cases up <;> exact Nat.le_add_right_of_le (Nat.le_refl 1)
  | began agent =>
    cases agent with
    | worker =>
      rw [woken rfl]
      exact Nat.le_add_left_of_le (Nat.le_refl 1)
    | caller number => exact Nat.le_add_left_of_le (Nat.le_of_eq (Nat.zero_add _))
  | stopped | rested | left | passed =>
    exact Nat.le_add_left_of_le (Nat.le_of_eq (Nat.zero_add _))

namespace System

variable {profile : Profile} {system next : System} {event : Event}

/-- The flags of an outbox change as the events of steps say, and a worker only wakes up while the
signal is up. -/
theorem flags_of_step {move : Move} (made : system.step profile move = some (event, next)) :
    next.outbox.connected = event.link system.outbox.connected ∧
      next.outbox.signalled = event.signal system.outbox.connected system.outbox.signalled ∧
      (event = .began .worker → system.outbox.signalled = true) := by
  cases move with
  | put lane key value =>
    cases made
    exact ⟨rfl, rfl, by simp⟩
  | connect up =>
    cases made
    exact ⟨rfl, rfl, by simp⟩
  | start =>
    cases made
    exact ⟨rfl, rfl, by simp⟩
  | stop =>
    cases made
    exact ⟨rfl, rfl, by simp⟩
  | call number lanes =>
    obtain ⟨-, rfl, rfl⟩ := call_inv made
    exact ⟨rfl, rfl, by simp⟩
  | drain number answer =>
    obtain ⟨occurrence, rfl, -, outbox, -⟩ := exists_occurrence_of_drain made
    rw [outbox]
    exact ⟨Drain.Pass.connected_of_step, Drain.Pass.flags_of_step.1, by simp⟩
  | work accepted =>
    cases workEffect_of_work made with
    | left stopped idle outbox | rested finished outbox =>
      rw [outbox]
      exact ⟨rfl, rfl, by simp⟩
    | began signalled idle outbox =>
      rw [outbox]
      exact ⟨rfl, rfl, fun _ => signalled⟩
    | passed answered unblocked occurs outbox =>
      rw [outbox]
      exact ⟨Drain.Pass.connected_of_step, Drain.Pass.flags_of_step.1, by simp⟩

end System

/-! ## The budget of a stretch -/

/-- What a stretch of a run from one system to another comes to. -/
structure Budget (earlier : System) (since : List Event) (system : System) : Prop where
  connected : system.outbox.connected = since.foldl Event.link earlier.outbox.connected
  /-- Every wake-up has a reason, or the signal was up before. -/
  wakeups : wakeups since + system.outbox.signalled.toNat ≤
    (arrivals since).length + connections earlier.outbox.connected since + starts since +
      earlier.outbox.signalled.toNat
  /-- Every refusal of a key has a wake-up, or the key was awaited before. -/
  refusals : ∀ place, (refusals since).count place + (system.pass .worker).awaited place ≤
    Schedule.wakeups since + (earlier.pass .worker).awaited place

/-- Nothing happens in an empty stretch. -/
theorem budget_refl (system : System) : Budget system [] system where
  connected := rfl
  wakeups := Nat.add_le_add_right (Nat.zero_le _) _
  refusals _ := Nat.le_refl _

variable {profile : Profile} {earlier system next : System} {before since events : List Event}
  {event : Event}

/-- One more step keeps the budget. -/
theorem Budget.step {move : Move} (budget : Budget earlier since system) (sound : system.Sound)
    (once : (system.pass .worker).Once) (made : system.step profile move = some (event, next)) :
    Budget earlier (since ++ [event]) next := by
  obtain ⟨connected, signalled, woken⟩ := System.flags_of_step made
  refine ⟨?_, ?_, fun place => ?_⟩
  · rw [List.foldl_append, ← budget.connected]
    exact connected
  · have balance := event.signal_le system.outbox.connected system.outbox.signalled woken
    have balanceBefore := budget.wakeups
    rw [← signalled, budget.connected] at balance
    rw [connections_append, Schedule.wakeups, arrivals, starts, List.countP_append,
      List.filterMap_append, List.countP_append, List.length_append]
    unfold Schedule.wakeups arrivals starts at balance balanceBefore
    omega
  · have balance := System.refusals_le_of_step sound once made place
    have balanceBefore := budget.refusals place
    rw [Schedule.refusals, Schedule.wakeups, List.filterMap_append, List.count_append,
      List.countP_append]
    unfold Schedule.wakeups Schedule.refusals at balance balanceBefore
    omega

/-- A run comes through a system after each of its events, and keeps a budget from there on. -/
theorem Run.budget (run : Run profile (before ++ since) system) :
    ∃ earlier, Run profile before earlier ∧ Budget earlier since system := by
  generalize whole : before ++ since = events at run
  induction run generalizing since with
  | fresh =>
    obtain ⟨rfl, rfl⟩ := List.append_eq_nil_iff.1 whole
    exact ⟨_, .fresh, budget_refl _⟩
  | @step events system next event run move made inductionHypothesis =>
    rcases List.eq_nil_or_concat since with rfl | ⟨rest, last, rfl⟩
    · rw [List.append_nil] at whole
      rw [whole]
      exact ⟨_, run.step move made, budget_refl _⟩
    · rw [List.concat_eq_append, ← List.append_assoc] at whole
      obtain ⟨rfl, single⟩ := List.append_inj' whole rfl
      obtain rfl := List.singleton_inj.1 single
      obtain ⟨earlier, runBefore, budget⟩ := inductionHypothesis rfl
      rw [List.concat_eq_append]
      exact ⟨earlier, runBefore, budget.step run.sound run.once made⟩

/-- Nothing has happened in a run that has only begun. -/
theorem Run.eq_fresh (run : Run profile [] system) : system = .fresh := by
  generalize none : [] = events at run
  cases run with
  | fresh => rfl
  | step => simp at none

/-- A run keeps a budget from an empty outbox on. -/
theorem Run.budget_fresh (run : Run profile events system) : Budget .fresh events system := by
  have whole : Run profile ([] ++ events) system := run
  obtain ⟨earlier, begun, budget⟩ := whole.budget
  rw [begun.eq_fresh] at budget
  exact budget

/-- The transport is connected as the history of a run says. -/
theorem Run.connected_eq (run : Run profile events system) :
    system.outbox.connected = isConnected events :=
  run.budget_fresh.connected

/-! ## What a budget allows -/

/-- Over any stretch of a run, the worker begins at most one pass more than values are put, the
transport comes up and publishing is started. -/
theorem Run.wakeups_le (run : Run profile (before ++ since) system) :
    wakeups since ≤
      1 + (arrivals since).length + connections (isConnected before) since + starts since := by
  obtain ⟨earlier, runBefore, budget⟩ := run.budget
  have balance := budget.wakeups
  have signalled : earlier.outbox.signalled.toNat ≤ 1 := Bool.toNat_le _
  rw [runBefore.connected_eq] at balance
  omega

/-- A pass of the worker meets at most one refusal of each key. -/
theorem Run.nodup_refusals {pass after : List Event}
    (run : Run profile (before ++ .began .worker :: (pass ++ after)) system)
    (single : .began .worker ∉ pass) : (refusals pass).Nodup := by
  have parted : before ++ .began .worker :: (pass ++ after) =
      before ++ [.began .worker] ++ pass ++ after := by simp
  rw [parted] at run
  obtain ⟨ended, runPass, -⟩ := run.budget
  obtain ⟨begun, -, budget⟩ := runPass.budget
  refine List.nodup_iff_count_le_one.2 fun place => ?_
  have balance := budget.refusals place
  have once : (begun.pass .worker).awaited place ≤ 1 := Drain.Pass.awaited_le_one _ _
  have asleep : wakeups pass = 0 := by
    refine List.countP_eq_zero.2 fun event member woken => single ?_
    unfold Event.isWakeup at woken
    split at woken
    · exact member
    · cases woken
  omega

/-- Things that are among some others are no more than those are, if none occurs too often. -/
theorem length_le_mul_card {Thing : Type} [BEq Thing] [LawfulBEq Thing] [DecidableEq Thing]
    {things all : List Thing} (among : things ⊆ all) {bound : Nat}
    (rare : ∀ thing, things.count thing ≤ bound) :
    things.length ≤ bound * all.toFinset.card := by
  have within : things.toFinset ⊆ all.toFinset := fun thing member =>
    List.mem_toFinset.2 (among (List.mem_toFinset.1 member))
  calc
    things.length = ∑ thing ∈ things.toFinset, things.count thing := by
      rw [← List.sum_toFinset_count_eq_length]
      -- Both sides count, with different tests for equality.
      exact Finset.sum_congr rfl fun thing _ => List.countP_congr fun other _ => by simp
    _ ≤ things.toFinset.card * bound :=
      Finset.sum_le_card_nsmul _ _ _ fun thing _ => rare thing
    _ ≤ all.toFinset.card * bound := Nat.mul_le_mul_right bound (Finset.card_le_card within)
    _ = bound * all.toFinset.card := Nat.mul_comm _ _

/-- The worker meets at most one refusal for each wake-up and each key under which something
arrived. -/
theorem Run.length_refusals_le (run : Run profile events system) :
    (refusals events).length ≤ wakeups events * (arrivals events).toFinset.card := by
  refine length_le_mul_card run.refusals_subset fun place => ?_
  have balance := run.budget_fresh.refusals place
  have idle : (System.fresh.pass .worker).awaited place = 0 := Drain.Pass.awaited_idle place
  omega

/-! ## Attempts against a sink that refuses -/

/-- The key of which the worker offers a batch to its sink in an event. -/
def Event.attempted? : Event → Option (Lane × String)
  | passed .worker (.batch lane key (.accepted _ _)) => some (lane, key)
  | passed .worker (.batch lane key (.refused _ _)) => some (lane, key)
  | _ => none

/-- The keys of which the worker has offered batches to its sink, one for each attempt. -/
def attempts (events : List Event) : List (Lane × String) := events.filterMap Event.attempted?

/-- If the worker has nothing accepted, all its attempts are refused. -/
theorem attempts_eq_refusals
    (refusing : ∀ lane key batch message,
      .passed .worker (.batch lane key (.accepted batch message)) ∉ events) :
    attempts events = refusals events := by
  refine List.filterMap_congr fun event member => ?_
  unfold Event.attempted?
  split
  · exact absurd member (refusing _ _ _ _)
  · rfl
  · rename_i unaccepted unrefused
    symm
    refine Option.eq_none_iff_forall_ne_some.2 fun place refused => ?_
    obtain ⟨batch, message, same⟩ := Event.refused?_eq_some_iff.1 refused
    exact unrefused _ _ _ _ same

/-! ## Being connected again -/

/-- Only the transport makes itself known. -/
theorem System.eq_of_connected_event {move : Move} {up : Bool}
    (made : system.step profile move = some (.connected up, next)) :
    next = { system with outbox := system.outbox.setConnected up } := by
  cases move with
  | put | start | stop => cases made
  | connect now =>
    cases made
    rfl
  | call number lanes =>
    obtain ⟨-, impossible, -⟩ := call_inv made
    cases impossible
  | drain number answer =>
    obtain ⟨occurrence, impossible, -⟩ := exists_occurrence_of_drain made
    cases impossible
  | work accepted => cases workEffect_of_work made

/-- Connecting a connected transport changes nothing. -/
theorem setConnected_of_connected {outbox : Outbox Queues} (connected : outbox.connected = true) :
    outbox.setConnected true = outbox := by
  obtain ⟨lanes, sequence, up, running, signalled⟩ := outbox
  obtain rfl : up = true := connected
  simp [Outbox.setConnected]

/-- A run goes the same way without a transport being connected again. -/
theorem Run.without_repeat {after : List Event}
    (run : Run profile (before ++ .connected true :: after) system)
    (connected : isConnected before = true) : Run profile (before ++ after) system := by
  generalize whole : before ++ .connected true :: after = events at run
  induction run generalizing after with
  | fresh => simp at whole
  | @step events system next event run move made inductionHypothesis =>
    rcases List.eq_nil_or_concat after with rfl | ⟨rest, last, rfl⟩
    · obtain ⟨rfl, single⟩ := List.append_inj' whole rfl
      obtain rfl := List.singleton_inj.1 single
      have same : next = system := by
        rw [System.eq_of_connected_event made,
          setConnected_of_connected (run.connected_eq.trans connected)]
      rw [same, List.append_nil]
      exact run
    · rw [List.concat_eq_append, ← List.cons_append, ← List.append_assoc] at whole
      obtain ⟨rfl, single⟩ := List.append_inj' whole rfl
      obtain rfl := List.singleton_inj.1 single
      rw [List.concat_eq_append, ← List.append_assoc]
      exact (inductionHypothesis rfl).step move made

/-! ## Passes for reasons -/

/-- **The worker never polls.** Let anything happen around an outbox in any order. Then

* the worker has begun at most one pass more than values were put, the transport came up and
  publishing was started;
* between one beginning and the next, it has met at most one refusal of each key of each lane;
* if its sink has accepted nothing, it has made at most as many attempts as that number of passes
  times the number of different keys of lanes under which values were put;
* if the transport was connected while it was connected already, everything else goes the same way
  without that, and the worker begins no pass less. -/
theorem Run.never_polls (run : Run profile events system) :
    wakeups events ≤
        1 + (arrivals events).length + connections false events + starts events ∧
      (∀ before pass after, events = before ++ .began .worker :: (pass ++ after) →
        .began .worker ∉ pass → (refusals pass).Nodup) ∧
      ((∀ lane key batch message,
          .passed .worker (.batch lane key (.accepted batch message)) ∉ events) →
        (attempts events).length ≤
          (1 + (arrivals events).length + connections false events + starts events) *
            (arrivals events).toFinset.card) ∧
      ∀ before after, events = before ++ .connected true :: after → isConnected before = true →
        Run profile (before ++ after) system ∧ wakeups (before ++ after) = wakeups events := by
  have whole : Run profile ([] ++ events) system := run
  have woken : wakeups events ≤
      1 + (arrivals events).length + connections false events + starts events := whole.wakeups_le
  refine ⟨woken, ?_, fun refusing => ?_, ?_⟩
  · rintro before pass after rfl single
    exact run.nodup_refusals single
  · rw [attempts_eq_refusals refusing]
    exact run.length_refusals_le.trans (Nat.mul_le_mul_right _ woken)
  · rintro before after rfl connected
    refine ⟨run.without_repeat connected, ?_⟩
    simp [wakeups, Event.isWakeup]

/-- Two alarms and a reading are put, and the sink refuses everything. While the worker rests, the
transport is connected again, and then it goes down and comes up. -/
def refusingSchedule : List Move :=
  [.put .alarms "door" ⟨"door", true, 1⟩, .put .alarms "door" ⟨"door", false, 2⟩,
      .put .readings "meter" ⟨"meter", ["1"], 3⟩, .start, .connect true] ++
    List.replicate 12 (.work false) ++ [.connect true, .connect false, .connect true] ++
      List.replicate 12 (.work false)

/-- The worker wakes up twice and tries both keys each time. Being connected again does nothing. -/
theorem never_polls_of_refusingSchedule :
    ∃ events system, System.fresh.perform singleGateway refusingSchedule = some (events, system) ∧
      wakeups events = 2 ∧ wakeups events ≤ 1 + 3 + 2 + 1 ∧
      (attempts events).length = 4 ∧ (attempts events).length ≤ (1 + 3 + 2 + 1) * 2 ∧
      ∃ before after, events = before ++ .connected true :: after ∧ isConnected before = true ∧
        Run singleGateway (before ++ after) system ∧ wakeups (before ++ after) = 2 := by
  have possible : (System.fresh.perform singleGateway refusingSchedule).isSome = true := by
    decide +kernel
  have counted : (System.fresh.perform singleGateway refusingSchedule).map (fun result =>
      (wakeups result.1, (arrivals result.1).length, connections false result.1, starts result.1,
        (attempts result.1).length, (arrivals result.1).toFinset.card)) =
      some (2, 3, 2, 1, 4, 2) := by
    decide +kernel
  have noted : (System.fresh.perform singleGateway refusingSchedule).map (fun result =>
      (result.1.all fun event => event.attempted? == event.refused?,
        isConnected (result.1.take 17), result.1[17]?.map (Event.link false))) =
      some (true, true, some true) := by
    decide +kernel
  obtain ⟨⟨events, system⟩, made⟩ := Option.isSome_iff_exists.1 possible
  rw [made] at counted noted
  simp only [Option.map_some, Option.some_inj, Prod.mk.injEq] at counted noted
  obtain ⟨woken, arrived, connected, started, attempted, places⟩ := counted
  obtain ⟨unaccepted, up, again⟩ := noted
  have run : Run singleGateway events system := Run.fresh.perform made
  obtain ⟨rarely, -, refused, unmoved⟩ := Run.never_polls run
  rw [arrived, connected, started] at rarely refused
  rw [places] at refused
  have refusing : ∀ lane key batch message,
      .passed .worker (.batch lane key (.accepted batch message)) ∉ events := by
    intro lane key batch message member
    cases List.all_eq_true.1 unaccepted _ member
  obtain ⟨event, found, linked⟩ := Option.map_eq_some_iff.1 again
  obtain ⟨bounded, here⟩ := List.getElem?_eq_some_iff.1 found
  have repeated : event = .connected true := by
    cases event with
    | connected now => exact congrArg Event.connected linked
    | _ => cases linked
  have parted : events = events.take 17 ++ .connected true :: events.drop 18 := by
    rw [← repeated, ← here, List.getElem_cons_drop, List.take_append_drop]
  obtain ⟨without, fewer⟩ := unmoved _ _ parted up
  exact ⟨events, system, made, woken, rarely, attempted, refused refusing, _, _, parted, up,
    without, fewer.trans woken⟩

end EdgeGateway.Schedule
