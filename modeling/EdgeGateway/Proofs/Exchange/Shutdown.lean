import EdgeGateway.Proofs.Exchange.Leave
import EdgeGateway.Proofs.Schedule.Remaining
import Mathlib.Data.List.Infix

/-!
# Stopping and disconnecting

A worker that may not publish is granted no leave, and a worker that has left is not there any more:
its steps are nothing (`after_of_left`), so nothing but puts and other passes changes what is
pending. `stopping_is_effective` puts the two together.
-/

namespace EdgeGateway

/-- An idle worker has left if publishing is stopped. -/
theorem Worker.eq_left_of_isIdle {Backlog : Type → Type} (outbox : Outbox Backlog) {worker : Worker}
    (idle : worker.isIdle outbox = true) (stopped : outbox.running = false) : worker = .left := by
  cases worker with
  | left => rfl
  | draining pass => cases idle
  | waiting => simp [isIdle, isWoken, stopped] at idle

namespace Exchange

open Drain

open Schedule (Depot)

variable {Backlog : Type → Type} [Store Backlog] {exchange : Exchange Backlog}
  {profile : Profile}

/-! ## A worker that has left -/

/-- Whether a move is the worker's. -/
def Move.isWork : Move → Bool
  | .depot (.work _) => true
  | _ => false

/-- A move that is the worker's is a step of the worker. -/
theorem Move.exists_work_of_isWork {move : Move} (own : move.isWork = true) :
    ∃ accepted, move = .depot (.work accepted) := by
  unfold isWork at own
  split at own
  · exact ⟨_, rfl⟩
  · cases own

/-- A step of a worker that has left is nothing. -/
theorem step_work_of_left (left : exchange.worker = .left) (accepted : Bool) :
    exchange.step (.depot (.work accepted)) = exchange := by
  obtain ⟨⟨outbox, worker, calls⟩, router, log⟩ := exchange
  obtain rfl : worker = .left := left
  exact congrArg (Exchange.mk _ _) (List.append_nil log)

/-- Only starting brings a worker back that has left. -/
theorem worker_step_of_left (left : exchange.worker = .left) {move : Move}
    (unstarted : move ≠ .depot .start) : (exchange.step move).worker = .left := by
  cases move with
  | route | bind | unbind => exact left
  | depot move =>
    cases move with
    | start => exact absurd rfl unstarted
    | work accepted =>
      rw [step_work_of_left left]
      exact left
    | call number lanes =>
      simp only [step, Depot.step]
      split <;> exact left
    | _ => exact left

/-- Until it is started again, a worker that has left is as good as not there. -/
theorem after_of_left (left : exchange.worker = .left) {later : List Move}
    (unstarted : .depot .start ∉ later) :
    (exchange.after later).worker = .left ∧
      exchange.after later = exchange.after (later.filter fun move => !move.isWork) := by
  induction later generalizing exchange with
  | nil => exact ⟨left, rfl⟩
  | cons move later inductionHypothesis =>
    obtain ⟨other, rest⟩ := not_or.1 (mt List.mem_cons.2 unstarted)
    obtain ⟨stays, same⟩ := inductionHypothesis (worker_step_of_left left (Ne.symm other)) rest
    refine ⟨stays, ?_⟩
    cases own : move.isWork with
    | true =>
      obtain ⟨accepted, rfl⟩ := Move.exists_work_of_isWork own
      have idle := step_work_of_left left accepted
      rw [idle] at same
      change after (exchange.step (.depot (.work accepted))) later = _
      rw [idle]
      exact same
    | false =>
      rw [List.filter_cons_of_pos (by simp [own])]
      exact same

/-- The worker does nothing in a move of somebody else. -/
theorem workDeeds_of_unworked {move : Move} (other : move.isWork = false) :
    exchange.workDeeds move = [] := by
  cases move with
  | route | bind | unbind => rfl
  | depot move =>
    cases drains : exchange.drainer? move with
    | none => exact workDeeds_of_undrained drains
    | some drainer =>
      obtain ⟨agent, answer⟩ := drainer
      rw [workDeeds_of_drainer drains]
      refine if_neg fun own => ?_
      obtain ⟨accepted, rfl, -⟩ := Depot.exists_work_of_drainer (own ▸ drains)
      cases other

/-- Without steps of the worker, the worker does nothing. -/
theorem deeds_after_of_unworked (exchange : Exchange Backlog) (moves : List Move) :
    (exchange.after (moves.filter fun move => !move.isWork)).deeds .worker =
      exchange.deeds .worker := by
  induction moves generalizing exchange with
  | nil => rfl
  | cons move moves inductionHypothesis =>
    cases own : move.isWork with
    | true =>
      rw [List.filter_cons_of_neg (by simp [own])]
      exact inductionHypothesis exchange
    | false =>
      rw [List.filter_cons_of_pos (by simp [own])]
      refine (inductionHypothesis (exchange.step move)).trans ?_
      rw [deeds_step, workDeeds_of_unworked own, List.append_nil]

/-- A worker that has left does nothing until it is started again. -/
theorem deeds_after_of_left (left : exchange.worker = .left) {later : List Move}
    (unstarted : .depot .start ∉ later) :
    (exchange.after later).deeds .worker = exchange.deeds .worker := by
  rw [(after_of_left left unstarted).2]
  exact deeds_after_of_unworked exchange later

/-- Nothing that is written down once the worker has left is something that it has done. -/
theorem unwritten_of_left (left : exchange.worker = .left) {later : List Move}
    (unstarted : .depot .start ∉ later) {added : List Entry}
    (log : (exchange.after later).log = exchange.log ++ added) (deed : Deed) :
    .did .worker deed ∉ added := by
  have whole := deeds_after_of_left left unstarted
  rw [deeds, log, List.filterMap_append] at whole
  have silent : added.filterMap (Entry.deed? .worker) = [] :=
    List.append_cancel_left (whole.trans (List.append_nil _).symm)
  intro member
  have undone := List.filterMap_eq_nil_iff.1 silent _ member
  simp [Entry.deed?] at undone

/-- An outbox with the value that a move puts. -/
def Move.fill (outbox : Outbox Backlog) : Move → Outbox Backlog
  | .depot (.put lane key value) => outbox.put lane key value
  | _ => outbox

/-- The value that a move puts under a key. -/
def Move.put? (lane : Lane) (key : String) : Move → Option lane.Value
  | .depot (.put other otherKey value) =>
    if same : other = lane ∧ otherKey = key then some (same.1 ▸ value) else none
  | _ => none

/-- A move that puts nothing fills nothing. -/
theorem Move.fill_of_unput {move : Schedule.Move} (outbox : Outbox Backlog)
    (unput : ∀ lane key value, move ≠ .put lane key value) :
    Move.fill outbox (.depot move) = outbox := by
  cases move with
  | put lane key value => exact absurd rfl (unput lane key value)
  | _ => rfl

/-- In a move in which no pass goes on, the lanes get what is put. -/
theorem lanes_step_of_undrained {move : Schedule.Move}
    (undrained : exchange.drainer? move = none) {filled : Outbox Backlog}
    (lanes : exchange.outbox.lanes = filled.lanes)
    (sequence : exchange.outbox.sequence = filled.sequence) :
    (exchange.step (.depot move)).outbox.lanes = (Move.fill filled (.depot move)).lanes ∧
      (exchange.step (.depot move)).outbox.sequence =
        (Move.fill filled (.depot move)).sequence := by
  rw [toDepot_step]
  cases exchange.toDepot.effect_of_step exchange.router.profile move with
  | put outbox pass =>
    rw [outbox]
    simp [Move.fill, Outbox.put, lanes, sequence]
  | quiet unput undrained lanesAfter sequenceAfter stage =>
    rw [Move.fill_of_unput filled unput]
    exact ⟨lanesAfter.trans lanes, sequenceAfter.trans sequence⟩
  | pass drains =>
    rw [undrained] at drains
    cases drains

omit [Store Backlog] in
/-- Once the worker has left, passes go on in moves of callers only. -/
theorem undrained_of_left (left : exchange.worker = .left) {move : Schedule.Move}
    (other : ∀ number answer, move ≠ .drain number answer) : exchange.drainer? move = none := by
  cases move with
  | drain number answer => exact absurd rfl (other number answer)
  | work accepted =>
    rw [Depot.drainer?, left]
    rfl
  | _ => rfl

/-- As long as no pass but that of a worker that has left makes a step, the lanes hold what they
held and what is put. -/
theorem lanes_after_of_left (left : exchange.worker = .left) {later : List Move}
    (unstarted : .depot .start ∉ later)
    (undrained : ∀ number answer, .depot (.drain number answer) ∉ later)
    (filled : Outbox Backlog) (lanes : exchange.outbox.lanes = filled.lanes)
    (sequence : exchange.outbox.sequence = filled.sequence) :
    (exchange.after later).outbox.lanes = (later.foldl Move.fill filled).lanes := by
  induction later generalizing exchange filled with
  | nil => exact lanes
  | cons move later inductionHypothesis =>
    obtain ⟨other, rest⟩ := not_or.1 (mt List.mem_cons.2 unstarted)
    have restUndrained : ∀ number answer, .depot (.drain number answer) ∉ later :=
      fun number answer member => undrained number answer (List.mem_cons_of_mem move member)
    have stays := worker_step_of_left left (Ne.symm other)
    have same : (exchange.step move).outbox.lanes = (Move.fill filled move).lanes ∧
        (exchange.step move).outbox.sequence = (Move.fill filled move).sequence := by
      cases move with
      | route | bind | unbind => exact ⟨lanes, sequence⟩
      | depot move =>
        refine lanes_step_of_undrained (undrained_of_left left ?_) lanes sequence
        rintro number answer rfl
        exact undrained number answer List.mem_cons_self
    exact inductionHypothesis stays rest restUndrained _ same.1 same.2

/-! ### Queues -/

section Queues

variable {exchange : Exchange Queues} {outbox : Outbox Queues} {lane : Lane} {key : String}

/-- A step of a pass that removes nothing from a key leaves its queue as it is. -/
theorem queue_of_step {answer : Bool} {pass : Pass}
    (unremoved : ∀ batch, passDeed? answer outbox pass ≠ some (.removed lane key batch)) :
    (pass.step profile answer outbox).1.queue lane key = outbox.queue lane key := by
  obtain ⟨lanes, stage, report⟩ := pass
  cases stage with
  | enter => cases lanes <;> rfl
  | ask other otherKey later => rfl
  | look other otherKey later =>
    simp only [Pass.step, Outbox.peek_eq]
    split
    · rfl
    · split <;> rfl
  | publish other otherKey later batch message => cases answer <;> rfl
  | acknowledge other otherKey later batch =>
    simp only [Pass.step, passDeed?, Running.deed?, Outbox.acknowledge_eq] at unremoved ⊢
    split
    · rename_i front
      simp only [front, if_true] at unremoved
      refine Outbox.queue_remove_of_ne _ ?_
      rintro ⟨rfl, rfl⟩
      exact unremoved batch rfl
    · rfl

/-- Every move keeps the retentions of the stores. -/
theorem retains_step (retains : exchange.outbox.Retains) (move : Move) :
    (exchange.step move).outbox.Retains := by
  cases move with
  | route | bind | unbind => exact retains
  | depot move =>
    rw [toDepot_step]
    cases exchange.toDepot.effect_of_step exchange.router.profile move with
    | put outbox pass =>
      rw [outbox]
      exact retains.put _ _ _
    | quiet unput undrained lanes => exact retains.congr lanes
    | pass drains outbox =>
      rw [outbox]
      exact Pass.retains_of_step retains

/-- The stores keep their retentions. -/
theorem retains_after (retains : exchange.outbox.Retains) (moves : List Move) :
    (exchange.after moves).outbox.Retains := by
  induction moves generalizing exchange with
  | nil => exact retains
  | cons move moves inductionHypothesis => exact inductionHypothesis (retains_step retains move)

/-- A move that puts nothing puts nothing under a key. -/
theorem Move.put?_of_unput {move : Schedule.Move}
    (unput : ∀ lane key value, move ≠ .put lane key value) :
    Move.put? lane key (.depot move) = none := by
  cases move with
  | put lane key value => exact absurd rfl (unput lane key value)
  | _ => rfl

/-- A step by which no pass removes anything from a key pushes onto its queue what is put. -/
theorem queue_step_of_unremoved (retains : exchange.outbox.Retains) (move : Move)
    {added : List Entry} (log : (exchange.step move).log = exchange.log ++ added)
    (unremoved : ∀ agent batch, .did agent (.removed lane key batch) ∉ added) :
    (exchange.step move).outbox.queue lane key =
      (move.put? lane key).toList.foldl lane.retention.push (exchange.outbox.queue lane key) := by
  cases move with
  | route | bind | unbind => rfl
  | depot move =>
    have written : (written? exchange.toDepot move).toList = added := List.append_cancel_left log
    rw [toDepot_step]
    cases exchange.toDepot.effect_of_step exchange.router.profile move with
    | @put other otherKey value next outbox pass =>
      rw [outbox]
      by_cases same : other = lane ∧ otherKey = key
      · obtain ⟨rfl, rfl⟩ := same
        simp only [Move.put?, and_self, dif_pos]
        exact Outbox.queue_put_self retains _ _ _
      · simp only [Move.put?, same, dif_neg, not_false_iff]
        exact Outbox.queue_put_of_ne value same
    | quiet unput undrained lanes =>
      rw [Move.put?_of_unput unput, Outbox.queue_congr lanes]
      rfl
    | @pass _ agent answer _ drains outbox =>
      rw [Move.put?_of_unput (Depot.unput_of_drainer drains), outbox]
      refine queue_of_step fun batch removed => unremoved agent batch ?_
      rw [← written]
      simp [written?, drains, removed]

/-- Under a key from which no pass removes anything, what waited is still there, with what is put
pushed onto it. -/
theorem queue_after_of_unremoved (retains : exchange.outbox.Retains) {later : List Move}
    {added : List Entry} (log : (exchange.after later).log = exchange.log ++ added)
    (unremoved : ∀ agent batch, .did agent (.removed lane key batch) ∉ added) :
    (exchange.after later).outbox.queue lane key =
      (later.filterMap (Move.put? lane key)).foldl lane.retention.push
        (exchange.outbox.queue lane key) := by
  induction later generalizing exchange added with
  | nil => rfl
  | cons move later inductionHypothesis =>
    obtain ⟨first, stepLog⟩ := log_step exchange move
    obtain ⟨second, laterLog⟩ := log_after (exchange.step move) later
    have parted : added = first ++ second := by
      change (after (exchange.step move) later).log = _ at log
      rw [laterLog, stepLog, List.append_assoc] at log
      exact (List.append_cancel_left log).symm
    subst parted
    have now := queue_step_of_unremoved retains move stepLog fun agent batch member =>
      unremoved agent batch (List.mem_append_left second member)
    have goesOn := inductionHypothesis (retains_step retains move) laterLog fun agent batch member =>
      unremoved agent batch (List.mem_append_right first member)
    rw [now] at goesOn
    refine goesOn.trans ?_
    cases pushed : move.put? lane key <;> simp [pushed]

end Queues

/-! ## Stopping is effective -/

/-- **Stopping and disconnecting are effective.** Let anything be done with a router and its worker,
over queues or over journals, and let whatever other threads do come between any two steps of the
worker.

* Take any stretch of moves through which the worker may not publish. It is not let through by its
  gate, and it offers at most one message. If it offers one, then before it does anything else, and
  directly after it was let through before the stretch.
* Take the worker once it has left its loop, until it is started again. It does nothing any more:
  all that happens would happen without it. So the lanes hold what they held and what is put, as
  long as no other pass makes a step.

In memory the last is true of every single key as long as no other pass removes anything from it. -/
theorem stopping_is_effective (router : Router) (moves : List Move) :
    (∀ {Backlog : Type → Type} [Store Backlog] (outbox : Outbox Backlog),
      let exchange := run router outbox moves
      (∀ during,
        (∀ front, front <+: during → (exchange.after front).outbox.mayPublish = false) →
          ∃ done, (exchange.after during).deeds .worker = exchange.deeds .worker ++ done ∧
            .asked true ∉ done ∧ offers done ≤ 1 ∧
            ∀ before message accepted rest, done = before ++ .offered message accepted :: rest →
              before = [] ∧ ∃ earlier, exchange.deeds .worker = earlier ++ [.asked true]) ∧
      (exchange.worker = .left → ∀ later, .depot .start ∉ later →
        (exchange.after later).worker = .left ∧
          (exchange.after later).deeds .worker = exchange.deeds .worker ∧
          exchange.after later = exchange.after (later.filter fun move => !move.isWork) ∧
          ((∀ number answer, .depot (.drain number answer) ∉ later) →
            (exchange.after later).outbox.lanes =
              (later.foldl Move.fill exchange.outbox).lanes))) ∧
    let exchange := run router (.fresh : Outbox Queues) moves
    exchange.worker = .left → ∀ later, .depot .start ∉ later → ∀ added,
      (exchange.after later).log = exchange.log ++ added → ∀ lane key,
        (∀ number batch, .did (.caller number) (.removed lane key batch) ∉ added) →
          (exchange.after later).outbox.queue lane key =
            (later.filterMap (Move.put? lane key)).foldl lane.retention.push
              (exchange.outbox.queue lane key) := by
  refine ⟨fun {Backlog} _ outbox => ?_, ?_⟩
  · intro exchange
    -- The run itself is a stretch from where nothing has been granted.
    have idle : ({ router, outbox : Exchange Backlog }).worker.pass.stage.Needs .refused := trivial
    obtain ⟨past, leave, happened, leads, needs, -⟩ := leads_after idle moves
    have deeds : exchange.deeds .worker = past := happened
    refine ⟨fun during shut => ?_, fun left later unstarted => ?_⟩
    · obtain ⟨done, next, now, goesOn, -, ungranted⟩ := leads_after needs during
      have closed : .asked true ∉ done := ungranted shut
      have allowed := goesOn.lawful.offers_le
      have grants : grants done = 0 := List.count_eq_zero.2 closed
      have single : leave.allowance ≤ 1 := by
        unfold Leave.allowance
        split <;> omega
      refine ⟨done, now, closed, by omega, ?_⟩
      rintro before message accepted rest rfl
      rcases goesOn.lawful.asked_before_offer with ⟨first, granted⟩ | ⟨earlier, rfl⟩
      · refine ⟨first, ?_⟩
        rw [deeds]
        exact (leads.last_of_granted granted).resolve_left fun unasked => Leave.noConfusion unasked.2
      · exact absurd (by simp) closed
    · obtain ⟨stays, same⟩ := after_of_left left unstarted
      exact ⟨stays, deeds_after_of_left left unstarted, same, fun undrained =>
        lanes_after_of_left left unstarted undrained _ rfl rfl⟩
  · intro exchange left later unstarted added log lane key unremoved
    have retains : exchange.outbox.Retains := retains_after Outbox.retains_fresh moves
    refine queue_after_of_unremoved retains log fun agent batch => ?_
    cases agent with
    | worker => exact unwritten_of_left left unstarted log _
    | caller number => exact unremoved number batch

/-- A gateway that publishes a reading. -/
def meterRouter : Router := { profile := { gatewayKey := "GW" } }

/-- The worker is stopped once its gate has let it through to the reading. -/
def lateStopMoves : List Move :=
  List.map .depot
    [.put .readings "meter" ⟨"meter", ["1"], 0⟩, .start, .connect true, .work false, .work false,
      .work false, .work false, .stop]

/-- The worker publishes and removes the reading and leaves, while an alarm is put. -/
def lateSteps : List Move :=
  List.map .depot
    [.work false, .work true, .work false, .put .alarms "door" ⟨"door", true, 1⟩, .work false,
      .work false, .work false, .work false, .work false, .work false, .work false]

/-- A reading and another alarm are put once the worker has left. It is told to go on in vain. -/
def absentSteps : List Move :=
  List.map .depot
    [.put .readings "meter" ⟨"meter", ["2"], 0⟩, .work true,
      .put .alarms "door" ⟨"door", false, 3⟩, .connect true]

/-- A caller publishes the reading then. -/
def callerSteps : List Move :=
  List.map .depot
    [.call 0 [.readings], .drain 0 true, .drain 0 true, .drain 0 true, .drain 0 true, .drain 0 true]

/-- What a reading of the meter is published as. -/
def meterMessage (value : String) : Message where
  channel := "d2p/sensor_reading/g/GW/r/meter"
  payload := "[\x7b\"data\":\"" ++ value ++ "\"\x7d]"

/-- One message is offered after the stop, and the alarms that are put afterwards wait: the worker
does nothing once it has left, and the caller leaves them alone. -/
theorem stopping_is_effective_of_lateSteps :
    let exchange := run meterRouter (.fresh : Outbox Queues) lateStopMoves
    let gone := run meterRouter (.fresh : Outbox Queues) (lateStopMoves ++ lateSteps)
    exchange.deeds .worker = [.asked true] ∧
      gone.deeds .worker =
        [.asked true, .offered (meterMessage "1") true,
          .removed .readings "meter" [⟨"meter", ["1"], 0⟩], .asked false, .asked false] ∧
      (∃ done, (exchange.after lateSteps).deeds .worker = exchange.deeds .worker ++ done ∧
        offers done ≤ 1) ∧
      gone.worker = .left ∧
      (gone.after (absentSteps ++ callerSteps)).deeds .worker = gone.deeds .worker ∧
      (gone.after absentSteps).outbox.lanes = (absentSteps.foldl Move.fill gone.outbox).lanes ∧
      (gone.after (absentSteps ++ callerSteps)).log = gone.log ++
        [.did (.caller 0) (.asked true), .did (.caller 0) (.offered (meterMessage "2") true),
          .did (.caller 0) (.removed .readings "meter" [⟨"meter", ["2"], 0⟩])] ∧
      (gone.after (absentSteps ++ callerSteps)).outbox.queue .alarms "door" =
        [⟨"door", true, 1⟩, ⟨"door", false, 3⟩] := by
  intro exchange gone
  have shut : ∀ front, front <+: lateSteps →
      (exchange.after front).outbox.mayPublish = false := by
    have every : ∀ front ∈ lateSteps.inits,
        (exchange.after front).outbox.mayPublish = false := by
      decide +kernel
    exact fun front within => every front ((List.mem_inits front lateSteps).2 within)
  obtain ⟨done, deeds, -, offered, -⟩ :=
    ((stopping_is_effective meterRouter lateStopMoves).1 .fresh).1 lateSteps shut
  have left : gone.worker = .left :=
    Worker.eq_left_of_isIdle gone.outbox (by decide +kernel) (by decide +kernel)
  have unstarted : .depot .start ∉ absentSteps ++ callerSteps := by
    simp [absentSteps, callerSteps]
  have undrained : ∀ number answer, .depot (.drain number answer) ∉ absentSteps := by
    simp [absentSteps]
  have log : (gone.after (absentSteps ++ callerSteps)).log = gone.log ++
      [.did (.caller 0) (.asked true), .did (.caller 0) (.offered (meterMessage "2") true),
        .did (.caller 0) (.removed .readings "meter" [⟨"meter", ["2"], 0⟩])] := by
    decide +kernel
  obtain ⟨absent, alone⟩ := stopping_is_effective meterRouter (lateStopMoves ++ lateSteps)
  obtain ⟨-, idle, -, -⟩ := (absent .fresh).2 left _ unstarted
  obtain ⟨-, -, -, kept⟩ := (absent .fresh).2 left absentSteps
    (fun started => unstarted (List.mem_append_left _ started))
  have queue := alone left _ unstarted _ log .alarms "door" (by simp)
  have waits : gone.outbox.queue .alarms "door" = [⟨"door", true, 1⟩] := by decide +kernel
  rw [waits] at queue
  exact ⟨by decide +kernel, by decide +kernel, ⟨done, deeds, offered⟩, left, idle, kept undrained, log,
    queue⟩

end Exchange

end EdgeGateway
