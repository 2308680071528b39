import EdgeGateway.Proofs.Exchange.Basic

/-!
# The leave of a worker

Leave to publish, which an answer of the gate grants and an offer uses up, outlasts the moment at
which it was granted: the worker asks, looks, builds a message and only then offers it.
`leads_after` follows the leave of a worker through any stretch of moves. While the worker may not
publish no answer grants leave, so all that it can still offer is what it has leave for already.
-/

namespace EdgeGateway

namespace Drain

/-- What some deeds leave to be done, if there is leave for each of them. -/
inductive Leave.Leads : Leave → List Deed → Leave → Prop where
  | nil (leave : Leave) : Leads leave [] leave
  | cons {leave next final : Leave} {deed : Deed} {deeds : List Deed}
      (allowed : leave.after deed = some next) (rest : Leads next deeds final) :
      Leads leave (deed :: deeds) final

namespace Leave.Leads

variable {leave next final : Leave} {deeds more : List Deed}

/-- One deed leads where it leaves. -/
theorem single {deed : Deed} (allowed : leave.after deed = some next) :
    Leads leave [deed] next :=
  .cons allowed (.nil next)

/-- Deeds after deeds lead on. -/
theorem append (first : Leads leave deeds next) (second : Leads next more final) :
    Leads leave (deeds ++ more) final := by
  induction first with
  | nil leave => exact second
  | cons allowed rest inductionHypothesis => exact .cons allowed (inductionHypothesis second)

/-- There is leave for deeds that lead somewhere. -/
theorem lawful (leads : Leads leave deeds final) : Lawful leave deeds := by
  induction leads with
  | nil leave => trivial
  | cons allowed rest inductionHypothesis => exact ⟨_, allowed, inductionHypothesis⟩

/-- Leave is granted from the start, or the last of the deeds was an answer that granted it. -/
theorem last_of_granted (leads : Leads leave deeds final) (granted : final = .granted) :
    (deeds = [] ∧ leave = .granted) ∨ ∃ earlier, deeds = earlier ++ [.asked true] := by
  induction leads with
  | nil leave => exact .inl ⟨rfl, granted⟩
  | @cons leave next final deed deeds allowed rest inductionHypothesis =>
    right
    rcases inductionHypothesis granted with ⟨rfl, rfl⟩ | ⟨earlier, rfl⟩
    · exact ⟨[], congrArg (fun deed => [deed]) (Leave.eq_asked_of_after allowed)⟩
    · exact ⟨deed :: earlier, rfl⟩

end Leave.Leads

end Drain

namespace Exchange

open Drain

open Schedule (Agent Depot)

variable {Backlog : Type → Type} [Store Backlog] {exchange : Exchange Backlog}
  {profile : Profile} {outbox : Outbox Backlog} {leave : Leave}

/-! ## The leave of a worker -/

/-- The step of a pass that meets one answer is the step with that answer. -/
theorem pass_advance_answering (answer : Bool) (pass : Pass) :
    (Running.advance profile (answering answer) { outbox, world := (), pass }).pass =
      (pass.step profile answer outbox).2 := by
  obtain ⟨lanes, stage, report⟩ := pass
  cases stage <;> rfl

/-- A pass with the leave that it needs has leave for its step, and is left with what it needs. -/
theorem leads_of_step {answer : Bool} {pass : Pass} (needs : pass.stage.Needs leave) :
    ∃ next, Leave.Leads leave (passDeed? answer outbox pass).toList next ∧
      (pass.step profile answer outbox).2.stage.Needs next := by
  let running : Running Backlog Unit := { outbox, world := (), pass }
  have standing : running.pass.stage.Needs leave := needs
  have step := leave_of_advance profile (answering answer) standing
  rw [← pass_advance_answering]
  cases done : passDeed? answer outbox pass with
  | none =>
    rw [show running.deed? (answering answer) = none from done] at step
    exact ⟨leave, .nil leave, step⟩
  | some deed =>
    rw [show running.deed? (answering answer) = some deed from done] at step
    obtain ⟨next, allowed, needsNext⟩ := step
    exact ⟨next, .single allowed, needsNext⟩

/-- What the worker does in a move. -/
def workDeeds (exchange : Exchange Backlog) : Move → List Deed
  | .depot move => ((written? exchange.toDepot move).bind (Entry.deed? .worker)).toList
  | .route _ _ | .bind _ _ | .unbind _ => []

/-- Routing a message is nothing that an agent does. -/
theorem filterMap_route (router : Router) (inbound : Message) (accepted : Bool)
    (log : List Entry) (agent : Agent) :
    (router.route (sinks inbound accepted) inbound log).2.filterMap (Entry.deed? agent) =
      log.filterMap (Entry.deed? agent) := by
  unfold Router.route
  split
  · rfl
  · simp [sinks]
  · cases accepted <;> simp [sinks, Entry.deed?]

/-- A move adds to what the worker has done what it does in the move. -/
theorem deeds_step (exchange : Exchange Backlog) (move : Move) :
    (exchange.step move).deeds .worker = exchange.deeds .worker ++ exchange.workDeeds move := by
  cases move with
  | route message accepted =>
    simp only [workDeeds, List.append_nil]
    exact filterMap_route _ _ _ _ _
  | bind | unbind => exact (List.append_nil _).symm
  | depot move =>
    simp only [step, deeds, workDeeds, List.filterMap_append]
    cases written : written? exchange.toDepot move with
    | none => rfl
    | some entry => cases done : entry.deed? .worker <;> simp [done]

/-- In a move in which a pass goes on, the worker does what the pass does if it is its own. -/
theorem workDeeds_of_drainer {move : Schedule.Move} {agent : Agent} {answer : Bool}
    (drains : exchange.drainer? move = some (agent, answer)) :
    exchange.workDeeds (.depot move) =
      if agent = .worker then (passDeed? answer exchange.outbox (exchange.pass agent)).toList
      else [] := by
  simp only [workDeeds, written?, drains, Option.bind_some]
  cases passDeed? answer exchange.outbox (exchange.pass agent) with
  | none => simp
  | some deed => by_cases own : agent = .worker <;> simp [Entry.deed?, own]

/-- In a move in which no pass goes on, the worker does nothing. -/
theorem workDeeds_of_undrained {move : Schedule.Move} (undrained : exchange.drainer? move = none) :
    exchange.workDeeds (.depot move) = [] := by
  simp only [workDeeds, written?, undrained, Option.bind_none, Option.toList_none]

/-- A worker that may not publish is granted no leave. -/
theorem asked_not_mem_workDeeds (shut : exchange.outbox.mayPublish = false) (move : Move) :
    .asked true ∉ exchange.workDeeds move := by
  cases move with
  | route | bind | unbind => exact List.not_mem_nil
  | depot move =>
    cases drains : exchange.drainer? move with
    | none =>
      rw [workDeeds_of_undrained drains]
      exact List.not_mem_nil
    | some drainer =>
      obtain ⟨agent, answer⟩ := drainer
      rw [workDeeds_of_drainer drains]
      split
      · rename_i own
        subst own
        obtain ⟨accepted, -, rfl⟩ := Depot.exists_work_of_drainer drains
        rw [Option.mem_toList]
        obtain ⟨lanes, stage, report⟩ := exchange.pass .worker
        cases stage with
        | ask lane key later => simp [passDeed?, Running.deed?, answering, Worker.answer, shut]
        | acknowledge lane key later batch =>
          simp only [passDeed?, Running.deed?]
          split <;> simp
        | _ => simp [passDeed?, Running.deed?]
      · exact List.not_mem_nil

/-- In every move the worker keeps to its leave. -/
theorem leads_of_move (needs : (exchange.pass .worker).stage.Needs leave) (move : Move) :
    ∃ next, Leave.Leads leave (exchange.workDeeds move) next ∧
      ((exchange.step move).pass .worker).stage.Needs next := by
  cases move with
  | route | bind | unbind => exact ⟨leave, .nil leave, needs⟩
  | depot move =>
    rw [toDepot_step]
    cases exchange.toDepot.effect_of_step exchange.router.profile move with
    | put outbox pass =>
      rw [pass]
      exact ⟨leave, .nil leave, needs⟩
    | quiet unput undrained lanes sequence stage =>
      rw [workDeeds_of_undrained undrained, stage]
      exact ⟨leave, .nil leave, needs⟩
    | @pass _ agent answer _ drains outbox own others =>
      rw [workDeeds_of_drainer drains]
      split
      · rename_i worker
        subst worker
        rw [own]
        exact leads_of_step needs
      · rename_i other
        rw [others .worker (Ne.symm other)]
        exact ⟨leave, .nil leave, needs⟩

/-- Through any stretch of moves the worker keeps to its leave, and while it may not publish it is
granted none. -/
theorem leads_after (needs : (exchange.pass .worker).stage.Needs leave) (during : List Move) :
    ∃ done next, (exchange.after during).deeds .worker = exchange.deeds .worker ++ done ∧
      Leave.Leads leave done next ∧ ((exchange.after during).pass .worker).stage.Needs next ∧
      ((∀ front, front <+: during → (exchange.after front).outbox.mayPublish = false) →
        .asked true ∉ done) := by
  induction during generalizing exchange leave with
  | nil => exact ⟨[], leave, (List.append_nil _).symm, .nil leave, needs, fun _ => List.not_mem_nil⟩
  | cons move during inductionHypothesis =>
    obtain ⟨middle, first, needsMiddle⟩ := leads_of_move needs move
    obtain ⟨done, next, deeds, rest, needsNext, ungranted⟩ := inductionHypothesis needsMiddle
    refine ⟨exchange.workDeeds move ++ done, next, ?_, first.append rest, needsNext, fun shut => ?_⟩
    · rw [← List.append_assoc, ← deeds_step]
      exact deeds
    · have now : exchange.outbox.mayPublish = false := shut [] List.nil_prefix
      have later : ∀ front, front <+: during →
          ((exchange.step move).after front).outbox.mayPublish = false :=
        fun front within => shut (move :: front) (List.cons_prefix_cons.2 ⟨rfl, within⟩)
      rw [List.mem_append, not_or]
      exact ⟨asked_not_mem_workDeeds now move, ungranted later⟩

/-- Nothing that has been written down is taken back. -/
theorem log_step (exchange : Exchange Backlog) (move : Move) :
    ∃ added, (exchange.step move).log = exchange.log ++ added := by
  cases move with
  | route message accepted =>
    simp only [step, Router.route]
    split
    · exact ⟨[], (List.append_nil _).symm⟩
    · simp [sinks]
    · cases accepted <;> exact ⟨_, rfl⟩
  | bind | unbind => exact ⟨[], (List.append_nil _).symm⟩
  | depot move => exact ⟨_, rfl⟩

/-- Nothing that has been written down is ever taken back. -/
theorem log_after (exchange : Exchange Backlog) (moves : List Move) :
    ∃ added, (exchange.after moves).log = exchange.log ++ added := by
  induction moves generalizing exchange with
  | nil => exact ⟨[], (List.append_nil _).symm⟩
  | cons move moves inductionHypothesis =>
    obtain ⟨first, step⟩ := log_step exchange move
    obtain ⟨rest, later⟩ := inductionHypothesis (exchange.step move)
    rw [step, List.append_assoc] at later
    exact ⟨first ++ rest, later⟩

end Exchange

end EdgeGateway
