import EdgeGateway.Backlog.Queues
import EdgeGateway.Drain.Run

/-!
# What a gate governs

`Running.deeds` lists what a running pass does that can be seen from outside: the answers that it
gets from its gate, the messages that it offers to its sink and the batches that it removes.
`deeds_under_gate` says how the answers govern the rest. Every offer follows directly on an answer
of its own that let it through, and after an answer that did not, nothing is offered or removed
before one that does.

A gate that answers no ends a lane, and the next lane asks again. So the pass is over only if the
gate stays shut: `reopened_gate_lets_through` is a pass that goes on under a gate that opens again.
-/

namespace EdgeGateway.Drain

/-- What a pass does. -/
inductive Deed where
  /-- It asks the gate. -/
  | asked (answer : Bool)
  /-- It offers a message to the sink. -/
  | offered (message : Message) (accepted : Bool)
  /-- It removes a batch. -/
  | removed (lane : Lane) (key : String) (batch : List lane.Value)
  deriving DecidableEq

variable {Backlog : Type → Type} [Store Backlog] {World : Type}

namespace Running

/-- What a running pass does in its next step, if it can be seen. -/
def deed? (surroundings : Surroundings Backlog World) (running : Running Backlog World) :
    Option Deed :=
  match running.pass.stage with
  | .enter | .look _ _ _ => none
  | .ask _ _ _ => some (.asked (surroundings.gate running.outbox running.world).1)
  | .publish _ _ _ _ message =>
    some (.offered message (surroundings.publish message running.outbox running.world).1)
  | .acknowledge lane key _ batch =>
    if (running.outbox.acknowledge lane key batch).1 then some (.removed lane key batch) else none

/-- What a running pass does in as many steps as it takes to finish, at most `fuel`. -/
def deeds (profile : Profile) (surroundings : Surroundings Backlog World) :
    (fuel : Nat) → Running Backlog World → List Deed
  | 0, _ => []
  | fuel + 1, running =>
    if running.pass.isFinished then []
    else (running.deed? surroundings).toList ++
      deeds profile surroundings fuel (running.advance profile surroundings)

end Running

/-! ## Leave to publish -/

/-- What the last answer of a gate leaves to be done. -/
inductive Leave where
  /-- The gate did not let the pass through, or was not asked yet. -/
  | refused
  /-- The gate has let the pass through. -/
  | granted
  /-- The gate has let the pass through, and a message has been offered or a batch removed. -/
  | used
  deriving DecidableEq

/-- What is left to be done after a deed, if there was leave for it. -/
def Leave.after : Leave → Deed → Option Leave
  | _, .asked true => some granted
  | _, .asked false => some refused
  | granted, .offered _ _ => some used
  | granted, .removed _ _ _ | used, .removed _ _ _ => some used
  | refused, _ | used, .offered _ _ => none

/-- Whether there is leave for every one of some deeds. -/
def Lawful : Leave → List Deed → Prop
  | _, [] => True
  | leave, deed :: deeds => ∃ next, leave.after deed = some next ∧ Lawful next deeds

/-- The leave that a pass needs in a stage. -/
def Stage.Needs : Stage → Leave → Prop
  | .enter, _ | .ask _ _ _, _ => True
  | .look _ _ _, leave | .publish _ _ _ _ _, leave => leave = .granted
  | .acknowledge _ _ _ _, leave => leave ≠ .refused

/-- A pass that goes on to the next key needs no leave. -/
theorem Stage.needs_next (lane : Lane) (later : List String) (leave : Leave) :
    (Stage.next lane later).Needs leave := by
  cases later <;> trivial

/-- A pass with the leave that it needs has leave for its next step, and is left with what it needs
after it. -/
theorem leave_of_advance (profile : Profile) (surroundings : Surroundings Backlog World)
    {running : Running Backlog World} {leave : Leave} (needs : running.pass.stage.Needs leave) :
    match running.deed? surroundings with
    | some deed => ∃ next, leave.after deed = some next ∧
        (running.advance profile surroundings).pass.stage.Needs next
    | none => (running.advance profile surroundings).pass.stage.Needs leave := by
  obtain ⟨outbox, world, ⟨lanes, stage, report⟩⟩ := running
  cases stage with
  | enter =>
    cases lanes with
    | nil => trivial
    | cons lane lanes => exact Stage.needs_next _ _ _
  | ask lane key later =>
    simp only [Running.deed?, Running.advance, Pass.step]
    cases (surroundings.gate outbox world).1 with
    | true => exact ⟨.granted, by cases leave <;> rfl, rfl⟩
    | false => exact ⟨.refused, by cases leave <;> rfl, trivial⟩
  | look lane key later =>
    obtain rfl : leave = .granted := needs
    simp only [Running.deed?, Running.advance, Pass.step]
    split
    · exact Stage.needs_next _ _ _
    · split
      · rfl
      · nofun
  | publish lane key later batch message =>
    obtain rfl : leave = .granted := needs
    simp only [Running.deed?, Running.advance, Pass.step]
    cases (surroundings.publish message outbox world).1 with
    | true => exact ⟨.used, rfl, nofun⟩
    | false => exact ⟨.used, rfl, Stage.needs_next _ _ _⟩
  | acknowledge lane key later batch =>
    have allowed : leave.after (.removed lane key batch) = some .used := by
      cases leave with
      | refused => exact absurd rfl needs
      | granted => rfl
      | used => rfl
    simp only [Running.deed?, Running.advance, Pass.step]
    cases (outbox.acknowledge lane key batch).1 with
    | true => exact ⟨.used, allowed, trivial⟩
    | false => exact Stage.needs_next _ _ _

/-- A pass with the leave that it needs has leave for all that it does. -/
theorem lawful_deeds (profile : Profile) (surroundings : Surroundings Backlog World) (fuel : Nat)
    {running : Running Backlog World} {leave : Leave} (needs : running.pass.stage.Needs leave) :
    Lawful leave (running.deeds profile surroundings fuel) := by
  induction fuel generalizing running leave with
  | zero => trivial
  | succ fuel inductionHypothesis =>
    have step := leave_of_advance profile surroundings needs
    rw [Running.deeds]
    split
    · trivial
    · cases done : running.deed? surroundings with
      | none =>
        rw [done] at step
        exact inductionHypothesis step
      | some deed =>
        rw [done] at step
        obtain ⟨next, allowed, needsNext⟩ := step
        exact ⟨next, allowed, inductionHypothesis needsNext⟩

/-! ## What follows from leave -/

/-- The messages offered. -/
def offers (deeds : List Deed) : Nat :=
  deeds.countP fun deed => deed matches .offered _ _

/-- The answers that let the pass through. -/
def grants (deeds : List Deed) : Nat := deeds.count (.asked true)

/-- Leave is granted by an answer that lets the pass through, and by nothing else. -/
theorem Leave.eq_asked_of_after {leave : Leave} {deed : Deed}
    (granted : leave.after deed = some .granted) : deed = .asked true := by
  cases deed with
  | asked answer =>
    cases answer with
    | true => rfl
    | false => cases leave <;> cases granted
  | offered message accepted => cases leave <;> cases granted
  | removed lane key batch => cases leave <;> cases granted

/-- An offer follows directly on the answer that has granted it. -/
theorem Lawful.asked_before_offer {leave : Leave} {before after : List Deed} {message : Message}
    {accepted : Bool} (lawful : Lawful leave (before ++ .offered message accepted :: after)) :
    (before = [] ∧ leave = .granted) ∨ ∃ earlier, before = earlier ++ [.asked true] := by
  induction before generalizing leave with
  | nil =>
    obtain ⟨next, allowed, -⟩ := lawful
    cases leave with
    | granted => exact .inl ⟨rfl, rfl⟩
    | refused => cases allowed
    | used => cases allowed
  | cons deed before inductionHypothesis =>
    obtain ⟨next, allowed, later⟩ := lawful
    right
    rcases inductionHypothesis later with ⟨rfl, rfl⟩ | ⟨earlier, rfl⟩
    · exact ⟨[], by rw [Leave.eq_asked_of_after allowed]; rfl⟩
    · exact ⟨deed :: earlier, rfl⟩

/-- Without leave, nothing but asking is done before an answer lets the pass through. -/
theorem Lawful.asked_of_refused {deeds : List Deed} (lawful : Lawful .refused deeds)
    (shut : .asked true ∉ deeds) : ∀ deed ∈ deeds, deed = .asked false := by
  induction deeds with
  | nil => nofun
  | cons deed deeds inductionHypothesis =>
    obtain ⟨next, allowed, later⟩ := lawful
    obtain ⟨unasked, shutLater⟩ := not_or.1 (mt List.mem_cons.2 shut)
    cases deed with
    | asked answer =>
      cases answer with
      | true => exact absurd rfl unasked
      | false =>
        cases allowed
        exact List.forall_mem_cons.2 ⟨rfl, inductionHypothesis later shutLater⟩
    | offered message accepted => cases allowed
    | removed lane key batch => cases allowed

/-- After an answer that does not let the pass through there is no leave. -/
theorem Lawful.after_refusal {leave : Leave} {before after : List Deed}
    (lawful : Lawful leave (before ++ .asked false :: after)) : Lawful .refused after := by
  induction before generalizing leave with
  | nil =>
    obtain ⟨next, allowed, later⟩ := lawful
    have refused : leave.after (.asked false) = some .refused := by cases leave <;> rfl
    obtain rfl := Option.some.inj (refused.symm.trans allowed)
    exact later
  | cons deed before inductionHypothesis =>
    obtain ⟨next, -, later⟩ := lawful
    exact inductionHypothesis later

/-- There is leave for the first of some deeds if there is leave for all of them. -/
theorem Lawful.of_append {leave : Leave} {before after : List Deed}
    (lawful : Lawful leave (before ++ after)) : Lawful leave before := by
  induction before generalizing leave with
  | nil => trivial
  | cons deed before inductionHypothesis =>
    obtain ⟨next, allowed, later⟩ := lawful
    exact ⟨next, allowed, inductionHypothesis later⟩

/-- Whether an offer may be made now, as a number of offers. -/
def Leave.allowance (leave : Leave) : Nat := if leave = granted then 1 else 0

/-- No deed offers more than it grants or was granted before. -/
theorem Leave.offers_le_of_after {leave next : Leave} {deed : Deed}
    (allowed : leave.after deed = some next) :
    offers [deed] + next.allowance ≤ grants [deed] + leave.allowance := by
  cases deed with
  | asked answer =>
    cases answer with
    | true => cases leave <;> cases allowed <;> decide
    | false => cases leave <;> cases allowed <;> decide
  | offered message accepted =>
    cases leave with
    | granted =>
      cases allowed
      simp [offers, allowance]
    | refused => cases allowed
    | used => cases allowed
  | removed lane key batch =>
    cases leave with
    | granted =>
      cases allowed
      simp [offers, allowance]
    | refused => cases allowed
    | used =>
      cases allowed
      simp [offers, allowance]

/-- There are no more offers than answers that grant them. -/
theorem Lawful.offers_le {leave : Leave} {deeds : List Deed} (lawful : Lawful leave deeds) :
    offers deeds ≤ grants deeds + leave.allowance := by
  induction deeds generalizing leave with
  | nil => exact Nat.zero_le _
  | cons deed deeds inductionHypothesis =>
    obtain ⟨next, allowed, later⟩ := lawful
    have first := Leave.offers_le_of_after allowed
    have rest := inductionHypothesis later
    have offered : offers ([deed] ++ deeds) = offers [deed] + offers deeds := List.countP_append
    have granted : grants ([deed] ++ deeds) = grants [deed] + grants deeds := List.count_append
    change offers ([deed] ++ deeds) ≤ grants ([deed] ++ deeds) + leave.allowance
    omega

/-- **What a gate governs.** Whatever gate and sink a pass meets, and whatever they do while it
runs:

* every message is offered directly after an answer that lets the pass through;
* so there are at most as many offers as such answers;
* after an answer that does not let the pass through, as long as none does, the pass does nothing
  but ask.

A gate that stays shut once it is shut thus ends the pass. -/
theorem deeds_under_gate (profile : Profile) (surroundings : Surroundings Backlog World)
    (lanes : List Lane) (fuel : Nat) (outbox : Outbox Backlog) (world : World) :
    let running : Running Backlog World := { outbox, world, pass := { lanes } }
    let deeds := running.deeds profile surroundings fuel
    (∀ before message accepted after, deeds = before ++ .offered message accepted :: after →
        ∃ earlier, before = earlier ++ [.asked true]) ∧
      offers deeds ≤ grants deeds ∧
      ∀ before between after, deeds = before ++ .asked false :: (between ++ after) →
        .asked true ∉ between → ∀ deed ∈ between, deed = .asked false := by
  intro running deeds
  have lawful : Lawful .refused deeds := lawful_deeds profile surroundings fuel trivial
  have bound : offers deeds ≤ grants deeds := lawful.offers_le
  refine ⟨?_, bound, ?_⟩
  · intro before message accepted after same
    rw [same] at lawful
    exact lawful.asked_before_offer.resolve_left fun granted => Leave.noConfusion granted.2
  · intro before between after same shut
    rw [same] at lawful
    exact lawful.after_refusal.of_append.asked_of_refused shut

/-! ## A gate that opens again -/

/-- A gate with prepared answers and a sink that accepts everything. -/
def prepared : Surroundings Queues (List Bool) where
  gate _ answers := (answers.headD false, answers.tail)
  publish _ outbox answers := (true, outbox, answers)

/-- An outbox in which a status and a reading wait. -/
def twoLanes : Outbox Queues :=
  (Outbox.fresh.add .statuses ⟨"pump", "on", .ready⟩).add .readings ⟨"meter", ["1"], 0⟩

/-- The gate is shut when the pass comes to the status and open when it comes to the reading: the
reading is published and removed. -/
theorem reopened_gate_lets_through :
    ({ outbox := twoLanes, world := [false, true], pass := { lanes := Lane.drainOrder } } :
        Running Queues (List Bool)).deeds { gatewayKey := "GW" } prepared 100 =
      [.asked false, .asked true,
        .offered { channel := "d2p/sensor_reading/g/GW/r/meter",
                   payload := "[\x7b\"data\":\"1\"\x7d]" } true,
        .removed .readings "meter" [⟨"meter", ["1"], 0⟩], .asked false] := by
  decide +kernel

end EdgeGateway.Drain
