import EdgeGateway.Backlog.Queues
import EdgeGateway.Proofs.Schedule.Depot

/-!
# What happens while the outbox is drained

Producers, callers and the publish worker share one outbox. An `Event` is what one step of any of
them amounts to, as an observer of all of them would write it down. Most of what happens is about
one key of one lane; `Event.at?` picks that out, so a history of events gives a history for each
key.

Values of different lanes have different types. `Located` keeps a thing together with the lane and
key that it is about, and `Located.at?` is the only place that compares lanes and moves a thing
from one type to another.
-/

namespace EdgeGateway.Schedule

/-- What happens to one key. -/
inductive KeyEvent (Value : Type) where
  /-- A producer puts a value. -/
  | put (value : Value)
  /-- A pass looks at the front of the key and builds a message of it. -/
  | looked (batch : List Value) (message : Message)
  /-- A pass looks at the front of the key, can build no message of it and gives it up. -/
  | dropped (batch : List Value)
  /-- The sink accepts the message of a batch. -/
  | accepted (batch : List Value) (message : Message)
  /-- The sink refuses the message of a batch. -/
  | refused (batch : List Value) (message : Message)
  /-- A batch is acknowledged and removed. -/
  | removed (batch : List Value)
  /-- A batch is acknowledged, but is not what waits any more. -/
  | kept (batch : List Value)
  deriving DecidableEq

/-- The report of a pass after what it has done to a batch. -/
def KeyEvent.report {Value : Type} (report : Drain.Report) : KeyEvent Value → Drain.Report
  | .accepted _ _ => { report with published := report.published + 1 }
  | .refused _ _ => { report with failed := report.failed + 1 }
  | .dropped _ => { report with dropped := report.dropped + 1 }
  | .put _ | .looked _ _ | .removed _ | .kept _ => report

/-- A thing about one key of one lane. -/
def Located (Thing : Type → Type) : Type :=
  (lane : Lane) × String × Thing lane.Value

/-- A thing as seen from a key: nothing if it is about another key. -/
def Located.at? {Thing : Type → Type} (lane : Lane) (key : String) (located : Located Thing) :
    Option (Thing lane.Value) :=
  if same : located.1 = lane ∧ located.2.1 = key then some (same.1 ▸ located.2.2) else none

@[simp] theorem Located.at?_self {Thing : Type → Type} (lane : Lane) (key : String)
    (thing : Thing lane.Value) :
    Located.at? lane key (⟨lane, key, thing⟩ : Located Thing) = some thing := by
  simp [Located.at?]

theorem Located.at?_of_ne {Thing : Type → Type} {lane other : Lane} {key otherKey : String}
    (thing : Thing lane.Value) (different : ¬ (lane = other ∧ key = otherKey)) :
    Located.at? other otherKey (⟨lane, key, thing⟩ : Located Thing) = none := by
  simp [Located.at?, different]

/-- A thing is seen from a key exactly if it is about that key. -/
theorem Located.at?_eq_some_iff {Thing : Type → Type} {lane : Lane} {key : String}
    {located : Located Thing} {thing : Thing lane.Value} :
    located.at? lane key = some thing ↔ located = ⟨lane, key, thing⟩ := by
  constructor
  · intro seen
    obtain ⟨other, otherKey, there⟩ := located
    by_cases same : other = lane ∧ otherKey = key
    · obtain ⟨rfl, rfl⟩ := same
      rw [at?_self] at seen
      rw [Option.some.inj seen]
    · rw [at?_of_ne there same] at seen
      cases seen
  · rintro rfl
    exact at?_self lane key thing

/-- What one step of a pass amounts to. -/
inductive Occurrence where
  /-- The pass takes the drain lock and lists the keys of a lane. -/
  | entered (lane : Lane)
  /-- The gate answers. -/
  | asked (answer : Bool)
  /-- The pass looks at a key and finds nothing. -/
  | exhausted (lane : Lane) (key : String)
  /-- Something happens to a batch. -/
  | batch (lane : Lane) (key : String) (event : KeyEvent lane.Value)

/-- What the next step of a pass amounts to, unless the pass is finished. -/
def occurrence? (profile : Profile) (answer : Bool) (outbox : Outbox Queues)
    (pass : Drain.Pass) : Option Occurrence :=
  match pass.stage with
  | .enter => pass.lanes.head?.map .entered
  | .ask _ _ _ => some (.asked answer)
  | .look lane key _ =>
    let batch := (outbox.peek lane key (profile.batchLimit lane)).1
    if batch.isEmpty then some (.exhausted lane key)
    else
      match profile.batchMessage lane key batch with
      | .ok message => some (.batch lane key (.looked batch message))
      | .error _ => some (.batch lane key (.dropped batch))
  | .publish lane key _ batch message =>
    some (.batch lane key (if answer then .accepted batch message else .refused batch message))
  | .acknowledge lane key _ batch =>
    let removed := (outbox.acknowledge lane key batch).1
    some (.batch lane key (if removed then .removed batch else .kept batch))

/-- A pass that makes a step is not finished. -/
theorem isFinished_of_occurrence {profile : Profile} {answer : Bool} {outbox : Outbox Queues}
    {pass : Drain.Pass} {occurrence : Occurrence}
    (occurs : occurrence? profile answer outbox pass = some occurrence) :
    pass.isFinished = false := by
  refine Bool.eq_false_iff.2 fun finished => ?_
  obtain ⟨lanes, stage, report⟩ := pass
  obtain rfl : stage = .enter := Drain.Pass.stage_of_isFinished finished
  obtain rfl : lanes = [] := List.isEmpty_iff.1 finished
  cases occurs

/-- What one step of anyone amounts to. -/
inductive Event where
  /-- A producer puts a value. -/
  | put (lane : Lane) (key : String) (value : lane.Value)
  /-- The transport has come up or gone down. -/
  | connected (up : Bool)
  /-- Publishing was started. -/
  | started
  /-- Publishing was stopped. -/
  | stopped
  /-- A caller or the worker begins a pass. -/
  | began (agent : Agent)
  /-- The worker has finished its pass. -/
  | rested
  /-- The worker has left its loop. -/
  | left
  /-- A pass makes a step. -/
  | passed (agent : Agent) (occurrence : Occurrence)

namespace Event

/-- The key that an event is about, and what happens to it. -/
def located? : Event → Option (Located KeyEvent)
  | put lane key value => some ⟨lane, key, .put value⟩
  | passed _ (.batch lane key event) => some ⟨lane, key, event⟩
  | _ => none

/-- What an event means for a key, if it is about that key. -/
def at? (lane : Lane) (key : String) (event : Event) : Option (KeyEvent lane.Value) :=
  event.located?.bind (Located.at? lane key)

/-- The report of an agent's pass after an event. -/
def report (agent : Agent) (event : Event) (report : Drain.Report) : Drain.Report :=
  match event with
  | began other => if other = agent then {} else report
  | rested => if agent = .worker then {} else report
  | passed other (.batch _ _ event) => if other = agent then event.report report else report
  | _ => report

end Event

/-- What has happened to a key. -/
def history (lane : Lane) (key : String) (events : List Event) : List (KeyEvent lane.Value) :=
  events.filterMap (Event.at? lane key)

/-- The batches counted in an agent's pass since it began: those accepted, refused and given up. -/
def tally (agent : Agent) (events : List Event) : Drain.Report :=
  events.foldl (fun report event => event.report agent report) {}

section Key

variable {Value : Type}

namespace KeyEvent

/-- The value that an event puts. -/
@[simp] def put? : KeyEvent Value → Option Value
  | .put value => some value
  | _ => none

/-- The batch that an event removes. -/
@[simp] def removed? : KeyEvent Value → Option (List Value)
  | .removed batch => some batch
  | _ => none

/-- The batch that a sink accepts in an event, with the message that carries it. -/
@[simp] def accepted? : KeyEvent Value → Option (List Value × Message)
  | .accepted batch message => some (batch, message)
  | _ => none

/-- The batch that an event settles: a sink accepts it or it is given up. -/
@[simp] def settled? : KeyEvent Value → Option (List Value)
  | .accepted batch _ => some batch
  | .dropped batch => some batch
  | _ => none

end KeyEvent

/-- The values put under a key, in order. -/
def puts (events : List (KeyEvent Value)) : List Value := events.filterMap KeyEvent.put?

/-- The batches removed from a key, in order. -/
def removals (events : List (KeyEvent Value)) : List (List Value) :=
  events.filterMap KeyEvent.removed?

/-- The batches that a sink has accepted, in order, each with the message that carried it. -/
def acceptances (events : List (KeyEvent Value)) : List (List Value × Message) :=
  events.filterMap KeyEvent.accepted?

/-- The batches settled, in order: those that a sink has accepted and those given up. -/
def settlements (events : List (KeyEvent Value)) : List (List Value) :=
  events.filterMap KeyEvent.settled?

end Key

/-- One more event adds to a selection what is selected of it. -/
theorem filterMap_concat {Item Result : Type} (select : Item → Option Result) (items : List Item)
    (item : Item) :
    (items ++ [item]).filterMap select = items.filterMap select ++ (select item).toList := by
  rw [List.filterMap_append]
  cases selected : select item <;> simp [selected]

section Concat

variable {Value : Type} (events : List (KeyEvent Value)) (event : KeyEvent Value)

theorem puts_append (first second : List (KeyEvent Value)) :
    puts (first ++ second) = puts first ++ puts second :=
  List.filterMap_append

theorem removals_append (first second : List (KeyEvent Value)) :
    removals (first ++ second) = removals first ++ removals second :=
  List.filterMap_append

/-- One more event puts at most one more value. -/
@[simp] theorem puts_concat : puts (events ++ [event]) = puts events ++ event.put?.toList :=
  filterMap_concat _ _ _

/-- One more event removes at most one more batch. -/
@[simp] theorem removals_concat :
    removals (events ++ [event]) = removals events ++ event.removed?.toList :=
  filterMap_concat _ _ _

/-- One more event is at most one more acceptance. -/
@[simp] theorem acceptances_concat :
    acceptances (events ++ [event]) = acceptances events ++ event.accepted?.toList :=
  filterMap_concat _ _ _

/-- One more event settles at most one more batch. -/
@[simp] theorem settlements_concat :
    settlements (events ++ [event]) = settlements events ++ event.settled?.toList :=
  filterMap_concat _ _ _

/-- One more event adds to the history of a key what it means for that key. -/
theorem history_concat (lane : Lane) (key : String) (events : List Event) (event : Event) :
    history lane key (events ++ [event]) =
      history lane key events ++ (event.at? lane key).toList :=
  filterMap_concat _ _ _

end Concat

end EdgeGateway.Schedule
