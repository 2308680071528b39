import EdgeGateway.Proofs.Backlog.Mirror
import EdgeGateway.Proofs.Telemetry.Entry

/-!
# Journals answer as queues do

A run asks the stores of the four lanes one thing after another, and may end the process and open
everything again in between. `answers_journal_eq` compares journals, which are opened again with
what they hold, with queues in memory that are never closed: whatever is asked, the answers are the
same. The lanes may have any retention, and draw their sequence numbers from one counter.
-/

namespace EdgeGateway.Backlog

/-- What a store is asked. A put comes with the sequence number that was drawn for it. -/
inductive Request (Value : Type) where
  | put (sequence : UInt64) (key : String) (value : Value)
  | peek (key : String) (limit : Nat)
  | remove (key : String) (limit : Nat)
  | get (key : String)
  | count (key : String)
  | keys
  | isEmpty

/-- What a store answers. -/
inductive Answer (Value : Type) where
  | done
  | values (values : List Value)
  | value (value : Option Value)
  | count (number : Nat)
  | keys (keys : List String)
  | isEmpty (empty : Bool)

namespace Request

variable {Value : Type}

/-- Whether the key that is asked about holds no U+0000. -/
def ZeroFree : Request Value → Prop
  | put _ key _ | peek key _ | remove key _ | get key | count key => EdgeGateway.ZeroFree key
  | keys | isEmpty => True

instance (request : Request Value) : Decidable request.ZeroFree :=
  match request with
  | put _ key _ | peek key _ | remove key _ | get key | count key =>
    inferInstanceAs (Decidable (EdgeGateway.ZeroFree key))
  | keys | isEmpty => inferInstanceAs (Decidable True)

/-- The sequence number that a request uses up. -/
def sequence? : Request Value → Option UInt64
  | put sequence _ _ => some sequence
  | _ => none

/-- The least sequence number that may be drawn after a request. -/
def following (request : Request Value) (next : Nat) : Nat :=
  match request.sequence? with
  | some sequence => sequence.toNat + 1
  | none => next

/-- A request does not take sequence numbers back. -/
theorem le_following {request : Request Value} {next : Nat}
    (fresh : ∀ sequence ∈ request.sequence?, next ≤ sequence.toNat) :
    next ≤ request.following next := by
  unfold following
  cases drawn : request.sequence? with
  | none => exact Nat.le_refl next
  | some sequence => exact Nat.le_succ_of_le (fresh sequence drawn)

/-- Asks a store. -/
def perform {Backlog : Type → Type} [Store Backlog] [Entry Value] (store : Backlog Value) :
    Request Value → Answer Value × Backlog Value
  | put sequence key value => (.done, Store.put store sequence.toNat key value)
  | peek key limit =>
    let (values, store) := Store.peek store key limit
    (.values values, store)
  | remove key limit => (.done, Store.remove store key limit)
  | get key =>
    let (value, store) := Store.get? store key
    (.value value, store)
  | count key => (.count (Store.count store key), store)
  | keys => (.keys (Store.keys store), store)
  | isEmpty => (.isEmpty (Store.isEmpty store), store)

end Request

/-- One step of a run. -/
inductive Command where
  /-- The store of a lane is asked something. -/
  | request (lane : Lane) (request : Request lane.Value)
  /-- The process ends, and all stores are opened again. -/
  | reopen

namespace Command

/-- Whether the key that is asked about holds no U+0000. -/
def ZeroFree : Command → Prop
  | request _ asked => asked.ZeroFree
  | reopen => True

instance (command : Command) : Decidable command.ZeroFree :=
  match command with
  | request _ asked => inferInstanceAs (Decidable asked.ZeroFree)
  | reopen => inferInstanceAs (Decidable True)

/-- The sequence number that a command uses up. -/
def sequence? : Command → Option UInt64
  | request _ asked => asked.sequence?
  | reopen => none

/-- Whether a command asks something. -/
def isRequest : Command → Bool
  | request _ _ => true
  | reopen => false

end Command

/-- Empty stores with the given retentions. -/
def emptyLanes {Backlog : Type → Type} [Store Backlog] (retention : Lane → Retention) :
    Lanes Backlog where
  readings := Store.fresh (retention .readings)
  alarms := Store.fresh (retention .alarms)
  statuses := Store.fresh (retention .statuses)
  configurations := Store.fresh (retention .configurations)

/-- The answers given in a run, each with the lane that gave it. -/
def answers {Backlog : Type → Type} [Store Backlog] (lanes : Lanes Backlog) :
    List Command → List ((lane : Lane) × Answer lane.Value)
  | [] => []
  | .request lane request :: commands =>
    let (answer, store) := request.perform (lanes.get lane)
    ⟨lane, answer⟩ :: answers (lanes.set lane store) commands
  | .reopen :: commands => answers lanes.reopen commands

/-- One request is answered alike, and its journal goes on mirroring its queues. -/
theorem perform_of_mirrors {Value : Type} [Entry Value] (lossless : Journal.Lossless Value)
    {next : Nat} {journal : Journal Value} {queues : Queues Value}
    (mirrors : Mirrors next journal queues) {request : Request Value} (zeroFree : request.ZeroFree)
    (fresh : ∀ sequence ∈ request.sequence?, next ≤ sequence.toNat) :
    (request.perform journal).1 = (request.perform queues).1 ∧
      Mirrors (request.following next) (request.perform journal).2 (request.perform queues).2 := by
  cases request with
  | put sequence key value =>
    have fits : sequence.toNat < 10 ^ 20 := Nat.lt_trans sequence.toNat_lt (by decide)
    exact ⟨rfl, mirrors.put (fresh sequence rfl) fits zeroFree value⟩
  | peek key limit =>
    have peeked : Store.peek journal key limit = (queues.peek key limit, journal) :=
      mirrors.peek_eq lossless zeroFree limit
    simp only [Request.perform, peeked]
    exact ⟨rfl, mirrors⟩
  | remove key limit => exact ⟨rfl, mirrors.remove lossless zeroFree limit⟩
  | get key =>
    have peeked : Store.peek journal key 1 = (queues.peek key 1, journal) :=
      mirrors.peek_eq lossless zeroFree 1
    simp only [Request.perform, Store.get?, peeked]
    exact ⟨rfl, mirrors⟩
  | count key => exact ⟨congrArg Answer.count (mirrors.length_scan zeroFree), mirrors⟩
  | keys => exact ⟨congrArg Answer.keys mirrors.keys_eq, mirrors⟩
  | isEmpty => exact ⟨congrArg Answer.isEmpty mirrors.isEmpty_eq, mirrors⟩

/-- Empty journals mirror empty queues, lane by lane. -/
theorem mirrors_emptyLanes (retention : Lane → Retention) (next : Nat) (lane : Lane) :
    Mirrors next ((emptyLanes retention : Lanes Journal).get lane)
      ((emptyLanes retention : Lanes Queues).get lane) := by
  cases lane <;> exact Mirrors.fresh next _

/-- Opening journals again finds what they hold. -/
@[simp] theorem reopen_journal (journals : Lanes Journal) : journals.reopen = journals := rfl

/-- The sequence numbers that commands use up ascend, and none of them is below the next. -/
structure Rising (next : Nat) (commands : List Command) : Prop where
  ascending : (commands.filterMap Command.sequence?).Pairwise (· < ·)
  fresh : ∀ sequence ∈ commands.filterMap Command.sequence?, next ≤ sequence.toNat

/-- After a request the sequence numbers go on ascending from behind its own. -/
theorem Rising.later {next : Nat} {lane : Lane} {request : Request lane.Value}
    {commands : List Command} (rising : Rising next (.request lane request :: commands)) :
    (∀ sequence ∈ request.sequence?, next ≤ sequence.toNat) ∧
      Rising (request.following next) commands := by
  obtain ⟨ascending, fresh⟩ := rising
  rw [List.filterMap_cons, Command.sequence?] at ascending fresh
  unfold Request.following
  cases drawn : request.sequence? with
  | none =>
    rw [drawn] at ascending fresh
    exact ⟨nofun, ascending, fresh⟩
  | some sequence =>
    rw [drawn] at ascending fresh
    obtain ⟨below, laterAscending⟩ := List.pairwise_cons.1 ascending
    refine ⟨?_, laterAscending, fun later member => UInt64.lt_iff_toNat_lt.1 (below later member)⟩
    rintro _ ⟨⟩
    exact fresh sequence List.mem_cons_self

/-- Journals that mirror queues answer a run as they do. -/
theorem answers_of_mirrors {journals : Lanes Journal} {queues : Lanes Queues} {next : Nat}
    (mirrors : ∀ lane, Mirrors next (journals.get lane) (queues.get lane))
    {commands : List Command} (zeroFree : ∀ command ∈ commands, command.ZeroFree)
    (rising : Rising next commands) :
    answers journals commands = answers queues (commands.filter Command.isRequest) := by
  induction commands generalizing journals queues next with
  | nil => rfl
  | cons command commands inductionHypothesis =>
    have zeroFreeLater := fun later member => zeroFree later (List.mem_cons_of_mem command member)
    cases command with
    | reopen =>
      rw [answers, reopen_journal, List.filter_cons_of_neg Bool.false_ne_true]
      exact inductionHypothesis mirrors zeroFreeLater ⟨rising.ascending, rising.fresh⟩
    | request lane request =>
      obtain ⟨fresh, risingLater⟩ := rising.later
      obtain ⟨alike, performed⟩ := perform_of_mirrors lane.decode?_encode (mirrors lane)
        (zeroFree _ List.mem_cons_self) fresh
      have following : ∀ other, Mirrors (request.following next)
          ((journals.set lane (request.perform (journals.get lane)).2).get other)
          ((queues.set lane (request.perform (queues.get lane)).2).get other) := by
        intro other
        by_cases same : other = lane
        · subst same
          rw [Lanes.get_set_self, Lanes.get_set_self]
          exact performed
        · rw [Lanes.get_set_of_ne _ _ same, Lanes.get_set_of_ne _ _ same]
          exact (mirrors other).mono (Request.le_following fresh)
      rw [List.filter_cons_of_pos rfl]
      simp only [answers]
      rw [alike, inductionHypothesis following zeroFreeLater risingLater]

/-- Journals answer every run as queues in memory that are never closed, if all keys hold no U+0000
and the sequence numbers ascend. -/
theorem answers_journal_eq (retention : Lane → Retention) (commands : List Command)
    (zeroFree : ∀ command ∈ commands, command.ZeroFree)
    (ascending : (commands.filterMap Command.sequence?).Pairwise (· < ·)) :
    answers (emptyLanes retention : Lanes Journal) commands =
      answers (emptyLanes retention : Lanes Queues) (commands.filter Command.isRequest) :=
  answers_of_mirrors (mirrors_emptyLanes retention 0) zeroFree
    { ascending, fresh := fun _ _ => Nat.zero_le _ }

/-- Two lanes with different retentions, put in turns and opened again in between. A reading with a
key that begins like another, and a status in a state that no device may report. -/
def reopenedCommands : List Command :=
  [.request .readings
      (.put 3 "A/1" { reference := "A/1", values := ["\x00", "é"], timestamp := 0 }),
    .request .readings
      (.put 10 "A" { reference := "A", values := [], timestamp := 18446744073709551615 }),
    .request .statuses
      (.put 11 "A" { reference := "A", value := "on", state := .unknown "READY" }),
    .reopen,
    .request .readings (.put 100 "A/1" { reference := "A/1", values := ["2"], timestamp := 5 }),
    .request .statuses (.put 101 "A" { reference := "A", value := "off", state := .ready }),
    .request .readings (.peek "A/1" 2),
    .request .readings (.remove "A/1" 1),
    .reopen,
    .request .readings (.get "A/1"),
    .request .statuses (.count "A"),
    .request .readings .keys,
    .request .alarms .isEmpty]

/-- The lanes answer `reopenedCommands` alike. -/
theorem answers_journal_eq_of_reopenedCommands :
    (∀ command ∈ reopenedCommands, command.ZeroFree) ∧
      (reopenedCommands.filterMap Command.sequence?).Pairwise (· < ·) ∧
      answers (emptyLanes Lane.retention : Lanes Journal) reopenedCommands =
        answers (emptyLanes Lane.retention : Lanes Queues)
          (reopenedCommands.filter Command.isRequest) :=
  have zeroFree : ∀ command ∈ reopenedCommands, command.ZeroFree := by decide
  have ascending : (reopenedCommands.filterMap Command.sequence?).Pairwise (· < ·) := by decide
  ⟨zeroFree, ascending, answers_journal_eq Lane.retention reopenedCommands zeroFree ascending⟩

end EdgeGateway.Backlog
