import EdgeGateway.Proofs.Backlog.Refinement

/-!
# What queues hold

Queues in memory keep a table of the keys with something waiting, and answer which keys these are,
and whether there are any, from the table alone. `left` says without a table what requests leave
under a key: only the requests about that key count, a put pushes its value as the retention wants
it, and a removal drops values from the front. `queues_hold_what_is_left` is the whole account of
queues by what is left under each key. That the table lists no key under which nothing waits is
`Queues.Compact`, which every request keeps.
-/

namespace EdgeGateway

namespace Queues

variable {Value : Type} {queues : Queues Value}

/-- Fresh queues are compact. -/
theorem compact_fresh (retention : Retention) : (Store.fresh retention : Queues Value).Compact :=
  ⟨nofun, Table.ascending_empty⟩

/-- Compact queues list no key exactly if nothing waits under any key. -/
theorem Compact.isEmpty_iff (compact : queues.Compact) :
    queues.pending.isEmpty = true ↔ ∀ key, queues.queue key = [] := by
  refine ⟨fun empty key => ?_, compact.isEmpty⟩
  by_contra waits
  obtain ⟨row, member, -⟩ := List.mem_map.1 (compact.mem_keys_iff.2 waits)
  rw [List.isEmpty_iff.1 empty] at member
  cases member

end Queues

namespace Backlog

namespace Request

variable {Value : Type}

/-- The key that a request is about. -/
def key? : Request Value → Option String
  | put _ key _ | peek key _ | remove key _ | get key | count key => some key
  | keys | isEmpty => none

/-- What a request does to the values of its key. -/
def change (retention : Retention) (values : List Value) : Request Value → List Value
  | put _ _ value => retention.push values value
  | remove _ limit => values.drop limit
  | peek _ _ | get _ | count _ | keys | isEmpty => values

/-- A slot for one value stays one. -/
theorem length_change_le {values : List Value} (single : values.length ≤ 1)
    (request : Request Value) : (request.change .lastValue values).length ≤ 1 := by
  cases request with
  | put sequence key value => exact Nat.le_refl 1
  | remove key limit => exact (List.drop_sublist limit values).length_le.trans single
  | _ => exact single

end Request

variable {Value : Type} [Entry Value]

/-- A store after some requests. -/
def performAll {Backlog : Type → Type} [Store Backlog] (store : Backlog Value)
    (requests : List (Request Value)) : Backlog Value :=
  requests.foldl (fun store request => (request.perform store).2) store

omit [Entry Value] in
/-- What some requests leave under a key of a store that was empty: the requests about the key
change its values, one after the other. -/
def left (retention : Retention) (requests : List (Request Value)) (key : String) : List Value :=
  (requests.filter (·.key? = some key)).foldl (Request.change retention) []

/-! ## One request -/

/-- Requests keep the retention. -/
theorem retention_perform (queues : Queues Value) (request : Request Value) :
    (request.perform queues).2.retention = queues.retention := by
  cases request with
  | remove key limit => exact Queues.retention_remove queues key limit
  | _ => rfl

/-- Requests keep queues compact. -/
theorem compact_perform {queues : Queues Value} (compact : queues.Compact)
    (request : Request Value) : (request.perform queues).2.Compact := by
  cases request with
  | put sequence key value => exact compact.put key value
  | remove key limit => exact compact.remove key limit
  | _ => exact compact

/-- A request changes the values of its key. -/
theorem queue_perform_own (queues : Queues Value) {request : Request Value} {key : String}
    (own : request.key? = some key) :
    (request.perform queues).2.queue key =
      request.change queues.retention (queues.queue key) := by
  cases request with
  | put sequence key value =>
    cases own
    refine (Queues.queue_put_self queues key value).trans ?_
    unfold Request.change Retention.push
    cases queues.retention <;> rfl
  | remove key limit =>
    cases own
    exact Queues.queue_remove_self queues key limit
  | _ => rfl

/-- A request leaves what waits under other keys. -/
theorem queue_perform_of_ne (queues : Queues Value) {request : Request Value} {key : String}
    (other : request.key? ≠ some key) : (request.perform queues).2.queue key = queues.queue key := by
  cases request with
  | put sequence own value =>
    exact Queues.queue_put_of_ne queues value fun same => other (congrArg some same.symm)
  | remove own limit =>
    exact Queues.queue_remove_of_ne queues limit fun same => other (congrArg some same.symm)
  | _ => rfl

/-! ## Many requests -/

/-- Any requests keep queues compact. -/
theorem compact_performAll {queues : Queues Value} (compact : queues.Compact)
    (requests : List (Request Value)) : (performAll queues requests).Compact := by
  induction requests generalizing queues with
  | nil => exact compact
  | cons request requests inductionHypothesis =>
    exact inductionHypothesis (compact_perform compact request)

/-- The requests about a key change its values, and the others do not matter to it. -/
theorem queue_performAll (queues : Queues Value) (requests : List (Request Value)) (key : String) :
    (performAll queues requests).queue key =
      (requests.filter (·.key? = some key)).foldl (Request.change queues.retention)
        (queues.queue key) := by
  induction requests generalizing queues with
  | nil => rfl
  | cons request requests inductionHypothesis =>
    have later := inductionHypothesis (request.perform queues).2
    rw [retention_perform] at later
    refine later.trans ?_
    by_cases own : request.key? = some key
    · rw [queue_perform_own queues own, List.filter_cons_of_pos (by simpa using own),
        List.foldl_cons]
    · rw [queue_perform_of_ne queues own, List.filter_cons_of_neg (by simpa using own)]

omit [Entry Value] in
/-- At most one value is left under a key that keeps the last one only. -/
theorem length_left_le (requests : List (Request Value)) (key : String) :
    (left .lastValue requests key).length ≤ 1 := by
  have step : ∀ (own : List (Request Value)) (values : List Value), values.length ≤ 1 →
      (own.foldl (Request.change .lastValue) values).length ≤ 1 := by
    intro own
    induction own with
    | nil => exact fun _ single => single
    | cons request own inductionHypothesis =>
      exact fun values single => inductionHypothesis _ (request.length_change_le single)
  exact step _ [] (Nat.zero_le 1)

/-- **Queues hold what is left under each key, and list no other keys.** Let anything be asked of
queues that start empty, under keys and with limits of any kind. Then looking finds the first values
that are left under the key and changes nothing, as does asking for the first one; as many values
are counted as are left; the keys listed are those under which something is left, each once and in
ascending order; and the queues are empty exactly if nothing is left at all. Where only the last
value is kept, at most one is left under a key. Whatever is asked next about one key leaves what
waits under the others. -/
theorem queues_hold_what_is_left (retention : Retention) (requests : List (Request Value)) :
    let queues : Queues Value := performAll (Store.fresh retention) requests
    let left := left retention requests
    queues.queue = left ∧
    (∀ key limit, Store.peek queues key limit = ((left key).take limit, queues)) ∧
    (∀ key, Store.get? queues key = ((left key).head?, queues)) ∧
    (∀ key, Store.count queues key = (left key).length) ∧
    (∀ key, key ∈ Store.keys queues ↔ left key ≠ []) ∧
    (Store.keys queues).Pairwise (· < ·) ∧
    (Store.isEmpty queues = true ↔ ∀ key, left key = []) ∧
    (retention = .lastValue → ∀ key, (left key).length ≤ 1) ∧
    ∀ (request : Request Value) (key : String), request.key? ≠ some key →
      (request.perform queues).2.queue key = queues.queue key := by
  intro queues left
  have compact : queues.Compact := compact_performAll (Queues.compact_fresh retention) requests
  have holds : ∀ key, queues.queue key = left key :=
    queue_performAll (Store.fresh retention : Queues Value) requests
  have peeked : ∀ key limit, Store.peek queues key limit = ((left key).take limit, queues) := by
    intro key limit
    rw [← holds]
    rfl
  refine ⟨funext holds, peeked, fun key => ?_, fun key => ?_, fun key => ?_,
    List.pairwise_map.2 compact.ascending, ?_, ?_,
    fun request key => queue_perform_of_ne queues⟩
  · simp only [Store.get?, peeked]
    rw [List.head?_take, if_neg Nat.one_ne_zero]
  · exact congrArg List.length (holds key)
  · rw [← holds]
    exact compact.mem_keys_iff
  · rw [← funext holds]
    exact compact.isEmpty_iff
  · rintro rfl key
    exact length_left_le requests key

/-- A slot is overwritten, and more is removed than waits: under a key that is the empty text, and
under one that was never put. -/
def overrunRequests : List (Request Alarm) :=
  [.put 1 "A" { reference := "A", active := true, timestamp := 0 },
    .put 2 "" { reference := "", active := true, timestamp := 1 },
    .put 3 "A" { reference := "A", active := false, timestamp := 5 },
    .remove "" 7, .remove "B" 2, .remove "A" 0, .peek "A" 3]

/-- The last value is left under its key, and no other key is listed. -/
theorem queues_hold_what_is_left_of_overrunRequests :
    let queues : Queues Alarm := performAll (Store.fresh .lastValue) overrunRequests
    Store.peek queues "A" 3 = ([{ reference := "A", active := false, timestamp := 5 }], queues) ∧
      "A" ∈ Store.keys queues ∧ "" ∉ Store.keys queues ∧ "B" ∉ Store.keys queues ∧
      Store.isEmpty queues ≠ true ∧ (left .lastValue overrunRequests "A").length ≤ 1 := by
  obtain ⟨-, peeked, -, -, listed, -, empty, single, -⟩ :=
    queues_hold_what_is_left .lastValue overrunRequests
  have slot : left .lastValue overrunRequests "A" =
      [{ reference := "A", active := false, timestamp := 5 }] := by decide
  have waits : left .lastValue overrunRequests "A" ≠ [] := slot.symm ▸ List.cons_ne_nil _ _
  refine ⟨(peeked "A" 3).trans (by rw [slot]; rfl), (listed "A").2 waits,
    fun member => (listed "").1 member (by decide), fun member => (listed "B").1 member (by decide),
    fun drained => waits (empty.1 drained "A"), single rfl "A"⟩

end Backlog

end EdgeGateway
