import EdgeGateway.Proofs.Schedule.Key

/-!
# Batches and their messages

What holds of every batch of a key, however its lane retains values: it is not empty, it is within
the limit, and it is accepted or given up according to whether a message can be built of it.
-/

namespace EdgeGateway.Schedule

variable {Value : Type} {rules : KeyRules Value} {events : List (KeyEvent Value)}
  {state next : KeyState Value} {event : KeyEvent Value}

namespace KeyRules

/-- Whether a batch may be taken up. -/
def Admits (rules : KeyRules Value) (batch : List Value) : Prop :=
  batch ≠ [] ∧ batch.length ≤ rules.limit

/-- Whether a batch and its message may be in flight. -/
def AdmitsFlight (rules : KeyRules Value) : Flight Value → Prop
  | .offered batch message => rules.Admits batch ∧ rules.build batch = .ok message
  | .settled batch => rules.Admits batch

/-- Whether an event may happen to a key, given only what the rules say about batches. -/
def AdmitsEvent (rules : KeyRules Value) : KeyEvent Value → Prop
  | .put _ => True
  | .looked batch message | .accepted batch message | .refused batch message =>
    rules.Admits batch ∧ rules.build batch = .ok message
  | .dropped batch => rules.Admits batch ∧ ∃ cause, rules.build batch = .error cause
  | .removed batch | .kept batch => rules.Admits batch

/-- The front of a queue may be taken up if it is not empty. -/
theorem admits_of_front {queue batch : List Value} (front : queue.take rules.limit = batch)
    (nonempty : batch ≠ []) : rules.Admits batch := by
  refine ⟨nonempty, ?_⟩
  rw [← front]
  exact List.length_take_le rules.limit queue

end KeyRules

/-- From an admissible batch in flight, a step makes an admissible event and leaves an admissible
batch in flight. -/
theorem KeyStep.admits (stepped : KeyStep rules state event next)
    (flying : ∀ flight ∈ state.flight?, rules.AdmitsFlight flight) :
    rules.AdmitsEvent event ∧ ∀ flight ∈ next.flight?, rules.AdmitsFlight flight := by
  cases stepped with
  | put value => exact ⟨trivial, flying⟩
  | looked front nonempty built =>
    have admitted := KeyRules.admits_of_front front nonempty
    refine ⟨⟨admitted, built⟩, ?_⟩
    rintro flight ⟨⟩
    exact ⟨admitted, built⟩
  | dropped front nonempty unbuilt =>
    have admitted := KeyRules.admits_of_front front nonempty
    refine ⟨⟨admitted, _, unbuilt⟩, ?_⟩
    rintro flight ⟨⟩
    exact admitted
  | accepted =>
    have offered := flying _ rfl
    refine ⟨offered, ?_⟩
    rintro flight ⟨⟩
    exact offered.1
  | refused =>
    have offered := flying _ rfl
    exact ⟨offered, nofun⟩
  | removed front =>
    have settled := flying _ rfl
    exact ⟨settled, nofun⟩
  | kept changed =>
    have settled := flying _ rfl
    exact ⟨settled, nofun⟩

/-- Everything that happens to a key is admissible, and so is the batch in flight. -/
theorem KeyRun.admits (run : KeyRun rules events state) :
    (∀ event ∈ events, rules.AdmitsEvent event) ∧
      ∀ flight ∈ state.flight?, rules.AdmitsFlight flight := by
  induction run with
  | fresh => exact ⟨nofun, nofun⟩
  | step run stepped inductionHypothesis =>
    obtain ⟨happened, flying⟩ := inductionHypothesis
    obtain ⟨happens, flyingAfter⟩ := stepped.admits flying
    refine ⟨?_, flyingAfter⟩
    intro event member
    rcases List.mem_append.1 member with earlier | last
    · exact happened event earlier
    · rw [List.mem_singleton.1 last]
      exact happens

/-- Every batch that was removed was one that may be taken up. -/
theorem KeyRun.admits_of_mem_removals (run : KeyRun rules events state) {batch : List Value}
    (removed : batch ∈ removals events) : rules.Admits batch := by
  obtain ⟨event, member, selected⟩ := List.mem_filterMap.1 removed
  have admitted := run.admits.1 event member
  cases event with
  | removed other =>
    obtain rfl := Option.some.inj selected
    exact admitted
  | _ => cases selected

end EdgeGateway.Schedule
