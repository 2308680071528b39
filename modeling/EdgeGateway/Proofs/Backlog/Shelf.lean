import EdgeGateway.Proofs.Backlog.Mirror

/-!
# Under which key a value is found

`Shelved` says of a backlog store what can be found in it and where: a value that is put under a key
is found on the shelf of that key and nowhere else, and only the shelves themselves are listed as
keys. Queues in memory have a shelf for every key. A journal has one for every text without U+0000,
and puts a value on the shelf of what stands before the first U+0000 of its key.
-/

namespace EdgeGateway

/-- A store with shelves. -/
class Shelved (Backlog : Type → Type) [Store Backlog] where
  /-- The shelf of a key. -/
  shelf : String → String
  /-- Whether a value can be found on a shelf. -/
  Holds {Value : Type} [Entry Value] (store : Backlog Value) (key : String) (value : Value) : Prop
  not_holds_fresh {Value : Type} [Entry Value] (retention : Retention) (key : String)
    (value : Value) : ¬ Holds (Store.fresh retention : Backlog Value) key value
  holds_of_put {Value : Type} [Entry Value] (lossless : Journal.Lossless Value)
    {store : Backlog Value} {sequence : Nat} {key other : String} {value found : Value}
    (holds : Holds (Store.put store sequence key value) other found) :
    Holds store other found ∨ (other = shelf key ∧ found = value)
  holds_of_peek {Value : Type} [Entry Value] {store : Backlog Value} {key other : String}
    {limit : Nat} {found : Value} (holds : Holds (Store.peek store key limit).2 other found) :
    Holds store other found
  holds_of_remove {Value : Type} [Entry Value] {store : Backlog Value} {key other : String}
    {limit : Nat} {found : Value} (holds : Holds (Store.remove store key limit) other found) :
    Holds store other found
  shelf_of_mem_keys {Value : Type} [Entry Value] {store : Backlog Value} {key : String}
    (listed : key ∈ Store.keys store) : shelf key = key
  holds_of_mem_peek {Value : Type} [Entry Value] {store : Backlog Value} {key : String}
    {limit : Nat} {value : Value} (shelved : shelf key = key)
    (found : value ∈ (Store.peek store key limit).1) : Holds store key value
  length_peek_le {Value : Type} [Entry Value] (store : Backlog Value) (key : String)
    (limit : Nat) : (Store.peek store key limit).1.length ≤ limit

/-! ## Queues in memory -/

namespace Queues

variable {Value : Type} {queues : Queues Value} {key other : String} {found : Value}

/-- What waits after a put has waited before or is what was put. -/
theorem mem_queue_of_put {value : Value} (member : found ∈ (queues.put key value).queue other) :
    found ∈ queues.queue other ∨ (other = key ∧ found = value) := by
  by_cases same : other = key
  · subst same
    rw [queue_put_self] at member
    split at member
    · exact (List.mem_append.1 member).imp_right fun last => ⟨rfl, List.mem_singleton.1 last⟩
    · exact .inr ⟨rfl, List.mem_singleton.1 member⟩
  · rw [queue_put_of_ne _ _ same] at member
    exact .inl member

/-- What waits after a removal has waited before. -/
theorem mem_queue_of_remove {limit : Nat}
    (member : found ∈ (queues.remove key limit).queue other) : found ∈ queues.queue other := by
  by_cases same : other = key
  · subst same
    rw [queue_remove_self] at member
    exact List.mem_of_mem_drop member
  · rwa [queue_remove_of_ne _ _ same] at member

instance : Shelved Queues where
  shelf key := key
  Holds queues key value := value ∈ queues.queue key
  not_holds_fresh _ _ _ := List.not_mem_nil
  holds_of_put _ := mem_queue_of_put
  holds_of_peek holds := holds
  holds_of_remove := mem_queue_of_remove
  shelf_of_mem_keys _ := rfl
  holds_of_mem_peek _ found := List.mem_of_mem_take found
  length_peek_le _ _ _ := List.length_take_le _ _

end Queues

/-! ## Journals -/

namespace Journal

variable {Value : Type} {journal : Journal Value} {key : String}

/-- Discarding adds no entry. -/
theorem mem_rows_of_discard {entryKeys : List Bytes} {row : Bytes × Bytes}
    (member : row ∈ (journal.discard entryKeys).entries.rows) : row ∈ journal.entries.rows :=
  (List.mem_filter.1 member).1

/-- Only texts without U+0000 are listed as keys. -/
theorem zeroFree_of_mem_keys (listed : key ∈ journal.keys) : ZeroFree key := by
  obtain ⟨row, -, keyed⟩ := List.mem_filterMap.1 (mem_ascendingTexts.1 listed)
  exact zeroFree_of_keyOf? keyed

variable [Entry Value]

/-- Whether an entry of a key decodes to a value. -/
def Holds (journal : Journal Value) (key : String) (value : Value) : Prop :=
  ∃ row ∈ journal.entries.rows, keyOf? row.1 = some key ∧ Entry.decode? row.2 = some value

/-- A journal without some entries holds no more. -/
theorem holds_of_discard {entryKeys : List Bytes} {found : Value}
    (holds : (journal.discard entryKeys).Holds key found) : journal.Holds key found := by
  obtain ⟨row, member, keyed, decoded⟩ := holds
  exact ⟨row, mem_rows_of_discard member, keyed, decoded⟩

/-- A value that is put is held under what stands before the first U+0000 of its key. -/
theorem holds_of_put (lossless : Lossless Value) {sequence : Nat} {other : String}
    {value found : Value} (holds : (journal.put sequence key value).Holds other found) :
    journal.Holds other found ∨ (other = beforeZero key ∧ found = value) := by
  obtain ⟨row, member, keyed, decoded⟩ := holds
  rcases Table.mem_insertRow member with rfl | old
  · rw [keyOf?_entryKey] at keyed
    rw [lossless] at decoded
    exact .inr ⟨(Option.some.inj keyed).symm, (Option.some.inj decoded).symm⟩
  · left
    cases retention : journal.retention with
    | fifo =>
      rw [retention] at old
      exact ⟨row, old, keyed, decoded⟩
    | lastValue =>
      rw [retention] at old
      exact ⟨row, mem_rows_of_discard old, keyed, decoded⟩

/-- Every decoded value is that of one of the entries. -/
theorem exists_row_of_decodeFirst {limit : Nat} {rows : List (Bytes × Bytes)}
    {pair : Bytes × Value} (found : pair ∈ (decodeFirst limit rows).1) :
    ∃ row ∈ rows, Entry.decode? row.2 = some pair.2 := by
  induction rows generalizing limit with
  | nil => cases limit <;> cases found
  | cons row rows inductionHypothesis =>
    cases limit with
    | zero => cases found
    | succ limit =>
      simp only [decodeFirst] at found
      split at found
      · rename_i value decoded
        rcases List.mem_cons.1 found with rfl | later
        · exact ⟨row, List.mem_cons_self, decoded⟩
        · obtain ⟨other, member, same⟩ := inductionHypothesis later
          exact ⟨other, List.mem_cons_of_mem row member, same⟩
      · obtain ⟨other, member, same⟩ := inductionHypothesis found
        exact ⟨other, List.mem_cons_of_mem row member, same⟩

/-- No more values are decoded than were asked for. -/
theorem length_decodeFirst_le (limit : Nat) (rows : List (Bytes × Bytes)) :
    (decodeFirst limit rows : List (Bytes × Value) × List Bytes).1.length ≤ limit := by
  induction rows generalizing limit with
  | nil => cases limit <;> exact Nat.zero_le _
  | cons row rows inductionHypothesis =>
    cases limit with
    | zero => exact Nat.zero_le _
    | succ limit =>
      simp only [decodeFirst]
      split
      · exact Nat.succ_le_succ (inductionHypothesis limit)
      · exact inductionHypothesis (limit + 1)

/-- What is found when looking at a key is held under it. -/
theorem holds_of_mem_peek {limit : Nat} {value : Value} (zeroFree : ZeroFree key)
    (found : value ∈ (journal.peek key limit).1) : journal.Holds key value := by
  obtain ⟨pair, decoded, rfl⟩ := List.mem_map.1 found
  obtain ⟨row, scanned, same⟩ := exists_row_of_decodeFirst decoded
  obtain ⟨member, keyed⟩ := (mem_scan_iff zeroFree).1 scanned
  exact ⟨row, member, keyed, same⟩

instance : Shelved Journal where
  shelf := beforeZero
  Holds := Holds
  not_holds_fresh _ _ _ := by
    rintro ⟨row, member, -⟩
    cases member
  holds_of_put lossless := holds_of_put lossless
  holds_of_peek := holds_of_discard
  holds_of_remove := holds_of_discard
  shelf_of_mem_keys listed := (zeroFree_of_mem_keys listed).beforeZero_eq
  holds_of_mem_peek shelved := holds_of_mem_peek (shelved ▸ zeroFree_beforeZero _)
  length_peek_le _ _ _ := by
    refine Nat.le_trans (Nat.le_of_eq (List.length_map _)) (length_decodeFirst_le _ _)

end Journal

end EdgeGateway
