import EdgeGateway.Proofs.Backlog.Scan
import EdgeGateway.Proofs.Backlog.Shelf
import Mathlib.Algebra.BigOperators.Ring.List
import Mathlib.Algebra.Order.BigOperators.Group.List
import Mathlib.Algebra.Order.Group.Nat
import Mathlib.Algebra.Ring.Nat

/-!
# Stores read as queues

`Queued` reads a store as one queue of values for each key, and `LawfulQueued` says how looking and
removing act on the queues: looking finds the front of a queue and removing drops it, and neither
touches another key (`Queued.Spares`). Queues in memory are read as they are. A journal is read as
the values of its entries that decode, whatever entries it holds besides.

More entries may be counted under a key than there are values. Once looking has found fewer values
than it was to find, the others are gone.
-/

namespace EdgeGateway

/-- A store that is read as queues. -/
class Queued (Backlog : Type → Type) [Store Backlog] where
  /-- Whether a text can be listed as a key. -/
  IsKey : String → Prop
  /-- What a store keeps to, whatever is done with it. -/
  Orderly {Value : Type} (store : Backlog Value) : Prop
  /-- The values that wait under a key, oldest first. -/
  waiting {Value : Type} [Entry Value] (store : Backlog Value) (key : String) : List Value
  /-- What is kept under no key. -/
  strays {Value : Type} (store : Backlog Value) : List (Bytes × Bytes)

/-- Whether a store that was changed under a key is in order and still has everything else. -/
structure Queued.Spares {Backlog : Type → Type} [Store Backlog] [Queued Backlog] {Value : Type}
    [Entry Value] (key : String) (before after : Backlog Value) : Prop where
  orderly : Orderly after
  retention : Store.retention after = Store.retention before
  strays : strays after = strays before
  waiting : ∀ other, IsKey Backlog other → other ≠ key → waiting after other = waiting before other
  count : ∀ other, IsKey Backlog other → other ≠ key →
    Store.count after other = Store.count before other

/-- Looking finds the front of a queue, and removing drops it. -/
class LawfulQueued (Backlog : Type → Type) [Store Backlog] [Queued Backlog] : Prop where
  values_peek {Value : Type} [Entry Value] (store : Backlog Value) (key : String) (limit : Nat) :
    (Store.peek store key limit).1 = (Queued.waiting store key).take limit
  waiting_peek {Value : Type} [Entry Value] {store : Backlog Value}
    (orderly : Queued.Orderly store) (key : String) (limit : Nat) :
    Queued.waiting (Store.peek store key limit).2 key = Queued.waiting store key
  spares_peek {Value : Type} [Entry Value] {store : Backlog Value}
    (orderly : Queued.Orderly store) {key : String} (isKey : Queued.IsKey Backlog key)
    (limit : Nat) : Queued.Spares key store (Store.peek store key limit).2
  /-- Once looking has found fewer values than it was to find, nothing but these is counted. -/
  count_peek {Value : Type} [Entry Value] {store : Backlog Value}
    (orderly : Queued.Orderly store) {key : String} {limit : Nat}
    (exhausted : (Queued.waiting store key).length < limit) :
    Store.count (Store.peek store key limit).2 key = (Queued.waiting store key).length
  waiting_remove {Value : Type} [Entry Value] {store : Backlog Value}
    (orderly : Queued.Orderly store) (key : String) (limit : Nat) :
    Queued.waiting (Store.remove store key limit) key = (Queued.waiting store key).drop limit
  spares_remove {Value : Type} [Entry Value] {store : Backlog Value}
    (orderly : Queued.Orderly store) {key : String} (isKey : Queued.IsKey Backlog key)
    (limit : Nat) : Queued.Spares key store (Store.remove store key limit)
  length_waiting_le {Value : Type} [Entry Value] (store : Backlog Value) (key : String) :
    (Queued.waiting store key).length ≤ Store.count store key
  isKey_of_mem_keys {Value : Type} {store : Backlog Value} {key : String}
    (listed : key ∈ Store.keys store) : Queued.IsKey Backlog key
  ascending_keys {Value : Type} {store : Backlog Value} (orderly : Queued.Orderly store) :
    (Store.keys store).Pairwise (· < ·)
  mem_keys_iff {Value : Type} {store : Backlog Value} (orderly : Queued.Orderly store)
    {key : String} (isKey : Queued.IsKey Backlog key) :
    key ∈ Store.keys store ↔ Store.count store key ≠ 0
  sum_count_le {Value : Type} {store : Backlog Value} (orderly : Queued.Orderly store) :
    ((Store.keys store).map (Store.count store)).sum ≤ Store.size store

namespace Queued

variable {Backlog : Type → Type} [Store Backlog] [Queued Backlog] {Value : Type} [Entry Value]
  {key : String} {store middle after : Backlog Value}

/-- A store in order that is not changed still has everything. -/
theorem Spares.refl (orderly : Orderly store) (key : String) : Spares key store store where
  orderly := orderly
  retention := rfl
  strays := rfl
  waiting _ _ _ := rfl
  count _ _ _ := rfl

/-- One change under a key after another. -/
theorem Spares.trans (first : Spares key store middle) (second : Spares key middle after) :
    Spares key store after where
  orderly := second.orderly
  retention := second.retention.trans first.retention
  strays := second.strays.trans first.strays
  waiting other isKey different :=
    (second.waiting other isKey different).trans (first.waiting other isKey different)
  count other isKey different :=
    (second.count other isKey different).trans (first.count other isKey different)

variable [LawfulQueued Backlog]

/-- Nothing waits under a text that could be listed as a key and is not. -/
theorem waiting_of_not_mem_keys (orderly : Orderly store) (isKey : IsKey Backlog key)
    (unlisted : key ∉ Store.keys store) : waiting store key = [] := by
  have none : Store.count store key = 0 := by
    by_contra some
    exact unlisted ((LawfulQueued.mem_keys_iff orderly isKey).2 some)
  have fewer := LawfulQueued.length_waiting_le store key
  exact List.length_eq_zero_iff.1 (Nat.le_zero.1 (none ▸ fewer))

/-- A key is taken up for its values, and once more to find out that there are no others. There are
at most twice as many occasions as entries. -/
theorem sum_occasions_le (orderly : Orderly store) :
    ((Store.keys store).map fun key => (waiting store key).length + 1).sum ≤
      2 * Store.size store := by
  have occasions : ∀ key ∈ Store.keys store,
      (waiting store key).length + 1 ≤ 2 * Store.count store key := by
    intro key listed
    have isKey : IsKey Backlog key := LawfulQueued.isKey_of_mem_keys listed
    have some := (LawfulQueued.mem_keys_iff orderly isKey).1 listed
    have fewer := LawfulQueued.length_waiting_le store key
    omega
  calc
    _ ≤ ((Store.keys store).map fun key => 2 * Store.count store key).sum :=
      List.sum_le_sum occasions
    _ = 2 * ((Store.keys store).map (Store.count store)).sum := List.sum_map_mul_left _ _ 2
    _ ≤ 2 * Store.size store := Nat.mul_le_mul_left 2 (LawfulQueued.sum_count_le orderly)

end Queued

/-! ## Queues in memory -/

namespace Queues

variable {Value : Type} {queues : Queues Value}

/-- All values are those of the listed keys. -/
theorem Compact.sum_length_eq (compact : queues.Compact) :
    (queues.pending.keys.map fun key => (queues.queue key).length).sum = queues.size := by
  have lengths : queues.pending.keys.map (fun key => (queues.queue key).length) =
      queues.pending.rows.map fun row => row.2.length := by
    rw [Table.keys, List.map_map]
    refine List.map_congr_left fun row member => ?_
    exact congrArg List.length (compact.queue_of_mem member)
  rw [lengths, List.sum_eq_foldl, List.foldl_map]
  rfl

instance : Queued Queues where
  IsKey _ := True
  Orderly := Compact
  waiting := queue
  strays _ := []

/-- Removing values from one queue leaves the others. -/
theorem Compact.spares_remove [Entry Value] (compact : queues.Compact) (key : String)
    (limit : Nat) : Queued.Spares key queues (queues.remove key limit) where
  orderly := compact.remove key limit
  retention := retention_remove queues key limit
  strays := rfl
  waiting _ _ different := queue_remove_of_ne _ limit different
  count _ _ different := congrArg List.length (queue_remove_of_ne _ limit different)

instance : LawfulQueued Queues where
  values_peek _ _ _ := rfl
  waiting_peek _ _ _ := rfl
  spares_peek orderly key _ _ := .refl orderly key
  count_peek _ _ _ _ := rfl
  waiting_remove _ key limit := queue_remove_self _ key limit
  spares_remove compact key _ limit := Compact.spares_remove compact key limit
  length_waiting_le _ _ := Nat.le_refl _
  isKey_of_mem_keys _ := trivial
  ascending_keys compact := List.pairwise_map.2 (Compact.ascending compact)
  mem_keys_iff compact _ _ :=
    (Compact.mem_keys_iff compact).trans (not_congr List.length_eq_zero_iff.symm)
  sum_count_le compact := Nat.le_of_eq (Compact.sum_length_eq compact)

end Queues

/-! ## Journals -/

namespace Journal

variable {Value : Type} {journal : Journal Value} {key : String}

/-- The entries that belong to no key. -/
def strays (journal : Journal Value) : List (Bytes × Bytes) :=
  journal.entries.rows.filter fun row => keyOf? row.1 = none

/-- The entries of a key. -/
def entriesOf (journal : Journal Value) (key : String) : List (Bytes × Bytes) :=
  journal.entries.rows.filter fun row => keyOf? row.1 = some key

/-- What is found for a text without U+0000 are the entries of that key. -/
theorem scan_eq_entriesOf (zeroFree : ZeroFree key) : journal.scan key = journal.entriesOf key := by
  refine List.filter_congr fun row _ => ?_
  rw [Bool.eq_iff_iff, isPrefixOf_stem_iff zeroFree, decide_eq_true_iff]

/-- A text has entries exactly if it is listed as a key. -/
theorem mem_keys_iff_entriesOf : key ∈ journal.keys ↔ journal.entriesOf key ≠ [] := by
  rw [keys, mem_ascendingTexts, List.mem_filterMap, entriesOf, Ne, List.filter_eq_nil_iff]
  simp

/-- Different keys have no more entries together than there are. -/
theorem sum_length_entriesOf_le {keys : List String} (once : keys.Nodup)
    (journal : Journal Value) :
    (keys.map fun key => (journal.entriesOf key).length).sum ≤ journal.entries.size := by
  have step : ∀ rows : List (Bytes × Bytes),
      (keys.map fun key => (rows.filter fun row => keyOf? row.1 = some key).length).sum ≤
        rows.length := by
    induction keys with
    | nil => exact fun _ => Nat.zero_le _
    | cons key keys inductionHypothesis =>
      obtain ⟨fresh, onceLater⟩ := List.nodup_cons.1 once
      intro rows
      have parts := List.length_eq_length_filter_add (l := rows) fun row => keyOf? row.1 = some key
      -- The other keys have their entries among those that are not of this key.
      have others : keys.map (fun other =>
            (rows.filter fun row => keyOf? row.1 = some other).length) =
          keys.map fun other =>
            ((rows.filter fun row => !decide (keyOf? row.1 = some key)).filter fun row =>
              keyOf? row.1 = some other).length := by
        refine List.map_congr_left fun other member => ?_
        rw [List.filter_filter]
        refine congrArg List.length (List.filter_congr fun row _ => ?_)
        by_cases own : keyOf? row.1 = some other
        · have different : key ≠ other := fun same => fresh (same ▸ member)
          simp [own, different.symm]
        · simp [own]
      rw [List.map_cons, List.sum_cons, others]
      have rest := inductionHypothesis onceLater
        (rows.filter fun row => !decide (keyOf? row.1 = some key))
      omega
  exact step journal.entries.rows

variable [Entry Value]

instance : Queued Journal where
  IsKey := ZeroFree
  Orderly journal := journal.entries.Ascending
  waiting := waiting
  strays := strays

/-- Discarding entries of one key leaves all others. -/
theorem spares_discard (ascending : journal.entries.Ascending) {entryKeys : List Bytes}
    (own : ∀ entryKey ∈ entryKeys, keyOf? entryKey = some key) :
    Queued.Spares key journal (journal.discard entryKeys) := by
  have left : ∀ row : Bytes × Bytes, keyOf? row.1 ≠ some key →
      (!entryKeys.contains row.1) = true := by
    intro row other
    rw [Bool.not_eq_true', Bool.eq_false_iff]
    exact fun listed => other (own _ (List.contains_iff_mem.1 listed))
  have scanned : ∀ other, ZeroFree other → other ≠ key →
      (journal.discard entryKeys).scan other = journal.scan other :=
    fun other => scan_discard_of_ne own
  refine ⟨ascending.filter _, rfl, ?_, fun other zeroFree different => ?_,
    fun other zeroFree different => ?_⟩
  · change (journal.discard entryKeys).strays = journal.strays
    rw [strays, discard, List.filter_filter]
    refine List.filter_congr fun row _ => ?_
    cases keyed : keyOf? row.1 with
    | none => rw [left row (by simp [keyed]), Bool.and_true]
    | some other => rfl
  · have under := scanned other zeroFree different
    rw [scan_eq_entriesUnder, scan_eq_entriesUnder] at under
    exact congrArg decoded under
  · exact congrArg List.length (scanned other zeroFree different)

/-- The entries that are passed when looking at a key are of that key. -/
theorem keyOf?_of_mem_decodeFirst (ascending : journal.entries.Ascending) (zeroFree : ZeroFree key)
    (limit : Nat) :
    let passed : List (Bytes × Value) × List Bytes := decodeFirst limit (journal.scan key)
    ∀ entryKey ∈ passed.2 ++ passed.1.map Prod.fst, keyOf? entryKey = some key := by
  intro passed entryKey member
  obtain ⟨found, undecodable⟩ := keys_decodeFirst Value (scan_pairwise ascending key) limit
  have filtered : ∀ selects : Bytes × Bytes → Bool,
      entryKey ∈ ((journal.scan key).filter selects).map Prod.fst → keyOf? entryKey = some key :=
    fun selects selected =>
      keyOf?_of_mem zeroFree ((List.filter_sublist.map Prod.fst).subset selected)
  rcases List.mem_append.1 member with first | second
  · exact filtered _ (undecodable ▸ first)
  · exact filtered _ (found ▸ second)

instance : LawfulQueued Journal where
  values_peek := peek_fst
  waiting_peek ascending key limit := waiting_peek ascending key limit key
  spares_peek ascending key zeroFree limit :=
    spares_discard ascending fun entryKey member =>
      keyOf?_of_mem_decodeFirst ascending zeroFree limit entryKey (List.mem_append_left _ member)
  count_peek ascending _ _ exhausted := length_scan_peek ascending exhausted
  waiting_remove := waiting_remove
  spares_remove ascending key zeroFree limit :=
    spares_discard ascending (keyOf?_of_mem_decodeFirst ascending zeroFree limit)
  length_waiting_le journal key := by
    have counted : Store.count journal key = (journal.entriesUnder key).length :=
      congrArg List.length (scan_eq_entriesUnder journal key)
    rw [counted]
    exact List.length_filterMap_le _ _
  isKey_of_mem_keys := zeroFree_of_mem_keys
  ascending_keys _ := ascendingTexts_pairwise _
  mem_keys_iff _ key zeroFree := by
    refine mem_keys_iff_entriesOf.trans (not_congr ?_)
    rw [← scan_eq_entriesOf zeroFree]
    exact List.length_eq_zero_iff.symm
  sum_count_le {_ journal} _ := by
    have counts : journal.keys.map (fun key => (journal.scan key).length) =
        journal.keys.map fun key => (journal.entriesOf key).length :=
      List.map_congr_left fun key listed => by
        rw [scan_eq_entriesOf (zeroFree_of_mem_keys listed)]
    have once : journal.keys.Nodup :=
      (ascendingTexts_pairwise _).imp fun less => String.ne_of_lt less
    exact (congrArg List.sum counts).trans_le (sum_length_entriesOf_le once journal)

end Journal

end EdgeGateway
