import Mathlib.Data.List.Sort
import EdgeGateway.Proofs.Backlog.EntryKey
import EdgeGateway.Proofs.Outbox.Queue
import EdgeGateway.Table.Ascending

/-!
# Journals mirror queues

`Mirrors` relates a journal to queues in memory: under every key the journal has the encoded values
of the queue, in its order, and it has nothing else. Each operation of the two stores keeps the
relation, and what they give back under it is the same.

Keys are texts without U+0000, sequence numbers are drawn in ascending order and fit twenty digits,
and encoding loses nothing.
-/

namespace EdgeGateway

/-! ## Selected rows of a table -/

namespace Table

variable {Key Value : Type} [LT Key]

section Putting

variable [DecidableEq Key] [DecidableLT Key]

/-- A row put outside a selection of keys does not change what is selected. -/
theorem filter_insertRow_of_not {selects : Key → Bool} {key : Key} (outside : selects key = false)
    (value : Value) (rows : List (Key × Value)) :
    (insertRow key value rows).filter (fun row => selects row.1) =
      rows.filter fun row => selects row.1 := by
  induction rows with
  | nil => simp [insertRow, outside]
  | cons row rows inductionHypothesis =>
    simp only [insertRow]
    split
    · simp [outside]
    · split
      · rename_i same
        simp [← same, outside]
      · simp only [List.filter_cons, inductionHypothesis]

/-- A row put behind everything that is selected comes last among it. -/
theorem filter_insertRow_last [LE Key] [Std.IsLinearOrder Key] [Std.LawfulOrderLT Key]
    {selects : Key → Bool} {key : Key} (inside : selects key = true) (value : Value)
    {rows : List (Key × Value)} (ascending : rows.Pairwise fun row later => row.1 < later.1)
    (last : ∀ row ∈ rows, selects row.1 = true → row.1 < key) :
    (insertRow key value rows).filter (fun row => selects row.1) =
      (rows.filter fun row => selects row.1) ++ [(key, value)] := by
  induction rows with
  | nil => simp [insertRow, inside]
  | cons row rows inductionHypothesis =>
    obtain ⟨below, laterAscending⟩ := List.pairwise_cons.1 ascending
    have unselected : ∀ other ∈ row :: rows, ¬ other.1 < key → selects other.1 = false :=
      fun other member greater => Bool.eq_false_iff.2 fun selected =>
        greater (last other member selected)
    simp only [insertRow]
    split
    · rename_i less
      -- Everything behind the new row is greater, so none of it is selected.
      have none : (row :: rows).filter (fun row => selects row.1) = [] := by
        refine List.filter_eq_nil_iff.2 fun other member => Bool.eq_false_iff.1 ?_
        refine unselected other member (Std.not_lt.2 (Std.le_of_lt ?_))
        rcases List.mem_cons.1 member with rfl | later
        · exact less
        · exact Std.lt_trans less (below other later)
      rw [List.filter_cons, if_pos inside, none, List.nil_append]
    · split
      · rename_i same
        have selected : selects row.1 = true := same ▸ inside
        exact absurd (same ▸ last row List.mem_cons_self selected) Std.lt_irrefl
      · have found := inductionHypothesis laterAscending
          fun other member => last other (List.mem_cons_of_mem _ member)
        simp only [List.filter_cons]
        split
        · rw [found, List.cons_append]
        · exact found

end Putting

/-- The rows left of some when the first so many of them are taken away by their keys. -/
theorem filter_notContains_take [BEq Key] [LawfulBEq Key] [LE Key] [Std.IsLinearOrder Key]
    [Std.LawfulOrderLT Key] {rows : List (Key × Value)}
    (ascending : rows.Pairwise fun row later => row.1 < later.1) (limit : Nat) :
    rows.filter (fun row => !((rows.take limit).map Prod.fst).contains row.1) =
      rows.drop limit := by
  have parts := List.take_append_drop limit rows
  rw [← parts] at ascending
  obtain ⟨-, -, across⟩ := List.pairwise_append.1 ascending
  have taken : (rows.take limit).filter
      (fun row => !((rows.take limit).map Prod.fst).contains row.1) = [] := by
    refine List.filter_eq_nil_iff.2 fun row member => ?_
    have listed : ((rows.take limit).map Prod.fst).contains row.1 = true :=
      List.contains_iff_mem.2 (List.mem_map_of_mem member)
    simp only [listed, Bool.not_true, Bool.false_eq_true, not_false_eq_true]
  have left : (rows.drop limit).filter
      (fun row => !((rows.take limit).map Prod.fst).contains row.1) = rows.drop limit := by
    refine List.filter_eq_self.2 fun row member => ?_
    rw [Bool.not_eq_true', Bool.eq_false_iff]
    intro listed
    obtain ⟨other, earlier, same⟩ := List.mem_map.1 (List.contains_iff_mem.1 listed)
    exact Std.lt_irrefl (same ▸ across other earlier row member)
  conv => lhs; arg 2; rw [← parts]
  rw [List.filter_append, taken, left, List.nil_append]

end Table

/-! ## Scanning -/

namespace Journal

variable {Value : Type} {journal : Journal Value}

/-- A journal without some entries is scanned as before, without them. -/
theorem scan_discard (entryKeys : List Bytes) (key : String) :
    (journal.discard entryKeys).scan key =
      (journal.scan key).filter fun row => !entryKeys.contains row.1 := by
  simp [scan, discard, List.filter_filter, Bool.and_comm]

/-- Discarding nothing changes nothing. -/
@[simp] theorem discard_nil : journal.discard [] = journal := by
  simp [discard]

/-- What is found for a key without U+0000 are the entries whose key it is. -/
theorem mem_scan_iff {key : String} (zeroFree : ZeroFree key) {row : Bytes × Bytes} :
    row ∈ journal.scan key ↔ row ∈ journal.entries.rows ∧ keyOf? row.1 = some key := by
  rw [scan, List.mem_filter, isPrefixOf_stem_iff zeroFree]

/-- The entries found for a key are of that key. -/
theorem keyOf?_of_mem {key : String} (zeroFree : ZeroFree key) {entryKey : Bytes}
    (member : entryKey ∈ (journal.scan key).map Prod.fst) : keyOf? entryKey = some key := by
  obtain ⟨row, scanned, rfl⟩ := List.mem_map.1 member
  exact ((mem_scan_iff zeroFree).1 scanned).2

/-- A journal without some entries of a key has all those of another. -/
theorem scan_discard_of_ne {key other : String} {entryKeys : List Bytes}
    (own : ∀ entryKey ∈ entryKeys, keyOf? entryKey = some key) (zeroFree : ZeroFree other)
    (different : other ≠ key) : (journal.discard entryKeys).scan other = journal.scan other := by
  rw [scan_discard, List.filter_eq_self]
  intro row scanned
  have keyed := ((mem_scan_iff zeroFree).1 scanned).2
  rw [Bool.not_eq_true', Bool.eq_false_iff]
  intro discarded
  have ofKey := own _ (List.contains_iff_mem.1 discarded)
  exact different (Option.some.inj (keyed.symm.trans ofKey))

/-- An entry of another key is not found. -/
theorem scan_insert_of_ne {entryKey : Bytes} {other : String} (zeroFree : ZeroFree other)
    (different : keyOf? entryKey ≠ some other) (bytes : Bytes) :
    ({ journal with entries := journal.entries.insert entryKey bytes } : Journal Value).scan other =
      journal.scan other := by
  have outside : (stem other).isPrefixOf entryKey = false := by
    rw [Bool.eq_false_iff, ne_eq, isPrefixOf_stem_iff zeroFree]
    exact different
  rw [scan, Table.insert, Table.filter_insertRow_of_not outside, scan]

/-- The entries found for a key are in the order of their entry keys. -/
theorem scan_pairwise (ascending : journal.entries.Ascending) (key : String) :
    (journal.scan key).Pairwise fun row later => row.1 < later.1 :=
  List.Pairwise.filter _ ascending

variable [Entry Value]

/-- Whether encoding loses nothing. -/
def Lossless (Value : Type) [Entry Value] : Prop :=
  ∀ value : Value, Entry.decode? (Entry.encode value) = some value

/-- Encoded values are all decoded, and nothing is discarded on the way. -/
theorem decodeFirst_of_encoded (lossless : Lossless Value) {rows : List (Bytes × Bytes)}
    {values : List Value} (encoded : rows.map Prod.snd = values.map Entry.encode) (limit : Nat) :
    decodeFirst limit rows = (((rows.map Prod.fst).zip values).take limit, []) := by
  induction rows generalizing values limit with
  | nil => cases limit <;> rfl
  | cons row rows inductionHypothesis =>
    cases values with
    | nil => cases encoded
    | cons value values =>
      obtain ⟨entryKey, bytes⟩ := row
      obtain ⟨rfl, later⟩ := List.cons.inj encoded
      cases limit with
      | zero => rfl
      | succ limit =>
        rw [decodeFirst, lossless, inductionHypothesis later limit]
        rfl

section Encoded

variable {key : String} {values : List Value}

/-- Looking at encoded values gives the first of them and changes nothing. -/
theorem peek_of_encoded (lossless : Lossless Value)
    (encoded : (journal.scan key).map Prod.snd = values.map Entry.encode) (limit : Nat) :
    journal.peek key limit = (values.take limit, journal) := by
  have lengths := congrArg List.length encoded
  simp only [List.length_map] at lengths
  have enough : values.length ≤ ((journal.scan key).map Prod.fst).length := by
    rw [List.length_map, lengths]
  rw [peek, decodeFirst_of_encoded lossless encoded]
  dsimp only
  rw [discard_nil, List.map_take, List.map_snd_zip enough]

/-- Removing encoded values discards the entries found first. -/
theorem remove_of_encoded (lossless : Lossless Value)
    (encoded : (journal.scan key).map Prod.snd = values.map Entry.encode) (limit : Nat) :
    journal.remove key limit = journal.discard (((journal.scan key).take limit).map Prod.fst) := by
  have lengths := congrArg List.length encoded
  simp only [List.length_map] at lengths
  have enough : ((journal.scan key).map Prod.fst).length ≤ values.length := by
    rw [List.length_map, lengths]
  rw [remove, decodeFirst_of_encoded lossless encoded]
  dsimp only
  rw [List.nil_append, List.map_take, List.map_fst_zip enough, List.map_take]

end Encoded

end Journal

/-! ## The relation -/

/-- The keys of queues ascend and hold no U+0000, and none of the queues is empty. -/
structure Queues.Tidy {Value : Type} (queues : Queues Value) : Prop where
  ascending : queues.pending.Ascending
  waiting : ∀ key queue, queues.pending.find? key = some queue → ZeroFree key ∧ queue ≠ []

namespace Queues.Tidy

variable {Value : Type} {queues : Queues Value}

/-- A table of queues stays tidy when a queue that is not empty is set. -/
theorem insert (tidy : queues.Tidy) {key : String} (zeroFree : ZeroFree key) {queue : List Value}
    (nonempty : queue ≠ []) :
    Tidy { queues with pending := queues.pending.insert key queue } where
  ascending := tidy.ascending.insert key queue
  waiting other found same := by
    by_cases self : other = key
    · subst self
      rw [Table.find?_insert_self] at same
      exact ⟨zeroFree, Option.some.inj same ▸ nonempty⟩
    · rw [Table.find?_insert_of_ne _ _ self] at same
      exact tidy.waiting other found same

/-- A table of queues stays tidy when one of them is dropped. -/
theorem erase (tidy : queues.Tidy) (key : String) :
    Tidy { queues with pending := queues.pending.erase key } where
  ascending := tidy.ascending.erase key
  waiting other found same := by
    by_cases self : other = key
    · subst self
      rw [Table.find?_erase_self] at same
      cases same
    · rw [Table.find?_erase_of_ne _ self] at same
      exact tidy.waiting other found same

/-- Queues stay tidy when a value is put. -/
theorem put (tidy : queues.Tidy) {key : String} (zeroFree : ZeroFree key) (value : Value) :
    (queues.put key value).Tidy :=
  tidy.insert zeroFree (List.concat_ne_nil _ _)

/-- Queues stay tidy when values are removed. -/
theorem remove (tidy : queues.Tidy) {key : String} (zeroFree : ZeroFree key) (limit : Nat) :
    (queues.remove key limit).Tidy := by
  unfold Queues.remove
  split
  · exact tidy.erase key
  · rename_i rest left
    exact tidy.insert zeroFree fun drained => left drained

/-- Tidy queues are compact. -/
theorem compact (tidy : queues.Tidy) : queues.Compact where
  filled row member :=
    (tidy.waiting row.1 row.2 (tidy.ascending.find?_of_mem member)).2
  ascending := tidy.ascending

/-- Whatever waits does so under a key without U+0000. -/
theorem zeroFree (tidy : queues.Tidy) {key : String} (nonempty : queues.queue key ≠ []) :
    ZeroFree key := by
  rw [queue] at nonempty
  cases found : queues.pending.find? key with
  | none => simp [found] at nonempty
  | some queue => exact (tidy.waiting key queue found).1

end Queues.Tidy

/-- A journal mirrors queues: it has what they have, under entry keys with sequence numbers below
the next. -/
structure Mirrors {Value : Type} [Entry Value] (next : Nat) (journal : Journal Value)
    (queues : Queues Value) : Prop where
  retention : journal.retention = queues.retention
  tidy : queues.Tidy
  ascending : journal.entries.Ascending
  /-- Every entry belongs to a key without U+0000. -/
  keyed : ∀ row ∈ journal.entries.rows, ∃ key sequence,
    ZeroFree key ∧ sequence < next ∧ row.1 = Journal.entryKey key sequence
  /-- The entries of a key are its queue, in order. -/
  encoded : ∀ key, ZeroFree key →
    (journal.scan key).map Prod.snd = (queues.queue key).map Entry.encode

namespace Mirrors

open Journal

variable {Value : Type} [Entry Value] {next : Nat} {journal : Journal Value}
  {queues : Queues Value}

/-- A fresh journal mirrors fresh queues. -/
theorem fresh (next : Nat) (retention : Retention) :
    Mirrors next (Store.fresh retention : Journal Value) (Store.fresh retention) where
  retention := rfl
  tidy := { ascending := Table.ascending_empty, waiting := nofun }
  ascending := Table.ascending_empty
  keyed := nofun
  encoded _ _ := rfl

/-- Sequence numbers that are passed over do no harm. -/
theorem mono (mirrors : Mirrors next journal queues) {later : Nat} (order : next ≤ later) :
    Mirrors later journal queues where
  retention := mirrors.retention
  tidy := mirrors.tidy
  ascending := mirrors.ascending
  keyed row member := by
    obtain ⟨key, sequence, zeroFree, below, same⟩ := mirrors.keyed row member
    exact ⟨key, sequence, zeroFree, Nat.lt_of_lt_of_le below order, same⟩
  encoded := mirrors.encoded

/-- Every entry of a journal is one of the key that is read off it. -/
theorem exists_sequence (mirrors : Mirrors next journal queues) {row : Bytes × Bytes}
    (member : row ∈ journal.entries.rows) :
    ∃ key sequence, keyOf? row.1 = some key ∧ ZeroFree key ∧ sequence < next ∧
      row.1 = entryKey key sequence := by
  obtain ⟨key, sequence, zeroFree, below, same⟩ := mirrors.keyed row member
  refine ⟨key, sequence, ?_, zeroFree, below, same⟩
  rw [same, keyOf?_entryKey, zeroFree.beforeZero_eq]

/-! ### Looking -/

/-- There are as many entries of a key as values in its queue. -/
theorem length_scan (mirrors : Mirrors next journal queues) {key : String}
    (zeroFree : ZeroFree key) : (journal.scan key).length = (queues.queue key).length := by
  have lengths := congrArg List.length (mirrors.encoded key zeroFree)
  rwa [List.length_map, List.length_map] at lengths

/-- Looking at the front of a key gives the front of its queue and changes nothing. -/
theorem peek_eq (mirrors : Mirrors next journal queues) (lossless : Lossless Value) {key : String}
    (zeroFree : ZeroFree key) (limit : Nat) :
    journal.peek key limit = (queues.peek key limit, journal) :=
  peek_of_encoded lossless (mirrors.encoded key zeroFree) limit

/-- The keys of a journal are those of the queues. -/
theorem keys_eq (mirrors : Mirrors next journal queues) : journal.keys = queues.pending.keys := by
  have queuesAscending : queues.pending.keys.Pairwise (· < ·) :=
    List.pairwise_map.2 mirrors.tidy.ascending
  refine (ascendingTexts_pairwise _).eq_of_mem_iff queuesAscending fun key => ?_
  rw [mem_ascendingTexts, List.mem_filterMap, mirrors.tidy.compact.mem_keys_iff]
  constructor
  · rintro ⟨row, member, keyed⟩ drained
    obtain ⟨other, sequence, otherKeyed, zeroFree, -, -⟩ := mirrors.exists_sequence member
    obtain rfl := Option.some.inj (keyed.symm.trans otherKeyed)
    have encoded := mirrors.encoded key zeroFree
    rw [drained, List.map_nil, List.map_eq_nil_iff] at encoded
    have scanned := (mem_scan_iff zeroFree).2 ⟨member, keyed⟩
    rw [encoded] at scanned
    cases scanned
  · intro nonempty
    have zeroFree := mirrors.tidy.zeroFree nonempty
    have found : journal.scan key ≠ [] := by
      intro none
      have encoded := mirrors.encoded key zeroFree
      rw [none] at encoded
      exact nonempty (List.map_eq_nil_iff.1 encoded.symm)
    obtain ⟨row, scanned⟩ := List.exists_mem_of_ne_nil _ found
    obtain ⟨member, keyed⟩ := (mem_scan_iff zeroFree).1 scanned
    exact ⟨row, member, keyed⟩

/-- A journal is empty exactly if nothing waits in the queues. -/
theorem isEmpty_eq (mirrors : Mirrors next journal queues) :
    journal.entries.isEmpty = queues.pending.isEmpty := by
  have keys := mirrors.keys_eq
  rw [Bool.eq_iff_iff, Table.isEmpty, Table.isEmpty, List.isEmpty_iff, List.isEmpty_iff]
  constructor
  · intro empty
    have none : journal.keys = [] := by
      rw [Journal.keys, empty]
      rfl
    exact List.map_eq_nil_iff.1 (keys ▸ none)
  · intro empty
    rw [List.eq_nil_iff_forall_not_mem]
    intro row member
    obtain ⟨key, -, keyed, -⟩ := mirrors.exists_sequence member
    have listed : key ∈ journal.keys :=
      mem_ascendingTexts.2 (List.mem_filterMap.2 ⟨row, member, keyed⟩)
    rw [keys, Table.keys, empty] at listed
    cases listed

/-! ### Discarding -/

/-- A journal without some entries of a key mirrors queues that have lost the same values. -/
theorem discard (mirrors : Mirrors next journal queues) {fewer : Queues Value} {key : String}
    {entryKeys : List Bytes} (ofKey : ∀ entryKey ∈ entryKeys, keyOf? entryKey = some key)
    (retention : fewer.retention = queues.retention) (tidy : fewer.Tidy)
    (self : ((journal.scan key).filter fun row => !entryKeys.contains row.1).map Prod.snd =
      (fewer.queue key).map Entry.encode)
    (others : ∀ other ≠ key, fewer.queue other = queues.queue other) :
    Mirrors next (journal.discard entryKeys) fewer where
  retention := mirrors.retention.trans retention.symm
  tidy := tidy
  ascending := List.Pairwise.filter _ mirrors.ascending
  keyed row member := mirrors.keyed row (List.mem_filter.1 member).1
  encoded other zeroFree := by
    by_cases same : other = key
    · subst same
      rw [scan_discard]
      exact self
    · rw [scan_discard_of_ne ofKey zeroFree same, others other same]
      exact mirrors.encoded other zeroFree

/-- Removing values keeps the relation. -/
theorem remove (mirrors : Mirrors next journal queues) (lossless : Lossless Value) {key : String}
    (zeroFree : ZeroFree key) (limit : Nat) :
    Mirrors next (journal.remove key limit) (queues.remove key limit) := by
  rw [remove_of_encoded lossless (mirrors.encoded key zeroFree)]
  refine mirrors.discard (fun entryKey member => ?_) (Queues.retention_remove _ _ _)
    (mirrors.tidy.remove zeroFree limit) ?_ fun other different =>
      Queues.queue_remove_of_ne _ _ different
  · rw [List.map_take] at member
    exact keyOf?_of_mem zeroFree (List.mem_of_mem_take member)
  · rw [Table.filter_notContains_take (scan_pairwise mirrors.ascending key),
      Queues.queue_remove_self, List.map_drop, List.map_drop, mirrors.encoded key zeroFree]

/-! ### Putting -/

/-- An entry under a new sequence number is a value at the end of its queue. -/
theorem append (mirrors : Mirrors next journal queues) {more : Queues Value} {sequence : Nat}
    (order : next ≤ sequence) (fits : sequence < 10 ^ 20) {key : String}
    (zeroFree : ZeroFree key) (value : Value) (retention : more.retention = queues.retention)
    (tidy : more.Tidy) (self : more.queue key = queues.queue key ++ [value])
    (others : ∀ other ≠ key, more.queue other = queues.queue other) :
    Mirrors (sequence + 1)
      { journal with
        entries := journal.entries.insert (entryKey key sequence) (Entry.encode value) }
      more where
  retention := mirrors.retention.trans retention.symm
  tidy := tidy
  ascending := mirrors.ascending.insert _ _
  keyed row member := by
    rcases Table.mem_insertRow member with rfl | old
    · exact ⟨key, sequence, zeroFree, Nat.lt_succ_self _, rfl⟩
    · obtain ⟨other, earlier, otherZeroFree, below, same⟩ := mirrors.keyed row old
      exact ⟨other, earlier, otherZeroFree, by omega, same⟩
  encoded other otherZeroFree := by
    have keyed : keyOf? (entryKey key sequence) = some key := by
      rw [keyOf?_entryKey, zeroFree.beforeZero_eq]
    by_cases same : other = key
    · subst same
      have last : ∀ row ∈ journal.entries.rows, (stem other).isPrefixOf row.1 = true →
          row.1 < entryKey other sequence := by
        intro row member scanned
        obtain ⟨owner, earlier, ownerKeyed, -, below, rowKey⟩ := mirrors.exists_sequence member
        have otherKeyed := (isPrefixOf_stem_iff zeroFree _).1 scanned
        obtain rfl := Option.some.inj (ownerKeyed.symm.trans otherKeyed)
        rw [rowKey]
        exact entryKey_lt owner (by omega) fits
      have scanned := Table.filter_insertRow_last
        ((isPrefixOf_stem_iff zeroFree _).2 keyed) (Entry.encode value) mirrors.ascending last
      rw [scan, Table.insert, scanned, List.map_append, self, List.map_append]
      exact congrArg (· ++ _) (mirrors.encoded other zeroFree)
    · have different : keyOf? (entryKey key sequence) ≠ some other := by
        rw [keyed]
        exact fun equal => same (Option.some.inj equal).symm
      rw [scan_insert_of_ne otherZeroFree different, others other same]
      exact mirrors.encoded other otherZeroFree

/-- Putting a value keeps the relation. -/
theorem put (mirrors : Mirrors next journal queues) {sequence : Nat} (order : next ≤ sequence)
    (fits : sequence < 10 ^ 20) {key : String} (zeroFree : ZeroFree key) (value : Value) :
    Mirrors (sequence + 1) (journal.put sequence key value) (queues.put key value) := by
  have tidy := mirrors.tidy.put zeroFree value
  have others : ∀ other ≠ key, (queues.put key value).queue other = queues.queue other :=
    fun other different => Queues.queue_put_of_ne _ _ different
  have self := Queues.queue_put_self queues key value
  have retained := mirrors.retention
  unfold Journal.put
  cases retention : queues.retention with
  | fifo =>
    rw [retention] at retained self
    rw [retained]
    exact mirrors.append order fits zeroFree value rfl tidy self others
  | lastValue =>
    rw [retention] at retained self
    rw [retained]
    -- Everything under the key goes first, as if its queue had been dropped.
    have cleared : Mirrors next (journal.discard ((journal.scan key).map Prod.fst))
        { queues with pending := queues.pending.erase key } := by
      refine mirrors.discard (fun _ => keyOf?_of_mem zeroFree) rfl (mirrors.tidy.erase key) ?_ ?_
      · have none := Table.filter_notContains_take (scan_pairwise mirrors.ascending key)
          (journal.scan key).length
        rw [List.take_length, List.drop_length] at none
        rw [none]
        simp [Queues.queue]
      · intro other different
        simp [Queues.queue, Table.find?_erase_of_ne _ different]
    refine cleared.append order fits zeroFree value rfl tidy ?_ ?_
    · simpa [Queues.queue] using self
    · intro other different
      rw [others other different]
      simp [Queues.queue, Table.find?_erase_of_ne _ different]

end Mirrors

end EdgeGateway
