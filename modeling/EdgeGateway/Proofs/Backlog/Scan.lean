import EdgeGateway.Proofs.Backlog.Mirror

/-!
# Journals with arbitrary entries

A journal may hold any entries: some decode to values and some do not, in any order. The entries
under a key are those of which the entry keys begin with the key and a zero byte, and these are what
a scan finds (`Journal.scan_eq_entriesUnder`). What waits under the key are their values
(`Journal.waiting`). An entry has a rank: the number of values in front of it.

Looking and removing pass the entries of a rank below their limit and no others
(`keys_decodeFirst`). So the two agree about what waits, and `peek_agrees_with_remove` says of each
which entries it takes away: looking takes only what decodes to nothing.
-/

namespace EdgeGateway

/-- Of the rows of a table no two have the same key. -/
theorem Table.Ascending.eq_of_mem {Key Value : Type} [DecidableEq Key] [LT Key]
    [Std.Irrefl (α := Key) (· < ·)] {table : Table Key Value} (ascending : table.Ascending)
    {row other : Key × Value} (member : row ∈ table.rows) (otherMember : other ∈ table.rows)
    (same : other.1 = row.1) : other = row := by
  have found := ascending.find?_of_mem member
  have otherFound := ascending.find?_of_mem otherMember
  rw [same, found] at otherFound
  exact Prod.ext same (Option.some.inj otherFound).symm

namespace Journal

variable {Value : Type} [Entry Value]

/-! ## Values and ranks -/

variable (Value) in
/-- Whether an entry decodes to a value. -/
def decodes (row : Bytes × Bytes) : Bool := (Entry.decode? row.2 : Option Value).isSome

/-- The values of some entries, in the order of the entries. -/
def decoded (rows : List (Bytes × Bytes)) : List Value :=
  rows.filterMap fun row => Entry.decode? row.2

/-- Whether an entry is under a key: its entry key begins with the key and a zero byte. -/
def isUnder (key : String) (row : Bytes × Bytes) : Bool := Bytes.ofText key ++ [0] <+: row.1

/-- The entries under a key, in the order of their entry keys. -/
def entriesUnder (journal : Journal Value) (key : String) : List (Bytes × Bytes) :=
  journal.entries.rows.filter (isUnder key)

/-- The values that wait under a key. -/
def waiting (journal : Journal Value) (key : String) : List Value :=
  decoded (journal.entriesUnder key)

variable (Value) in
/-- The number of values in front of an entry key. -/
def rank (rows : List (Bytes × Bytes)) (entryKey : Bytes) : Nat :=
  rows.countP fun row => decodes Value row && row.1 < entryKey

omit [Entry Value] in
/-- A scan for a key finds the entries under the key. -/
theorem scan_eq_entriesUnder (journal : Journal Value) (key : String) :
    journal.scan key = journal.entriesUnder key := by
  refine List.filter_congr fun row _ => ?_
  rw [Bool.eq_iff_iff, List.isPrefixOf_iff_prefix, isUnder, decide_eq_true_iff, stem]

omit [Entry Value] in
/-- The entries under a key are in the order of their entry keys. -/
theorem entriesUnder_pairwise {journal : Journal Value} (ascending : journal.entries.Ascending)
    (key : String) : (journal.entriesUnder key).Pairwise fun row later => row.1 < later.1 :=
  List.Pairwise.filter _ ascending

/-- Entries that decode to nothing do not matter to the values. -/
theorem decoded_filter {keeps : Bytes × Bytes → Bool} {rows : List (Bytes × Bytes)}
    (undecodable : ∀ row, keeps row = false → decodes Value row = false) :
    (decoded (rows.filter keeps) : List Value) = decoded rows := by
  rw [decoded, List.filterMap_filter]
  refine List.filterMap_congr fun row _ => ?_
  cases kept : keeps row with
  | true => rfl
  | false =>
    have none := undecodable row kept
    rw [decodes, Option.isSome_eq_false_iff, Option.isNone_iff_eq_none] at none
    exact none.symm

/-- There are as many values as entries that decode. -/
theorem length_decoded (rows : List (Bytes × Bytes)) :
    (decoded rows : List Value).length = rows.countP (decodes Value) := by
  induction rows with
  | nil => rfl
  | cons row rows inductionHypothesis =>
    rw [List.countP_cons, ← inductionHypothesis, decoded, List.filterMap_cons]
    unfold decodes
    cases (Entry.decode? row.2 : Option Value) <;> rfl

/-- No more values stand in front of an entry than there are. -/
theorem rank_le (rows : List (Bytes × Bytes)) (entryKey : Bytes) :
    rank Value rows entryKey ≤ (decoded rows : List Value).length := by
  rw [length_decoded]
  refine List.countP_mono_left fun row _ counted => ?_
  exact (Bool.and_eq_true_iff.1 counted).1

section Ascending

variable {row : Bytes × Bytes} {rows : List (Bytes × Bytes)}

/-- No value stands in front of the first entry. -/
theorem rank_first (below : ∀ later ∈ rows, row.1 < later.1) :
    rank Value (row :: rows) row.1 = 0 := by
  refine List.countP_eq_zero.2 fun other member counted => ?_
  have less : other.1 < row.1 := of_decide_eq_true (Bool.and_eq_true_iff.1 counted).2
  rcases List.mem_cons.1 member with rfl | later
  · exact Std.lt_irrefl less
  · exact Std.lt_irrefl (Std.lt_trans less (below other later))

/-- The first entry stands in front of the others. -/
theorem rank_later {entryKey : Bytes} (less : row.1 < entryKey) :
    rank Value (row :: rows) entryKey =
      rank Value rows entryKey + if decodes Value row then 1 else 0 := by
  simp [rank, List.countP_cons, less]

variable (Value) in
/-- Entries behind the first are selected by their ranks as if it were not there, if the limit
allows for it. -/
theorem filter_rank_later (below : ∀ later ∈ rows, row.1 < later.1)
    (selects : Bytes × Bytes → Bool → Bool) (limit : Nat) :
    (rows.filter fun later => selects later <|
        rank Value (row :: rows) later.1 < limit + if decodes Value row then 1 else 0) =
      rows.filter fun later => selects later (rank Value rows later.1 < limit) := by
  refine List.filter_congr fun later member => ?_
  rw [rank_later (below later member)]
  simp only [Nat.add_lt_add_iff_right]

/-! ## What is passed -/

/-- The values found are the first ones, as many as were asked for. -/
theorem values_decodeFirst (limit : Nat) (rows : List (Bytes × Bytes)) :
    (decodeFirst limit rows : List (Bytes × Value) × List Bytes).1.map Prod.snd =
      (decoded rows).take limit := by
  induction rows generalizing limit with
  | nil => cases limit <;> rfl
  | cons row rows inductionHypothesis =>
    cases limit with
    | zero => rfl
    | succ limit =>
      simp only [decodeFirst, decoded, List.filterMap_cons]
      cases (Entry.decode? row.2 : Option Value) with
      | some value => exact congrArg (value :: ·) (inductionHypothesis limit)
      | none => exact inductionHypothesis (limit + 1)

variable (Value) in
/-- The entries that are passed are those of a rank below the limit: the ones found decode, and the
others do not. -/
theorem keys_decodeFirst (ascending : rows.Pairwise fun row later => row.1 < later.1)
    (limit : Nat) :
    let passed : List (Bytes × Value) × List Bytes := decodeFirst limit rows
    passed.1.map Prod.fst =
        (rows.filter fun row => decodes Value row && rank Value rows row.1 < limit).map Prod.fst ∧
      passed.2 =
        (rows.filter fun row => !decodes Value row && rank Value rows row.1 < limit).map
          Prod.fst := by
  induction rows generalizing limit with
  | nil => cases limit <;> exact ⟨rfl, rfl⟩
  | cons row rows inductionHypothesis =>
    obtain ⟨below, laterAscending⟩ := List.pairwise_cons.1 ascending
    cases limit with
    | zero => simp [decodeFirst]
    | succ limit =>
      have first : rank Value (row :: rows) row.1 < limit + 1 := by
        rw [rank_first below]
        exact Nat.succ_pos limit
      have later := filter_rank_later Value below
      simp only [decodeFirst, List.filter_cons, first, decide_true, Bool.and_true]
      cases found : (Entry.decode? row.2 : Option Value) with
      | some value =>
        have decodes : decodes Value row = true := by rw [decodes, found]; rfl
        obtain ⟨keys, undecodable⟩ := inductionHypothesis laterAscending limit
        have values := later (fun row passed => Journal.decodes Value row && passed) limit
        have others := later (fun row passed => !Journal.decodes Value row && passed) limit
        rw [if_pos decodes] at values others
        simp only [decodes, if_true, Bool.not_true, Bool.false_eq_true, if_false, List.map_cons,
          keys, undecodable, values, others, and_self]
      | none =>
        have undecoded : decodes Value row = false := by rw [decodes, found]; rfl
        obtain ⟨keys, undecodable⟩ := inductionHypothesis laterAscending (limit + 1)
        have values := later (fun row passed => decodes Value row && passed) (limit + 1)
        have others := later (fun row passed => !decodes Value row && passed) (limit + 1)
        rw [undecoded] at values others
        simp only [undecoded, if_true, Bool.not_false, Bool.false_eq_true, if_false, List.map_cons,
          keys, undecodable]
        exact ⟨congrArg _ values.symm, congrArg _ (congrArg _ others.symm)⟩

/-- The values of the entries from a rank on are those behind the first so many. -/
theorem decoded_filter_rank (ascending : rows.Pairwise fun row later => row.1 < later.1)
    (limit : Nat) :
    decoded (rows.filter fun row => !decide (rank Value rows row.1 < limit)) =
      (decoded rows : List Value).drop limit := by
  induction rows generalizing limit with
  | nil => simp [decoded]
  | cons row rows inductionHypothesis =>
    obtain ⟨below, laterAscending⟩ := List.pairwise_cons.1 ascending
    cases limit with
    | zero =>
      rw [List.filter_eq_self.2 fun _ _ => by simp]
      rfl
    | succ limit =>
      have first : rank Value (row :: rows) row.1 < limit + 1 := by
        rw [rank_first below]
        exact Nat.succ_pos limit
      have later := filter_rank_later Value below fun _ passed => !passed
      simp only [List.filter_cons, first, decide_true, Bool.not_true, Bool.false_eq_true, if_false]
      rw [decoded, decoded, List.filterMap_cons]
      cases found : (Entry.decode? row.2 : Option Value) with
      | some value =>
        have decodes : decodes Value row = true := by rw [decodes, found]; rfl
        have behind := later limit
        rw [if_pos decodes] at behind
        rw [behind]
        exact inductionHypothesis laterAscending limit
      | none =>
        have undecoded : decodes Value row = false := by rw [decodes, found]; rfl
        have behind := later (limit + 1)
        rw [undecoded] at behind
        exact (congrArg decoded behind).trans (inductionHypothesis laterAscending (limit + 1))

end Ascending

/-! ## What is taken away -/

section Found

variable {journal : Journal Value} {key : String}

/-- Whether an entry is under a key and fewer values under the key than the limit stand in front of
it. -/
def passes (journal : Journal Value) (key : String) (limit : Nat) (row : Bytes × Bytes) : Bool :=
  isUnder key row && rank Value (journal.entriesUnder key) row.1 < limit

omit [Entry Value] in
/-- An entry has the entry key of one that is selected exactly if it is selected itself. -/
theorem contains_selected (ascending : journal.entries.Ascending) (selects : Bytes × Bytes → Bool)
    {row : Bytes × Bytes} (member : row ∈ journal.entries.rows) :
    (((journal.entriesUnder key).filter selects).map Prod.fst).contains row.1 =
      (isUnder key row && selects row) := by
  rw [Bool.eq_iff_iff, List.contains_iff_mem, List.mem_map, Bool.and_eq_true]
  constructor
  · rintro ⟨other, selected, same⟩
    obtain ⟨under, selected⟩ := List.mem_filter.1 selected
    obtain ⟨otherMember, own⟩ := List.mem_filter.1 under
    obtain rfl := ascending.eq_of_mem member otherMember same
    exact ⟨own, selected⟩
  · rintro ⟨own, selected⟩
    exact ⟨row, List.mem_filter.2 ⟨List.mem_filter.2 ⟨member, own⟩, selected⟩, rfl⟩

/-- Looking takes away the entries that it passes and that decode to nothing. -/
theorem rows_peek (ascending : journal.entries.Ascending) (key : String) (limit : Nat) :
    (journal.peek key limit).2.entries.rows =
      journal.entries.rows.filter fun row =>
        !(journal.passes key limit row && !decodes Value row) := by
  obtain ⟨-, undecodable⟩ := keys_decodeFirst Value (entriesUnder_pairwise ascending key) limit
  refine List.filter_congr fun row member => ?_
  rw [scan_eq_entriesUnder, undecodable, contains_selected ascending _ member, passes]
  ac_rfl

/-- Removing takes away the entries that it passes. -/
theorem rows_remove (ascending : journal.entries.Ascending) (key : String) (limit : Nat) :
    (journal.remove key limit).entries.rows =
      journal.entries.rows.filter fun row => !journal.passes key limit row := by
  obtain ⟨keys, undecodable⟩ :=
    keys_decodeFirst Value (entriesUnder_pairwise ascending key) limit
  refine List.filter_congr fun row member => ?_
  rw [scan_eq_entriesUnder, undecodable, keys, List.contains_append,
    contains_selected ascending _ member, contains_selected ascending _ member, passes]
  cases decodes Value row <;> simp

/-! ## Looking and removing agree -/

/-- Looking finds the first of what waits. -/
theorem peek_fst (journal : Journal Value) (key : String) (limit : Nat) :
    (journal.peek key limit).1 = (journal.waiting key).take limit := by
  rw [waiting, ← scan_eq_entriesUnder]
  exact values_decodeFirst limit (journal.scan key)

/-- Looking at a key changes nothing of what waits under any key. -/
theorem waiting_peek (ascending : journal.entries.Ascending) (key : String) (limit : Nat)
    (other : String) : (journal.peek key limit).2.waiting other = journal.waiting other := by
  unfold waiting entriesUnder
  rw [rows_peek ascending, List.filter_comm]
  refine decoded_filter fun row taken => ?_
  rw [Bool.not_eq_false', Bool.and_eq_true, Bool.not_eq_true'] at taken
  exact taken.2

/-- What waits under a key once values were removed is what stood behind them. -/
theorem waiting_remove (ascending : journal.entries.Ascending) (key : String) (limit : Nat) :
    (journal.remove key limit).waiting key = (journal.waiting key).drop limit := by
  have left : (journal.remove key limit).entriesUnder key = (journal.entriesUnder key).filter
      fun row => !(rank Value (journal.entriesUnder key) row.1 < limit) := by
    unfold entriesUnder
    rw [rows_remove ascending, List.filter_filter, List.filter_filter]
    refine List.filter_congr fun row _ => ?_
    unfold passes entriesUnder
    cases isUnder key row <;> simp
  rw [waiting, left, decoded_filter_rank (entriesUnder_pairwise ascending key)]
  rfl

/-- Once looking has found fewer values than it was to find, nothing but these is left. -/
theorem length_scan_peek (ascending : journal.entries.Ascending) {limit : Nat}
    (exhausted : (journal.waiting key).length < limit) :
    ((journal.peek key limit).2.scan key).length = (journal.waiting key).length := by
  have left : (journal.peek key limit).2.entriesUnder key =
      (journal.entriesUnder key).filter (decodes Value) := by
    unfold entriesUnder
    rw [rows_peek ascending, List.filter_filter, List.filter_filter]
    refine List.filter_congr fun row _ => ?_
    have passed : rank Value (journal.entriesUnder key) row.1 < limit :=
      Nat.lt_of_le_of_lt (rank_le _ _) exhausted
    unfold passes
    cases isUnder key row <;> simp [passed]
  rw [scan_eq_entriesUnder, left, ← List.countP_eq_length_filter, waiting, length_decoded]

/-- **Looking and removing agree**, whatever entries a journal holds. The entries under a key are
those of which the entry keys begin with the key and a zero byte, and what waits under it are their
values, in the order of their entry keys.

* Looking finds the first of what waits, and removing leaves the rest. So looking once for more is
  looking, removing and looking again. Looking alone does not change what waits.
* Looking takes away exactly the entries under the key that decode to nothing and have fewer values
  than the limit in front of them. Removing takes away exactly all entries under the key with fewer
  values than the limit in front of them. No other entry is touched.
* Once looking has found fewer values than it was to find, as many entries are counted as were
  found. -/
theorem peek_agrees_with_remove {journal : Journal Value} (ascending : journal.entries.Ascending)
    (key : String) (limit more : Nat) :
    (journal.peek key limit).1 = (journal.waiting key).take limit ∧
      (journal.remove key limit).waiting key = (journal.waiting key).drop limit ∧
      (journal.peek key (limit + more)).1 =
        (journal.peek key limit).1 ++ ((journal.remove key limit).peek key more).1 ∧
      (∀ other, (journal.peek key limit).2.waiting other = journal.waiting other) ∧
      (journal.peek key limit).2.entries.rows =
        journal.entries.rows.filter (fun row =>
          !(journal.passes key limit row && !decodes Value row)) ∧
      (journal.remove key limit).entries.rows =
        journal.entries.rows.filter (fun row => !journal.passes key limit row) ∧
      ((journal.peek key limit).1.length < limit →
        Store.count (journal.peek key limit).2 key = (journal.peek key limit).1.length) := by
  refine ⟨peek_fst journal key limit, waiting_remove ascending key limit, ?_,
    waiting_peek ascending key limit, rows_peek ascending key limit,
    rows_remove ascending key limit, ?_⟩
  · rw [peek_fst, peek_fst, peek_fst, waiting_remove ascending, List.take_add]
  · intro fewer
    rw [peek_fst, List.length_take] at fewer ⊢
    have exhausted : (journal.waiting key).length < limit := by omega
    rw [Nat.min_eq_right (Nat.le_of_lt exhausted)]
    exact length_scan_peek ascending exhausted

end Found

/-- A journal in which a value of a key stands between entries that decode to nothing, behind them
another value and one more of those, and then an entry of a key that begins alike. -/
def damaged : Journal Reading where
  retention := .fifo
  entries := .ofList [
    (entryKey "A" 1, [0x7b]),
    (entryKey "A" 2, Entry.encode (⟨"A", ["1"], 0⟩ : Reading)),
    (entryKey "A" 3, []),
    (entryKey "A" 4, Entry.encode (⟨"A", ["2"], 5⟩ : Reading)),
    (entryKey "A" 5, [0xff]),
    (entryKey "AB" 6, [0xff])]

/-- The damaged journal is looked at and relieved of one value, and then of two more. -/
theorem peek_agrees_with_remove_of_damaged :
    damaged.entries.Ascending ∧
      (damaged.peek "A" 1).1 = (damaged.waiting "A").take 1 ∧
      (damaged.remove "A" 1).waiting "A" = (damaged.waiting "A").drop 1 ∧
      (damaged.peek "A" (1 + 2)).1 =
        (damaged.peek "A" 1).1 ++ ((damaged.remove "A" 1).peek "A" 2).1 :=
  have ascending : damaged.entries.Ascending := Table.ascending_ofList _
  have agrees := peek_agrees_with_remove ascending "A" 1 2
  ⟨ascending, agrees.1, agrees.2.1, agrees.2.2.1⟩

/-- Looking for one value discards the entry in front of it, and removing it takes its own entry as
well. The entries behind the second value are out of reach for both. -/
example :
    (damaged.peek "A" 1).1 = [⟨"A", ["1"], 0⟩] ∧
      ((damaged.peek "A" 1).2.entriesUnder "A").length = 4 ∧
      ((damaged.remove "A" 1).entriesUnder "A").length = 3 ∧
      (damaged.remove "A" 2).entries.keys = [entryKey "A" 5, entryKey "AB" 6] := by
  decide +kernel

end Journal

end EdgeGateway
