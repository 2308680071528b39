import EdgeGateway.Proofs.Backlog.Mirror
import EdgeGateway.Proofs.Telemetry.Entry

/-!
# What the keys of a journal have to do with each other

A journal finds the entries of a key by the bytes with which their entry keys begin. Since a zero
byte ends the key, and none stands in the digits behind it, an entry is found under the key of its
put, and besides under what stands in that key before a U+0000 (`Reaches`,
`isPrefixOf_stem_entryKey_iff`).

A `Deposit` is a put into a journal, and `Deposit.surviving` says which deposits are left: under
`lastValue` retention a put takes everything that its key reaches. The entries of a journal are
those of the surviving deposits (`Keeps`). So everything that is found, counted, removed or listed
under a key can be told from the keys of the puts, whatever texts they are (`keys_are_isolated`).
-/

namespace EdgeGateway

/-! ## Texts that begin alike -/

namespace Bytes

/-- No encoding of a character begins another. -/
theorem eq_of_utf8EncodeChar_append {character other : Char} {rest later : Bytes}
    (same : String.utf8EncodeChar character ++ rest = String.utf8EncodeChar other ++ later) :
    character = other := by
  have decoded := congrArg (fun bytes : Bytes => bytes.toByteArray.utf8DecodeChar? 0) same
  simpa [ByteArray.utf8DecodeChar?_utf8EncodeChar_append] using decoded

/-- The encoding of two texts in a row is that of the one and then that of the other. -/
theorem ofText_append (first second : String) :
    ofText (first ++ second) = ofText first ++ ofText second := by
  simp [ofText_eq_flatMap]

/-- A text of which the encoding begins like that of another begins like it. -/
theorem exists_eq_append_of_ofText {first text : String} {rest : Bytes}
    (begins : ofText text = ofText first ++ rest) : ∃ later, text = first ++ later := by
  have characters : ∀ (front whole : List Char),
      whole.flatMap String.utf8EncodeChar = front.flatMap String.utf8EncodeChar ++ rest →
        ∃ later, whole = front ++ later := by
    intro front
    induction front with
    | nil => exact fun whole _ => ⟨whole, rfl⟩
    | cons character front inductionHypothesis =>
      intro whole same
      rw [List.flatMap_cons, List.append_assoc] at same
      cases whole with
      | nil =>
        have short := congrArg List.length same
        have long := String.length_utf8EncodeChar character
        have wide := character.utf8Size_pos
        simp at short
        omega
      | cons other whole =>
        rw [List.flatMap_cons] at same
        obtain rfl := eq_of_utf8EncodeChar_append same
        obtain ⟨later, rfl⟩ := inductionHypothesis whole (List.append_cancel_left same)
        exact ⟨later, rfl⟩
  rw [ofText_eq_flatMap, ofText_eq_flatMap] at begins
  obtain ⟨later, whole⟩ := characters _ _ begins
  refine ⟨String.ofList later, String.toList_inj.1 ?_⟩
  rw [String.toList_append, String.toList_ofList, whole]

/-- Different texts have different encodings. -/
theorem ofText_injective : Function.Injective ofText := by
  intro first second same
  have texts := congrArg text? same
  rw [text?_ofText, text?_ofText] at texts
  exact Option.some.inj texts

end Bytes

/-- Whether what is put under a key is found under another: under the key itself, and under what
stands in it before a U+0000. -/
def Reaches (key owner : String) : Prop :=
  owner = key ∨ ∃ rest, owner = key ++ "\x00" ++ rest

/-- Whether a key reaches another can be told from how the other begins. -/
theorem reaches_iff {key owner : String} :
    Reaches key owner ↔ owner = key ∨ (key ++ "\x00").toList <+: owner.toList := by
  refine or_congr_right ⟨?_, ?_⟩
  · rintro ⟨rest, rfl⟩
    exact ⟨rest.toList, String.toList_append.symm⟩
  · rintro ⟨rest, whole⟩
    refine ⟨String.ofList rest, String.toList_inj.1 ?_⟩
    exact whole.symm.trans (by simp)

instance (key owner : String) : Decidable (Reaches key owner) :=
  decidable_of_iff _ reaches_iff.symm

/-- Of the keys without U+0000 a key reaches itself only. -/
theorem ZeroFree.reaches_iff {owner : String} (zeroFree : ZeroFree owner) {key : String} :
    Reaches key owner ↔ owner = key := by
  constructor
  · rintro (same | ⟨rest, rfl⟩)
    · exact same
    · exact absurd (by simp) zeroFree
  · exact .inl

namespace Journal

/-- No digit is a zero byte. -/
theorem zero_notMem_sequenceDigits (sequence : Nat) : (0 : UInt8) ∉ sequenceDigits sequence := by
  intro member
  obtain ⟨digit, listed, zero⟩ := List.mem_map.1 member
  have isDigit : digit.isDigit = true := by
    rcases List.mem_append.1 listed with padding | digits
    · rw [List.eq_of_mem_replicate padding]
      rfl
    · exact Nat.isDigit_of_mem_toDigits (by decide) (by decide) digits
  obtain ⟨low, high⟩ := Char.isDigit_iff_toNat.1 isDigit
  have least : 48 ≤ digit.toNat := low
  have greatest : digit.toNat ≤ 57 := high
  have worth : digit.toNat % 256 = 0 :=
    UInt8.toNat_ofNat'.symm.trans (congrArg UInt8.toNat zero)
  omega

/-- An entry is found under a key exactly if the key reaches that of the entry. -/
theorem isPrefixOf_stem_entryKey_iff {key owner : String} {sequence : Nat} :
    (stem key).isPrefixOf (entryKey owner sequence) = true ↔ Reaches key owner := by
  rw [List.isPrefixOf_iff_prefix, entryKey, stem, stem]
  constructor
  · rintro ⟨rest, same⟩
    simp only [List.append_assoc, List.singleton_append] at same
    -- The zero byte behind the key is the one behind the owner, or stands in the owner before it.
    -- It cannot stand among the digits.
    obtain ⟨between, owned, tail⟩ | ⟨between, keyed, tail⟩ := List.append_eq_append_iff.1 same
    · cases between with
      | nil =>
        rw [List.append_nil] at owned
        exact .inl (Bytes.ofText_injective owned)
      | cons byte between =>
        obtain ⟨rfl, -⟩ := List.cons.inj tail
        have zero : Bytes.ofText "\x00" = [0] := by decide
        have begins : Bytes.ofText owner = Bytes.ofText (key ++ "\x00") ++ between := by
          rw [owned, Bytes.ofText_append, zero, List.append_assoc, List.singleton_append]
        exact .inr (Bytes.exists_eq_append_of_ofText begins)
    · cases between with
      | nil =>
        rw [List.append_nil] at keyed
        exact .inl (Bytes.ofText_injective keyed).symm
      | cons byte between =>
        obtain ⟨-, digits⟩ := List.cons.inj tail
        have member : (0 : UInt8) ∈ sequenceDigits sequence := by
          rw [digits]
          exact List.mem_append_right _ List.mem_cons_self
        exact absurd member (zero_notMem_sequenceDigits sequence)
  · rintro (rfl | ⟨rest, rfl⟩)
    · exact List.prefix_append _ _
    · have zero : Bytes.ofText "\x00" = [0] := by decide
      rw [Bytes.ofText_append, Bytes.ofText_append, zero, List.append_assoc _ _ [0],
        List.append_assoc]
      exact List.prefix_append _ _

/-- Entry keys with different sequence numbers differ. -/
theorem entryKey_ne {first second : Nat} (less : first < second) (fits : second < 10 ^ 20)
    (key other : String) : entryKey key first ≠ entryKey other second := by
  intro same
  have lengths : (sequenceDigits first).length = (sequenceDigits second).length :=
    (length_paddedDigits (by decide) (Nat.lt_trans less fits)).trans
      (length_paddedDigits (by decide) fits).symm
  have digits := List.append_inj_right' same lengths
  have below : sequenceDigits first < sequenceDigits second := paddedDigits_lt (by decide) less fits
  exact List.lt_irrefl _ (digits ▸ below)

end Journal

/-! ## Deposits -/

/-- A put into a journal that is kept with some retention. -/
structure Deposit (Value : Type) where
  retention : Retention
  sequence : UInt64
  key : String
  value : Value

namespace Deposit

variable {Value : Type}

/-- The deposits that a key reaches. -/
def reached (key : String) (deposits : List (Deposit Value)) : List (Deposit Value) :=
  deposits.filter fun deposit => Reaches key deposit.key

/-- The deposits that a key does not reach. -/
def spared (key : String) (deposits : List (Deposit Value)) : List (Deposit Value) :=
  deposits.filter fun deposit => ¬ Reaches key deposit.key

/-- What is left of some deposits when another follows, together with that one. -/
def follow (earlier : List (Deposit Value)) (deposit : Deposit Value) : List (Deposit Value) :=
  match deposit.retention with
  | .fifo => earlier ++ [deposit]
  | .lastValue => spared deposit.key earlier ++ [deposit]

/-- The deposits that are left when all of them were made. -/
def surviving (deposits : List (Deposit Value)) : List (Deposit Value) :=
  deposits.foldl follow []

/-- What is left of some deposits and another stands in their order. -/
theorem follow_sublist (earlier : List (Deposit Value)) (deposit : Deposit Value) :
    (follow earlier deposit).Sublist (earlier ++ [deposit]) := by
  unfold follow
  split
  · exact .refl _
  · exact List.filter_sublist.append_right _

variable [Entry Value]

/-- The entry of a deposit. -/
def row (deposit : Deposit Value) : Bytes × Bytes :=
  (Journal.entryKey deposit.key deposit.sequence.toNat, Entry.encode deposit.value)

/-- The entry of a later deposit has another key. -/
theorem row_fst_ne {deposit later : Deposit Value} (less : deposit.sequence < later.sequence) :
    deposit.row.1 ≠ later.row.1 :=
  Journal.entryKey_ne (UInt64.lt_iff_toNat_lt.1 less)
    (Nat.lt_trans later.sequence.toNat_lt (by decide)) _ _

end Deposit

namespace Journal

variable {Value : Type} [Entry Value]

/-- The journal after a deposit. -/
def deposit (journal : Journal Value) (made : Deposit Value) : Journal Value :=
  put { journal with retention := made.retention } made.sequence.toNat made.key made.value

/-- The journal that some deposits lead to. -/
def ofDeposits (deposits : List (Deposit Value)) : Journal Value :=
  deposits.foldl deposit { retention := .fifo }

/-- Whether the entries of a journal are those of some deposits. -/
def Keeps (journal : Journal Value) (deposits : List (Deposit Value)) : Prop :=
  ∃ ordered : List (Deposit Value), ordered.Perm deposits ∧
    journal.entries.rows = ordered.map Deposit.row

/-- A row with a new key is added to the others, wherever it is put. -/
theorem exists_insertRow_map {ordered : List (Deposit Value)} {made : Deposit Value}
    (fresh : ∀ other ∈ ordered, other.row.1 ≠ made.row.1) :
    ∃ more : List (Deposit Value), more.Perm (made :: ordered) ∧
      Table.insertRow made.row.1 made.row.2 (ordered.map Deposit.row) = more.map Deposit.row := by
  induction ordered with
  | nil => exact ⟨[made], .refl _, rfl⟩
  | cons first ordered inductionHypothesis =>
    obtain ⟨different, freshLater⟩ := List.forall_mem_cons.1 fresh
    obtain ⟨more, same, rows⟩ := inductionHypothesis freshLater
    rw [List.map_cons, Table.insertRow]
    split
    · exact ⟨made :: first :: ordered, .refl _, rfl⟩
    · rw [if_neg (Ne.symm different), rows]
      exact ⟨first :: more, (same.cons first).trans (.swap made first ordered), rfl⟩

/-! ## What a journal keeps -/

namespace Keeps

variable {journal : Journal Value} {stored : List (Deposit Value)}

/-! ### Looking -/

/-- What is found under a key are the entries of the deposits that the key reaches. -/
theorem exists_scan_eq (keeps : journal.Keeps stored) (key : String) :
    ∃ found : List (Deposit Value), found.Perm (Deposit.reached key stored) ∧
      journal.scan key = found.map Deposit.row := by
  obtain ⟨ordered, same, rows⟩ := keeps
  refine ⟨Deposit.reached key ordered, same.filter _, ?_⟩
  rw [scan, rows, List.filter_map]
  refine congrArg (List.map Deposit.row) (List.filter_congr fun deposit _ => ?_)
  exact Bool.eq_iff_iff.2 (isPrefixOf_stem_entryKey_iff.trans decide_eq_true_iff.symm)

/-- As many entries are counted under a key as the key reaches deposits. -/
theorem length_scan (keeps : journal.Keeps stored) (key : String) :
    (journal.scan key).length = (Deposit.reached key stored).length := by
  obtain ⟨found, same, scanned⟩ := keeps.exists_scan_eq key
  rw [scanned, List.length_map, same.length_eq]

/-- What is found under a key are the encoded values of the deposits that the key reaches. -/
theorem exists_encoded (keeps : journal.Keeps stored) (key : String) :
    ∃ values : List Value, values.Perm ((Deposit.reached key stored).map Deposit.value) ∧
      (journal.scan key).map Prod.snd = values.map Entry.encode := by
  obtain ⟨found, same, scanned⟩ := keeps.exists_scan_eq key
  refine ⟨found.map Deposit.value, same.map _, ?_⟩
  rw [scanned, List.map_map, List.map_map]
  rfl

/-- Looking under a key gives the values of all deposits that it reaches, if that many are asked
for. Nothing changes. -/
theorem peek_all (keeps : journal.Keeps stored) (lossless : Lossless Value) {key : String}
    {limit : Nat} (enough : (Deposit.reached key stored).length ≤ limit) :
    (journal.peek key limit).1.Perm ((Deposit.reached key stored).map Deposit.value) ∧
      (journal.peek key limit).2 = journal := by
  obtain ⟨values, same, encoded⟩ := keeps.exists_encoded key
  have short : values.length ≤ limit := by
    rw [same.length_eq, List.length_map]
    exact enough
  rw [peek_of_encoded lossless encoded, List.take_of_length_le short]
  exact ⟨same, rfl⟩

/-- Listed are the keys of the deposits, as far as their first U+0000. -/
theorem mem_keys_iff (keeps : journal.Keeps stored) {text : String} :
    text ∈ journal.keys ↔ ∃ deposit ∈ stored, text = beforeZero deposit.key := by
  obtain ⟨ordered, same, rows⟩ := keeps
  rw [keys, mem_ascendingTexts, rows, List.filterMap_map, List.mem_filterMap]
  refine exists_congr fun deposit => and_congr same.mem_iff ?_
  rw [Function.comp_apply, Deposit.row, keyOf?_entryKey, Option.some.injEq, eq_comm]

/-- No key is listed exactly if there are no entries. -/
theorem keys_eq_nil_iff (keeps : journal.Keeps stored) :
    journal.keys = [] ↔ journal.entries.isEmpty = true := by
  rw [Table.isEmpty, List.isEmpty_iff]
  constructor
  · intro unlisted
    obtain ⟨ordered, same, rows⟩ := id keeps
    cases ordered with
    | nil => exact rows
    | cons deposit ordered =>
      have listed : beforeZero deposit.key ∈ journal.keys :=
        keeps.mem_keys_iff.2 ⟨deposit, same.mem_iff.1 List.mem_cons_self, rfl⟩
      rw [unlisted] at listed
      cases listed
  · intro empty
    rw [keys, empty]
    rfl

/-! ### Changing -/

/-- Without what is found under a key a journal keeps the deposits that the key does not reach. -/
theorem discard_scan (keeps : journal.Keeps stored) (key : String) :
    (journal.discard ((journal.scan key).map Prod.fst)).Keeps (Deposit.spared key stored) := by
  obtain ⟨ordered, same, rows⟩ := keeps
  refine ⟨Deposit.spared key ordered, same.filter _, ?_⟩
  rw [discard, rows, List.filter_map]
  refine congrArg (List.map Deposit.row) (List.filter_congr fun deposit member => ?_)
  have discarded : deposit.row.1 ∈ (journal.scan key).map Prod.fst ↔ Reaches key deposit.key := by
    constructor
    · intro found
      obtain ⟨row, scanned, sameKey⟩ := List.mem_map.1 found
      have begins := (List.mem_filter.1 scanned).2
      rw [sameKey] at begins
      exact isPrefixOf_stem_entryKey_iff.1 begins
    · intro reaches
      have row : deposit.row ∈ journal.entries.rows := rows ▸ List.mem_map_of_mem member
      exact List.mem_map_of_mem (List.mem_filter.2 ⟨row, isPrefixOf_stem_entryKey_iff.2 reaches⟩)
  rw [Function.comp_apply, Bool.eq_iff_iff, Bool.not_eq_true', Bool.eq_false_iff, ne_eq,
    List.contains_iff_mem, discarded, decide_eq_true_iff]

/-- Removing as many values as a key reaches deposits leaves those that it does not reach. -/
theorem remove_all (keeps : journal.Keeps stored) (lossless : Lossless Value) {key : String}
    {limit : Nat} (enough : (Deposit.reached key stored).length ≤ limit) :
    (journal.remove key limit).Keeps (Deposit.spared key stored) := by
  obtain ⟨values, -, encoded⟩ := keeps.exists_encoded key
  have short : (journal.scan key).length ≤ limit := by
    rw [keeps.length_scan]
    exact enough
  rw [remove_of_encoded lossless encoded, List.take_of_length_le short]
  exact keeps.discard_scan key

/-- With the entry of a later deposit a journal keeps that deposit as well. -/
theorem insert (keeps : journal.Keeps stored) {made : Deposit Value}
    (later : ∀ earlier ∈ stored, earlier.sequence < made.sequence) :
    ({ journal with entries := journal.entries.insert made.row.1 made.row.2 } :
      Journal Value).Keeps (stored ++ [made]) := by
  obtain ⟨ordered, same, rows⟩ := keeps
  have fresh : ∀ earlier ∈ ordered, earlier.row.1 ≠ made.row.1 :=
    fun earlier member => Deposit.row_fst_ne (later earlier (same.mem_iff.1 member))
  obtain ⟨more, moreSame, inserted⟩ := exists_insertRow_map fresh
  refine ⟨more, ?_, ?_⟩
  · calc
      more.Perm (made :: ordered) := moreSame
      List.Perm _ (made :: stored) := same.cons made
      List.Perm _ (stored ++ [made]) := (List.perm_append_singleton made stored).symm
  · rw [Table.insert, rows]
    exact inserted

/-- A later deposit is kept, with those that it leaves. -/
theorem deposit (keeps : journal.Keeps stored) {made : Deposit Value}
    (later : ∀ earlier ∈ stored, earlier.sequence < made.sequence) :
    (journal.deposit made).Keeps (Deposit.follow stored made) := by
  have retained : Keeps { journal with retention := made.retention } stored := keeps
  unfold Journal.deposit put Deposit.follow
  cases made.retention with
  | fifo => exact retained.insert later
  | lastValue =>
    refine (retained.discard_scan made.key).insert fun earlier member => ?_
    exact later earlier (List.mem_filter.1 member).1

end Keeps

/-- A run of ever later deposits keeps what is left of them. -/
theorem Keeps.foldl_deposit {journal : Journal Value} {stored deposits : List (Deposit Value)}
    (keeps : journal.Keeps stored)
    (ascending : (stored ++ deposits).Pairwise fun earlier later =>
      earlier.sequence < later.sequence) :
    (deposits.foldl Journal.deposit journal).Keeps (deposits.foldl Deposit.follow stored) := by
  induction deposits generalizing journal stored with
  | nil => exact keeps
  | cons made deposits inductionHypothesis =>
    obtain ⟨-, -, across⟩ := List.pairwise_append.1 ascending
    refine inductionHypothesis
      (keeps.deposit fun earlier member => across earlier member made List.mem_cons_self) ?_
    have left := (Deposit.follow_sublist stored made).append_right deposits
    rw [List.append_assoc, List.singleton_append] at left
    exact ascending.sublist left

section Deposits

variable {deposits : List (Deposit Value)}

/-- The journal that ever later deposits lead to keeps what is left of them. -/
theorem keeps_ofDeposits
    (ascending : deposits.Pairwise fun earlier later => earlier.sequence < later.sequence) :
    (ofDeposits deposits).Keeps (Deposit.surviving deposits) :=
  Keeps.foldl_deposit ⟨[], .nil, rfl⟩ ascending

/-- A still later deposit is kept, with those that it leaves. -/
theorem keeps_deposit_ofDeposits
    (ascending : deposits.Pairwise fun earlier later => earlier.sequence < later.sequence)
    {made : Deposit Value} (last : ∀ earlier ∈ deposits, earlier.sequence < made.sequence) :
    ((ofDeposits deposits).deposit made).Keeps
      (Deposit.follow (Deposit.surviving deposits) made) := by
  have extended : (deposits ++ [made]).Pairwise fun earlier later =>
      earlier.sequence < later.sequence := by
    refine List.pairwise_append.2 ⟨ascending, List.pairwise_singleton _ _, ?_⟩
    intro earlier member later single
    rw [List.mem_singleton.1 single]
    exact last earlier member
  have keeps := keeps_ofDeposits extended
  rwa [ofDeposits, Deposit.surviving, List.foldl_append, List.foldl_append] at keeps

end Deposits

/-! ## One key beside another -/

/-- Whether nothing that is done under a key sees or changes what is found under another. -/
structure Apart (journal : Journal Value) (key other : String) : Prop where
  disjoint : (journal.scan key).Disjoint (journal.scan other)
  peek : ∀ limit, (journal.peek key limit).2.scan other = journal.scan other
  remove : ∀ limit, (journal.remove key limit).scan other = journal.scan other
  deposit : ∀ retention sequence value,
    (journal.deposit ⟨retention, sequence, key, value⟩).scan other = journal.scan other

/-- A put under one key leaves what is found under another. -/
theorem scan_put_of_ne {journal : Journal Value} {key other : String} (zeroFree : ZeroFree key)
    (otherZeroFree : ZeroFree other) (different : other ≠ key) (sequence : Nat) (value : Value) :
    (journal.put sequence key value).scan other = journal.scan other := by
  have keyed : keyOf? (entryKey key sequence) ≠ some other := by
    rw [keyOf?_entryKey, zeroFree.beforeZero_eq]
    exact fun same => different (Option.some.inj same).symm
  unfold put
  cases journal.retention with
  | fifo => exact scan_insert_of_ne otherZeroFree keyed _
  | lastValue =>
    calc
      _ = (journal.discard ((journal.scan key).map Prod.fst)).scan other :=
        scan_insert_of_ne otherZeroFree keyed _
      _ = journal.scan other :=
        scan_discard_of_ne (fun _ => keyOf?_of_mem zeroFree) otherZeroFree different

/-- Different keys without U+0000 have nothing to do with each other. -/
theorem Keeps.apart {journal : Journal Value} {stored : List (Deposit Value)}
    (keeps : journal.Keeps stored) (lossless : Lossless Value) {key other : String}
    (zeroFree : ZeroFree key) (otherZeroFree : ZeroFree other) (different : other ≠ key) :
    Apart journal key other where
  disjoint := fun row found foundOther => by
    have keyed := ((mem_scan_iff zeroFree).1 found).2
    have otherKeyed := ((mem_scan_iff otherZeroFree).1 foundOther).2
    exact different (Option.some.inj (otherKeyed.symm.trans keyed))
  peek limit := by
    obtain ⟨values, -, encoded⟩ := keeps.exists_encoded key
    rw [peek_of_encoded lossless encoded]
  remove limit := by
    obtain ⟨values, -, encoded⟩ := keeps.exists_encoded key
    rw [remove_of_encoded lossless encoded]
    refine scan_discard_of_ne (fun entryKey member => ?_) otherZeroFree different
    rw [List.map_take] at member
    exact keyOf?_of_mem zeroFree (List.mem_of_mem_take member)
  deposit retention sequence value := scan_put_of_ne zeroFree otherZeroFree different _ value

/-- A journal of any lane that ever later puts lead to, under any keys and any retention, keeps the
deposits that survive. Of these a key has to do with those that it reaches and with no others: they
are the ones that are seen, counted, removed, and taken by a put of a last value. Their keys are
listed as far as the first U+0000, and different keys without one have nothing to do with each
other. So it does not matter whether one key begins with another. -/
theorem keys_are_isolated (lane : Lane) (deposits : List (Deposit lane.Value))
    (ascending : deposits.Pairwise fun earlier later => earlier.sequence < later.sequence)
    (key : String) :
    let journal := ofDeposits deposits
    let stored := Deposit.surviving deposits
    let reached := Deposit.reached key stored
    let spared := Deposit.spared key stored
    journal.Keeps stored ∧
      (∀ limit, reached.length ≤ limit →
        (journal.peek key limit).1.Perm (reached.map Deposit.value) ∧
          (journal.peek key limit).2 = journal ∧ (journal.remove key limit).Keeps spared) ∧
      Store.count journal key = reached.length ∧
      (∀ sequence value, (∀ earlier ∈ deposits, earlier.sequence < sequence) →
        let made : Deposit lane.Value := { retention := .lastValue, sequence, key, value }
        (journal.deposit made).Keeps (spared ++ [made])) ∧
      (∀ text, text ∈ Store.keys journal ↔ ∃ deposit ∈ stored, text = beforeZero deposit.key) ∧
      (Store.keys journal = [] ↔ Store.isEmpty journal = true) ∧
      (∀ deposit ∈ stored, ZeroFree deposit.key → (deposit ∈ reached ↔ deposit.key = key)) ∧
      (ZeroFree key → ∀ other, ZeroFree other → other ≠ key → journal.Apart key other) := by
  intro journal stored reached spared
  have keeps : journal.Keeps stored := keeps_ofDeposits ascending
  have lossless : Lossless lane.Value := lane.decode?_encode
  refine ⟨keeps, fun limit enough => ?_, keeps.length_scan key, fun sequence value last => ?_,
    fun text => keeps.mem_keys_iff, keeps.keys_eq_nil_iff, fun deposit member zeroFree => ?_,
    fun zeroFree other otherZeroFree different =>
      keeps.apart lossless zeroFree otherZeroFree different⟩
  · obtain ⟨values, unchanged⟩ := keeps.peek_all lossless enough
    exact ⟨values, unchanged, keeps.remove_all lossless enough⟩
  · exact keeps_deposit_ofDeposits ascending last
  · rw [← zeroFree.reaches_iff]
    simp [reached, Deposit.reached, member]

/-- Readings under a key, under keys that it reaches, and under one that only begins with it. The
last value put takes one of those that are reached. -/
def crossing : List (Deposit Lane.readings.Value) :=
  [⟨.fifo, 1, "A", ⟨"A", ["1"], 0⟩⟩,
    ⟨.fifo, 2, "A\x00B", ⟨"B", ["2"], 0⟩⟩,
    ⟨.fifo, 3, "AB", ⟨"AB", ["3"], 0⟩⟩,
    ⟨.fifo, 10, "A\x00", ⟨"", ["10"], 5⟩⟩,
    ⟨.lastValue, 11, "A\x00B", ⟨"B", ["11"], 5⟩⟩]

/-- What is found under a key in the journal of `crossing`, and what has nothing to do with it. -/
theorem keys_are_isolated_of_crossing :
    (crossing.Pairwise fun earlier later => earlier.sequence < later.sequence) ∧
      (Deposit.reached "A" (Deposit.surviving crossing)).map Deposit.sequence = [1, 10, 11] ∧
      ((ofDeposits crossing).peek "A" 3).1.Perm
        [⟨"A", ["1"], 0⟩, ⟨"", ["10"], 5⟩, ⟨"B", ["11"], 5⟩] ∧
      Store.count (ofDeposits crossing) "A" = 3 ∧
      ((ofDeposits crossing).deposit ⟨.lastValue, 12, "A", ⟨"A", ["12"], 5⟩⟩).Keeps
        [⟨.fifo, 3, "AB", ⟨"AB", ["3"], 0⟩⟩, ⟨.lastValue, 12, "A", ⟨"A", ["12"], 5⟩⟩] ∧
      (ofDeposits crossing).Apart "A" "AB" := by
  have ascending : crossing.Pairwise fun earlier later => earlier.sequence < later.sequence := by
    decide
  obtain ⟨-, all, count, last, -, -, -, apart⟩ :=
    keys_are_isolated .readings crossing ascending "A"
  have seen := (all 3 (by decide)).1
  have replaced := last 12 ⟨"A", ["12"], 5⟩ (by decide)
  exact ⟨ascending, by decide, seen, count, replaced,
    apart (by decide) "AB" (by decide) (by decide)⟩

/-- Removing under a key takes what stands under its own text and under what follows a U+0000. -/
example :
    ((ofDeposits crossing).remove "A" 3).entries.keys = [entryKey "AB" 3] ∧
      ((ofDeposits crossing).remove "A\x00B" 3).entries.keys =
        [entryKey "A\x00" 10, entryKey "A" 1, entryKey "AB" 3] ∧
      (ofDeposits crossing).keys = ["A", "AB"] := by
  decide +kernel

end Journal

end EdgeGateway
