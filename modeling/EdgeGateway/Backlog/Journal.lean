import EdgeGateway.Backlog.Store
import EdgeGateway.Table

/-!
# Durable backlogs

A journal keeps its entries in a map ordered by the bytes of the entry keys, which outlives the
process. An entry key is the UTF-8 encoding of the value's key, a zero byte, and the sequence
number in twenty digits; so the entries of one key follow each other in the order in which they
were put. Everything is found by scanning for the key and the zero byte.

The map may hold entries that decode to no value. Such an entry is discarded when it is reached,
and until then counts as waiting.
-/

namespace EdgeGateway

/-- Encoded values by entry key. -/
structure Journal (Value : Type) where
  retention : Retention
  entries : Table Bytes Bytes := .empty

namespace Journal

variable {Value : Type}

/-- How the entry keys of a key begin. -/
def stem (key : String) : Bytes := Bytes.ofText key ++ [0]

/-- A sequence number in at least twenty digits. -/
def sequenceDigits (sequence : Nat) : Bytes :=
  let digits := Nat.toDigits 10 sequence
  (List.replicate (20 - digits.length) '0' ++ digits).map fun digit => digit.toNat.toUInt8

/-- The entry key of a value. -/
def entryKey (key : String) (sequence : Nat) : Bytes := stem key ++ sequenceDigits sequence

/-- The entries found when scanning for a key. -/
def scan (journal : Journal Value) (key : String) : List (Bytes × Bytes) :=
  journal.entries.rows.filter fun row => (stem key).isPrefixOf row.1

/-- The journal without the entries of some entry keys. -/
def discard (journal : Journal Value) (entryKeys : List Bytes) : Journal Value :=
  { journal with entries := ⟨journal.entries.rows.filter fun row => !entryKeys.contains row.1⟩ }

/-- Decodes entries until there are enough values. Gives the values with their entry keys, and
the keys of the entries met on the way that decode to nothing. -/
def decodeFirst [Entry Value] : (limit : Nat) → List (Bytes × Bytes) →
    List (Bytes × Value) × List Bytes
  | 0, _ => ([], [])
  | _ + 1, [] => ([], [])
  | limit + 1, (entryKey, bytes) :: rows =>
    match Entry.decode? bytes with
    | some value =>
      let (found, undecodable) := decodeFirst limit rows
      ((entryKey, value) :: found, undecodable)
    | none =>
      let (found, undecodable) := decodeFirst (limit + 1) rows
      (found, entryKey :: undecodable)

/-- Adds an entry, under `lastValue` retention in place of everything found under its key. -/
def put [Entry Value] (journal : Journal Value) (sequence : Nat) (key : String) (value : Value) :
    Journal Value :=
  let kept :=
    match journal.retention with
    | .fifo => journal
    | .lastValue => journal.discard ((journal.scan key).map Prod.fst)
  { kept with entries := kept.entries.insert (entryKey key sequence) (Entry.encode value) }

/-- The first values of a key, and the journal without the undecodable entries before them. -/
def peek [Entry Value] (journal : Journal Value) (key : String) (limit : Nat) :
    List Value × Journal Value :=
  let (found, undecodable) := decodeFirst limit (journal.scan key)
  (found.map Prod.snd, journal.discard undecodable)

/-- The journal without the first values of a key and the undecodable entries before them. -/
def remove [Entry Value] (journal : Journal Value) (key : String) (limit : Nat) : Journal Value :=
  let (found, undecodable) : List (Bytes × Value) × List Bytes :=
    decodeFirst limit (journal.scan key)
  journal.discard (undecodable ++ found.map Prod.fst)

/-- The key of an entry key: what stands before its first zero byte, if that is a text. -/
def keyOf? (entryKey : Bytes) : Option String :=
  if entryKey.contains 0 then Bytes.text? (entryKey.takeWhile (· ≠ 0)) else none

/-- The keys of the entries, ascending. Entries that have no key are passed over. -/
def keys (journal : Journal Value) : List String :=
  ascendingTexts (journal.entries.rows.filterMap fun row => keyOf? row.1)

instance : Store Journal where
  fresh retention := { retention }
  retention journal := journal.retention
  put := put
  peek := peek
  remove := remove
  keys := keys
  isEmpty journal := journal.entries.isEmpty
  count journal key := (journal.scan key).length
  size journal := journal.entries.size
  reopen journal := journal

end Journal

end EdgeGateway
