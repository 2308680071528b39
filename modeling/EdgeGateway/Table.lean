/-!
# Tables in key order

A `Table` is a finite map kept as its rows in strictly ascending key order. Rows are looked up
through `find?`; `insert` and `erase` are characterised through it, and need the order only to
keep it.
-/

namespace EdgeGateway

/-- A finite map, kept as its rows in ascending key order. -/
structure Table (Key Value : Type) where
  rows : List (Key × Value) := []
  deriving DecidableEq, Repr

namespace Table

variable {Key Value : Type}

/-- The table without rows. -/
def empty : Table Key Value := {}

instance : Inhabited (Table Key Value) := ⟨empty⟩

/-- The keys, in ascending order. -/
def keys (table : Table Key Value) : List Key := table.rows.map Prod.fst

/-- The number of rows. -/
def size (table : Table Key Value) : Nat := table.rows.length

/-- Whether there are no rows. -/
def isEmpty (table : Table Key Value) : Bool := table.rows.isEmpty

variable [DecidableEq Key]

/-- The value of a key. -/
def find? (table : Table Key Value) (key : Key) : Option Value := table.rows.lookup key

/-- The table without the row of a key. -/
def erase (table : Table Key Value) (key : Key) : Table Key Value :=
  ⟨table.rows.filter (·.1 ≠ key)⟩

variable [LT Key] [DecidableLT Key]

/-- Puts a row in its place, replacing the row of the same key. -/
def insertRow (key : Key) (value : Value) : List (Key × Value) → List (Key × Value)
  | [] => [(key, value)]
  | row :: rows =>
    if key < row.1 then (key, value) :: row :: rows
    else if key = row.1 then (key, value) :: rows
    else row :: insertRow key value rows

/-- The table with the value of a key set. -/
def insert (table : Table Key Value) (key : Key) (value : Value) : Table Key Value :=
  ⟨insertRow key value table.rows⟩

/-- The table of some rows; the last row of a key wins. -/
def ofList (rows : List (Key × Value)) : Table Key Value :=
  rows.foldl (fun table row => table.insert row.1 row.2) empty

omit [LT Key] [DecidableLT Key] in
theorem lookup_row (key : Key) (row : Key × Value) (rows : List (Key × Value)) :
    List.lookup key (row :: rows) = if key = row.1 then some row.2 else rows.lookup key := by
  obtain ⟨first, second⟩ := row
  by_cases same : key = first
  · simp [same]
  · have unequal : (key == first) = false := by simpa using same
    simp [List.lookup_cons, same, unequal]

omit [LT Key] [DecidableLT Key] in
@[simp] theorem find?_empty (key : Key) : (empty : Table Key Value).find? key = none := rfl

@[simp] theorem find?_insert_self (table : Table Key Value) (key : Key) (value : Value) :
    (table.insert key value).find? key = some value := by
  obtain ⟨rows⟩ := table
  simp only [insert, find?]
  induction rows with
  | nil => simp [insertRow, lookup_row]
  | cons row rows inductionHypothesis =>
    simp only [insertRow]
    split
    · simp [lookup_row]
    · split
      · simp [lookup_row]
      · rename_i different
        simp [lookup_row, different, inductionHypothesis]

theorem find?_insert_of_ne (table : Table Key Value) {key other : Key} (value : Value)
    (different : other ≠ key) : (table.insert key value).find? other = table.find? other := by
  obtain ⟨rows⟩ := table
  simp only [insert, find?]
  induction rows with
  | nil => simp [insertRow, lookup_row, different]
  | cons row rows inductionHypothesis =>
    simp only [insertRow]
    split
    · simp [lookup_row, different]
    · split
      · rename_i same
        simp [lookup_row, ← same, different]
      · simp [lookup_row, inductionHypothesis]

omit [LT Key] [DecidableLT Key] in
@[simp] theorem find?_erase_self (table : Table Key Value) (key : Key) :
    (table.erase key).find? key = none := by
  obtain ⟨rows⟩ := table
  simp only [erase, find?]
  induction rows with
  | nil => rfl
  | cons row rows inductionHypothesis =>
    by_cases same : row.1 = key
    · simpa [same] using inductionHypothesis
    · simpa [same, lookup_row, Ne.symm same] using inductionHypothesis

omit [LT Key] [DecidableLT Key] in
theorem find?_erase_of_ne (table : Table Key Value) {key other : Key} (different : other ≠ key) :
    (table.erase key).find? other = table.find? other := by
  obtain ⟨rows⟩ := table
  simp only [erase, find?]
  induction rows with
  | nil => rfl
  | cons row rows inductionHypothesis =>
    by_cases same : row.1 = key
    · simpa [same, lookup_row, different] using inductionHypothesis
    · simp [same, lookup_row]
      split
      · rfl
      · simpa using inductionHypothesis

end Table

/-- Texts in ascending order of their code points, each once. -/
def ascendingTexts (texts : List String) : List String :=
  (Table.ofList (texts.map fun text => (text, ()))).keys

end EdgeGateway
