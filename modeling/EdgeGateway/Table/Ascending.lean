import EdgeGateway.Table

/-!
# The order of a table

Where keys are in a linear order, every table that is built from the empty one has its rows in
strictly ascending key order: `insert` and `erase` keep it. The keys listed are those that have a
value, so `ascendingTexts` lists exactly the texts it is given.
-/

namespace EdgeGateway

namespace Table

variable {Key Value : Type} [DecidableEq Key]

/-- The keys of a table are those with a value. -/
theorem mem_keys_iff {table : Table Key Value} {key : Key} :
    key ∈ table.keys ↔ (table.find? key).isSome := by
  obtain ⟨rows⟩ := table
  simp only [keys, find?]
  induction rows with
  | nil => simp
  | cons row rows inductionHypothesis =>
    by_cases same : key = row.1
    · simp [lookup_row, same]
    · simp [lookup_row, same, inductionHypothesis]

variable [LT Key] [DecidableLT Key]

/-- The rows are in strictly ascending key order. -/
def Ascending (table : Table Key Value) : Prop :=
  table.rows.Pairwise fun row later => row.1 < later.1

omit [DecidableEq Key] [DecidableLT Key] in
theorem ascending_empty : (empty : Table Key Value).Ascending := .nil

omit [DecidableLT Key] in
theorem Ascending.erase {table : Table Key Value} (ascending : table.Ascending) (key : Key) :
    (table.erase key).Ascending :=
  List.Pairwise.filter _ ascending

omit [DecidableLT Key] in
/-- The value of a key is that of its row. -/
theorem Ascending.find?_of_mem [Std.Irrefl (α := Key) (· < ·)] {table : Table Key Value}
    (ascending : table.Ascending) {row : Key × Value} (member : row ∈ table.rows) :
    table.find? row.1 = some row.2 := by
  obtain ⟨rows⟩ := table
  simp only [Ascending, find?] at ascending member ⊢
  induction rows with
  | nil => cases member
  | cons first rows inductionHypothesis =>
    obtain ⟨below, rest⟩ := List.pairwise_cons.1 ascending
    rw [lookup_row]
    rcases List.mem_cons.1 member with rfl | later
    · exact if_pos rfl
    · have different : row.1 ≠ first.1 := by
        intro same
        have less := below row later
        rw [same] at less
        exact Std.Irrefl.irrefl _ less
      rw [if_neg different]
      exact inductionHypothesis rest later

/-- Every row of a table with a row put into it is that row or was there before. -/
theorem mem_insertRow {key : Key} {value : Value} {rows : List (Key × Value)}
    {row : Key × Value} (member : row ∈ insertRow key value rows) :
    row = (key, value) ∨ row ∈ rows := by
  induction rows with
  | nil => exact .inl (by simpa [insertRow] using member)
  | cons first rows inductionHypothesis =>
    simp only [insertRow] at member
    split at member
    · exact List.mem_cons.1 member
    · split at member
      · rcases List.mem_cons.1 member with rfl | old
        · exact .inl rfl
        · exact .inr (List.mem_cons_of_mem _ old)
      · rcases List.mem_cons.1 member with rfl | later
        · exact .inr List.mem_cons_self
        · exact (inductionHypothesis later).imp_right (List.mem_cons_of_mem _)

variable [LE Key] [Std.IsLinearOrder Key] [Std.LawfulOrderLT Key]

theorem Ascending.insert {table : Table Key Value} (ascending : table.Ascending) (key : Key)
    (value : Value) : (table.insert key value).Ascending := by
  obtain ⟨rows⟩ := table
  simp only [Ascending, Table.insert] at ascending ⊢
  induction rows with
  | nil => simp [insertRow]
  | cons first rows inductionHypothesis =>
    obtain ⟨below, rest⟩ := List.pairwise_cons.1 ascending
    simp only [insertRow]
    split
    · rename_i less
      refine List.pairwise_cons.2 ⟨fun row member => ?_, ascending⟩
      rcases List.mem_cons.1 member with rfl | later
      · exact less
      · exact Std.lt_trans less (below row later)
    · split
      · rename_i same
        exact List.pairwise_cons.2 ⟨fun row member => same ▸ below row member, rest⟩
      · rename_i notLess different
        have greater : first.1 < key :=
          Std.lt_of_le_of_ne (Std.not_lt.1 notLess) (Ne.symm different)
        refine List.pairwise_cons.2 ⟨fun row member => ?_, inductionHypothesis rest⟩
        rcases mem_insertRow member with rfl | old
        · exact greater
        · exact below row old

/-- Tables made of any rows are in order. -/
theorem ascending_ofList (rows : List (Key × Value)) : (ofList rows).Ascending := by
  have step : ∀ table : Table Key Value, table.Ascending →
      (rows.foldl (fun table row => table.insert row.1 row.2) table).Ascending := by
    induction rows with
    | nil => exact fun _ ascending => ascending
    | cons row rows inductionHypothesis =>
      exact fun table ascending => inductionHypothesis _ (ascending.insert row.1 row.2)
  exact step empty ascending_empty

omit [LE Key] [Std.IsLinearOrder Key] [Std.LawfulOrderLT Key] in
/-- Every row of a table made of rows is one of them. -/
theorem mem_of_mem_ofList {rows : List (Key × Value)} {row : Key × Value}
    (member : row ∈ (ofList rows).rows) : row ∈ rows := by
  have step : ∀ table : Table Key Value,
      row ∈ (rows.foldl (fun table row => table.insert row.1 row.2) table).rows →
        row ∈ table.rows ∨ row ∈ rows := by
    clear member
    induction rows with
    | nil => exact fun _ => .inl
    | cons first rows inductionHypothesis =>
      intro table member
      rcases inductionHypothesis _ member with early | late
      · rcases mem_insertRow early with rfl | old
        · exact .inr List.mem_cons_self
        · exact .inl old
      · exact .inr (List.mem_cons_of_mem _ late)
  exact (step empty member).resolve_left (List.not_mem_nil)

/-- A row whose key is above all others is put behind them. -/
theorem insertRow_of_lt {key : Key} {rows : List (Key × Value)}
    (above : ∀ row ∈ rows, row.1 < key) (value : Value) :
    insertRow key value rows = rows ++ [(key, value)] := by
  induction rows with
  | nil => rfl
  | cons row rows inductionHypothesis =>
    have below : row.1 < key := above row List.mem_cons_self
    have different : key ≠ row.1 := by
      intro same
      rw [same] at below
      exact Std.Irrefl.irrefl _ below
    rw [insertRow, if_neg (Std.not_lt.2 (Std.le_of_lt below)), if_neg different,
      inductionHypothesis fun row member => above row (List.mem_cons_of_mem _ member),
      List.cons_append]

/-- A table in order is the table of its rows. -/
theorem Ascending.ofList_rows {table : Table Key Value} (ascending : table.Ascending) :
    ofList table.rows = table := by
  have step : ∀ before rows : List (Key × Value),
      (before ++ rows).Pairwise (fun row later => row.1 < later.1) →
      rows.foldl (fun table row => table.insert row.1 row.2) ⟨before⟩ =
        (⟨before ++ rows⟩ : Table Key Value) := by
    intro before rows
    induction rows generalizing before with
    | nil => simp
    | cons row rows inductionHypothesis =>
      intro ascending
      have above : ∀ earlier ∈ before, earlier.1 < row.1 := fun earlier member =>
        (List.pairwise_append.1 ascending).2.2 earlier member row List.mem_cons_self
      rw [List.foldl_cons, Table.insert, insertRow_of_lt above,
        inductionHypothesis _ (by simpa using ascending)]
      simp
  exact step [] table.rows ascending

omit [LE Key] [Std.IsLinearOrder Key] [Std.LawfulOrderLT Key] in
/-- The value of a key in a table made of rows is that of the last row of the key. -/
theorem find?_ofList (rows : List (Key × Value)) (key : Key) :
    (ofList rows).find? key = ((rows.filter (·.1 = key)).getLast?).map Prod.snd := by
  have step : ∀ table : Table Key Value,
      (rows.foldl (fun table row => table.insert row.1 row.2) table).find? key =
        (((rows.filter (·.1 = key)).getLast?).map Prod.snd).or (table.find? key) := by
    induction rows with
    | nil => simp
    | cons row rows inductionHypothesis =>
      intro table
      rw [List.foldl_cons, inductionHypothesis]
      by_cases same : row.1 = key
      · subst same
        cases last : (rows.filter (·.1 = row.1)).getLast? <;> simp [List.getLast?_cons, last]
      · simp [find?_insert_of_ne table row.2 (Ne.symm same), same]
  rw [ofList, step, find?_empty, Option.or_none]

omit [LE Key] [Std.IsLinearOrder Key] [Std.LawfulOrderLT Key] in
/-- The keys of a table made of rows are the keys of the rows. -/
theorem mem_keys_ofList {rows : List (Key × Value)} {key : Key} :
    key ∈ (ofList rows).keys ↔ key ∈ rows.map Prod.fst := by
  have step : ∀ table : Table Key Value,
      ((rows.foldl (fun table row => table.insert row.1 row.2) table).find? key).isSome ↔
        (table.find? key).isSome ∨ key ∈ rows.map Prod.fst := by
    induction rows with
    | nil => simp
    | cons row rows inductionHypothesis =>
      intro table
      rw [List.foldl_cons, inductionHypothesis]
      by_cases same : key = row.1
      · simp [same]
      · simp [find?_insert_of_ne table row.2 same, same]
  rw [mem_keys_iff, ofList, step]
  simp

end Table

/-- Listing texts in order loses none and adds none. -/
@[simp] theorem mem_ascendingTexts {text : String} {texts : List String} :
    text ∈ ascendingTexts texts ↔ text ∈ texts := by
  simp [ascendingTexts, Table.mem_keys_ofList]

/-- Texts listed in order ascend strictly, so none occurs twice. -/
theorem ascendingTexts_pairwise (texts : List String) :
    (ascendingTexts texts).Pairwise (· < ·) := by
  have ascending := Table.ascending_ofList (texts.map fun text => (text, ()))
  exact List.pairwise_map.2 ascending

end EdgeGateway
