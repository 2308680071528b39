import Mathlib.Data.List.Forall2
import EdgeGateway.Proofs.Json.Written
import EdgeGateway.Table.Ascending

/-!
# What trees are worth

A tree has a value exactly where it is within limits that are stated here for themselves: `Within`.
Two things are said of values that are written and read again. `Rereads` is compositional: it
follows how a value is built. `Integral` is about trees: where their numbers are integers of 64
bits, the value that was read once is read again.
-/

namespace EdgeGateway.Json

/-! ## Trees and lists of trees -/

/-- Induction over a tree, with the hypothesis for every item and for the value of every member. -/
theorem Tree.induction {motive : Tree → Prop} (null : motive .null)
    (boolean : ∀ value, motive (.boolean value)) (number : ∀ numeral, motive (.number numeral))
    (string : ∀ units, motive (.string units))
    (array : ∀ items, (∀ item ∈ items, motive item) → motive (.array items))
    (object : ∀ members, (∀ member ∈ members, motive member.2) → motive (.object members))
    (tree : Tree) : motive tree :=
  match tree with
  | .null => null
  | .boolean value => boolean value
  | .number numeral => number numeral
  | .string units => string units
  | .array items =>
    array items fun item _ => Tree.induction null boolean number string array object item
  | .object members =>
    object members fun (_, value) _ =>
      Tree.induction null boolean number string array object value
termination_by tree
decreasing_by
  · rename_i member
    have smaller := List.sizeOf_lt_of_mem member
    simp only [Tree.array.sizeOf_spec]
    omega
  · rename_i member
    have smaller := List.sizeOf_lt_of_mem member
    simp only [Prod.mk.sizeOf_spec, Tree.object.sizeOf_spec] at smaller ⊢
    omega

section

variable {First Second : Type} {related : First → Second → Prop} {firsts : List First}

/-- A list is related to some list if each of its elements is related to something. -/
theorem exists_forall₂_iff :
    (∃ seconds, List.Forall₂ related firsts seconds) ↔ ∀ first ∈ firsts, ∃ second,
      related first second := by
  induction firsts with
  | nil => simp
  | cons first firsts inductionHypothesis =>
    rw [List.forall_mem_cons, ← inductionHypothesis]
    constructor
    · rintro ⟨_, all⟩
      cases all with
      | cons both more => exact ⟨⟨_, both⟩, _, more⟩
    · rintro ⟨⟨_, both⟩, _, more⟩
      exact ⟨_, .cons both more⟩

/-- Every element of a list that is related to another comes from one that it is related to. -/
theorem exists_of_forall₂_of_mem {seconds : List Second}
    (all : List.Forall₂ related firsts seconds) {second : Second} (member : second ∈ seconds) :
    ∃ first ∈ firsts, related first second := by
  induction all with
  | nil => cases member
  | cons both more inductionHypothesis =>
    rcases List.mem_cons.1 member with rfl | later
    · exact ⟨_, List.mem_cons_self, both⟩
    · obtain ⟨first, present, related⟩ := inductionHypothesis later
      exact ⟨first, List.mem_cons_of_mem _ present, related⟩

/-- Elements may be related otherwise where each of them is. -/
theorem forall₂_imp_of_mem {other : First → Second → Prop} {seconds : List Second}
    (all : List.Forall₂ related firsts seconds)
    (implies : ∀ first ∈ firsts, ∀ second, related first second → other first second) :
    List.Forall₂ other firsts seconds :=
  ((List.forall₂_and_left _ _).2 ⟨implies, all⟩).imp fun _ second both => both.1 second both.2

end

namespace Value

/-- Items have values if each of them has one. -/
theorem ofItems?_eq_some_iff {depth : Nat} {items : List Tree} {values : List Value} :
    ofItems? depth items = some values ↔
      List.Forall₂ (fun item value => ofTree? depth item = some value) items values := by
  induction items generalizing values with
  | nil => simp [ofItems?, eq_comm]
  | cons item items inductionHypothesis =>
    simp only [ofItems?, Option.bind_eq_bind, Option.bind_eq_some_iff, Option.pure_def,
      Option.some.injEq, inductionHypothesis, List.forall₂_cons_left_iff]
    constructor
    · rintro ⟨value, first, later, rest, rfl⟩
      exact ⟨value, later, first, rest, rfl⟩
    · rintro ⟨value, later, first, rest, rfl⟩
      exact ⟨value, first, later, rest, rfl⟩

/-- Members have keys and values if each of them has. -/
theorem ofMembers?_eq_some_iff {depth : Nat} {members : List (List StringUnit × Tree)}
    {rows : List (String × Value)} :
    ofMembers? depth members = some rows ↔
      List.Forall₂ (fun member row => decodeText? member.1 = some row.1 ∧
        ofTree? depth member.2 = some row.2) members rows := by
  induction members generalizing rows with
  | nil => simp [ofMembers?, eq_comm]
  | cons member members inductionHypothesis =>
    simp only [ofMembers?, Option.bind_eq_bind, Option.bind_eq_some_iff, Option.pure_def,
      Option.some.injEq, inductionHypothesis, List.forall₂_cons_left_iff]
    constructor
    · rintro ⟨key, decoded, value, first, later, rest, rfl⟩
      exact ⟨(key, value), later, ⟨decoded, first⟩, rest, rfl⟩
    · rintro ⟨⟨key, value⟩, later, ⟨decoded, first⟩, rest, rfl⟩
      exact ⟨key, decoded, value, first, later, rest, rfl⟩

/-- An array has a value if it may be opened and its items have values. -/
theorem ofTree?_array_eq_some_iff {depth : Nat} {items : List Tree} {value : Value} :
    ofTree? depth (.array items) = some value ↔ ∃ inner values, depth = inner + 1 ∧
      List.Forall₂ (fun item value => ofTree? inner item = some value) items values ∧
      value = .array values := by
  cases depth with
  | zero => simp [ofTree?]
  | succ inner =>
    simp only [ofTree?, Option.map_eq_some_iff, ofItems?_eq_some_iff]
    constructor
    · rintro ⟨values, all, rfl⟩
      exact ⟨inner, values, rfl, all, rfl⟩
    · rintro ⟨_, values, ⟨⟩, all, rfl⟩
      exact ⟨values, all, rfl⟩

/-- An object has a value if it may be opened and its members have keys and values. -/
theorem ofTree?_object_eq_some_iff {depth : Nat} {members : List (List StringUnit × Tree)}
    {value : Value} :
    ofTree? depth (.object members) = some value ↔ ∃ inner rows, depth = inner + 1 ∧
      List.Forall₂ (fun member row => decodeText? member.1 = some row.1 ∧
        ofTree? inner member.2 = some row.2) members rows ∧
      value = .object (Table.ofList rows).rows := by
  cases depth with
  | zero => simp [ofTree?]
  | succ inner =>
    simp only [ofTree?, Option.map_eq_some_iff, ofMembers?_eq_some_iff]
    constructor
    · rintro ⟨rows, all, rfl⟩
      exact ⟨inner, rows, rfl, all, rfl⟩
    · rintro ⟨_, rows, ⟨⟩, all, rfl⟩
      exact ⟨rows, all, rfl⟩

/-- A tree has the same value where more arrays and objects may be opened. -/
theorem ofTree?_mono {tree : Tree} {depth more : Nat} {value : Value} (le : depth ≤ more)
    (worth : ofTree? depth tree = some value) : ofTree? more tree = some value := by
  induction tree using Tree.induction generalizing depth more value with
  | null => exact worth
  | boolean => exact worth
  | number => exact worth
  | string => exact worth
  | array items inductionHypothesis =>
    obtain ⟨inner, values, rfl, all, rfl⟩ := ofTree?_array_eq_some_iff.1 worth
    obtain ⟨more, rfl⟩ : ∃ less, more = less + 1 := ⟨more - 1, by omega⟩
    refine ofTree?_array_eq_some_iff.2 ⟨more, values, rfl, ?_, rfl⟩
    exact forall₂_imp_of_mem all fun item member _ =>
      inductionHypothesis item member (Nat.le_of_succ_le_succ le)
  | object members inductionHypothesis =>
    obtain ⟨inner, rows, rfl, all, rfl⟩ := ofTree?_object_eq_some_iff.1 worth
    obtain ⟨more, rfl⟩ : ∃ less, more = less + 1 := ⟨more - 1, by omega⟩
    refine ofTree?_object_eq_some_iff.2 ⟨more, rows, rfl, ?_, rfl⟩
    exact forall₂_imp_of_mem all fun member present _ both =>
      ⟨both.1, inductionHypothesis member present (Nat.le_of_succ_le_succ le) both.2⟩

end Value

/-! ## Limits -/

/-- Whether the surrogates among the codes of a string come in pairs. -/
inductive Paired : List StringUnit → Prop where
  | nil : Paired []
  | character (value : Char) {units : List StringUnit} (rest : Paired units) :
      Paired (.character value :: units)
  | code {value : Nat} {units : List StringUnit} (scalar : value < 0xD800 ∨ 0xE000 ≤ value)
      (rest : Paired units) : Paired (.code value :: units)
  | pair {high low : Nat} {units : List StringUnit} (isHigh : 0xD800 ≤ high ∧ high < 0xDC00)
      (isLow : 0xDC00 ≤ low ∧ low < 0xE000) (rest : Paired units) :
      Paired (.code high :: .code low :: units)

/-- A string has a text if and only if its surrogates come in pairs. -/
theorem isSome_decodeText?_iff {units : List StringUnit} :
    (decodeText? units).isSome ↔ Paired units := by
  rw [decodeText?, Option.isSome_map]
  constructor
  · intro decoded
    fun_induction decodeUnits? units with
    | case1 => exact .nil
    | case2 value rest inductionHypothesis =>
      exact .character value (inductionHypothesis (by simpa using decoded))
    | case3 high low rest isHigh isLow scalar inductionHypothesis =>
      exact .pair isHigh isLow (inductionHypothesis (by simpa using decoded))
    | case4 => cases decoded
    | case5 => cases decoded
    | case6 high low rest notHigh notLow inductionHypothesis =>
      exact .code (by omega) (inductionHypothesis (by simpa using decoded))
    | case7 => cases decoded
    | case8 value rest _ scalar inductionHypothesis =>
      exact .code (by omega) (inductionHypothesis (by simpa using decoded))
  · intro paired
    induction paired with
    | nil => rfl
    | character value rest inductionHypothesis =>
      simpa [decodeUnits?] using inductionHypothesis
    | code scalar rest inductionHypothesis =>
      rw [decodeUnits?_code scalar, Option.isSome_map]
      exact inductionHypothesis
    | pair isHigh isLow rest inductionHypothesis =>
      simpa [decodeUnits?, isHigh, isLow] using inductionHypothesis

/-- Whether a tree is within the limits of what has a value: no more arrays and objects are open at
once than the depth allows, surrogates come in pairs, and no number is too large for binary64. -/
inductive Tree.Within : (depth : Nat) → Tree → Prop where
  | null {depth : Nat} : Within depth .null
  | boolean {depth : Nat} (value : Bool) : Within depth (.boolean value)
  | number {depth : Nat} {numeral : Numeral} (finite : (Number.ofNumeral? numeral).isSome) :
      Within depth (.number numeral)
  | string {depth : Nat} {units : List StringUnit} (paired : Paired units) :
      Within depth (.string units)
  | array {depth : Nat} {items : List Tree} (within : ∀ item ∈ items, Within depth item) :
      Within (depth + 1) (.array items)
  | object {depth : Nat} {members : List (List StringUnit × Tree)}
      (keys : ∀ member ∈ members, Paired member.1)
      (within : ∀ member ∈ members, Within depth member.2) : Within (depth + 1) (.object members)

/-- A tree has a value if and only if it is within the limits. -/
theorem exists_ofTree?_iff {depth : Nat} {tree : Tree} :
    (∃ value, Value.ofTree? depth tree = some value) ↔ tree.Within depth := by
  induction tree using Tree.induction generalizing depth with
  | null => exact ⟨fun _ => .null, fun _ => ⟨_, rfl⟩⟩
  | boolean value => exact ⟨fun _ => .boolean value, fun _ => ⟨_, rfl⟩⟩
  | number numeral =>
    rw [← Option.isSome_iff_exists, Value.ofTree?, Option.isSome_map]
    constructor
    · exact .number
    · intro within
      cases within with
      | number finite => exact finite
  | string units =>
    rw [← Option.isSome_iff_exists, Value.ofTree?, Option.isSome_map, isSome_decodeText?_iff]
    constructor
    · exact .string
    · intro within
      cases within with
      | string paired => exact paired
  | array items inductionHypothesis =>
    constructor
    · rintro ⟨_, worth⟩
      obtain ⟨inner, values, rfl, all, -⟩ := Value.ofTree?_array_eq_some_iff.1 worth
      refine .array fun item member => (inductionHypothesis item member).1 ?_
      exact exists_forall₂_iff.1 ⟨values, all⟩ item member
    · intro within
      cases within with
      | array within =>
        obtain ⟨values, all⟩ := exists_forall₂_iff.2 fun item member =>
          (inductionHypothesis item member).2 (within item member)
        exact ⟨_, Value.ofTree?_array_eq_some_iff.2 ⟨_, values, rfl, all, rfl⟩⟩
  | object members inductionHypothesis =>
    constructor
    · rintro ⟨_, worth⟩
      obtain ⟨inner, rows, rfl, all, -⟩ := Value.ofTree?_object_eq_some_iff.1 worth
      have each := exists_forall₂_iff.1 ⟨rows, all⟩
      refine .object (fun member present => ?_) fun member present => ?_
      · obtain ⟨row, decoded, -⟩ := each member present
        rw [← isSome_decodeText?_iff, decoded]
        rfl
      · obtain ⟨row, -, worth⟩ := each member present
        exact (inductionHypothesis member present).1 ⟨row.2, worth⟩
    · intro within
      cases within with
      | @object depth _ keys within =>
        have each : ∀ member ∈ members, ∃ row : String × Value,
            decodeText? member.1 = some row.1 ∧ Value.ofTree? depth member.2 = some row.2 := by
          intro member present
          obtain ⟨key, decoded⟩ :=
            Option.isSome_iff_exists.1 (isSome_decodeText?_iff.2 (keys member present))
          obtain ⟨value, worth⟩ := (inductionHypothesis member present).2 (within member present)
          exact ⟨(key, value), decoded, worth⟩
        obtain ⟨rows, all⟩ := exists_forall₂_iff.2 each
        exact ⟨_, Value.ofTree?_object_eq_some_iff.2 ⟨_, rows, rfl, all, rfl⟩⟩

/-! ## Reading again -/

namespace Value

/-- What a value is worth once it has been written and is read again. -/
def Rereads (depth : Nat) (value result : Value) : Prop :=
  ∀ tree, Written value tree → ofTree? depth tree = some result

variable {depth : Nat}

theorem rereads_null : Rereads depth .null .null := by
  rintro _ ⟨⟩
  rfl

theorem rereads_boolean (value : Bool) : Rereads depth (.boolean value) (.boolean value) := by
  rintro _ ⟨⟩
  rfl

theorem rereads_string (text : String) : Rereads depth (.string text) (.string text) := by
  rintro _ ⟨⟩
  rw [ofTree?, decodeText?_unitsOf]
  rfl

/-- A number is read again as what all numerals are worth that its text spells. -/
theorem rereads_number {value result : Number} (same : ∀ numeral : Numeral,
      numeral.Spelled value.text → Number.ofNumeral? numeral = some result) :
    Rereads depth (.number value) (.number result) := by
  rintro _ ⟨⟩
  rename_i numeral spelled
  rw [ofTree?, same numeral spelled]
  rfl

/-- Items are read again one by one. -/
theorem rereads_array {values results : List Value}
    (all : List.Forall₂ (Rereads depth) values results) :
    Rereads (depth + 1) (.array values) (.array results) := by
  rintro _ ⟨⟩
  rename_i trees written
  refine ofTree?_array_eq_some_iff.2 ⟨depth, results, rfl, ?_, rfl⟩
  induction all generalizing trees with
  | nil =>
    cases written
    exact .nil
  | cons first later inductionHypothesis =>
    cases written with
    | cons firstWritten laterWritten =>
      exact .cons (first _ firstWritten) (inductionHypothesis laterWritten)

/-- Members are read again one by one, and are put in order. -/
theorem rereads_object {rows results : List (String × Value)}
    (all : List.Forall₂ (fun row result => row.1 = result.1 ∧ Rereads depth row.2 result.2)
      rows results) :
    Rereads (depth + 1) (.object rows) (.object (Table.ofList results).rows) := by
  rintro _ ⟨⟩
  rename_i trees written
  refine ofTree?_object_eq_some_iff.2 ⟨depth, results, rfl, ?_, rfl⟩
  induction all generalizing trees with
  | nil =>
    cases written
    exact .nil
  | cons first later inductionHypothesis =>
    cases written with
    | cons key firstWritten laterWritten =>
      obtain ⟨same, value⟩ := first
      refine .cons ⟨?_, value _ firstWritten⟩ (inductionHypothesis laterWritten)
      rw [decodeText?_unitsOf]
      exact congrArg some same

/-- The text of a value is read as what the value is read again as. -/
theorem Rereads.ofText? {value result : Value} (rereads : Rereads depthLimit value result) :
    Value.ofText? value.text = some result := by
  obtain ⟨tree, written⟩ := exists_written value
  rw [Value.ofText?, ofText?_of_written written]
  exact rereads tree written

end Value

/-- Whether all numbers of a tree are integers that fit 64 bits. -/
inductive Tree.Integral : Tree → Prop where
  | null : Integral .null
  | boolean (value : Bool) : Integral (.boolean value)
  | number {numeral : Numeral} (integer : numeral.IsInteger64) : Integral (.number numeral)
  | string (units : List StringUnit) : Integral (.string units)
  | array {items : List Tree} (integral : ∀ item ∈ items, Integral item) : Integral (.array items)
  | object {members : List (List StringUnit × Tree)}
      (integral : ∀ member ∈ members, Integral member.2) : Integral (.object members)

/-- A value that was read of integers is read again as itself. -/
theorem Tree.Integral.rereads {tree : Tree} {depth : Nat} {value : Value}
    (integral : tree.Integral) (worth : Value.ofTree? depth tree = some value) :
    value.Rereads depth value := by
  induction tree using Tree.induction generalizing depth value with
  | null =>
    cases worth
    exact Value.rereads_null
  | boolean =>
    cases worth
    exact Value.rereads_boolean _
  | number numeral =>
    cases integral with
    | number integer =>
      rw [Value.ofTree?, integer.ofNumeral?] at worth
      cases worth
      exact Value.rereads_number fun _ spelled => integer.reread spelled
  | string units =>
    obtain ⟨text, -, rfl⟩ := Option.map_eq_some_iff.1 worth
    exact Value.rereads_string text
  | array items inductionHypothesis =>
    cases integral with
    | array integral =>
      obtain ⟨inner, values, rfl, all, rfl⟩ := Value.ofTree?_array_eq_some_iff.1 worth
      refine Value.rereads_array (List.forall₂_same.2 fun value member => ?_)
      obtain ⟨item, present, worth⟩ := exists_of_forall₂_of_mem all member
      exact inductionHypothesis item present (integral item present) worth
  | object members inductionHypothesis =>
    cases integral with
    | object integral =>
      -- the rows of the value are in order already, so reading them again leaves them there
      obtain ⟨inner, rows, rfl, all, rfl⟩ := Value.ofTree?_object_eq_some_iff.1 worth
      have ordered := (Table.ascending_ofList rows).ofList_rows
      have same := Value.rereads_object (List.forall₂_same.2 fun row member => by
        obtain ⟨member, present, -, worth⟩ :=
          exists_of_forall₂_of_mem all (Table.mem_of_mem_ofList member)
        exact ⟨rfl, inductionHypothesis member present (integral member present) worth⟩)
      rwa [ordered] at same

end EdgeGateway.Json
