import Mathlib
import Spreadsheet.Proofs.Function.Lookup
import Spreadsheet.Proofs.Number.Whole

/-!
# `Proofs/Function/Tables.lean` — the ways to look something up in a table agree

`VLOOKUP` goes down the first column of a table and stays in the row it stops at, `HLOOKUP` goes
along the first row and stays in the column it stops at, and `MATCH` and `INDEX` do the two halves
of that, with a position handed over as a number in between. All of them search in one way
(`placeOf`), so what is to be shown is that they search the same keys and read the same entry:

* a row of a table turned is a column of the table, and a row and a column number change places
  (`lookUp_transpose`);
* the first column of a table as a block of its own is the single column that `MATCH` takes
  (`vector?_columnBlock`);
* a position written as a number is read as the position it was (`position_ofNat`).

Where a key is none, or there is no place for it, the functions agree on the error: each passes on
what the one before it gives (`answers_key`).
-/

set_option autoImplicit false

namespace Spreadsheet.Lookup

open Argument

variable {engine : Regex.Engine} {key flag k : Value} {table : Block Value} {n : ℕ}
    {approximate : Bool} {e : ErrorCode}

/-! ## Positions as numbers -/

/-- A whole number is the position that it says, zero only where it is allowed. -/
theorem position_ofNat (small : n < 2 ^ 53) (zeroAllowed : Bool) :
    position zeroAllowed (.number (Float.ofNat n)) =
      if n = 0 ∧ zeroAllowed = false then .error .typeMismatch else .ok n := by
  have read : position zeroAllowed (.number (Float.ofNat n)) =
      if Decimal.truncate (Float.ofNat n) < 0.0 ||
      (Decimal.truncate (Float.ofNat n) == 0.0 && !zeroAllowed) then
        .error .typeMismatch
      else .ok (Decimal.toCount (Decimal.truncate (Float.ofNat n))) := rfl
  have below : decide (Float.ofNat n < 0.0) = false :=
    decide_eq_false (Binary64.ofNat_not_lt_zero n)
  rw [read, Binary64.truncate_ofNat small, Binary64.toCount_ofNat small,
    Binary64.ofNat_beq_zero small, below]
  simp

theorem position_of_pos (small : n < 2 ^ 53) (pos : 0 < n) (zeroAllowed : Bool) :
    position zeroAllowed (.number (Float.ofNat n)) = .ok n := by
  rw [position_ofNat small]
  exact if_neg fun zero => pos.ne' zero.1

/-! ## Keys -/

/-- A single column lists its entries from top to bottom. -/
theorem vector?_columnBlock (table : Block Value) (j : Fin table.columns) :
    (table.columnBlock j).vector? = some (table.column j) := by
  have single : (table.columnBlock j).isVector = true := by simp [Block.isVector, Block.columnBlock]
  have cells : (table.columnBlock j).cells =
    (List.ofFn ((fun v => [v]) ∘ fun i => table.entry i j)).flatten := rfl
  unfold Block.vector?
  rw [if_pos single, cells, ← List.map_ofFn, ← List.flatMap_def, List.flatMap_singleton']
  rfl

theorem column?_zero (pos : 0 < table.columns) : table.column? 0 = some (table.column ⟨0, pos⟩) :=
  dif_pos pos

/-- The column that `INDEX` gives for row zero is the first one as a block. -/
theorem index_column (pos : 0 < table.columns) :
    index [.block table, .number 0.0, .number 1.0] = .ok (.block (table.columnBlock ⟨0, pos⟩)) := by
  have row : position true (.number 0.0) = .ok 0 := by decide +kernel
  have column : position true (.number 1.0) = .ok 1 := by decide
  have inside : 0 ≤ table.rows ∧ 1 ≤ table.columns := ⟨Nat.zero_le _, pos⟩
  have read : index [.block table, .number 0.0, .number 1.0] = inBlock table 0 1 := by
    simp only [index, block, row, column]
    rfl
  rw [read, inBlock, dif_pos inside]
  rfl

/-! ## The functions on keys that are none, and on others -/

theorem inTable_of_error (engine : Regex.Engine) (orientation : Orientation) (rest : List Value)
    (h : keyOf key = .error e) (place : Value) :
    inTable engine orientation (key :: .block table :: place :: rest) = .error e := by
  simp only [inTable, h]
  rfl

theorem positionOf_of_error (engine : Regex.Engine) (rest : List Value) (keys : Value)
    (h : keyOf key = .error e) : positionOf engine (key :: keys :: rest) = .error e := by
  simp only [positionOf, h]
  rfl

theorem inTable_of_ok (engine : Regex.Engine) (orientation : Orientation) (hkey : keyOf key = .ok k)
    (hflag : flag.toBool = .ok approximate) (small : n < 2 ^ 53) (pos : 0 < n) :
    inTable engine orientation [key, .block table, .number (Float.ofNat n), flag] =
      lookUp engine orientation k table n approximate := by
  simp only [inTable, hkey, hflag, position_of_pos small pos]
  rfl

/-- `MATCH` of kind one searches in order and of kind zero exactly. -/
theorem positionOf_of_ok (engine : Regex.Engine) (approximate : Bool) {keys : Block Value}
    {values : List Value} (hkey : keyOf key = .ok k) (hkeys : keys.vector? = some values) :
    positionOf engine [key, .block keys, .number (if approximate then 1.0 else 0.0)] =
      match placeOf engine approximate k values with
      | some i => .ok (.number (Float.ofNat (i + 1)))
      | none => .error .notAvailable := by
  -- The kind of search is a number: zero for an exact one, above it for one in order.
  have exact : ((0.0 : Float) == 0.0) = true := by decide
  have one : ((1.0 : Float) == 0.0) = false := by decide
  have above : (0.0 : Float) < 1.0 := by decide
  cases approximate with
  | true =>
    cases found : ascending? k values <;>
      simp only [positionOf, hkey, block, hkeys, Value.toNumber, Value.scalar?, Scalar.toNumber?,
        bind, Except.bind, pure, Except.pure, if_true, one, above, Bool.false_eq_true, if_false,
        placeOf, found]
  | false =>
    cases found : firstMatch? engine k values <;>
      simp only [positionOf, hkey, block, hkeys, Value.toNumber, Value.scalar?, Scalar.toNumber?,
        bind, Except.bind, pure, Except.pure, exact, Bool.false_eq_true, if_true, if_false, placeOf,
        found]

/-- `INDEX` reads the entry at a position given as a number. -/
theorem index_of_position {i : ℕ} (j : Fin table.columns) (row : i + 1 < 2 ^ 53)
    (column : j.val + 1 < 2 ^ 53) :
    index [.block table, .number (Float.ofNat (i + 1)), .number (Float.ofNat (j + 1))] =
      if h : i < table.rows then .ok (table.entry ⟨i, h⟩ j) else .error .badReference := by
  have read : index [.block table, .number (Float.ofNat (i + 1)), .number (Float.ofNat (j + 1))] =
      inBlock table (i + 1) (j + 1) := by
    simp only [index, block, position_of_pos row i.succ_pos, position_of_pos column j.val.succ_pos]
    rfl
  -- The column is there; whether the row is decides between the entry and an error.
  have right : j.val + 1 ≤ table.columns := j.isLt
  rw [read, inBlock]
  by_cases h : i < table.rows
  · have inside : i + 1 ≤ table.rows ∧ j.val + 1 ≤ table.columns := ⟨h, right⟩
    rw [dif_pos inside, dif_neg i.succ_ne_zero, dif_neg j.val.succ_ne_zero, dif_pos h]
    rfl
  · have outside : ¬ (i + 1 ≤ table.rows ∧ j.val + 1 ≤ table.columns) := fun inside => h inside.1
    rw [dif_neg outside, dif_neg h]

/-! ## Calls -/

/-- A function that finds a key passes on a key that is an error, like any other that is none. -/
theorem answers_key {name spelling : String} {arity : Arity} {compute : List Value → Value}
    {rest : List Value}
    (library : (Registry.library engine).find? name =
      some (.ofArguments spelling arity .lookup compute))
    (accepts : arity.accepts (rest.length + 1)) (plain : ∀ v ∈ rest, v.error? = none)
    (passes : ∀ e, key = .error e → compute (key :: rest) = .error e) :
    Answers engine name (key :: rest) (compute (key :: rest)) := by
  have answer : Answers engine name (key :: rest) _ := answers library accepts
  rw [List.findSome?_cons, List.findSome?_eq_none_iff.2 plain] at answer
  cases key with
  | error e =>
    rw [passes e rfl]
    exact answer
  | _ => exact answer

theorem answers_inTable {name : String} (orientation : Orientation)
    (library : (Registry.library engine).find? name =
      some (.ofArguments name (.between 3 4) .lookup (Value.ofExcept ∘ inTable engine orientation)))
    (hflag : flag.toBool = .ok approximate) :
    Answers engine name [key, .block table, .number (Float.ofNat n), flag]
      (.ofExcept (inTable engine orientation
        [key, .block table, .number (Float.ofNat n), flag])) := by
  have plain : flag.error? = none := error?_of_ok (fun _ => rfl) hflag
  have table : (Value.block table).error? = none := rfl
  have place : (Value.number (Float.ofNat n)).error? = none := rfl
  refine answers_key library rfl ?_ ?_
  · simp [plain, table, place]
  -- The policy lets errors through to the key, and the function refuses them itself.
  · rintro e rfl
    have error : keyOf (.error e) = .error e := rfl
    simp only [Function.comp, inTable_of_error engine orientation _ error]
    rfl

theorem answers_positionOf (keys : Block Value) (x : Float) :
    Answers engine "MATCH" [key, .block keys, .number x]
      (.ofExcept (positionOf engine [key, .block keys, .number x])) := by
  refine answers_key find?_match rfl ?_ ?_
  · simp [Value.error?]
  · rintro e rfl
    have error : keyOf (.error e) = .error e := rfl
    simp only [Function.comp, positionOf_of_error engine _ _ error]
    rfl

theorem answers_index (place : Value) (x : Float) :
    Answers engine "INDEX" [.block table, place, .number x] (match place.error? with
      | some e => .error e
      | none => .ofExcept (index [.block table, place, .number x])) := by
  have answer : Answers engine "INDEX" [.block table, place, .number x] _ := answers find?_index rfl
  cases place with
  | error e => exact answer
  | _ => exact answer

/-- **The ways to look something up agree.** For every key and table, for every column of it and for
every flag with a truth value, `VLOOKUP` gives what `HLOOKUP` gives on the table turned, and what
`INDEX` gives at the position that `MATCH` finds in the first column, as that `INDEX` gives it. If
`MATCH` finds none, or the key is an error, its error is what they all give. -/
theorem lookups_agree (engine : Regex.Engine) (key : Value) (first : 1 ≤ n)
    (last : n ≤ table.columns) (small : n < 2 ^ 53) (hflag : flag.toBool = .ok approximate) :
    ∃ column matched result : Value,
      Answers engine "INDEX" [.block table, .number 0.0, .number 1.0] column ∧
      Answers engine "MATCH" [key, column, .number (if approximate then 1.0 else 0.0)] matched ∧
      Answers engine "VLOOKUP" [key, .block table, .number (Float.ofNat n), flag] result ∧
      Answers engine "HLOOKUP" [key, .block table.transpose, .number (Float.ofNat n), flag]
        result ∧
      ((∀ p : ℕ, matched = .number (Float.ofNat p) → p < 2 ^ 53) →
        Answers engine "INDEX" [.block table, matched, .number (Float.ofNat n)] result) ∧
      ∀ e, matched = .error e → result = .error e := by
  have pos : 0 < table.columns := Nat.lt_of_lt_of_le first last
  have column : Answers engine "INDEX" [.block table, .number 0.0, .number 1.0] _ :=
    answers_index (.number 0.0) 1.0
  have matched : Answers engine "MATCH"
      [key, .block (table.columnBlock ⟨0, pos⟩), .number (if approximate then 1.0 else 0.0)] _ :=
    answers_positionOf _ _
  have vertical : Answers engine "VLOOKUP" [key, .block table, .number (Float.ofNat n), flag] _ :=
    answers_inTable .vertical find?_vlookup hflag
  have horizontal : Answers engine "HLOOKUP"
      [key, .block table.transpose, .number (Float.ofNat n), flag] _ :=
    answers_inTable .horizontal find?_hlookup hflag
  simp only [Value.error?, index_column pos] at column
  cases hkey : keyOf key with
  | error e =>
    rw [positionOf_of_error _ _ _ hkey] at matched
    rw [inTable_of_error _ _ _ hkey] at vertical horizontal
    refine ⟨_, _, _, column, matched, vertical, horizontal, fun _ => answers_index (.error e) _, ?_⟩
    exact fun _ same => same
  | ok k =>
    obtain ⟨j, rfl⟩ : ∃ j : Fin table.columns, n = j + 1 := ⟨⟨n - 1, by omega⟩, by simp; omega⟩
    rw [positionOf_of_ok _ approximate hkey (vector?_columnBlock table _)] at matched
    rw [inTable_of_ok _ _ hkey hflag small first] at vertical horizontal
    -- Along the rows of the table turned is down the columns of the table, keys and entries alike.
    rw [lookUp_transpose] at horizontal
    rw [lookUp_eq (column?_zero pos) j] at vertical horizontal
    cases place : placeOf engine approximate k (table.column ⟨0, pos⟩) with
    | none =>
      rw [place] at matched vertical horizontal
      refine ⟨_, _, _, column, matched, vertical, horizontal, fun _ => ?_, fun _ same => same⟩
      exact answers_index (.error .notAvailable) _
    | some i =>
      rw [place] at matched vertical horizontal
      refine ⟨_, _, _, column, matched, vertical, horizontal, fun positions => ?_,
        fun _ same => by cases same⟩
      have answer : Answers engine "INDEX"
          [.block table, .number (Float.ofNat (i + 1)), .number (Float.ofNat (j + 1))] _ :=
        answers_index _ _
      simp only [Value.error?, index_of_position j (positions _ rfl) small] at answer
      exact answer

/-- In a table of two rows and three columns, with a key that it has in its second row. -/
theorem lookups_agree_of_wide_table :
    let table : Block Value := ⟨2, 3, fun i j => .number (Float.ofNat (10 * i + j))⟩
    ∃ column matched result : Value,
      Answers .standard "INDEX" [.block table, .number 0.0, .number 1.0] column ∧
      Answers .standard "MATCH" [.number 10.0, column, .number (if false then 1.0 else 0.0)]
        matched ∧
      Answers .standard "VLOOKUP"
        [.number 10.0, .block table, .number (Float.ofNat 3), .bool false] result ∧
      Answers .standard "HLOOKUP"
        [.number 10.0, .block table.transpose, .number (Float.ofNat 3), .bool false] result ∧
      ((∀ p : ℕ, matched = .number (Float.ofNat p) → p < 2 ^ 53) →
        Answers .standard "INDEX" [.block table, matched, .number (Float.ofNat 3)] result) ∧
      ∀ e, matched = .error e → result = .error e := by
  intro table
  have last : 3 ≤ table.columns := le_rfl
  exact lookups_agree .standard (.number 10.0) (by decide) last (by decide) rfl

end Spreadsheet.Lookup
