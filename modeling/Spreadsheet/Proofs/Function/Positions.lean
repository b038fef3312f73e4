import Mathlib
import Spreadsheet.Proofs.Function.Finite
import Spreadsheet.Proofs.Function.Guarded
import Spreadsheet.Proofs.Function.Substitute
import Spreadsheet.Proofs.Function.Tables
import Spreadsheet.Proofs.Number.Position
import Spreadsheet.Proofs.Text.Bytes

/-!
# `Proofs/Function/Positions.lean` — positions stay in range

Positions come as numbers of any size and sign. They are checked in one place and used in another,
where one is taken off, where they become the place of an entry in a block, or where a text is
cut. Below, the functions that take positions are written once more with every such use guarded,
and without the errors that they would end in if the entry that they have found were not there.
The guarded functions never get stuck and come to what the functions come to, unless what is not a
number is among the arguments (`positions_in_range`).
-/

set_option autoImplicit false

namespace Spreadsheet

open Argument
open Lookup (Orientation keyOf position searchIn placeOf)
open TextFunction (count)
open Guarded

/-! ## Arguments that are numbers -/

/-- No number in a value is what is not a number, the entries of its blocks included. -/
inductive Value.IsOrdered : Value → Prop
  | scalar {s : Scalar} (ordered : s.IsOrdered) : IsOrdered (.scalar s)
  | error (e : ErrorCode) : IsOrdered (.error e)
  | block {b : Block Value} (entries : ∀ i j, (b.entry i j).IsOrdered) : IsOrdered (.block b)

theorem ne_nan_of_isFinite {x : Float} (finite : x.isFinite = true) : x ≠ .nan := by
  rintro rfl
  have none : Float.nan.isFinite = false := rfl
  rw [none] at finite
  cases finite

/-- What a scalar stands for as a number is a number, unless the scalar itself is none. -/
theorem Scalar.IsOrdered.toNumber? {s : Scalar} {x : Float} (h : s.IsOrdered)
    (hx : s.toNumber? = some x) : x ≠ .nan := by
  cases s with
  | number y =>
    cases hx
    exact h
  | text s => exact ne_nan_of_isFinite (NumericText.isFinite_of_read? hx)
  | bool b =>
    cases hx
    cases b <;> exact ne_nan_of_isFinite rfl
  | blank =>
    cases hx
    exact zero_ne_nan

theorem Value.IsOrdered.scalar? {v : Value} {s : Scalar} (h : v.IsOrdered)
    (hs : v.scalar? = .ok s) : s.IsOrdered := by
  induction h with
  | @block b entries ih =>
    obtain ⟨rows, columns, entry⟩ := b
    simp only [Value.scalar?] at hs
    split at hs
    next => exact ih _ _ hs
    next => cases hs
  | scalar ordered =>
    cases hs
    exact ordered
  | error e => cases hs

theorem Value.IsOrdered.toNumber {v : Value} {x : Float} (h : v.IsOrdered)
    (hx : v.toNumber = .ok x) : x ≠ .nan := by
  obtain ⟨s, hs, hx⟩ := exists_of_bind_eq_ok hx
  split at hx
  next y hy =>
    cases hx
    exact (h.scalar? hs).toNumber? hy
  next => cases hx

/-- A position that may not be zero is one or more. -/
theorem position_pos {v : Value} {n : ℕ} (ordered : v.IsOrdered) (h : position false v = .ok n) :
    0 < n := by
  obtain ⟨x, hx, h⟩ := exists_of_bind_eq_ok h
  dsimp only at h
  split at h
  next => cases h
  next inside =>
    cases h
    simp only [Bool.not_false, Bool.and_true, Bool.or_eq_true, decide_eq_true_eq, not_or,
      Bool.not_eq_true] at inside
    have number := ordered.toNumber hx
    exact Binary64.toCount_pos number (Binary64.not_lt_one number inside.1 inside.2)

/-! ## The functions -/

namespace Guarded

/-- The keys of a table: what its first column has, or its first row. Without one there are none. -/
def keysOf (table : Block Value) : Orientation → Guarded (List Value)
  | .vertical => if table.columns = 0 then pure [] else table.columnAt 0
  | .horizontal => if table.rows = 0 then pure [] else table.rowAt 0

/-- The entry at a place among those that belong to a key: beside it, or below it. -/
def entryOf (table : Block Value) (hit along : ℕ) : Orientation → Guarded Value
  | .vertical => table.entryAt hit along
  | .horizontal => table.entryAt along hit

/-- The entry that belongs to a key. -/
def lookUp (engine : Regex.Engine) (orientation : Orientation) (key : Value) (table : Block Value)
    (offset : ℕ) (approximate : Bool) : Guarded Value := do
  let keys ← keysOf table orientation
  if orientation.width table < offset then throw .badReference
  else
    match placeOf engine approximate key keys with
    | none => throw .notAvailable
    | some hit => entryOf table hit (← oneLess offset) orientation

/-- `VLOOKUP` and `HLOOKUP`. -/
def inTable (engine : Regex.Engine) (orientation : Orientation) : List Value → Guarded Value
  | key :: table :: offset :: flag => do
    let key ← of (keyOf key)
    let table ← of (block table)
    let offset ← of (position false offset)
    let approximate ← of (match flag with
      | [] => .ok true
      | flag :: _ => flag.toBool)
    lookUp engine orientation key table offset approximate
  | _ => stuck

/-- The entry of a table at a row and column, or a whole row or column. -/
def inBlock (table : Block Value) (row column : ℕ) : Guarded Value :=
  if table.rows < row ∨ table.columns < column then throw .badReference
  else if row = 0 then
    if column = 0 then pure (.block table)
    else do
      let values ← table.columnAt (← oneLess column)
      return .block (← require (Block.ofCells? values.length 1 values))
  else
    if column = 0 then do
      let values ← table.rowAt (← oneLess row)
      return .block (← require (Block.ofCells? 1 values.length values))
    else do table.entryAt (← oneLess row) (← oneLess column)

/-- `INDEX`. Along a single row or column the entry may be missing. -/
def index : List Value → Guarded Value
  | [table, place] => do
    let table ← of (block table)
    let p ← of (position true place)
    if table.isVector then
      if p = 0 then pure (.block table)
      else
        match table.cells[← oneLess p]? with
        | some v => pure v
        | none => throw .badReference
    else inBlock table p 0
  | [table, row, column] => do
    let table ← of (block table)
    let row ← of (position true row)
    inBlock table row (← of (position true column))
  | _ => stuck

/-- `MATCH`. -/
def positionOf (engine : Regex.Engine) : List Value → Guarded Value
  | key :: keys :: kind => do
    let key ← of (keyOf key)
    let keys ← of (block keys)
    match keys.vector? with
    | none => throw .notAvailable
    | some keys =>
      let kind ← of (match kind with
        | [] => .ok 1.0
        | kind :: _ => kind.toNumber)
      match searchIn engine kind key keys with
      | none => throw .notAvailable
      | some i =>
        let _ ← require keys[i]?
        return .number (Float.ofNat (i + 1))
  | _ => stuck

/-- A position in a text, as the number of characters before it. -/
def before (v : Value) : Guarded ℕ := do
  let x := Decimal.truncate (← of v.toNumber)
  if x < 1.0 then throw .typeMismatch else oneLess (Decimal.toCount x)

/-- `MID`. -/
def middle : List Value → Guarded String
  | [v, start, length] => do
    let s ← of v.toText
    let skipped ← before start
    return String.ofList ((s.toList.drop skipped).take (← of (count length)))
  | _ => stuck

/-- `SUBSTITUTE`, which searches the bytes of texts and cuts texts where something is found among
them. -/
def substitute : List Value → Guarded String
  | v :: old :: new :: rest => do
    let s ← of v.toText
    let old ← of old.toText
    let new ← of new.toText
    let places := Text.placesFrom (Text.bytes old.toList) 0 (Text.bytes s.toList)
    if old = "" then return s
    else
      match rest with
      | [] => require (Text.written? s new old.utf8ByteSize 0 places)
      | nth :: _ =>
        match places[← before nth]? with
        | none => return s
        | some place => require (Text.written? s new old.utf8ByteSize 0 [place])
  | _ => stuck

/-! ## Nothing gets stuck -/

variable {engine : Regex.Engine} {args : List Value} {table : Block Value} {key : Value}
  {approximate : Bool} {n i : ℕ}

theorem keysOf_eq (table : Block Value) (orientation : Orientation) :
    keysOf table orientation = pure (orientation.keys table) := by
  cases orientation with
  | vertical =>
    show (if table.columns = 0 then _ else _) = (pure ((table.column? 0).getD []) : Guarded _)
    rcases Nat.eq_zero_or_pos table.columns with none | pos
    · rw [if_pos none, Block.column?, dif_neg (Nat.not_lt.2 none.le)]
      rfl
    · rw [if_neg pos.ne', Lookup.column?_zero pos]
      exact Block.columnAt_eq ⟨0, pos⟩
  | horizontal =>
    show (if table.rows = 0 then _ else _) = (pure ((table.row? 0).getD []) : Guarded _)
    rcases Nat.eq_zero_or_pos table.rows with none | pos
    · rw [if_pos none, Block.row?, dif_neg (Nat.not_lt.2 none.le)]
      rfl
    · rw [if_neg pos.ne', Block.row?, dif_pos pos]
      exact Block.rowAt_eq ⟨0, pos⟩

theorem entryAt_of_get? {b : Block Value} {i j : ℕ} (row : i < b.rows) (column : j < b.columns) :
    ∃ v, b.get? i j = some v ∧ b.entryAt i j = pure v := by
  refine ⟨b.entry ⟨i, row⟩ ⟨j, column⟩, ?_, Block.entryAt_eq (b := b) ⟨i, row⟩ ⟨j, column⟩⟩
  rw [Block.get?, dif_pos ⟨row, column⟩]

/-- To every key belong as many entries as the table is wide. -/
theorem entryOf_eq {orientation : Orientation} {hit along : ℕ}
    (inside : hit < (orientation.keys table).length) (within : along < orientation.width table) :
    ∃ v, orientation.entry? table hit along = some v ∧
    entryOf table hit along orientation = pure v := by
  cases orientation with
  | vertical =>
    have pos : 0 < table.columns := Nat.zero_lt_of_lt within
    -- The keys are a column of the table, so there are as many as rows.
    have row : hit < table.rows := by
      have keys : Orientation.vertical.keys table = table.column ⟨0, pos⟩ := by
        show (table.column? 0).getD [] = _
        rw [Lookup.column?_zero pos, Option.getD_some]
      rwa [keys, Block.column, List.length_ofFn] at inside
    exact entryAt_of_get? row within
  | horizontal =>
    have pos : 0 < table.rows := Nat.zero_lt_of_lt within
    have column : hit < table.columns := by
      have keys : Orientation.horizontal.keys table = table.row ⟨0, pos⟩ := by
        show (table.row? 0).getD [] = _
        rw [Block.row?, dif_pos pos, Option.getD_some]
      rwa [keys, Block.row, List.length_ofFn] at inside
    exact entryAt_of_get? within column

/-- Whichever way keys are searched, what is found is one of them. -/
theorem placeOf_lt {keys : List Value} (found : placeOf engine approximate key keys = some i) :
    i < keys.length := by
  unfold placeOf at found
  split at found
  next => exact Lookup.lastBefore_lt found
  next => exact Lookup.firstMatch?_lt found

/-- The entry that is taken belongs to a key, and its place is within the width of the table. -/
theorem lookUp_eq {orientation : Orientation} (pos : 0 < n) :
    lookUp engine orientation key table n approximate =
      of (Lookup.lookUp engine orientation key table n approximate) := by
  unfold lookUp Lookup.lookUp
  rw [keysOf_eq, pure_bind]
  by_cases outside : orientation.width table < n
  · rw [if_pos outside]
    exact congrArg of (if_pos outside).symm
  · dsimp only
    rw [if_neg outside, if_neg outside]
    have search : (if approximate = true then Lookup.ascending? key (orientation.keys table)
        else Lookup.firstMatch? engine key (orientation.keys table)) =
          placeOf engine approximate key (orientation.keys table) := rfl
    rw [search]
    cases found : placeOf engine approximate key (orientation.keys table) with
    | none => rfl
    | some i =>
      have within : n - 1 < orientation.width table := by omega
      obtain ⟨v, there, taken⟩ := entryOf_eq (placeOf_lt found) within
      dsimp only
      rw [oneLess_of_pos pos, pure_bind, taken, there]
      rfl

theorem inTable_eq (orientation : Orientation) (ordered : ∀ v ∈ args, v.IsOrdered)
    (enough : 3 ≤ args.length) :
    inTable engine orientation args = of (Lookup.inTable engine orientation args) := by
  match args, enough with
  | key :: table :: offset :: flag, _ =>
  refine of_bind fun key _ => of_bind fun table _ => of_bind fun n hn => ?_
  have pos := position_pos (ordered offset (by simp)) hn
  cases flag with
  | nil => exact lookUp_eq pos
  | cons flag => exact of_bind fun approximate _ => lookUp_eq pos

/-- Within the bounds that are checked there is every row, every column and every entry. -/
theorem inBlock_eq (table : Block Value) (row column : ℕ) :
    inBlock table row column = of (Lookup.inBlock table row column) := by
  unfold inBlock Lookup.inBlock
  by_cases inside : row ≤ table.rows ∧ column ≤ table.columns
  · have within : ¬ (table.rows < row ∨ table.columns < column) := by omega
    rw [if_neg within, dif_pos inside]
    -- Zero asks for all rows, or for all columns.
    rcases Nat.eq_zero_or_pos row with rfl | hrow <;>
      rcases Nat.eq_zero_or_pos column with rfl | hcolumn
    · rfl
    · have taken := Block.columnAt_eq (b := table) ⟨column - 1, by omega⟩
      rw [if_pos rfl, if_neg hcolumn.ne', dif_pos rfl, dif_neg hcolumn.ne', oneLess_of_pos hcolumn,
        pure_bind, taken, pure_bind, Block.ofCells?_column]
      rfl
    · have taken := Block.rowAt_eq (b := table) ⟨row - 1, by omega⟩
      rw [if_neg hrow.ne', if_pos rfl, dif_neg hrow.ne', dif_pos rfl, oneLess_of_pos hrow,
        pure_bind, taken, pure_bind, Block.ofCells?_row]
      rfl
    · rw [if_neg hrow.ne', if_neg hcolumn.ne', dif_neg hrow.ne', dif_neg hcolumn.ne',
        oneLess_of_pos hrow, pure_bind, oneLess_of_pos hcolumn, pure_bind]
      exact Block.entryAt_eq (b := table) ⟨row - 1, by omega⟩ ⟨column - 1, by omega⟩
  · have beyond : table.rows < row ∨ table.columns < column := by omega
    rw [if_pos beyond, dif_neg inside]
    rfl

theorem index_eq (enough : args.length = 2 ∨ args.length = 3) :
    index args = of (Lookup.index args) := by
  match args, enough with
  | [table, place], _ =>
    refine of_bind fun table _ => of_bind fun p _ => ?_
    by_cases vector : table.isVector = true
    · rw [if_pos vector, if_pos vector, Lookup.inVector]
      rcases Nat.eq_zero_or_pos p with rfl | pos
      · rfl
      · rw [if_neg pos.ne', if_neg pos.ne', oneLess_of_pos pos, pure_bind]
        cases table.cells[p - 1]? <;> rfl
    · rw [if_neg vector, if_neg vector]
      exact inBlock_eq table p 0
  | [table, row, column], _ =>
    exact of_bind fun table _ => of_bind fun row _ => of_bind fun column _ =>
      inBlock_eq table row column

/-- The place of a key is one that there is. -/
theorem found_eq (x : Float) (key : Value) (keys : List Value) :
    (match searchIn engine x key keys with
      | none => throw .notAvailable
      | some i => do
        let _ ← require keys[i]?
        return .number (Float.ofNat (i + 1)) : Guarded Value) =
      of (match searchIn engine x key keys with
        | some i => pure (.number (Float.ofNat (i + 1)))
        | none => .error .notAvailable) := by
  cases found : searchIn engine x key keys with
  | none => rfl
  | some i =>
    dsimp only
    rw [List.getElem?_eq_getElem (Lookup.searched_lt found)]
    rfl

theorem positionOf_eq (enough : 2 ≤ args.length) :
    positionOf engine args = of (Lookup.positionOf engine args) := by
  match args, enough with
  | key :: keys :: kind, _ =>
  refine of_bind fun key _ => of_bind fun keys _ => ?_
  cases keys.vector? with
  | none => rfl
  | some keys =>
    cases kind with
    | nil => exact found_eq 1.0 key keys
    | cons kind => exact of_bind fun x _ => found_eq x key keys

theorem before_eq {v : Value} (ordered : v.IsOrdered) : before v = of (TextFunction.before v) := by
  refine of_bind fun x hx => ?_
  by_cases below : Decimal.truncate x < 1.0
  · rw [if_pos below, if_pos below]
    rfl
  · rw [if_neg below, if_neg below,
      oneLess_of_pos (Binary64.toCount_pos (ordered.toNumber hx) below)]
    rfl

/-- The part that is cut out begins behind a number of characters. -/
theorem middle_eq (ordered : ∀ v ∈ args, v.IsOrdered) (enough : args.length = 3) :
    middle args = of (TextFunction.middle args) := by
  match args, enough with
  | [v, start, length], _ =>
  refine of_bind fun s _ => ?_
  rw [before_eq (ordered start (by simp))]
  exact of_bind fun skipped _ => of_bind fun n _ => rfl

/-- The places where a text is cut are between characters. -/
theorem substitute_eq (ordered : ∀ v ∈ args, v.IsOrdered) (enough : 3 ≤ args.length) :
    substitute args = of (TextFunction.substitute args) := by
  match args, enough with
  | v :: old :: new :: rest, _ =>
  refine of_bind fun s _ => of_bind fun old _ => of_bind fun new _ => ?_
  by_cases empty : old = ""
  · rw [if_pos empty, if_pos (String.toList_eq_nil_iff.2 empty)]
    rfl
  · have filled := TextFunction.toList_ne_nil empty
    have size : old.utf8ByteSize = (Text.bytes old.toList).length := by
      rw [← Text.utf8ByteSize_ofList, String.ofList_toList]
    obtain ⟨pieces, cuts⟩ := Text.exists_cuts filled s.toList
    rw [if_neg empty, if_neg filled, size]
    cases rest with
    | nil =>
      have written := Text.written?_places filled cuts new []
      rw [List.nil_append, String.ofList_toList] at written
      exact congrArg require written
    | cons nth =>
      dsimp only
      rw [before_eq (ordered nth (by simp))]
      refine of_bind fun k _ => ?_
      -- The bytes of the text are searched, and an occurrence starts and ends between characters.
      have place := Text.written?_place filled cuts new k
      rw [String.ofList_toList] at place
      cases found : (Text.placesFrom (Text.bytes old.toList) 0 (Text.bytes s.toList))[k]? with
      | none =>
        rw [found] at place
        dsimp only
        rw [place, String.ofList_toList]
        rfl
      | some place' =>
        rw [found] at place
        exact congrArg require place

end Guarded

/-- Whatever the library's function of some name is called with that is not what is not a number,
a guarded function does not get stuck on what is passed on, and comes to what the call comes
to. -/
def StaysInRange (engine : Regex.Engine) (name : String)
    (guarded : List Value → Guarded Value) : Prop :=
  ∃ f, (Registry.library engine).find? name = some f ∧
    ∀ (c : Circumstances) (args passed : List Value), f.accepted args = .ok passed →
    (∀ v ∈ passed, v.IsOrdered) →
      (guarded passed).run.map Value.ofExcept = some (f.call c args)

/-- A function is passed as many arguments as it accepts. -/
theorem accepts_of_accepted {f : Function} {args passed : List Value}
    (h : f.accepted args = .ok passed) :
    f.arity.accepts passed.length = true := by
  unfold Function.accepted at h
  split at h
  next accepts =>
    -- Whatever is done to the arguments, none is added or left out.
    have length : passed.length = args.length := by
      cases policy : f.policy <;> rw [policy] at h
      case scalar => exact length_of_mapM_eq_ok h
      case raw =>
        cases h
        rfl
      all_goals
        simp only [ArgumentPolicy.apply] at h
        split at h <;> cases h
        rfl
    rwa [length]
  next => cases h

theorem bounds_of_between {low high count : ℕ} (h : (Arity.between low high).accepts count = true) :
    low ≤ count ∧ count ≤ high := by
  simpa only [Arity.accepts, Bool.and_eq_true, decide_eq_true_eq] using h

theorem eq_of_exactly {n count : ℕ} (h : (Arity.exactly n).accepts count = true) : count = n :=
  beq_iff_eq.1 h

theorem staysInRange {engine : Regex.Engine} {name spelling : String} {arity : Arity}
    {policy : ArgumentPolicy} {compute : List Value → Value} {guarded : List Value → Guarded Value}
    (library : (Registry.library engine).find? name = some
      (.ofArguments spelling arity policy compute))
    (same : ∀ args : List Value, (∀ v ∈ args, v.IsOrdered) → arity.accepts args.length →
      (guarded args).run.map Value.ofExcept = some (compute args)) :
      StaysInRange engine name guarded := by
  refine ⟨_, library, fun c args passed accepted ordered => ?_⟩
  rw [same passed ordered (accepts_of_accepted accepted), Function.call, accepted]
  rfl

/-- A guarded function that gives a text. -/
def Guarded.text (r : Guarded String) : Guarded Value := Value.text <$> r

theorem Guarded.text_of (r : Except ErrorCode String) :
    (Guarded.text (of r)).run.map Value.ofExcept = some (textResult r) := by
  cases r <;> rfl

/-- **Positions stay in range.** Called with any arguments in which no number is what is not a
number, the functions that take positions never take one off a position that is zero, never reach
for a row, a column or an entry that a block does not have, and never cut a text within a
character. -/
theorem positions_in_range (engine : Regex.Engine) :
    StaysInRange engine "VLOOKUP" (Guarded.inTable engine .vertical) ∧
      StaysInRange engine "HLOOKUP" (Guarded.inTable engine .horizontal) ∧
      StaysInRange engine "INDEX" Guarded.index ∧
      StaysInRange engine "MATCH" (Guarded.positionOf engine) ∧
      StaysInRange engine "MID" (Guarded.text ∘ Guarded.middle) ∧
      StaysInRange engine "SUBSTITUTE" (Guarded.text ∘ Guarded.substitute) := by
  refine ⟨?vertical, ?horizontal, ?index, ?positionOf, ?middle, ?substitute⟩
  case vertical =>
    refine staysInRange Lookup.find?_vlookup fun args ordered accepts => ?_
    rw [Guarded.inTable_eq .vertical ordered (bounds_of_between accepts).1]
    rfl
  case horizontal =>
    refine staysInRange Lookup.find?_hlookup fun args ordered accepts => ?_
    rw [Guarded.inTable_eq .horizontal ordered (bounds_of_between accepts).1]
    rfl
  case index =>
    refine staysInRange Lookup.find?_index fun args _ accepts => ?_
    have bounds := bounds_of_between accepts
    rw [Guarded.index_eq (by omega)]
    rfl
  case positionOf =>
    refine staysInRange Lookup.find?_match fun args _ accepts => ?_
    rw [Guarded.positionOf_eq (bounds_of_between accepts).1]
    rfl
  case middle =>
    have library : (Registry.library engine).find? "MID" =
        some (.ofArguments "MID" (.exactly 3) .scalar (textResult ∘ TextFunction.middle)) :=
      find?_library (by simp [Function.library, TextFunction.functions]) rfl
    refine staysInRange library fun args ordered accepts => ?_
    rw [Function.comp, Guarded.middle_eq ordered (eq_of_exactly accepts)]
    exact Guarded.text_of _
  case substitute =>
    refine staysInRange TextFunction.library_substitute fun args ordered accepts => ?_
    rw [Function.comp, Guarded.substitute_eq ordered (bounds_of_between accepts).1]
    exact Guarded.text_of _

/-- The last row and the last column of a table of one entry. -/
theorem positions_in_range_of_single :
    ∃ f, Registry.library.find? "INDEX" = some f ∧
      f.accepted [.block (.single .blank), .number (Float.ofNat 1), .number (Float.ofNat 1)] =
        .ok [.block (.single .blank), .number (Float.ofNat 1), .number (Float.ofNat 1)] ∧
      ∀ c, (Guarded.index [.block (.single .blank), .number (Float.ofNat 1),
            .number (Float.ofNat 1)]).run.map Value.ofExcept =
          some (f.call c [.block (.single .blank), .number (Float.ofNat 1),
            .number (Float.ofNat 1)]) ∧
        f.call c [.block (.single .blank), .number (Float.ofNat 1), .number (Float.ofNat 1)] =
        .blank := by
  obtain ⟨f, library, same⟩ := (positions_in_range .standard).2.2.1
  obtain rfl := Option.some.inj (Lookup.find?_index.symm.trans library)
  have one : (Value.number (Float.ofNat 1)).IsOrdered :=
    .scalar (Float.beq_self_iff.1 (Binary64.beq_self_ofNat 1))
  have table : (Value.block (.single .blank)).IsOrdered := .block fun i j => .scalar trivial
  have ordered : ∀ v ∈ [.block (.single .blank), .number (Float.ofNat 1), .number (Float.ofNat 1)],
    Value.IsOrdered v := by
    simp only [List.forall_mem_cons]
    exact ⟨table, one, one, nofun⟩
  have read : Lookup.index
    [.block (.single .blank), .number (Float.ofNat 1), .number (Float.ofNat 1)] = .ok .blank :=
    Lookup.index_of_position (i := 0) ⟨0, Nat.one_pos⟩ (by decide) (by decide)
  refine ⟨_, library, rfl, fun c => ⟨same c _ _ rfl ordered, ?_⟩⟩
  exact (Lookup.call_lookup c rfl (by simp [Value.error?])).trans (congrArg Value.ofExcept read)

-- What is not a number is not below one, and yet it is position zero.
example : (Guarded.middle [.text "abc", .number .nan, .number 1.0]).run.isNone = true := by decide

end Spreadsheet
