import Mathlib
import Spreadsheet.Evaluation
import Spreadsheet.Proofs.Number.Finite

/-!
# `Proofs/Value/Finite.lean` — values without infinite numbers

A value is finite if no number in it is infinite or not-a-number, the entries of its blocks
included. Blocks are also asked to have no more entries than 64 bits can count, as all blocks do
that come from ranges, so that counts of entries are finite too. What a value is coerced to is
finite if the value is, and the results that go through one of the three common forms of results
are finite whatever they come from.

Finiteness is a property of the value as it stands, and so it is proved of a result by the way
that the result was made: a count, an entry of an argument, or a number that was checked before it
was passed on.
-/

set_option autoImplicit false

namespace Spreadsheet

/-! ## Computations that can fail -/

/-- A chain of computations that succeeds does so from its first one on. -/
theorem exists_of_bind_eq_ok {ε α β : Type} {a : Except ε α} {f : α → Except ε β} {b : β}
    (h : a.bind f = .ok b) :
    ∃ r, a = .ok r ∧ f r = .ok b := by
  cases a with
  | error fault => cases h
  | ok r => exact ⟨r, rfl, h⟩

/-- As much is computed one by one as it is computed from. -/
theorem length_of_mapM_eq_ok {ε α β : Type} {f : α → Except ε β} {xs : List α} {ys : List β}
    (h : xs.mapM f = .ok ys) :
    ys.length = xs.length := by
  induction xs generalizing ys with
  | nil =>
    cases h
    rfl
  | cons x xs ih =>
    rw [List.mapM_cons] at h
    obtain ⟨y, -, h⟩ := exists_of_bind_eq_ok h
    obtain ⟨more, hxs, h⟩ := exists_of_bind_eq_ok h
    cases h
    exact congrArg (· + 1) (ih hxs)

/-! ## Blocks -/

namespace Block

variable {α : Type} {b : Block α}

theorem length_cells (b : Block α) : b.cells.length = b.rows * b.columns := by
  unfold cells
  rw [List.length_flatten, List.map_ofFn]
  have rows : List.length ∘ b.row = fun _ => b.columns := by
    funext i
    exact List.length_ofFn
  rw [rows, List.ofFn_const, List.sum_replicate, smul_eq_mul]

theorem mem_cells {a : α} : a ∈ b.cells ↔ ∃ i j, b.entry i j = a := by
  unfold cells row
  rw [List.mem_flatten]
  constructor
  · rintro ⟨row, hrow, mem⟩
    obtain ⟨i, rfl⟩ := List.mem_ofFn.1 hrow
    obtain ⟨j, rfl⟩ := List.mem_ofFn.1 mem
    exact ⟨i, j, rfl⟩
  · rintro ⟨i, j, rfl⟩
    exact ⟨_, List.mem_ofFn.2 ⟨i, rfl⟩, List.mem_ofFn.2 ⟨j, rfl⟩⟩

end Block

/-! ## Finite values -/

/-- A number that a scalar is, is finite. -/
def Scalar.IsFinite : Scalar → Prop
  | .number x => x.isFinite = true
  | _ => True

namespace Value

/-- No number in a value is infinite or not-a-number, and its blocks have no more entries than 64
bits can count. -/
inductive IsFinite : Value → Prop where
  | scalar {s : Scalar} (finite : s.IsFinite) : IsFinite (.scalar s)
  | error (e : ErrorCode) : IsFinite (.error e)
  | block {b : Block Value} (few : b.size < Range.countLimit)
      (entries : ∀ i j, (b.entry i j).IsFinite) : IsFinite (.block b)

variable {v : Value} {x : Float} {s : Scalar} {b : Block Value}

theorem isFinite_scalar : (Value.scalar s).IsFinite ↔ s.IsFinite :=
  ⟨fun h => by cases h with | scalar finite => exact finite, .scalar⟩

theorem isFinite_block :
    (Value.block b).IsFinite ↔ b.size < Range.countLimit ∧ ∀ i j, (b.entry i j).IsFinite :=
  ⟨fun h => by cases h with | block few entries => exact ⟨few, entries⟩, fun h => .block h.1 h.2⟩

theorem IsFinite.length_cells (h : (Value.block b).IsFinite) :
    b.cells.length < Range.countLimit := by
  rw [Block.length_cells]
  exact (isFinite_block.1 h).1

theorem IsFinite.of_mem_cells (h : (Value.block b).IsFinite) (mem : v ∈ b.cells) : v.IsFinite := by
  obtain ⟨i, j, rfl⟩ := Block.mem_cells.1 mem
  exact (isFinite_block.1 h).2 i j

theorem IsFinite.unwrap (h : v.IsFinite) : v.unwrap.IsFinite := by
  cases h with
  | @block b few entries =>
    obtain ⟨rows, columns, entry⟩ := b
    simp only [Value.unwrap]
    split
    next => exact entries _ _
    next => exact .error _
  | scalar finite => exact .scalar finite
  | error e => exact .error e

/-! ## Coercions -/

theorem IsFinite.scalar? (h : v.IsFinite) (hs : v.scalar? = .ok s) : s.IsFinite := by
  induction h with
  | @block b few entries ih =>
    obtain ⟨rows, columns, entry⟩ := b
    simp only [Value.scalar?] at hs
    split at hs
    next => exact ih _ _ hs
    next => cases hs
  | scalar finite =>
    cases hs
    exact finite
  | error e => cases hs

end Value

/-- What a text looks like is a finite number. -/
theorem NumericText.isFinite_of_read? {s : List Char} {x : Float} (h : read? s = some x) :
    x.isFinite = true := by
  have hundred : Binary64.OneOrMore (Float.ofNat 100) :=
    Binary64.oneOrMore_ofNat (by norm_num) (Binary64.cast_le_greatest (by norm_num))
  have magnitude : ∀ {s y}, magnitude? s = some y → y.isFinite = true := by
    intro s y hy
    unfold magnitude? at hy
    split at hy
    next =>
      split at hy
      next => exact (Option.filter_eq_some_iff.1 hy).2
      next => cases hy
    next => cases hy
  -- A hundredth of a finite number is finite.
  have scaled : ∀ {y : Float} (percent : Bool), y.isFinite = true →
    (if percent then y / 100.0 else y).isFinite = true := by
    intro y percent finite
    cases percent with
    | true => exact Binary64.isFinite_div finite hundred
    | false => exact finite
  unfold read? at h
  generalize splitSign (Text.trim s) = signed at h
  obtain ⟨negative, s⟩ := signed
  dsimp only at h
  generalize splitPercent (dropCurrency s) = rest at h
  obtain ⟨percent, s⟩ := rest
  obtain ⟨y, hy, rfl⟩ := Option.map_eq_some_iff.1 h
  cases negative with
  | true => exact Binary64.isFinite_neg (scaled percent (magnitude hy))
  | false => exact scaled percent (magnitude hy)

theorem Scalar.IsFinite.toNumber? {s : Scalar} {x : Float} (h : s.IsFinite)
    (hx : s.toNumber? = some x) :
    x.isFinite = true := by
  cases s with
  | number y =>
    cases hx
    exact h
  | text s => exact NumericText.isFinite_of_read? hx
  | bool b =>
    cases hx
    cases b <;> decide
  | blank =>
    cases hx
    decide

namespace Value

variable {v : Value} {x : Float} {b : Block Value}

theorem IsFinite.toNumber (h : v.IsFinite) (hx : v.toNumber = .ok x) : x.isFinite = true := by
  obtain ⟨s, hs, hx⟩ := exists_of_bind_eq_ok hx
  split at hx
  next y hy =>
    cases hx
    exact (h.scalar? hs).toNumber? hy
  next => cases hx

theorem isFinite_zero : (Value.number 0.0).IsFinite :=
  .scalar (show (0.0 : Float).isFinite = true by decide)

theorem IsFinite.asResult (h : v.IsFinite) : v.asResult.IsFinite := by
  unfold Value.asResult
  split
  next => exact isFinite_zero
  next => exact h.unwrap

/-! ## Results -/

/-- A computed number is finite, for it is an error otherwise. -/
theorem isFinite_ofFloat (x : Float) : (ofFloat x).IsFinite := by
  unfold ofFloat
  split
  next finite => exact .scalar finite
  next => exact .error _

theorem ofFloat_of_isFinite {x : Float} (finite : x.isFinite = true) : ofFloat x = .number x :=
  if_pos finite

theorem ofFloat_of_infinite {x : Float} (infinite : x.isFinite = false) :
    ofFloat x = .error .typeMismatch :=
  if_neg (Bool.not_eq_true _ ▸ infinite)

/-- A computed number that is a number is that number. -/
theorem eq_of_ofFloat_eq {x y : Float} (h : ofFloat x = .number y) : x = y := by
  unfold ofFloat at h
  split at h <;> cases h
  rfl

end Value

namespace Argument

variable {v : Value} {b : Block Value}

theorem isFinite_numberResult (r : Except ErrorCode Float) : (numberResult r).IsFinite := by
  cases r with
  | ok x => exact Value.isFinite_ofFloat x
  | error e => exact .error e

theorem isFinite_textResult (r : Except ErrorCode String) : (textResult r).IsFinite := by
  cases r with
  | ok s => exact .scalar trivial
  | error e => exact .error e

theorem isFinite_boolResult (r : Except ErrorCode Bool) : (boolResult r).IsFinite := by
  cases r with
  | ok b => exact .scalar trivial
  | error e => exact .error e

/-- The block that a value is taken for is as finite as the value. -/
theorem isFinite_of_block (h : v.IsFinite) (hb : block v = .ok b) : (Value.block b).IsFinite := by
  cases h with
  | error e => cases hb
  | block few entries =>
    cases hb
    exact .block few entries
  | scalar finite =>
    cases hb
    exact .block (show 1 * 1 < Range.countLimit by decide) fun _ _ => .scalar finite

end Argument

end Spreadsheet
