import Mathlib
import Spreadsheet.Proofs.Function.Lookup
import Spreadsheet.Proofs.Value.Finite

/-!
# `Proofs/Function/Finite.lean` — which functions keep to finite numbers

Most functions hand a computed number to one of the common forms of results, which turns one that
is not finite into an error, and so are finite whatever they are given. The others pass on one of
their arguments or an entry of one, count, read the clock or draw at random, and are finite if
their arguments are (`KeepsFinite`).

The two conditional totals do neither. They are built from a sum that nothing checks, so they are
finite exactly if that sum is (`call_isFinite_iff`): finite numbers in the cells do not keep it
from leaving their range.
-/

set_option autoImplicit false

namespace Spreadsheet

open Argument

/-! ## Arguments -/

/-- Finite values, no more of them than 64 bits can count. -/
structure FiniteArguments (args : List Value) : Prop where
  few : args.length < Range.countLimit
  finite : ∀ v ∈ args, v.IsFinite

/-- A reading that a clock can show. -/
structure Moment.IsValid (m : Moment) : Prop where
  date : m.date.isValid = true
  second : m.second < 86400

/-- Whether a function is given its arguments as they are, blocks and errors included or errors
apart. -/
def Function.TakesWhole (f : Function) : Prop := f.policy = .raw ∨ f.policy = .lookup

/-- A function that comes to finite values: whatever its arguments are, or as long as they are
finite if it is given them as they are. -/
def Function.KeepsFinite (f : Function) : Prop :=
  ∀ (c : Circumstances) (args : List Value), c.now.IsValid → (f.TakesWhole → FiniteArguments args) →
    (f.compute c args).IsFinite

variable {engine : Regex.Engine} {args args' : List Value} {v : Value} {f : Function}
    {c : Circumstances}

theorem Function.TakesWhole.accepted (whole : f.TakesWhole) (h : f.accepted args = .ok args') :
    args' = args := by
  unfold Function.accepted at h
  split at h
  next =>
    -- Such arguments are checked for errors at most, and then passed on.
    rcases whole with raw | lookup
    · rw [raw] at h
      cases h
      rfl
    · rw [lookup] at h
      simp only [ArgumentPolicy.apply] at h
      split at h
      next => cases h
      next =>
        cases h
        rfl
  next => cases h

theorem Function.KeepsFinite.call (keeps : f.KeepsFinite) (clock : c.now.IsValid)
    (h : f.TakesWhole → FiniteArguments args) :
    (f.call c args).IsFinite := by
  unfold Function.call
  cases accepted : f.accepted args with
  | error e => exact .error e
  | ok args' =>
    refine keeps c args' clock fun whole => ?_
    rw [whole.accepted accepted]
    exact h whole

/-! ## Functions of their arguments -/

/-- A function whose results are always finite. -/
theorem keepsFinite_of_results {name : String} {arity : Arity} {policy : ArgumentPolicy}
    {compute : List Value → Value} (results : ∀ args, (compute args).IsFinite) :
    (Function.ofArguments name arity policy compute).KeepsFinite :=
  fun _ args _ _ => results args

/-- A function that is given its arguments as they are, and takes finite ones to finite values. -/
theorem keepsFinite_of_arguments {name : String} {arity : Arity} {policy : ArgumentPolicy}
    {compute : List Value → Value} (whole : policy = .raw ∨ policy = .lookup)
    (keeps : ∀ args, FiniteArguments args → (compute args).IsFinite) :
    (Function.ofArguments name arity policy compute).KeepsFinite :=
  fun _ args _ finite => keeps args (finite whole)

theorem Value.isFinite_ofExcept {r : Except ErrorCode Value} (h : ∀ v, r = .ok v → v.IsFinite) :
    (ofExcept r).IsFinite := by
  cases r with
  | ok v => exact h v rfl
  | error e => exact .error e

theorem Value.isFinite_ofNat {n : ℕ} (few : n ≤ 2 ^ 200) :
    (Value.number (Float.ofNat n)).IsFinite :=
  .scalar (Binary64.isFinite_ofNat (Binary64.cast_le_greatest few))

/-- Two factors of 64 bits are far below two hundred bits. -/
theorem product_le {m n : ℕ} (hm : m < Range.countLimit) (hn : n ≤ Range.countLimit) :
    m * n ≤ 2 ^ 200 :=
  (Nat.mul_le_mul hm.le hn).trans (by decide)

/-! ## Aggregates -/

namespace Aggregate

/-- Arguments contribute as many entries as 64 bits can count, each. -/
theorem length_flatten_le (h : ∀ v ∈ args, v.IsFinite) :
    (flatten args).length ≤ args.length * Range.countLimit := by
  have entries : ∀ {v : Value}, v.IsFinite → (Argument.entries v).length ≤ Range.countLimit := by
    intro v hv
    cases hv with
    | scalar | error => exact (by decide : 1 ≤ Range.countLimit)
    | @block b few all =>
      show (b.cells.map _).length ≤ _
      rw [List.length_map]
      exact (Value.IsFinite.block few all).length_cells.le
  induction args with
  | nil => exact Nat.zero_le _
  | cons v args ih =>
    have first := entries (h v List.mem_cons_self)
    have rest := ih fun u hu => h u (List.mem_cons_of_mem _ hu)
    show (Argument.entries v ++ flatten args).length ≤ (args.length + 1) * _
    rw [List.length_append, Nat.add_one_mul]
    omega

theorem isFinite_countP (h : FiniteArguments args) (p : Entry → Bool) :
    (Value.number (Float.ofNat ((flatten args).countP p))).IsFinite := by
  refine Value.isFinite_ofNat ?_
  calc (flatten args).countP p ≤ (flatten args).length := List.countP_le_length
    _ ≤ args.length * Range.countLimit := length_flatten_le h.finite
    _ ≤ 2 ^ 200 := product_le h.few le_rfl

theorem keepsFinite : ∀ f ∈ functions, f.KeepsFinite := by
  simp only [functions, List.forall_mem_cons]
  -- The two counts are not checked, but are far from the greatest number.
  refine ⟨?sum, ?average, ?count, ?countPresent, ?maximum, ?minimum, ?product,
    List.forall_mem_nil _⟩
  case count => exact keepsFinite_of_arguments (.inl rfl) fun args h => isFinite_countP h _
  case countPresent => exact keepsFinite_of_arguments (.inl rfl) fun args h => isFinite_countP h _
  all_goals exact keepsFinite_of_results fun args => isFinite_numberResult _

end Aggregate

/-! ## Arithmetic -/

namespace Arithmetic

/-- A random number has a whole number of 53 bits over a power of two. -/
theorem isFinite_random (c : Circumstances) : (random c).isFinite = true := by
  have bits : draw c < 2 ^ 64 := UInt64.toNat_lt _
  have numerator : (Float.ofNat (draw c / 0x800)).isFinite = true :=
    Binary64.isFinite_ofNat
      (Binary64.cast_le_greatest ((Nat.div_le_self _ _).trans (bits.le.trans (by norm_num))))
  exact Binary64.isFinite_div numerator
    (Binary64.oneOrMore_ofNat (by norm_num) (Binary64.cast_le_greatest (by norm_num)))

theorem keepsFinite : ∀ f ∈ functions, f.KeepsFinite := by
  simp only [functions, List.forall_mem_cons]
  refine ⟨?round, ?absolute, ?power, ?squareRoot, ?modulo, ?random, ?randomBetween,
    List.forall_mem_nil _⟩
  case random => exact fun c _ _ _ => .scalar (isFinite_random c)
  case randomBetween => exact fun c _ _ _ => isFinite_numberResult _
  all_goals exact keepsFinite_of_results fun args => isFinite_numberResult _

end Arithmetic

/-! ## Choices -/

namespace Logical

theorem isFinite_branch (h : v.IsFinite) : (branch v).IsFinite := by
  unfold branch
  split
  next => exact Value.isFinite_zero
  next => exact h.unwrap

theorem isFinite_choose (h : ∀ v ∈ args, v.IsFinite) : (choose args).IsFinite := by
  unfold choose
  split
  next condition branches =>
    split
    next => exact .error _
    next yes _ _ => exact isFinite_branch (h yes (by simp))
    next => exact .scalar trivial
    next no _ _ => exact isFinite_branch (h no (by simp))
    next => exact .scalar trivial
  next => exact .error _

theorem isFinite_firstBranch (args : List Value) (h : ∀ v ∈ args, v.IsFinite) :
    (firstBranch args).IsFinite := by
  induction args using firstBranch.induct with
  | case1 condition yes rest e failed =>
    rw [firstBranch, failed]
    exact .error e
  | case2 condition yes rest holds =>
    rw [firstBranch, holds]
    exact isFinite_branch (h yes (by simp))
  | case3 condition yes rest fails ih =>
    rw [firstBranch, fails]
    exact ih fun v hv => h v (by simp [hv])
  | case4 args short =>
    rw [firstBranch]
    · exact .error _
    · exact short

theorem isFinite_catching (caught : ErrorCode → Bool) (h : ∀ v ∈ args, v.IsFinite) :
    (catching caught args).IsFinite := by
  unfold catching
  split
  next v fallback =>
    have value := (h v (by simp)).unwrap
    split
    next e _ =>
      split
      next => exact isFinite_branch (h fallback (by simp))
      next => exact .error e
    next => exact value
  next => exact .error _

theorem keepsFinite : ∀ f ∈ functions, f.KeepsFinite := by
  simp only [functions, List.forall_mem_cons]
  refine ⟨?choose, ?conjunction, ?disjunction, ?negation, ?chooseFirst, ?ifError, ?ifNotAvailable,
    List.forall_mem_nil _⟩
  case choose => exact keepsFinite_of_arguments (.inl rfl) fun args h => isFinite_choose h.finite
  case chooseFirst =>
    refine keepsFinite_of_arguments (.inl rfl) fun args h => ?_
    unfold chooseFirst
    split
    next => exact isFinite_firstBranch args h.finite
    next => exact .error _
  case ifError =>
    exact keepsFinite_of_arguments (.inl rfl) fun args h =>
      isFinite_catching _ h.finite
  case ifNotAvailable =>
    exact keepsFinite_of_arguments (.inl rfl) fun args h =>
      isFinite_catching _ h.finite
  case negation =>
    refine keepsFinite_of_results fun args => ?_
    unfold negation
    split
    next => exact isFinite_boolResult _
    next => exact .error _
  all_goals exact keepsFinite_of_results fun args => isFinite_boolResult _

end Logical

/-! ## Lookups -/

namespace Lookup

variable {table : Block Value} {n m : ℕ}

theorem isFinite_of_get? {i j : ℕ} (h : (Value.block table).IsFinite)
    (found : table.get? i j = some v) : v.IsFinite := by
  unfold Block.get? at found
  split at found
  next inside =>
    cases found
    exact (Value.isFinite_block.1 h).2 _ _
  next => cases found

theorem isFinite_of_entry? {orientation : Orientation} {hit offset : ℕ}
    (h : (Value.block table).IsFinite) (found : orientation.entry? table hit offset = some v) :
    v.IsFinite := by
  cases orientation with
  | vertical => exact isFinite_of_get? h found
  | horizontal => exact isFinite_of_get? h found

theorem isFinite_lookUp (orientation : Orientation) {key : Value} {offset : ℕ} {approximate : Bool}
    (h : (Value.block table).IsFinite)
    (hv : lookUp engine orientation key table offset approximate = .ok v) : v.IsFinite := by
  unfold lookUp at hv
  dsimp only at hv
  split at hv
  next => cases hv
  split at hv
  next => cases hv
  split at hv
  next found =>
    cases hv
    exact isFinite_of_entry? h found
  next => cases hv

theorem isFinite_inTable (orientation : Orientation) (h : ∀ v ∈ args, v.IsFinite)
    (hv : inTable engine orientation args = .ok v) : v.IsFinite := by
  unfold inTable at hv
  split at hv
  next key table offset flag =>
    obtain ⟨k, -, hv⟩ := exists_of_bind_eq_ok hv
    obtain ⟨b, hb, hv⟩ := exists_of_bind_eq_ok hv
    obtain ⟨n, -, hv⟩ := exists_of_bind_eq_ok hv
    have finite := isFinite_of_block (h table (by simp)) hb
    cases flag with
    | nil => exact isFinite_lookUp orientation finite hv
    | cons flag more =>
      obtain ⟨approximate, -, hv⟩ := exists_of_bind_eq_ok hv
      exact isFinite_lookUp orientation finite hv
  next => cases hv

theorem isFinite_inVector (h : (Value.block table).IsFinite) (hv : inVector table n = .ok v) :
    v.IsFinite := by
  unfold inVector at hv
  split at hv
  next =>
    cases hv
    exact h
  split at hv
  next u found =>
    cases hv
    exact h.of_mem_cells (List.mem_of_getElem? found)
  next => cases hv

theorem isFinite_inBlock (h : (Value.block table).IsFinite) (hv : inBlock table n m = .ok v) :
    v.IsFinite := by
  obtain ⟨few, entries⟩ := Value.isFinite_block.1 h
  unfold inBlock at hv
  split at hv
  next inside =>
    split at hv
    next =>
      split at hv
      next =>
        cases hv
        exact h
      next columns =>
        cases hv
        -- A column of the block has no more entries than the block.
        refine .block ?_ fun _ _ => entries _ _
        have pos : 1 ≤ table.columns := by omega
        exact lt_of_le_of_lt (Nat.mul_le_mul_left table.rows pos) few
    next rows =>
      split at hv
      next =>
        cases hv
        refine .block ?_ fun _ _ => entries _ _
        have pos : 1 ≤ table.rows := by omega
        exact lt_of_le_of_lt (Nat.mul_le_mul_right table.columns pos) few
      next =>
        cases hv
        exact entries _ _
  next => cases hv

theorem isFinite_index (h : ∀ v ∈ args, v.IsFinite) (hv : index args = .ok v) : v.IsFinite := by
  unfold index at hv
  split at hv
  next table place =>
    obtain ⟨b, hb, hv⟩ := exists_of_bind_eq_ok hv
    obtain ⟨p, -, hv⟩ := exists_of_bind_eq_ok hv
    have finite := isFinite_of_block (h table (by simp)) hb
    split at hv
    next => exact isFinite_inVector finite hv
    next => exact isFinite_inBlock finite hv
  next table row column =>
    obtain ⟨b, hb, hv⟩ := exists_of_bind_eq_ok hv
    obtain ⟨i, -, hv⟩ := exists_of_bind_eq_ok hv
    obtain ⟨j, -, hv⟩ := exists_of_bind_eq_ok hv
    exact isFinite_inBlock (isFinite_of_block (h table (by simp)) hb) hv
  next => cases hv

theorem firstMatch?_lt {key : Value} {keys : List Value} {i : ℕ}
    (hi : firstMatch? engine key keys = some i) : i < keys.length := by
  unfold firstMatch? at hi
  split at hi
  next => exact (List.findIdx?_eq_some_iff_getElem.1 hi).1
  next => exact (List.findIdx?_eq_some_iff_getElem.1 hi).1

theorem boundaryFrom_le {α : Type} {p : α → Bool} {xs : List α} {base size : ℕ}
    (inside : base + size ≤ xs.length) :
    boundaryFrom p xs base size ≤ xs.length := by
  fun_induction boundaryFrom p xs base size with
  | case1 base size more middle ih =>
    apply ih
    split <;> omega
  | case2 base size few holds => exact lt_length_of_holdsAt holds
  | case3 base size few fails => omega

theorem lastBefore_lt {α : Type} {p : α → Bool} {xs : List α} {i : ℕ}
    (hi : lastBefore (boundary p xs) = some i) :
    i < xs.length := by
  have inside : boundary p xs ≤ xs.length := boundaryFrom_le (by omega)
  unfold lastBefore at hi
  split at hi
  next => cases hi
  next =>
    cases hi
    omega

/-- However keys are searched, what is found is one of them. -/
theorem searched_lt {key : Value} {keys : List Value} {x : Float} {i : ℕ}
    (hi : (if x == 0.0 then firstMatch? engine key keys else if 0.0 < x then ascending? key keys
      else descending? key keys) = some i) :
    i < keys.length := by
  split at hi
  next => exact firstMatch?_lt hi
  split at hi
  next => exact lastBefore_lt hi
  next => exact lastBefore_lt hi

/-- A position is at most the number of keys. -/
theorem isFinite_positionOf (h : ∀ v ∈ args, v.IsFinite) (hv : positionOf engine args = .ok v) :
    v.IsFinite := by
  unfold positionOf at hv
  split at hv
  next key keys kind =>
    obtain ⟨k, -, hv⟩ := exists_of_bind_eq_ok hv
    obtain ⟨b, hb, hv⟩ := exists_of_bind_eq_ok hv
    have finite := isFinite_of_block (h keys (by simp)) hb
    unfold Block.vector? at hv
    cases vector : b.isVector with
    | false =>
      rw [vector] at hv
      cases hv
    | true =>
      rw [vector] at hv
      have position : ∀ {x : Float} {i : ℕ},
        (if x == 0.0 then firstMatch? engine k b.cells else if 0.0 < x then
          ascending? k b.cells else descending? k b.cells) = some i →
            (Value.number (Float.ofNat (i + 1))).IsFinite := by
        intro x i found
        have few : i < Range.countLimit := (searched_lt found).trans finite.length_cells
        exact Value.isFinite_ofNat (few.trans_le (by decide : Range.countLimit ≤ 2 ^ 200))
      -- The kind of search is given, or it is the one for ascending keys.
      cases kind
      case' nil => change (pure 1.0 : Except ErrorCode Float).bind _ = _ at hv
      all_goals
        obtain ⟨x, -, hv⟩ := exists_of_bind_eq_ok hv
        dsimp only at hv
        split at hv
        next i found =>
          cases hv
          exact position found
        next => cases hv
  next => cases hv

/-- What is looked up is an entry, a part or a position in what it is looked up in. -/
theorem keepsFinite : ∀ f ∈ functions engine, f.KeepsFinite := by
  simp only [functions, List.forall_mem_cons]
  refine ⟨?vertical, ?horizontal, ?index, ?positionOf, List.forall_mem_nil _⟩
  case vertical =>
    exact keepsFinite_of_arguments (.inr rfl) fun args h =>
      Value.isFinite_ofExcept fun v => isFinite_inTable .vertical h.finite
  case horizontal =>
    exact keepsFinite_of_arguments (.inr rfl) fun args h =>
      Value.isFinite_ofExcept fun v => isFinite_inTable .horizontal h.finite
  case index =>
    exact keepsFinite_of_arguments (.inr rfl) fun args h => Value.isFinite_ofExcept fun v =>
      isFinite_index h.finite
  case positionOf =>
    exact keepsFinite_of_arguments (.inr rfl) fun args h => Value.isFinite_ofExcept fun v =>
      isFinite_positionOf h.finite

end Lookup

/-! ## Texts and dates -/

theorem TextFunction.keepsFinite : ∀ f ∈ functions, f.KeepsFinite := by
  simp only [functions, List.forall_mem_cons]
  refine ⟨?concat, ?concatenate, ?left, ?right, ?middle, ?length, ?trim, ?upper, ?lower, ?proper,
    ?substitute, List.forall_mem_nil _⟩
  case length => exact keepsFinite_of_results fun args => isFinite_numberResult _
  all_goals exact keepsFinite_of_results fun args => isFinite_textResult _

namespace DateFunction

theorem daysInMonth_le (year : ℤ) (month : ℕ) : Calendar.daysInMonth year month ≤ 31 := by
  unfold Calendar.daysInMonth
  split
  · split <;> omega
  all_goals omega

theorem daysBeforeMonth_le (year : ℤ) (month : ℕ) :
    Calendar.daysBeforeMonth year month ≤ 31 * month := by
  induction month using Calendar.daysBeforeMonth.induct with
  | case1 => exact Nat.zero_le _
  | case2 => exact Nat.zero_le _
  | case3 month ih =>
    have days := daysInMonth_le year (month + 1)
    rw [Calendar.daysBeforeMonth]
    omega

/-- No date is more than a billion days away. -/
theorem serial_bound {d : Date} (valid : d.isValid = true) : d.serial.natAbs ≤ 1000000000 := by
  have epoch : Date.epoch.dayNumber = 693593 := by decide
  have days := daysInMonth_le d.year d.month
  have months := daysBeforeMonth_le d.year d.month
  unfold Date.isValid Calendar.firstYear Calendar.lastYear at valid
  simp only [Bool.and_eq_true, decide_eq_true_eq] at valid
  unfold Date.serial
  rw [epoch, Date.dayNumber, Calendar.daysBeforeYear]
  omega

theorem within_serial {m : Moment} (valid : m.IsValid) :
    Binary64.Within 2000000000 (Float.ofInt m.date.serial) := by
  have bound := serial_bound valid.date
  refine (Binary64.within_ofInt _ (Binary64.cast_le_greatest (bound.trans (by norm_num)))).mono ?_
  have bound : (m.date.serial.natAbs : ℚ) ≤ 1000000000 := by exact_mod_cast bound
  linarith

theorem isFinite_thisMoment {m : Moment} (valid : m.IsValid) : (thisMoment m).IsFinite := by
  have day : Binary64.OneOrMore (Float.ofNat 86400) :=
    Binary64.oneOrMore_ofNat (by norm_num) (Binary64.cast_le_greatest (by norm_num))
  have seconds : Binary64.Within (172800 : ℕ) (Float.ofNat m.second) := by
    refine (Binary64.within_ofNat
      (Binary64.cast_le_greatest (valid.second.le.trans (by norm_num)))).mono ?_
    exact_mod_cast Nat.mul_le_mul_left 2 valid.second.le
  have fraction := seconds.div day (Binary64.cast_le_greatest (by norm_num))
  have small : (2000000000 + 2 * (172800 : ℕ) : ℚ) ≤ Binary64.greatest := by
    exact_mod_cast Binary64.cast_le_greatest (n := 2000000000 + 2 * 172800) (by norm_num)
  exact .scalar ((within_serial valid).add fraction small).isFinite

theorem keepsFinite : ∀ f ∈ functions, f.KeepsFinite := by
  simp only [functions, List.forall_mem_cons]
  refine ⟨?today, ?now, ?date, ?year, ?month, ?day, ?difference, List.forall_mem_nil _⟩
  case today => exact fun c _ clock _ => .scalar (within_serial clock).isFinite
  case now => exact fun c _ clock _ => isFinite_thisMoment clock
  all_goals exact keepsFinite_of_results fun args => isFinite_numberResult _

end DateFunction

/-! ## Conditional totals -/

namespace Criterion

/-- The numbers that a conditional total adds up leave the range of numbers. -/
def Overflows (engine : Regex.Engine) (args : List Value) : Prop :=
  ∃ xs, matchedNumbers engine args = .ok xs ∧ (sum xs).isFinite = false

theorem isFinite_countIf (h : FiniteArguments args) : (countIf engine args).IsFinite := by
  unfold countIf
  split
  next cells criterion =>
    refine Value.isFinite_ofExcept fun v hv => ?_
    obtain ⟨b, hb, hv⟩ := exists_of_bind_eq_ok hv
    obtain ⟨criterion, -, hv⟩ := exists_of_bind_eq_ok hv
    cases hv
    have few := (isFinite_of_block (h.finite cells (by simp)) hb).length_cells
    refine Value.isFinite_ofNat ?_
    calc b.cells.countP criterion.isMet ≤ b.cells.length := List.countP_le_length
      _ ≤ Range.countLimit := few.le
      _ ≤ 2 ^ 200 := by decide
  next => exact .error _

/-- The cells that a conditional total looks at are those of its first argument. -/
theorem cells_of_arguments {cells values : Block Value} {criterion : Criterion}
    (hargs : arguments engine args = .ok (cells, criterion, values)) :
    ∃ v ∈ args, block v = .ok cells := by
  unfold arguments at hargs
  split at hargs
  next range _ rest =>
    obtain ⟨b, hb, hargs⟩ := exists_of_bind_eq_ok hargs
    obtain ⟨c, -, hargs⟩ := exists_of_bind_eq_ok hargs
    refine ⟨range, List.mem_cons_self, ?_⟩
    cases rest with
    | nil =>
      cases hargs
      exact hb
    | cons more rest =>
      obtain ⟨b', -, hargs⟩ := exists_of_bind_eq_ok hargs
      split at hargs
      next =>
        cases hargs
        exact hb
      next => cases hargs
  next => cases hargs

/-- A conditional total adds up no more numbers than it looks at cells. -/
theorem length_matchedNumbers (h : FiniteArguments args) {xs : List Float}
    (hxs : matchedNumbers engine args = .ok xs) :
    xs.length < Range.countLimit := by
  unfold matchedNumbers at hxs
  obtain ⟨⟨cells, criterion, values⟩, hargs, hxs⟩ := exists_of_bind_eq_ok hxs
  obtain ⟨numbers, hnumbers, hxs⟩ := exists_of_bind_eq_ok hxs
  obtain ⟨v, hv, hcells⟩ := cells_of_arguments hargs
  cases hxs
  calc (numbers.filterMap id).length ≤ numbers.length := List.length_filterMap_le _ _
    _ ≤ (cells.cells.zip values.cells).length :=
      (length_of_mapM_eq_ok hnumbers).trans_le (List.length_filter_le _ _)
    _ ≤ cells.cells.length := by
      rw [List.length_zip]
      exact Nat.min_le_left _ _
    _ < Range.countLimit := (isFinite_of_block (h.finite v hv) hcells).length_cells

theorem not_overflows_of_error {e : ErrorCode} (h : matchedNumbers engine args = .error e) :
    ¬ Overflows engine args := by
  rintro ⟨xs, hxs, -⟩
  rw [h] at hxs
  cases hxs

theorem not_overflows_of_ok {xs : List Float} (h : matchedNumbers engine args = .ok xs) :
    ¬ Overflows engine args ↔ (sum xs).isFinite = true := by
  constructor
  · intro none
    by_contra infinite
    exact none ⟨xs, h, Bool.eq_false_iff.2 infinite⟩
  · rintro finite ⟨ys, hys, infinite⟩
    rw [h] at hys
    cases hys
    rw [finite] at infinite
    cases infinite

/-- A conditional sum is finite just if what it adds up is. -/
theorem isFinite_sumIf_iff : (sumIf engine args).IsFinite ↔ ¬ Overflows engine args := by
  unfold sumIf
  cases hxs : matchedNumbers engine args with
  | error e => exact iff_of_true (.error e) (not_overflows_of_error hxs)
  | ok xs =>
    rw [not_overflows_of_ok hxs]
    exact Value.isFinite_scalar

/-- A conditional mean is finite just if what it adds up is; of no numbers there is no mean. -/
theorem isFinite_averageIf_iff (h : FiniteArguments args) :
    (averageIf engine args).IsFinite ↔ ¬ Overflows engine args := by
  unfold averageIf
  cases hxs : matchedNumbers engine args with
  | error e => exact iff_of_true (.error e) (not_overflows_of_error hxs)
  | ok xs =>
    rw [not_overflows_of_ok hxs]
    cases xs with
    | nil => exact iff_of_true (.error .divideByZero) (by decide)
    | cons x xs =>
      have few : (x :: xs).length ≤ 2 ^ 200 := (length_matchedNumbers h hxs).le.trans (by decide)
      have count : Binary64.OneOrMore (Float.ofNat (x :: xs).length) :=
        Binary64.oneOrMore_ofNat (Nat.succ_pos _) (Binary64.cast_le_greatest few)
      show (Value.number (sum (x :: xs) / Float.ofNat (x :: xs).length)).IsFinite ↔ _
      rw [Value.isFinite_scalar]
      exact ⟨Binary64.isFinite_of_div count, fun finite => Binary64.isFinite_div finite count⟩

end Criterion

/-! ## The library -/

/-- Whether a call is one of a conditional total, and the numbers that it adds up leave the range
of numbers. -/
def Function.Overflows (engine : Regex.Engine) (f : Function) (args : List Value) : Prop :=
  (f.name = "SUMIF" ∨ f.name = "AVERAGEIF") ∧ f.accepted args = .ok args ∧
    Criterion.Overflows engine args

/-- All functions of the library keep to finite numbers but two. -/
theorem library_cases (mem : f ∈ Function.library engine) :
    (f.KeepsFinite ∧ ¬ (f.name = "SUMIF" ∨ f.name = "AVERAGEIF")) ∨
      (f.name = "SUMIF" ∨ f.name = "AVERAGEIF") ∧ f.TakesWhole ∧
        (f.compute = (fun _ => Criterion.sumIf engine) ∨
          f.compute = fun _ => Criterion.averageIf engine) := by
  -- The names decide: two functions are called like the totals, and they are the totals.
  have searches : ∀ name ∈ ["VLOOKUP", "HLOOKUP", "INDEX", "MATCH"],
      ¬ (name = "SUMIF" ∨ name = "AVERAGEIF") := by decide
  have others : ∀ f ∈ Aggregate.functions ++ Arithmetic.functions ++ Logical.functions ++
      TextFunction.functions ++ DateFunction.functions,
      ¬ (f.name = "SUMIF" ∨ f.name = "AVERAGEIF") := by decide
  rw [Function.library, List.mem_append] at mem
  rcases mem with mem | mem
  · left
    simp only [List.mem_append] at mem others
    rcases mem with ((((mem | mem) | mem) | mem) | mem) | mem
    · exact ⟨Aggregate.keepsFinite f mem, others f (by simp [mem])⟩
    · exact ⟨Arithmetic.keepsFinite f mem, others f (by simp [mem])⟩
    · exact ⟨Logical.keepsFinite f mem, others f (by simp [mem])⟩
    · exact ⟨Lookup.keepsFinite f mem, searches _ (Lookup.mem_names mem)⟩
    · exact ⟨TextFunction.keepsFinite f mem, others f (by simp [mem])⟩
    · exact ⟨DateFunction.keepsFinite f mem, others f (by simp [mem])⟩
  · have count : ¬ (Text.latinUpper "COUNTIF" = "SUMIF" ∨
      Text.latinUpper "COUNTIF" = "AVERAGEIF") := by
      decide
    simp only [Criterion.functions, List.mem_cons, List.not_mem_nil, or_false] at mem
    rcases mem with rfl | rfl | rfl
    · exact .inr ⟨.inl rfl, .inr rfl, .inl rfl⟩
    · exact .inl ⟨keepsFinite_of_arguments (.inr rfl) fun args h =>
        Criterion.isFinite_countIf h, count⟩
    · exact .inr ⟨.inr rfl, .inr rfl, .inr rfl⟩

/-- A function of the library comes to a finite value over finite arguments, unless it is a
conditional total and what it adds up is not finite. If it is not given its arguments as they are,
they need not even be finite. -/
theorem call_isFinite_iff {name : String} (found : (Registry.library engine).find? name = some f)
    (clock : c.now.IsValid) (h : f.TakesWhole → FiniteArguments args) :
    (f.call c args).IsFinite ↔ ¬ f.Overflows engine args := by
  rcases library_cases (mem_library found).1 with ⟨keeps, other⟩ | ⟨total, whole, which⟩
  · exact iff_of_true (keeps.call clock h) fun overflows => other overflows.1
  · unfold Function.Overflows Function.call
    rw [and_iff_right total]
    cases accepted : f.accepted args with
    | error e => exact iff_of_true (.error e) nofun
    | ok args' =>
      rw [whole.accepted accepted, and_iff_right rfl]
      -- The arguments are passed as they are, so what overflows is what the cells add up to.
      rcases which with compute | compute
      · rw [compute]
        exact Criterion.isFinite_sumIf_iff
      · rw [compute]
        exact Criterion.isFinite_averageIf_iff (h whole)

end Spreadsheet
