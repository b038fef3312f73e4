import Mathlib
import Spreadsheet.Proofs.Function.Registry
import Spreadsheet.Proofs.Value.Order

/-!
# `Proofs/Function/Lookup.lean` — an approximate search finds the last suitable key

Halving is right when the condition that it asks for holds up to some place and not beyond: the
stretch that is left always begins at a place where the condition holds, or at the first, and
always ends where it has stopped to hold. Keys in order are that way. If a key is at most another,
and the other is at most the one looked for, then so is the first, because no key is an empty
cell. So what the search finds in a few steps is what going through all keys finds (`lastPlace?`),
whatever their kinds and however many are level, and this is the row or column that `VLOOKUP`,
`HLOOKUP` and `MATCH` then take.
-/

set_option autoImplicit false

namespace Spreadsheet.Lookup

open Argument

section
variable {α β : Type} {p : α → Bool} {xs : List α}

/-! ## Going through the keys -/

/-- The last place whose key satisfies a condition, by a look at every one. -/
def lastPlace? (p : α → Bool) : List α → Option Nat
  | [] => none
  | x :: xs =>
    match lastPlace? p xs with
    | some i => some (i + 1)
    | none => if p x then some 0 else none

@[simp] theorem holdsAt_nil (i : Nat) : holdsAt p [] i = false := rfl

@[simp] theorem holdsAt_cons_zero (x : α) : holdsAt p (x :: xs) 0 = p x := rfl

@[simp] theorem holdsAt_cons_succ (x : α) (i : Nat) :
    holdsAt p (x :: xs) (i + 1) = holdsAt p xs i := rfl

theorem lastPlace?_eq_none_iff : lastPlace? p xs = none ↔ ∀ i, ¬ holdsAt p xs i := by
  induction xs with
  | nil => simp [lastPlace?]
  | cons x xs ih =>
    have split : (∀ i, ¬ holdsAt p (x :: xs) i) ↔ ¬ p x ∧ ∀ i, ¬ holdsAt p xs i :=
      ⟨fun none => ⟨none 0, fun i => none (i + 1)⟩,
        fun ⟨first, rest⟩ i => by cases i; exacts [first, rest _]⟩
    rw [split, ← ih, lastPlace?]
    cases lastPlace? p xs <;> simp

/-- The place is one where the condition holds, and it holds nowhere beyond. -/
theorem lastPlace?_eq_some_iff {i : Nat} :
    lastPlace? p xs = some i ↔ holdsAt p xs i ∧ ∀ j, i < j → ¬ holdsAt p xs j := by
  induction xs generalizing i with
  | nil => simp [lastPlace?]
  | cons x xs ih =>
    rw [lastPlace?]
    cases found : lastPlace? p xs with
    | none =>
      have nowhere := lastPlace?_eq_none_iff.1 found
      have beyond (j : Nat) (hj : 0 < j) : ¬ holdsAt p (x :: xs) j := by
        obtain ⟨j, rfl⟩ := Nat.exists_eq_add_one.2 hj
        exact nowhere j
      cases i with
      | zero => simpa using fun _ => beyond
      | succ i => simp [nowhere i]
    | some k =>
      obtain ⟨holds, last⟩ := ih.1 found
      have beyond (j : Nat) (hj : k + 1 < j) : ¬ holdsAt p (x :: xs) j := by
        obtain ⟨j, rfl⟩ := Nat.exists_eq_add_one.2 (Nat.zero_lt_of_lt hj)
        exact last j (Nat.lt_of_succ_lt_succ hj)
      constructor
      · intro h
        cases h
        exact ⟨holds, beyond⟩
      · rintro ⟨here, none⟩
        -- There is one such place only: of two, the later one contradicts what is said of the
        -- earlier.
        rcases lt_trichotomy i (k + 1) with before | rfl | after
        · exact absurd holds (none _ before)
        · rfl
        · exact absurd here (beyond i after)

theorem lt_length_of_holdsAt {i : Nat} (h : holdsAt p xs i) : i < xs.length := by
  by_contra beyond
  rw [holdsAt, List.getElem?_eq_none (not_lt.1 beyond)] at h
  cases h

theorem lastPlace?_map (p : β → Bool) (f : α → β) (xs : List α) :
    lastPlace? p (xs.map f) = lastPlace? (p ∘ f) xs := by
  induction xs with
  | nil => rfl
  | cons x xs ih => simp [lastPlace?, ih]

/-! ## Halving -/

/-- The condition holds up to a place and not beyond. -/
def Parted (p : α → Bool) (xs : List α) (k : Nat) : Prop := ∀ i, holdsAt p xs i ↔ i < k

/-- The stretch begins at the first place or at one where the condition holds, and goes as far as
the condition holds. -/
theorem boundaryFrom_eq {k base size : Nat} (parted : Parted p xs k) (start : base = 0 ∨ base < k)
    (stop : k ≤ base + size) :
    boundaryFrom p xs base size = k := by
  fun_induction boundaryFrom p xs base size with
  | case1 base size long middle ih =>
    refine ih ?_ ?_
    · split
      next holds => exact .inr ((parted middle).1 holds)
      next => exact start
    · split
      next holds => omega
      next stops =>
        -- The condition fails in the middle, so the place is not behind it.
        have beyond := mt (parted middle).2 stops
        omega
  | case2 base size short holds =>
    have within := (parted base).1 holds
    omega
  | case3 base size short stops =>
    have beyond := mt (parted base).2 stops
    omega

/-- A list in which the condition holds of all that comes before something of which it holds is
parted somewhere. -/
theorem exists_parted (sorted : xs.Pairwise fun a b => p b → p a) :
    ∃ k, k ≤ xs.length ∧ Parted p xs k := by
  induction xs with
  | nil => exact ⟨0, le_rfl, by simp [Parted]⟩
  | cons x xs ih =>
    obtain ⟨first, rest⟩ := List.pairwise_cons.1 sorted
    by_cases hx : p x
    · obtain ⟨k, le, parted⟩ := ih rest
      refine ⟨k + 1, by simpa using le, fun i => ?_⟩
      cases i with
      | zero => simpa using hx
      | succ i => simpa using parted i
    · refine ⟨0, Nat.zero_le _, fun i => ?_⟩
      cases i with
      | zero => simpa using hx
      | succ i =>
        -- If the condition held further on it would hold of the first, too.
        have stops : ¬ holdsAt p xs i := by
          simp only [holdsAt, Option.any_eq_true]
          rintro ⟨y, hy, holds⟩
          exact hx (first y (List.mem_of_getElem? hy) holds)
        simpa using stops

theorem Parted.lastBefore {k : Nat} (parted : Parted p xs k) : lastBefore k = lastPlace? p xs := by
  unfold Lookup.lastBefore
  split
  next h => exact (lastPlace?_eq_none_iff.2 fun i => by simp [parted i, h]).symm
  next h =>
    exact (lastPlace?_eq_some_iff.2 ⟨(parted _).2 (by omega),
      fun j hj => mt (parted j).1 (by omega)⟩).symm

/-- In a sorted list halving finds what going through the list finds. -/
theorem lastBefore_boundary (sorted : xs.Pairwise fun a b => p b → p a) :
    lastBefore (boundary p xs) = lastPlace? p xs := by
  obtain ⟨k, le, parted⟩ := exists_parted sorted
  have found : boundary p xs = k := boundaryFrom_eq parted (.inl rfl) (by omega)
  rw [found, parted.lastBefore]

/-- In a sorted list the condition holds nowhere if it does not hold at the start. -/
theorem lastPlace?_eq_none_iff_head (sorted : xs.Pairwise fun a b => p b → p a) :
    lastPlace? p xs = none ↔ ∀ x ∈ xs.head?, ¬ p x := by
  obtain ⟨k, -, parted⟩ := exists_parted sorted
  have start : (∀ x ∈ xs.head?, ¬ p x) ↔ ¬ holdsAt p xs 0 := by cases xs <;> simp
  rw [start, parted 0, lastPlace?_eq_none_iff]
  constructor
  · intro nowhere
    exact mt (parted 0).2 (nowhere 0)
  · intro h i holds
    exact h (Nat.zero_lt_of_lt ((parted i).1 holds))

end

/-! ## Keys -/

/-- A key that can be put in order with others: it is not an empty cell, and not what is not a
number. -/
structure IsKey (k : Scalar) : Prop where
  filled : k ≠ .blank
  ordered : k.IsOrdered

section
variable {key : Scalar} {keys : List Scalar}

/-- Whether a key is at most the one looked for. -/
def notGreater (key k : Scalar) : Bool := k.AtMost key

/-- Whether a key is at least the one looked for. -/
def notLess (key k : Scalar) : Bool := key.AtMost k

theorem ascending_parts (filled : key ≠ .blank) (plain : ∀ k ∈ keys, IsKey k)
    (ascending : keys.Pairwise fun a b => a.AtMost b) :
    keys.Pairwise fun a b => notGreater key b → notGreater key a := by
  refine ascending.imp_of_mem fun {a b} ha hb ab below => ?_
  have below : b.AtMost key := of_decide_eq_true below
  exact decide_eq_true (Scalar.AtMost.trans (plain b hb).ordered (plain a ha).filled
    (plain b hb).filled filled ab below)

theorem descending_parts (filled : key ≠ .blank) (plain : ∀ k ∈ keys, IsKey k)
    (descending : keys.Pairwise fun a b => b.AtMost a) :
    keys.Pairwise fun a b => notLess key b → notLess key a := by
  refine descending.imp_of_mem fun {a b} ha hb ba above => ?_
  have above : key.AtMost b := of_decide_eq_true above
  exact decide_eq_true (Scalar.AtMost.trans (plain b hb).ordered filled (plain b hb).filled
    (plain a ha).filled above ba)

/-- A search by halving asks for a condition on values, but what it looks at are scalars. -/
theorem halving_eq {condition : Value → Bool} {p : Scalar → Bool}
    (same : ∀ k, condition (.scalar k) = p k) (sorted : keys.Pairwise fun a b => p b → p a) :
    lastBefore (boundary condition (keys.map .scalar)) = lastPlace? p keys := by
  obtain rfl : condition ∘ .scalar = p := funext same
  have values : (keys.map Value.scalar).Pairwise fun a b => condition b → condition a :=
    List.pairwise_map.2 sorted
  rw [lastBefore_boundary values, lastPlace?_map]

theorem ascending?_eq (sorted : keys.Pairwise fun a b => notGreater key b → notGreater key a) :
    ascending? (.scalar key) (keys.map .scalar) = lastPlace? (notGreater key) keys := by
  refine halving_eq (fun k => ?_) sorted
  show (k.compare key != .gt) = decide ((k.compare key).isLE = true)
  cases k.compare key <;> rfl

theorem descending?_eq (sorted : keys.Pairwise fun a b => notLess key b → notLess key a) :
    descending? (.scalar key) (keys.map .scalar) = lastPlace? (notLess key) keys := by
  refine halving_eq (fun k => ?_) sorted
  show (k.compare key != .lt) = decide ((key.compare k).isLE = true)
  rw [Scalar.compare_swap k key]
  cases k.compare key <;> rfl

/-! ## Calls -/

/-- The arguments of a search that trusts the order of a table, for the entry at an offset from
one. -/
inductive TableSearch (key : Scalar) (table : Block Value) (offset : Nat) : List Value → Prop
  | unmarked {sought source place : Value} (hkey : sought.unwrap = .scalar key)
      (htable : block source = .ok table)
      (hplace : position false place = .ok offset) :
      TableSearch key table offset [sought, source, place]
  | marked {sought source place approximate : Value} (hkey : sought.unwrap = .scalar key)
      (htable : block source = .ok table)
      (hplace : position false place = .ok offset) (happroximate : approximate.toBool = .ok true) :
      TableSearch key table offset [sought, source, place, approximate]

/-- The arguments of a search for a key among others in a row or column, in a mode. -/
inductive VectorSearch (key : Scalar) (keys : List Scalar) (mode : Float → Prop) : List Value → Prop
  | unmarked {sought source : Value} {table : Block Value} (hkey : sought.unwrap = .scalar key)
      (htable : block source = .ok table)
      (hkeys : table.vector? = some (keys.map .scalar)) (hmode : mode 1.0) :
      VectorSearch key keys mode [sought, source]
  | marked {sought source kind : Value} {table : Block Value} {x : Float}
      (hkey : sought.unwrap = .scalar key)
      (htable : block source = .ok table) (hkeys : table.vector? = some (keys.map .scalar))
      (hkind : kind.toNumber = .ok x)
      (hmode : mode x) : VectorSearch key keys mode [sought, source, kind]

variable {engine : Regex.Engine} {args : List Value} {table : Block Value} {offset : Nat}
  {mode : Float → Prop}

theorem keyOf_eq {v : Value} (h : v.unwrap = .scalar key) : keyOf v = .ok (.scalar key) := by
  unfold keyOf
  rw [h]

/-- What can be taken apart is no error, if errors are passed on. -/
theorem error?_of_ok {α : Type} {read : Value → Except ErrorCode α} {v : Value} {a : α}
    (passes : ∀ e, read (.error e) = .error e) (h : read v = .ok a) : v.error? = none := by
  cases v with
  | error e =>
    rw [passes] at h
    cases h
  | _ => rfl

theorem TableSearch.plain (search : TableSearch key table offset args) :
    ∀ v ∈ args, v.error? = none := by
  have passes (e : ErrorCode) : keyOf (.error e) = .error e := rfl
  cases search with
  | unmarked hkey htable hplace =>
    simp [error?_of_ok passes (keyOf_eq hkey), error?_of_ok (fun _ => rfl) htable,
      error?_of_ok (fun _ => rfl) hplace]
  | marked hkey htable hplace happroximate =>
    simp [error?_of_ok passes (keyOf_eq hkey), error?_of_ok (fun _ => rfl) htable,
      error?_of_ok (fun _ => rfl) hplace, error?_of_ok (fun _ => rfl) happroximate]

theorem VectorSearch.plain (search : VectorSearch key keys mode args) :
    ∀ v ∈ args, v.error? = none := by
  have passes (e : ErrorCode) : keyOf (.error e) = .error e := rfl
  cases search with
  | unmarked hkey htable hkeys hmode =>
    simp [error?_of_ok passes (keyOf_eq hkey), error?_of_ok (fun _ => rfl) htable]
  | marked hkey htable hkeys hkind hmode =>
    simp [error?_of_ok passes (keyOf_eq hkey), error?_of_ok (fun _ => rfl) htable,
      error?_of_ok (fun _ => rfl) hkind]

/-- A function that looks things up gives the first error among its arguments, if there are as
many as it takes, and otherwise what it makes of them. -/
theorem call_eq {name : String} {arity : Arity} {compute : List Value → Value} (c : Circumstances)
    (accepts : arity.accepts args.length) :
    (Function.ofArguments name arity .lookup compute).call c args =
      match args.findSome? Value.error? with
      | some e => .error e
      | none => compute args := by
  have accepted : (Function.ofArguments name arity .lookup compute).accepted args =
    ArgumentPolicy.lookup.apply args :=
    if_pos accepts
  unfold Function.call
  rw [accepted]
  simp only [ArgumentPolicy.apply]
  cases args.findSome? Value.error? with
  | none => rfl
  | some e => rfl

/-- A function that looks things up is given its arguments if there are as many as it takes and
none is an error. -/
theorem call_lookup {name : String} {arity : Arity} {compute : List Value → Value}
    (c : Circumstances) (accepts : arity.accepts args.length)
    (plain : ∀ v ∈ args, v.error? = none) :
    (Function.ofArguments name arity .lookup compute).call c args = compute args := by
  rw [call_eq c accepts, List.findSome?_eq_none_iff.2 plain]

/-- What the library's function of some name makes of arguments, whatever the circumstances. -/
def Answers (engine : Regex.Engine) (name : String) (args : List Value) (v : Value) : Prop :=
  ∃ f, (Registry.library engine).find? name = some f ∧ ∀ c : Circumstances, f.call c args = v

/-- A function of the library that looks things up answers with what it makes of its arguments, or
an error among them. -/
theorem answers {name spelling : String} {arity : Arity} {compute : List Value → Value}
    (found : (Registry.library engine).find? name =
      some (.ofArguments spelling arity .lookup compute))
    (accepts : arity.accepts args.length) :
    Answers engine name args (match args.findSome? Value.error? with
      | some e => .error e
      | none => compute args) :=
  ⟨_, found, fun c => call_eq c accepts⟩

theorem find?_vlookup : (Registry.library engine).find? "VLOOKUP" =
    some (.ofArguments "VLOOKUP" (.between 3 4) .lookup
      (Value.ofExcept ∘ inTable engine .vertical)) :=
  find?_library (by simp [Function.library, functions]) rfl

theorem find?_hlookup : (Registry.library engine).find? "HLOOKUP" =
    some (.ofArguments "HLOOKUP" (.between 3 4) .lookup
      (Value.ofExcept ∘ inTable engine .horizontal)) :=
  find?_library (by simp [Function.library, functions]) rfl

theorem find?_index : (Registry.library engine).find? "INDEX" =
    some (.ofArguments "INDEX" (.between 2 3) .lookup (Value.ofExcept ∘ index)) :=
  find?_library (by simp [Function.library, functions]) rfl

theorem find?_match : (Registry.library engine).find? "MATCH" =
    some (.ofArguments "MATCH" (.between 2 3) .lookup (Value.ofExcept ∘ positionOf engine)) :=
  find?_library (by simp [Function.library, functions]) rfl

theorem TableSearch.inTable_eq (orientation : Orientation)
    (search : TableSearch key table offset args) :
    inTable engine orientation args = lookUp engine orientation
    (.scalar key) table offset true := by
  cases search with
  | unmarked hkey htable hplace =>
    simp only [inTable, keyOf_eq hkey, htable, hplace]
    rfl
  | marked hkey htable hplace happroximate =>
    simp only [inTable, keyOf_eq hkey, htable, hplace, happroximate]
    rfl

/-- Where a key is found among others, in order or exactly. -/
def placeOf (engine : Regex.Engine) (approximate : Bool) (key : Value) (keys : List Value) :
    Option Nat :=
  if approximate then ascending? key keys else firstMatch? engine key keys

/-! ## Tables and tables turned -/

/-- Rows and columns change places when a table is turned, and so do a row and a column number. -/
theorem get?_transpose {α : Type} (b : Block α) (i j : Nat) :
    b.transpose.get? i j = b.get? j i := by
  unfold Block.get?
  by_cases inside : j < b.rows ∧ i < b.columns
  · have turned : i < b.transpose.rows ∧ j < b.transpose.columns := inside.symm
    rw [dif_pos inside, dif_pos turned]
    rfl
  · have turned : ¬ (i < b.transpose.rows ∧ j < b.transpose.columns) := fun h => inside h.symm
    rw [dif_neg inside, dif_neg turned]

/-- The first row of a table is the first column of the table turned. -/
theorem keys_transpose (table : Block Value) :
    Orientation.horizontal.keys table.transpose = Orientation.vertical.keys table := by
  show ((table.transpose.row? 0).getD []) = (table.column? 0).getD []
  by_cases first : 0 < table.columns
  · have turned : 0 < table.transpose.rows := first
    rw [Block.row?, Block.column?, dif_pos first, dif_pos turned]
    rfl
  · have turned : ¬ 0 < table.transpose.rows := first
    rw [Block.row?, Block.column?, dif_neg first, dif_neg turned]

theorem entry?_transpose (table : Block Value) (hit offset : Nat) :
    Orientation.horizontal.entry? table.transpose hit offset =
      Orientation.vertical.entry? table hit offset :=
  get?_transpose table offset hit

/-- A search along the rows of a table turned finds what a search down its columns finds. -/
theorem lookUp_transpose (k : Value) (table : Block Value) (offset : Nat) (approximate : Bool) :
    lookUp engine .horizontal k table.transpose offset approximate =
      lookUp engine .vertical k table offset approximate := by
  have width : Orientation.horizontal.width table.transpose = Orientation.vertical.width table :=
    rfl
  unfold lookUp
  simp only [keys_transpose, entry?_transpose, width]

/-- The table whose columns are searched: the table itself, or the table turned. -/
def Orientation.arrange : Orientation → Block Value → Block Value
  | .vertical => id
  | .horizontal => Block.transpose

/-- Whichever way a table is searched, it comes down to a search of columns. -/
theorem lookUp_arrange (orientation : Orientation) (k : Value) (table : Block Value) (offset : Nat)
    (approximate : Bool) : lookUp engine orientation k table offset approximate =
      lookUp engine .vertical k (orientation.arrange table) offset approximate := by
  cases orientation with
  | vertical => rfl
  | horizontal => exact lookUp_transpose k table.transpose offset approximate

/-- What is taken from a table at the place that its first column has for a key. -/
theorem lookUp_eq {k : Value} {values : List Value} (hkeys : table.column? 0 = some values)
    (j : Fin table.columns) (approximate : Bool) :
    lookUp engine .vertical k table (j + 1) approximate =
      match placeOf engine approximate k values with
      | none => .error .notAvailable
      | some i =>
        if h : i < table.rows then .ok (table.entry ⟨i, h⟩ j) else .error .badReference := by
  have keys : Orientation.vertical.keys table = values := by
    show (table.column? 0).getD [] = values
    rw [hkeys, Option.getD_some]
  have within : ¬ Orientation.vertical.width table < j + 1 := Nat.not_lt.2 j.isLt
  have entry (i : Nat) : Orientation.vertical.entry? table i j = table.get? i j := rfl
  unfold lookUp placeOf
  simp only [keys, if_neg within, Nat.add_sub_cancel]
  cases if approximate = true then ascending? k values else firstMatch? engine k values with
  | none => rfl
  | some i => by_cases h : i < table.rows <;> simp [entry, Block.get?, h]

/-- The first column of a table is as long as the table has rows. -/
theorem length_of_column? {values : List Value} (h : table.column? 0 = some values) :
    values.length = table.rows := by
  unfold Block.column? at h
  split at h
  · cases h
    exact List.length_ofFn
  · cases h

/-- How `MATCH` searches in a mode. -/
def searchIn (engine : Regex.Engine) (x : Float) (key : Value) (keys : List Value) : Option Nat :=
  if x == 0.0 then firstMatch? engine key keys
  else if 0.0 < x then ascending? key keys
  else descending? key keys

/-- `MATCH` counts the place it finds from one. -/
theorem VectorSearch.positionOf_eq (engine : Regex.Engine)
    (search : VectorSearch key keys mode args) :
    ∃ x, mode x ∧ positionOf engine args =
      match searchIn engine x (.scalar key) (keys.map .scalar) with
      | some i => .ok (.number (Float.ofNat (i + 1)))
      | none => .error .notAvailable := by
  cases search with
  | unmarked hkey htable hkeys hmode =>
    refine ⟨1.0, hmode, ?_⟩
    simp only [positionOf, keyOf_eq hkey, htable, hkeys, bind, Except.bind, pure, Except.pure]
    rfl
  | marked hkey htable hkeys hkind hmode =>
    refine ⟨_, hmode, ?_⟩
    simp only [positionOf, keyOf_eq hkey, htable, hkeys, hkind, bind, Except.bind, pure,
      Except.pure]
    rfl

/-- The function of some name on tables, which it turns so that the keys are the first column, takes
the entry of another column at a place, and has none to take without a place. -/
def TakesRow (engine : Regex.Engine) (name : String) (arrange : Block Value → Block Value)
    (key : Scalar) (keys : List Scalar) (place : Option Nat) : Prop :=
  ∃ f, (Registry.library engine).find? name = some f ∧
    ∀ (c : Circumstances) (table : Block Value) (j : Fin (arrange table).columns)
        (args : List Value),
      (arrange table).column? 0 = some (keys.map .scalar) → TableSearch key table (j + 1) args →
      match place with
      | none => f.call c args = .error .notAvailable
      | some i => ∃ h : i < (arrange table).rows, f.call c args = (arrange table).entry ⟨i, h⟩ j

/-- `MATCH` in some mode gives a place, counted from one, and has none to give without a place. -/
def GivesPlace (engine : Regex.Engine) (mode : Float → Prop) (key : Scalar) (keys : List Scalar)
    (place : Option Nat) : Prop :=
  ∃ f, (Registry.library engine).find? "MATCH" = some f ∧
    ∀ (c : Circumstances) (args : List Value), VectorSearch key keys mode args →
      f.call c args = match place with
        | some i => .number (Float.ofNat (i + 1))
        | none => .error .notAvailable

theorem takesRow {name : String} (orientation : Orientation) {p : Scalar → Bool}
    (found : (Registry.library engine).find? name =
      some (.ofArguments name (.between 3 4) .lookup (Value.ofExcept ∘ inTable engine orientation)))
    (searched : ascending? (.scalar key) (keys.map .scalar) = lastPlace? p keys) :
    TakesRow engine name orientation.arrange key keys (lastPlace? p keys) := by
  refine ⟨_, found, fun c table j args hkeys search => ?_⟩
  have accepts : (Arity.between 3 4).accepts args.length := by cases search <;> rfl
  rw [call_lookup c accepts search.plain, Function.comp, search.inTable_eq orientation,
    lookUp_arrange, lookUp_eq hkeys j true, placeOf, if_pos rfl, searched]
  cases place : lastPlace? p keys with
  | none => rfl
  | some i =>
    -- There are as many keys as rows, so the row is there.
    have within : i < (orientation.arrange table).rows := by
      rw [← length_of_column? hkeys, List.length_map]
      exact lt_length_of_holdsAt (lastPlace?_eq_some_iff.1 place).1
    refine ⟨within, ?_⟩
    simp only [dif_pos within]
    rfl

theorem givesPlace {place : Option Nat}
    (searched : ∀ x, mode x → searchIn engine x (.scalar key) (keys.map .scalar) = place) :
    GivesPlace engine mode key keys place := by
  refine ⟨_, find?_match, fun c args search => ?_⟩
  have accepts : (Arity.between 2 3).accepts args.length := by cases search <;> rfl
  obtain ⟨x, hmode, result⟩ := search.positionOf_eq engine
  rw [call_lookup c accepts search.plain, Function.comp, result, searched x hmode]
  cases place <;> rfl

/-- A number on either side of zero is not level with it. -/
theorem beq_zero_of_compare {x : Float} (h : compareNumbers x 0.0 ≠ .eq) : (x == 0.0) = false := by
  by_contra level
  have near := Binary64.near_of_beq (Bool.eq_true_of_not_eq_false level)
  have zero : Binary64.Near 0.0 0.0 := .inl rfl
  apply h
  unfold compareNumbers
  rw [if_neg (mt (near.lt zero).1 (by decide)), if_neg (mt (zero.lt near).1 (by decide))]

/-- In modes above zero `MATCH` takes the keys to be ascending. -/
theorem givesPlace_ascending {place : Option Nat}
    (searched : ascending? (.scalar key) (keys.map .scalar) = place) :
    GivesPlace engine (fun x => 0.0 < x) key keys place := by
  refine givesPlace fun x positive => ?_
  have order : compareNumbers 0.0 x = .lt := if_pos positive
  have nonzero : (x == 0.0) = false :=
    beq_zero_of_compare (by simp [compareNumbers_swap 0.0 x, order])
  simp only [searchIn, nonzero, positive, Bool.false_eq_true, if_true, if_false, searched]

/-- In modes below zero `MATCH` takes the keys to be descending. -/
theorem givesPlace_descending {place : Option Nat}
    (searched : descending? (.scalar key) (keys.map .scalar) = place) :
    GivesPlace engine (fun x => x < 0.0) key keys place := by
  refine givesPlace fun x negative => ?_
  have order : compareNumbers x 0.0 = .lt := if_pos negative
  have nonzero : (x == 0.0) = false := beq_zero_of_compare (by simp [order])
  have notPositive : ¬ 0.0 < x := fun positive => by
    have swapped := compareNumbers_swap x 0.0
    rw [order, compareNumbers, if_pos positive] at swapped
    cases swapped
  simp only [searchIn, nonzero, notPositive, Bool.false_eq_true, if_false, searched]

theorem notGreater_iff {k : Scalar} : ¬ notGreater key k ↔ k.compare key = .gt := by
  rw [notGreater, decide_eq_true_iff, Scalar.AtMost]
  cases k.compare key <;> simp

theorem notLess_iff {k : Scalar} : ¬ notLess key k ↔ k.compare key = .lt := by
  rw [notLess, decide_eq_true_iff, Scalar.not_atMost_iff]

/-- **An approximate search is a scan.** Whatever key is looked for that is not an empty cell,
among keys of all kinds in ascending order the search finds what going through them finds: the
last one that is not greater, and none just if the first is greater or there is none. Among keys
in descending order it finds the last one that is not less. That is the row that `VLOOKUP`, the
column that `HLOOKUP` and the position that `MATCH` then gives. -/
theorem approximate_search_is_scan (filled : key ≠ .blank) (plain : ∀ k ∈ keys, IsKey k) :
    ((keys.Pairwise fun a b => a.AtMost b) →
      let place := lastPlace? (notGreater key) keys
      ascending? (.scalar key) (keys.map .scalar) = place ∧
      (place = none ↔ ∀ k ∈ keys.head?, k.compare key = .gt) ∧
      TakesRow engine "VLOOKUP" id key keys place ∧
      TakesRow engine "HLOOKUP" Block.transpose key keys place ∧
      GivesPlace engine (fun x => 0.0 < x) key keys place) ∧
    ((keys.Pairwise fun a b => b.AtMost a) →
      let place := lastPlace? (notLess key) keys
      descending? (.scalar key) (keys.map .scalar) = place ∧
      (place = none ↔ ∀ k ∈ keys.head?, k.compare key = .lt) ∧
      GivesPlace engine (fun x => x < 0.0) key keys place) := by
  constructor
  · intro ascending place
    have parts := ascending_parts filled plain ascending
    have searched := ascending?_eq parts
    refine ⟨searched, ?_, takesRow .vertical find?_vlookup searched,
      takesRow .horizontal find?_hlookup searched, givesPlace_ascending searched⟩
    simp only [place, lastPlace?_eq_none_iff_head parts, notGreater_iff]
  · intro descending place
    have parts := descending_parts filled plain descending
    have searched := descending?_eq parts
    refine ⟨searched, ?_, givesPlace_descending searched⟩
    simp only [place, lastPlace?_eq_none_iff_head parts, notLess_iff]

/-- Among a number, texts that differ in case and truth values, the text is found at the last
place that has it, and zero between the number and the texts. -/
theorem approximate_search_is_scan_of_mixed :
    let keys : List Scalar := [.number (-1.5), .text "ab", .text "AB", .bool false, .bool true]
    ascending? (.text "Ab") (keys.map .scalar) = some 2 ∧
    descending? (.number 0.0) (keys.reverse.map .scalar) = some 3 ∧
    TakesRow .standard "VLOOKUP" id (.text "Ab") keys (some 2) ∧
    GivesPlace .standard (fun x => x < 0.0) (.number 0.0) keys.reverse (some 3) := by
  intro keys
  have plain : ∀ k ∈ keys, IsKey k := by
    have number : (-1.5 : Float) ≠ .nan := Float.beq_self_iff.1 rfl
    simp only [keys, List.forall_mem_cons, List.not_mem_nil, false_implies, implies_true, and_true]
    exact ⟨⟨nofun, number⟩, ⟨nofun, trivial⟩, ⟨nofun, trivial⟩, ⟨nofun, trivial⟩, ⟨nofun, trivial⟩⟩
  have text : Scalar.text "Ab" ≠ .blank := nofun
  have zero : Scalar.number 0.0 ≠ .blank := nofun
  obtain ⟨up, -, rows, -, -⟩ := (approximate_search_is_scan text plain).1 (by decide +kernel)
  obtain ⟨down, -, counted⟩ :=
    (approximate_search_is_scan zero fun k hk => plain k (List.mem_reverse.1 hk)).2
      (by decide +kernel)
  have second : lastPlace? (notGreater (.text "Ab")) keys = some 2 := by decide +kernel
  have third : lastPlace? (notLess (.number 0.0)) keys.reverse = some 3 := by decide +kernel
  exact ⟨up.trans second, down.trans third, second ▸ rows, third ▸ counted⟩

end

end Spreadsheet.Lookup
