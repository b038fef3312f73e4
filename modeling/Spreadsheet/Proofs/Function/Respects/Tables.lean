import Mathlib
import Spreadsheet.Proofs.Function.Lookup
import Spreadsheet.Proofs.Function.Respects.Basic

/-!
# `Proofs/Function/Respects/Tables.lean` — searches in alike tables

A search compares keys and goes by nothing else, so that it ends at one place in alike tables, and
what is there is alike. A criterion is met by alike cells; a conditional total of what it chooses
is a number that nothing checks, so that every number must be allowed in its result.

A horizontal search is a vertical one in the table turned, so it is enough to have looked at the
latter (`lookUp_alike`). A criterion is alike to itself and to that of an alike value, and what it
says of a cell depends on the order of scalars, which tells no alike ones apart (`order_eq`).
-/

set_option autoImplicit false

namespace Spreadsheet

open Binary64 (Near)
open Argument

variable {engine : Regex.Engine} {α β : Type} {A : Allowance} {S : α → β → Prop} {xs : List α}
    {ys : List β} {v v' : Value} {args args' : List Value}

/-! ## Lookups -/

namespace Lookup

variable {key key' : Value} {keys keys' : List Value} {table table' : Block Value} {i j : Nat}

/-- A key is what is unwrapped from an argument, unless it is an error. -/
theorem keyOf_alike (h : v.Alike A v') :
    RelatedOutcome (Value.Alike A) (Value.Alike A) (keyOf v) (keyOf v') := by
  have unwrapped := h.unwrap
  unfold keyOf
  generalize v.unwrap = u at unwrapped
  generalize v'.unwrap = u' at unwrapped
  cases unwrapped with
  | scalar h => exact .ok (.scalar h)
  | error allowed => exact .error (.error allowed)
  | block h => exact .ok (.block h)

theorem position_alike (zeroAllowed : Bool) (h : v.Alike A v') :
    RelatedOutcome (Value.Alike A) Eq (position zeroAllowed v) (position zeroAllowed v') := by
  refine h.near.bind fun near => ?_
  have part := near.truncate
  simp only [part.lt (.refl 0.0), part.beq (.refl 0.0), part.toCount]
  split
  · exact .refused (by decide)
  · exact .ok rfl

/-! ### Searches -/

/-- Only texts are patterns, and alike texts are the same. -/
theorem pattern?_congr (h : key.Alike A key') : pattern? engine key = pattern? engine key' := by
  cases h with
  | scalar h => cases h <;> rfl
  | _ => rfl

theorem fits_congr {test : String → Bool} (h : v.Alike A v') : fits test v = fits test v' := by
  cases h with
  | scalar h => cases h <;> rfl
  | _ => rfl

theorem firstMatch?_congr (hk : key.Alike A key') (h : List.Forall₂ (Value.Alike A) keys keys') :
    firstMatch? engine key keys = firstMatch? engine key' keys' := by
  unfold firstMatch?
  rw [pattern?_congr hk]
  split
  · exact findIdx?_eq_of_forall₂ h fits_congr
  · exact findIdx?_eq_of_forall₂ h fun hv => hv.isLevel_eq hk

/-- A search by halves looks at nothing but whether a condition holds at some places. -/
theorem boundaryFrom_congr {p : α → Bool} {q : β → Bool}
    (same : ∀ i, holdsAt p xs i = holdsAt q ys i) (base size : Nat) :
    boundaryFrom p xs base size = boundaryFrom q ys base size := by
  fun_induction boundaryFrom p xs base size with
  | case1 base size more middle ih =>
    simp only [dite_eq_ite] at ih
    rw [ih, boundaryFrom.eq_def q ys base, if_pos more]
    simp only [same, middle]
  | case2 base size few holds => rw [boundaryFrom, if_neg few, if_pos (same base ▸ holds)]
  | case3 base size few fails => rw [boundaryFrom, if_neg few, if_neg (same base ▸ fails)]

/-- A search by halving ends at the same place if its condition is the same. -/
theorem boundary_congr {p : α → Bool} {q : β → Bool} (h : List.Forall₂ S xs ys)
    (same : ∀ {x y}, S x y → p x = q y) :
    boundary p xs = boundary q ys := by
  have holds : ∀ i, holdsAt p xs i = holdsAt q ys i := by
    intro i
    have place := optionRel_getElem? h i
    unfold holdsAt
    generalize xs[i]? = x at place
    generalize ys[i]? = y at place
    cases place with
    | some s => exact same s
    | none => rfl
  unfold boundary
  rw [h.length_eq, boundaryFrom_congr holds]

theorem ascending?_congr (hk : key.Alike A key') (h : List.Forall₂ (Value.Alike A) keys keys') :
    ascending? key keys = ascending? key' keys' :=
  congrArg lastBefore (boundary_congr h fun hv => by rw [hv.compare_eq hk])

theorem descending?_congr (hk : key.Alike A key') (h : List.Forall₂ (Value.Alike A) keys keys') :
    descending? key keys = descending? key' keys' :=
  congrArg lastBefore (boundary_congr h fun hv => by rw [hv.compare_eq hk])

/-- The kind of search depends on the sign of a number, which zeros share. -/
theorem searched_congr {x y : Float} (hk : key.Alike A key')
    (h : List.Forall₂ (Value.Alike A) keys keys') (near : Near x y) :
    (if x == 0.0 then firstMatch? engine key keys else if 0.0 < x then ascending? key keys
        else descending? key keys) =
      if y == 0.0 then firstMatch? engine key' keys' else if 0.0 < y then ascending? key' keys'
      else descending? key' keys' := by
  simp only [near.beq (.refl 0.0), Binary64.Near.lt (.refl 0.0) near, firstMatch?_congr hk h,
    ascending?_congr hk h, descending?_congr hk h]

/-! ### Functions -/

theorem lookUp_vertical_alike {offset : Nat} {approximate : Bool} (hk : key.Alike A key')
    (ht : table.Alike A table') :
    RelatedOutcome (Value.Alike A) (Value.Alike A)
      (lookUp engine .vertical key table offset approximate)
      (lookUp engine .vertical key' table' offset approximate) := by
  have keys : List.Forall₂ (Value.Alike A) (Orientation.vertical.keys table)
      (Orientation.vertical.keys table') := ht.getD_column?
  have columns : Orientation.vertical.width table = Orientation.vertical.width table' := by
    cases ht
    rfl
  unfold lookUp
  dsimp only
  rw [columns, ascending?_congr hk keys, firstMatch?_congr hk keys]
  split
  · exact .refused (by decide)
  split
  · exact .refused (by decide)
  -- The place is one and the same, and what is there is alike.
  next hit _ =>
    have found : Option.Rel (Value.Alike A)
        (Orientation.vertical.entry? table hit (offset - 1))
        (Orientation.vertical.entry? table' hit (offset - 1)) := ht.get?
    generalize Orientation.vertical.entry? table _ _ = x at found
    generalize Orientation.vertical.entry? table' _ _ = y at found
    cases found with
    | some alike => exact .ok alike
    | none => exact .refused (by decide)

/-- A table turned has the same entries. -/
theorem arrange_alike (orientation : Orientation) (h : table.Alike A table') :
    (orientation.arrange table).Alike A (orientation.arrange table') := by
  cases orientation with
  | vertical => exact h
  | horizontal => exact h.transpose

theorem lookUp_alike (orientation : Orientation) {offset : Nat} {approximate : Bool}
    (hk : key.Alike A key') (ht : table.Alike A table') :
    RelatedOutcome (Value.Alike A) (Value.Alike A)
      (lookUp engine orientation key table offset approximate)
      (lookUp engine orientation key' table' offset approximate) := by
  rw [lookUp_arrange, lookUp_arrange orientation key']
  exact lookUp_vertical_alike hk (arrange_alike orientation ht)

theorem inTable_alike (orientation : Orientation) (h : List.Forall₂ (Value.Alike A) args args') :
    RelatedOutcome (Value.Alike A) (Value.Alike A) (inTable engine orientation args)
      (inTable engine orientation args') := by
  match h with
  | .nil => exact .refused (by decide)
  | .cons _ .nil => exact .refused (by decide)
  | .cons _ (.cons _ .nil) => exact .refused (by decide)
  | .cons hk (.cons ht (.cons ho flag)) =>
    refine (keyOf_alike hk).bind fun key => (block_alike ht).bind fun table =>
      (position_alike false ho).bind_eq fun offset => ?_
    cases flag with
    | nil => exact lookUp_alike orientation key table
    | cons flag _ =>
      exact flag.toBool.bind_eq fun approximate => lookUp_alike orientation key table

theorem inVector_alike {p : Nat} (h : table.Alike A table') :
    RelatedOutcome (Value.Alike A) (Value.Alike A) (inVector table p) (inVector table' p) := by
  unfold inVector
  split
  · exact .ok h
  have entry := optionRel_getElem? h.cells (p - 1)
  generalize table.cells[p - 1]? = x at entry
  generalize table'.cells[p - 1]? = y at entry
  cases entry with
  | some alike => exact .ok alike
  | none => exact .refused (by decide)

/-- An entry, a row, a column or all of a block. -/
theorem inBlock_alike {row column : Nat} (h : table.Alike A table') :
    RelatedOutcome (Value.Alike A) (Value.Alike A) (inBlock table row column)
    (inBlock table' row column) := by
  cases h with
  | block h =>
    unfold inBlock
    dsimp only
    split_ifs
    · exact .ok (.block h)
    · exact .ok (.block fun _ _ => h _ _)
    · exact .ok (.block fun _ _ => h _ _)
    · exact .ok (h _ _)
    · exact .refused (by decide)

theorem index_alike (h : List.Forall₂ (Value.Alike A) args args') :
    RelatedOutcome (Value.Alike A) (Value.Alike A) (index args) (index args') := by
  match h with
  | .nil => exact .refused (by decide)
  | .cons _ .nil => exact .refused (by decide)
  | .cons ht (.cons hp .nil) =>
    refine (block_alike ht).bind fun {table table'} alike =>
      (position_alike true hp).bind_eq fun p => ?_
    -- Alike blocks have the same numbers of rows and columns.
    have shape : table.isVector = table'.isVector := by
      cases alike
      rfl
    rw [shape]
    split
    · exact inVector_alike alike
    · exact inBlock_alike alike
  | .cons ht (.cons hr (.cons hc .nil)) =>
    exact (block_alike ht).bind fun table => (position_alike true hr).bind_eq fun row =>
      (position_alike true hc).bind_eq fun column => inBlock_alike table
  | .cons _ (.cons _ (.cons _ (.cons _ _))) => exact .refused (by decide)

/-- Places that are found alike are counted alike. -/
theorem placed {found found' : Option Nat} : found = found' →
    RelatedOutcome (Value.Alike A) (Value.Alike A)
      (match found with
        | some i => .ok (.number (Float.ofNat (i + 1)))
        | none => .error .notAvailable)
      (match found' with
        | some i => .ok (.number (Float.ofNat (i + 1)))
        | none => .error .notAvailable) := by
  rintro rfl
  cases found with
  | some i => exact .ok (Value.alike_ofInt (Int.ofNat _))
  | none => exact .refused (by decide)

theorem positionOf_alike (h : List.Forall₂ (Value.Alike A) args args') :
    RelatedOutcome (Value.Alike A) (Value.Alike A) (positionOf engine args)
    (positionOf engine args') := by
  match h with
  | .nil => exact .refused (by decide)
  | .cons _ .nil => exact .refused (by decide)
  | .cons hk (.cons ht kind) =>
    refine (keyOf_alike hk).bind fun key => (block_alike ht).bind fun {table table'} alike => ?_
    have shape : table.isVector = table'.isVector := by
      cases alike
      rfl
    unfold Block.vector?
    rw [shape]
    cases table'.isVector with
    | false => exact .refused (by decide)
    | true =>
      -- The kind of search is given, or it is the one for ascending keys.
      cases kind with
      | nil => exact placed (searched_congr key alike.cells (.refl 1.0))
      | cons kind _ => exact kind.near.bind fun near => placed (searched_congr key alike.cells near)

theorem respects : ∀ f ∈ functions engine, f.Respects A := by
  simp only [functions, List.forall_mem_cons]
  refine ⟨?vertical, ?horizontal, ?index, ?positionOf, List.forall_mem_nil _⟩
  case vertical => exact respects_of_values (inTable_alike .vertical)
  case horizontal => exact respects_of_values (inTable_alike .horizontal)
  case index => exact respects_of_values index_alike
  case positionOf => exact respects_of_values positionOf_alike

end Lookup

/-! ## Criteria -/

namespace Criterion

/-- Criteria of one kind, with alike operands. -/
inductive Alike (A : Allowance) : Criterion → Criterion → Prop where
  | compare (op : Comparison) {s t : Scalar} (h : s.Alike A t) :
      Alike A (.compare op s) (.compare op t)
  | pattern (test : String → Bool) (negated : Bool) :
      Alike A (.pattern test negated) (.pattern test negated)

/-- What a criterion compares with is a number that was read, and so a finite one. -/
theorem ofText_alike (s : String) : (ofText engine s).Alike A (ofText engine s) := by
  -- A number in the text of a criterion is finite, so it is allowed.
  have operand : ∀ s, (operand s).Alike A (operand s) := by
    intro s
    unfold Criterion.operand
    split
    next x hx => exact .number (.refl x) (A.number_of_isFinite (NumericText.isFinite_of_read? hx))
    next =>
      split
      · exact .bool true
      split
      · exact .bool false
      · exact .text s
  unfold ofText
  dsimp only
  split
  next test _ => exact .pattern test _
  next => exact .compare _ (operand _)

theorem ofValue_alike (h : v.Alike A v') :
    RelatedOutcome (Value.Alike A) (Criterion.Alike A) (ofValue engine v) (ofValue engine v') := by
  refine h.scalar?.bind fun h => ?_
  cases h with
  | number near allowed => exact .ok (.compare _ (.number near allowed))
  | text s => exact .ok (ofText_alike s)
  | bool b => exact .ok (.compare _ (.bool b))
  | blank => exact .ok (.compare _ (.text ""))

theorem orderNumbers_near {x x' y y' : Float} (hx : Near x x') (hy : Near y y') :
    orderNumbers x y = orderNumbers x' y' := by
  unfold orderNumbers
  simp only [hx.lt hy, hy.lt hx, hx.beq hy]

/-- Alike scalars stand in the same order to alike ones. -/
theorem order_eq {s t : Scalar} (hv : v.Alike A v') (hs : s.Alike A t) :
    order v s = order v' t := by
  cases hv with
  | scalar h =>
    cases h with
    | number near _ =>
      cases hs with
      | number near' _ => exact orderNumbers_near near near'
      | _ => rfl
    -- A text in a cell is compared with a number by the number that it spells.
    | text x =>
      cases hs with
      | number near _ =>
        show (NumericText.read? x.toList).bind _ = (NumericText.read? x.toList).bind _
        simp only [orderNumbers_near (.refl _) near]
      | _ => rfl
    | _ => cases hs <;> rfl
  | _ => cases hs <;> rfl

theorem fits_eq {test : String → Bool} (h : v.Alike A v') : fits test v = fits test v' := by
  cases h with
  | scalar h =>
    have text := h.toText_eq
    cases h with
    | blank => rfl
    | _ => exact congrArg test text
  | _ => rfl

/-- Alike criteria are met by alike cells. -/
theorem isMet_eq {k k' : Criterion} (hk : k.Alike A k') (hv : v.Alike A v') :
    k.isMet v = k'.isMet v' := by
  cases hk with
  | compare op h =>
    show op.holds _ = op.holds _
    rw [order_eq hv h]
  | pattern test negated =>
    show (fits test v != negated) = (fits test v' != negated)
    rw [fits_eq hv]

theorem addend?_alike (h : v.Alike A v') :
    RelatedOutcome (Value.Alike A) (Option.Rel Near) (addend? v) (addend? v') := by
  cases h with
  | scalar h =>
    cases h with
    | number near _ => exact .ok (.some near)
    | _ => exact .ok .none
  | error allowed => exact .error (.error allowed)
  | block _ => exact .ok .none

/-- What is looked at, for alike arguments: alike cells, alike criteria, and alike values beside
the cells. -/
theorem arguments_alike (h : List.Forall₂ (Value.Alike A) args args') :
    RelatedOutcome (Value.Alike A) (fun a a' => a.1.Alike A a'.1 ∧ a.2.1.Alike A a'.2.1 ∧
        a.2.2.Alike A a'.2.2)
      (arguments engine args) (arguments engine args') := by
  match h with
  | .nil => exact .refused (by decide)
  | .cons _ .nil => exact .refused (by decide)
  | .cons hv (.cons hk rest) =>
    refine (block_alike hv).bind fun {cells cells'} same =>
      (ofValue_alike hk).bind fun criterion => ?_
    cases rest with
    | nil => exact .ok ⟨same, criterion, same⟩
    | cons values _ =>
      refine (block_alike values).bind fun {values values'} beside => ?_
      -- Whether the two blocks have one shape depends on their numbers of rows and columns.
      have rows : (values.rows = cells.rows ∧ values.columns = cells.columns) =
          (values'.rows = cells'.rows ∧ values'.columns = cells'.columns) := by
        cases same
        cases beside
        rfl
      simp only [rows]
      split
      · exact .ok ⟨same, criterion, beside⟩
      · exact .refused (by decide)

/-- The cells that meet a criterion are at the same places. -/
theorem matchedNumbers_alike (h : List.Forall₂ (Value.Alike A) args args') :
    RelatedOutcome (Value.Alike A) (List.Forall₂ Near) (matchedNumbers engine args)
    (matchedNumbers engine args') := by
  refine (arguments_alike h).bind fun {a a'} alike => ?_
  obtain ⟨cells, criterion, values⟩ := a
  obtain ⟨cells', criterion', values'⟩ := a'
  obtain ⟨cells, met, values⟩ := alike
  have chosen :=
    List.rel_filter (p := fun x => criterion.isMet x.1) (q := fun x => criterion'.isMet x.1)
    (fun _ _ same => Bool.eq_iff_iff.1 (isMet_eq met same.1)) (forall₂_zip cells.cells values.cells)
  exact (RelatedOutcome.mapM chosen fun same => addend?_alike same.2).bind fun found =>
    .ok (forall₂_filterMap found)

theorem sumIf_alike (all : ∀ x, A.number x) (h : List.Forall₂ (Value.Alike A) args args') :
    (sumIf engine args).Alike A (sumIf engine args') :=
  ((matchedNumbers_alike h).map fun near => .scalar (.number (sum_near near) (all _))).ofExcept

theorem averageIf_alike (all : ∀ x, A.number x) (h : List.Forall₂ (Value.Alike A) args args') :
    (averageIf engine args).Alike A (averageIf engine args') :=
  (((matchedNumbers_alike h).bind mean_near).map fun near =>
    .scalar (.number near (all _))).ofExcept

theorem countIf_alike (h : List.Forall₂ (Value.Alike A) args args') :
    (countIf engine args).Alike A (countIf engine args') := by
  match h with
  | .nil => exact Value.alike_error (by decide)
  | .cons _ .nil => exact Value.alike_error (by decide)
  | .cons hv (.cons hk .nil) =>
    refine RelatedOutcome.ofExcept
      ((block_alike hv).bind fun cells => (ofValue_alike hk).bind fun criterion => .ok ?_)
    rw [countP_eq_of_forall₂ cells.cells (isMet_eq criterion)]
    exact Value.alike_ofInt (Int.ofNat _)
  | .cons _ (.cons _ (.cons _ _)) => exact Value.alike_error (by decide)

theorem respects :
    ∀ f ∈ functions engine, (f.name ≠ "COUNTIF" → ∀ x, A.number x) → f.Respects A := by
  simp only [functions, List.forall_mem_cons]
  have total : Text.latinUpper "SUMIF" ≠ "COUNTIF" := by decide
  have mean : Text.latinUpper "AVERAGEIF" ≠ "COUNTIF" := by decide
  refine ⟨?sumIf, ?countIf, ?averageIf, List.forall_mem_nil _⟩
  case sumIf => exact fun all => respects_of_arguments (sumIf_alike (all total))
  case countIf => exact fun _ => respects_of_arguments countIf_alike
  case averageIf => exact fun all => respects_of_arguments (averageIf_alike (all mean))

end Criterion

end Spreadsheet
