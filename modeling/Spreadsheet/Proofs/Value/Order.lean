import Mathlib
import Spreadsheet.Evaluation
import Spreadsheet.Proofs.Number.Order

/-!
# `Proofs/Value/Order.lean` — which values are in order

Any two scalars are in order, and as long as no cell is empty "at most" can be chained: the kinds
come one after the other, and within a kind there is one order. An empty cell takes the part that
suits its opponent, and so it is level with zero, with the empty text and with false at once,
although these come one after the other. That is the only way in which a chain can lead back to
where it was: it goes down from a text or a truth value through an empty cell to a value of an
earlier kind. Whether this happens depends on which values are compared (`Unbridged`), and where
it does not, formulas find no cycle either (`comparison_is_transitive_iff`).

Which pairs are in order is written out for each pair of kinds. What goes wrong goes wrong at
empty cells only: one is level with zero, with false and with the empty text, which are not level
with each other.
-/

set_option autoImplicit false

namespace Spreadsheet

/-! ## Within a kind -/

instance : Std.TransCmp compareTexts := inferInstanceAs (Std.TransCmp (compareOn Text.lowered))

instance : Std.TransCmp compareBools where
  eq_swap {a b} := by cases a <;> cases b <;> rfl
  isLE_trans {a b c} ab bc := by cases a <;> cases b <;> cases c <;> trivial

/-- No character vanishes in lower case. -/
theorem Text.lowerChar_ne_nil (c : Char) : lowerChar c ≠ [] := by
  unfold lowerChar
  split
  next image found =>
    obtain ⟨before, after, special, -⟩ := List.lookup_eq_some_iff.1 found
    have all : ∀ entry ∈ lowerSpecials, entry.2 ≠ [] := by decide
    have nonempty : image ≠ [] := all _ (special ▸ List.mem_append_right before List.mem_cons_self)
    simpa using nonempty
  next => simp

theorem Text.eq_empty_of_lowered {s : String} (h : lowered s = "") : s = "" := by
  have h : lower s.toList = [] := String.ofList_eq_empty_iff.1 h
  rw [← String.toList_eq_nil_iff]
  cases hs : s.toList with
  | nil => rfl
  | cons c rest =>
    rw [hs] at h
    have first := (List.append_eq_nil_iff.1 h).1
    split at first
    · cases first
    · exact absurd first (lowerChar_ne_nil c)

/-- No text comes before the empty one. -/
theorem compareTexts_empty (s : String) : (compareTexts "" s).isLE := by
  show (compare "" (Text.lowered s)).isLE
  rw [Ordering.isLE_iff_ne_gt, compare_gt_iff_gt, String.lt_iff_toList_lt]
  exact List.not_lt_nil _

/-- No other text is level with the empty one. -/
theorem eq_empty_of_compareTexts {s : String} (h : (compareTexts s "").isLE) : s = "" := by
  have level : compareTexts s "" = .eq := Std.OrientedCmp.isLE_antisymm h (compareTexts_empty s)
  exact Text.eq_empty_of_lowered (Std.LawfulEqOrd.eq_of_compare level)

namespace Scalar

variable {a b c : Scalar} {values : Set Scalar}

/-! ## Any two scalars -/

/-- Everything but what is not a number. -/
def IsOrdered : Scalar → Prop
  | .number x => x ≠ .nan
  | _ => True

/-- The scalar does not come after the other. -/
def AtMost (a b : Scalar) : Prop := (a.compare b).isLE

instance : Decidable (AtMost a b) := inferInstanceAs (Decidable (_ = true))

theorem zero_ne_nan : (0.0 : Float) ≠ .nan := by
  rw [← Float.beq_self_iff]
  rfl

theorem compare_swap (a b : Scalar) : b.compare a = (a.compare b).swap := by
  have texts (s t : String) : compareTexts t s = (compareTexts s t).swap := Std.OrientedCmp.eq_swap
  have bools (p q : Bool) : compareBools q p = (compareBools p q).swap := Std.OrientedCmp.eq_swap
  cases a with
  | number x =>
    cases b with
    | number y => exact compareNumbers_swap x y
    | blank => exact compareNumbers_swap x 0.0
    | _ => rfl
  | text s =>
    cases b with
    | text t => exact texts s t
    | blank => exact texts s ""
    | _ => rfl
  | bool p =>
    cases b with
    | bool q => exact bools p q
    | blank => exact bools p false
    | _ => rfl
  | blank =>
    cases b with
    | number y => exact compareNumbers_swap 0.0 y
    | text t => exact texts "" t
    | bool q => exact bools false q
    | blank => rfl

theorem atMost_of_not (h : ¬ a.AtMost b) : b.AtMost a := by
  unfold AtMost at *
  rw [compare_swap a b]
  cases hab : a.compare b <;> simp_all

theorem not_atMost_iff : ¬ b.AtMost a ↔ a.compare b = .lt := by
  unfold AtMost
  rw [compare_swap a b]
  cases a.compare b <;> simp

theorem atMost_self (a : Scalar) : a.AtMost a := by
  by_contra h
  exact h (atMost_of_not h)

/-! ## Kinds -/

/-- How many kinds come before that of a scalar. A blank counts as a number here, and is told
apart where it matters. -/
def rank : Scalar → Nat
  | .number _ | .blank => 0
  | .text _ => 1
  | .bool _ => 2

/-- A value of an earlier kind comes first. -/
theorem compare_of_rank_lt (ha : a ≠ .blank) (hb : b ≠ .blank) (h : a.rank < b.rank) :
    a.compare b = .lt := by
  cases a with
  | blank => exact absurd rfl ha
  | number x =>
    cases b with
    | blank => exact absurd rfl hb
    | number y => cases h
    | text t => rfl
    | bool q => rfl
  | text s =>
    cases b with
    | bool q => rfl
    | _ => simp [rank] at h
  | bool p => cases b <;> simp [rank] at h

theorem rank_le_of_atMost (ha : a ≠ .blank) (hb : b ≠ .blank) (ab : a.AtMost b) :
    a.rank ≤ b.rank := by
  by_contra later
  exact not_atMost_iff.2 (compare_of_rank_lt hb ha (not_le.1 later)) ab

/-- Without empty cells, "at most" can be chained. Only the value between has to be ordered. -/
theorem AtMost.trans (ob : b.IsOrdered) (ha : a ≠ .blank) (hb : b ≠ .blank) (hc : c ≠ .blank)
    (ab : a.AtMost b) (bc : b.AtMost c) : a.AtMost c := by
  have first := rank_le_of_atMost ha hb ab
  have second := rank_le_of_atMost hb hc bc
  rcases (first.trans second).lt_or_eq with earlier | same
  · rw [AtMost, compare_of_rank_lt ha hc earlier]
    rfl
  -- What is left is three values of one kind.
  cases a with
  | blank => exact absurd rfl ha
  | number x =>
    cases b with
    | number y =>
      cases c with
      | number z => exact compareNumbers_trans ob ab bc
      | blank => exact absurd rfl hc
      | _ => cases same
    | blank => exact absurd rfl hb
    | _ => simp only [rank] at *; omega
  | text s =>
    cases b with
    | text t =>
      cases c with
      | text r =>
        have st : (compareTexts s t).isLE := ab
        have tr : (compareTexts t r).isLE := bc
        have sr : (compareTexts s r).isLE := Std.TransCmp.isLE_trans st tr
        exact sr
      | _ => cases same
    | _ => simp only [rank] at *; omega
  | bool p =>
    cases b with
    | bool q =>
      cases c with
      | bool r =>
        have pq : (compareBools p q).isLE := ab
        have qr : (compareBools q r).isLE := bc
        have pr : (compareBools p r).isLE := Std.TransCmp.isLE_trans pq qr
        exact pr
      | _ => cases same
    | _ => simp only [rank] at *; omega

/-! ## Empty cells -/

/-- What an empty cell stands for beside a scalar. -/
def counterpart : Scalar → Scalar
  | .number _ => .number 0.0
  | .text _ => .text ""
  | .bool _ => .bool false
  | .blank => .blank

theorem compare_blank (a : Scalar) : a.compare .blank = a.compare a.counterpart := by
  cases a <;> rfl

theorem blank_compare (a : Scalar) : blank.compare a = a.counterpart.compare a := by cases a <;> rfl

theorem counterpart_ne_blank (ha : a ≠ .blank) : a.counterpart ≠ .blank := by
  cases a with
  | blank => exact absurd rfl ha
  | _ => simp [counterpart]

theorem counterpart_eq (ha : a ≠ .blank) (hb : b ≠ .blank) (same : a.rank = b.rank) :
    a.counterpart = b.counterpart := by
  cases a <;> cases b <;> simp_all [rank, counterpart]

/-- Texts and truth values do not come before an empty cell. -/
theorem blank_atMost_of_rank (h : 0 < a.rank) : blank.AtMost a := by
  cases a with
  | text s => exact compareTexts_empty s
  | bool p => cases p <;> rfl
  | _ => cases h

/-- What is above something above an empty cell is above the empty cell. -/
theorem blank_atMost_trans (ob : b.IsOrdered) (hb : b ≠ .blank) (hc : c ≠ .blank)
    (above : blank.AtMost b) (bc : b.AtMost c) :
    blank.AtMost c := by
  rcases (rank_le_of_atMost hb hc bc).lt_or_eq with later | same
  · exact blank_atMost_of_rank (Nat.zero_lt_of_lt later)
  · rw [AtMost, blank_compare, counterpart_eq hb hc same] at *
    exact AtMost.trans ob (counterpart_ne_blank hc) hb hc above bc

/-- What is below something of its own kind below an empty cell is below the empty cell. -/
theorem atMost_blank_trans (ob : b.IsOrdered) (ha : a ≠ .blank) (hb : b ≠ .blank)
    (same : a.rank = b.rank) (ab : a.AtMost b) (below : b.AtMost blank) : a.AtMost blank := by
  rw [AtMost, compare_blank] at *
  rw [counterpart_eq ha hb same]
  exact AtMost.trans ob ha hb (counterpart_ne_blank hb) ab below

/-- No empty cell among the values leads from a value back to one of an earlier kind: beside it
there is not false with a text, and neither false nor the empty text with a number that is zero or
more. -/
structure Unbridged (values : Set Scalar) : Prop where
  texts (s : String) : blank ∈ values → text s ∈ values → bool false ∉ values
  numbers (x : Float) : blank ∈ values → number x ∈ values → ¬ x < 0.0 →
  text "" ∉ values ∧ bool false ∉ values

/-- An empty cell is at most the numbers that are not below zero. -/
theorem blank_atMost_number {x : Float} : blank.AtMost (number x) ↔ ¬ x < 0.0 := by
  have below : (number x).compare blank = .lt ↔ x < 0.0 := by
    show compareNumbers x 0.0 = .lt ↔ _
    unfold compareNumbers
    split
    · simp [*]
    · split <;> simp [*]
  rw [← not_iff_not, not_not, not_atMost_iff, below]

/-- Values are unbridged if "at most" can be chained through the empty cells among them. -/
theorem unbridged_iff :
    Unbridged values ↔ (blank ∈ values → ∀ x ∈ values, ∀ y ∈ values, blank.AtMost x →
      y.AtMost blank → y.AtMost x) := by
  constructor
  · intro unbridged hblank x hx y hy above below
    cases y with
    | blank => exact above
    | number v =>
      cases x with
      | blank => exact below
      | number u => exact compareNumbers_trans zero_ne_nan below above
      | text s => rfl
      | bool p => rfl
    | text t =>
      obtain rfl : t = "" := eq_empty_of_compareTexts below
      cases x with
      | blank => exact below
      | number u =>
        have least := blank_atMost_number.1 above
        exact absurd hy (unbridged.numbers u hblank hx least).1
      | text s => exact compareTexts_empty s
      | bool p => rfl
    | bool q =>
      cases q with
      | true => cases below
      | false =>
        cases x with
        | blank => exact below
        | number u =>
          have least := blank_atMost_number.1 above
          exact absurd hy (unbridged.numbers u hblank hx least).2
        | text s => exact absurd hy (unbridged.texts s hblank hx)
        | bool p => exact above
  · intro chained
    have falls {x y : Scalar} (hblank : blank ∈ values) (hx : x ∈ values) (hy : y ∈ values)
      (above : blank.AtMost x)
        (below : y.AtMost blank) (back : y.compare x = .gt) : False := by
      have := chained hblank x hx y hy above below
      rw [AtMost, back] at this
      cases this
    refine ⟨fun s hblank hs hfalse => ?_,
      fun x hblank hx least => ⟨fun hempty => ?_, fun hfalse => ?_⟩⟩
    · exact falls hblank hs hfalse (compareTexts_empty s) rfl rfl
    · exact falls hblank hx hempty (blank_atMost_number.2 least) (compareTexts_empty "") rfl
    · exact falls hblank hx hfalse (blank_atMost_number.2 least) rfl rfl

/-- Among unbridged values "at most" can be chained. -/
theorem Unbridged.chain (unbridged : Unbridged values) (ob : b.IsOrdered) (ha : a ∈ values)
    (hb : b ∈ values) (hc : c ∈ values) (ab : a.AtMost b) (bc : b.AtMost c) : a.AtMost c := by
  have through := unbridged_iff.1 unbridged
  by_cases b_blank : b = .blank
  · subst b_blank
    exact through hb c hc a ha bc ab
  by_cases a_blank : a = .blank
  · subst a_blank
    by_cases c_blank : c = .blank
    · subst c_blank
      exact atMost_self _
    · exact blank_atMost_trans ob b_blank c_blank ab bc
  by_cases c_blank : c = .blank
  · subst c_blank
    by_contra above
    -- Then `b` is level with `a`, and so of the same kind.
    have ba := through hc a ha b hb (atMost_of_not above) bc
    have same :=
      Nat.le_antisymm (rank_le_of_atMost a_blank b_blank ab) (rank_le_of_atMost b_blank a_blank ba)
    exact above (atMost_blank_trans ob a_blank b_blank same ab bc)
  · exact AtMost.trans ob a_blank b_blank c_blank ab bc

/-! ## What formulas find -/

/-- A formula that compares two values with an operator finds it true. -/
def Finds (op : Operator) (a b : Scalar) : Prop := op.apply (.scalar a) (.scalar b) = .bool true

/-- A formula finds one value to be less than another. -/
def FoundLess (a b : Scalar) : Prop := Finds .less a b ∨ Finds .greater b a

/-- A formula finds one value to be at most another, or even less. -/
def FoundAtMost (a b : Scalar) : Prop :=
  Finds .lessEqual a b ∨ Finds .greaterEqual b a ∨ FoundLess a b

theorem foundLess_iff : FoundLess a b ↔ a.compare b = .lt := by
  show (Value.bool (a.compare b == .lt) = .bool true ∨
    Value.bool (b.compare a == .gt) = .bool true) ↔ _
  rw [compare_swap a b]
  cases a.compare b <;> simp

theorem foundAtMost_iff : FoundAtMost a b ↔ a.AtMost b := by
  rw [FoundAtMost, foundLess_iff, AtMost]
  show (Value.bool (a.compare b != .gt) = .bool true ∨
    Value.bool (b.compare a != .lt) = .bool true ∨ _) ↔ _
  rw [compare_swap a b]
  cases a.compare b <;> simp

/-- The values from one to another are in turn found to be at most the next. -/
def Climbs (values : Set Scalar) : Scalar → Scalar → Prop :=
  Relation.ReflTransGen fun a b => a ∈ values ∧ b ∈ values ∧ FoundAtMost a b

/-- Values that formulas find to be in turn at most the next are in order if they are unbridged. -/
theorem Climbs.atMost (ordered : ∀ s ∈ values, s.IsOrdered) (unbridged : Unbridged values)
    (ha : a ∈ values) (climbs : Climbs values a b) : a.AtMost b := by
  induction climbs with
  | refl => exact atMost_self a
  | tail _ step atMost =>
    obtain ⟨hb, hc, found⟩ := step
    exact unbridged.chain (ordered _ hb) ha hb hc atMost (foundAtMost_iff.1 found)

/-- **Comparison is an order on unbridged values, and on no others.** Comparing two values the
other way around gives the opposite result. That "at most" can be chained, and that a value found
to be less than another is never reached from it again by comparisons with `<`, `<=`, `>` and
`>=`, both hold just if the values are unbridged. -/
theorem comparison_is_transitive_iff (ordered : ∀ s ∈ values, s.IsOrdered) :
    (∀ a ∈ values, ∀ b ∈ values, b.compare a = (a.compare b).swap) ∧
    ((∀ a ∈ values, ∀ b ∈ values, ∀ c ∈ values, a.AtMost b → b.AtMost c → a.AtMost c) ↔
      Unbridged values) ∧
    ((∀ a ∈ values, ∀ b ∈ values, FoundLess a b → ¬ Climbs values b a) ↔ Unbridged values) := by
  refine ⟨fun a _ b _ => compare_swap a b, ⟨fun chained => ?_, fun unbridged => ?_⟩,
    ⟨fun acyclic => ?_, fun unbridged => ?_⟩⟩
  · refine unbridged_iff.2 fun hblank x hx y hy above below => ?_
    exact chained y hy _ hblank x hx below above
  · intro a ha b hb c hc ab bc
    exact unbridged.chain (ordered b hb) ha hb hc ab bc
  · refine unbridged_iff.2 fun hblank x hx y hy above below => ?_
    by_contra back
    have less : FoundLess x y := foundLess_iff.2 (not_atMost_iff.1 back)
    have climbs : Climbs values y x :=
      .tail (.single ⟨hy, hblank, foundAtMost_iff.2 below⟩) ⟨hblank, hx, foundAtMost_iff.2 above⟩
    exact acyclic x hx y hy less climbs
  · intro a _ b hb less climbs
    exact not_atMost_iff.2 (foundLess_iff.1 less) (climbs.atMost ordered unbridged hb)

/-- An empty cell beside a negative number, the empty text and a true value leads to no cycle. -/
theorem comparison_is_transitive_iff_of_negative :
    let values : Set Scalar := {number (-1.0), blank, text "", bool true}
    (∀ s ∈ values, s.IsOrdered) ∧
    (∀ a ∈ values, ∀ b ∈ values, ∀ c ∈ values, a.AtMost b → b.AtMost c → a.AtMost c) ∧
    ∀ a ∈ values, ∀ b ∈ values, FoundLess a b → ¬ Climbs values b a := by
  intro values
  have ordered : ∀ s ∈ values, s.IsOrdered := by
    rintro s (rfl | rfl | rfl | rfl)
    · exact (Float.beq_self_iff).1 rfl
    all_goals trivial
  have unbridged : Unbridged values := by
    refine ⟨fun s _ _ hfalse => by simp [values] at hfalse, fun x _ hx least => ?_⟩
    obtain rfl : x = -1.0 := by simpa [values] using hx
    exact absurd (by decide +kernel) least
  obtain ⟨-, chained, acyclic⟩ := comparison_is_transitive_iff ordered
  exact ⟨ordered, chained.2 unbridged, acyclic.2 unbridged⟩

/-- Five is found to be less than the empty text, which is found to be at most an empty cell,
which is found to be less than five. -/
theorem comparison_can_cycle :
    (number 5.0).AtMost (text "") ∧ (text "").AtMost blank ∧ ¬ (number 5.0).AtMost blank ∧
    FoundAtMost (number 5.0) (text "") ∧ FoundAtMost (text "") blank ∧
    FoundLess blank (number 5.0) := by
  refine ⟨by decide +kernel, by decide +kernel, by decide +kernel, ?_, ?_, ?_⟩
  · exact foundAtMost_iff.2 (by decide +kernel)
  · exact foundAtMost_iff.2 (by decide +kernel)
  · exact foundLess_iff.2 (by decide +kernel)

end Scalar

end Spreadsheet
