import Mathlib
import Spreadsheet.Function.Library
import Spreadsheet.Proofs.Function.Finite
import Spreadsheet.Proofs.Function.Respects.Basic
import Spreadsheet.Proofs.Function.Serial

/-!
# `Proofs/Function/Respects/Scalars.lean` — totals, choices, texts and dates of alike arguments

The functions that compute with numbers, texts, truth values and dates take alike arguments to
alike results. Nothing is asked of what is allowed in them but by two: a power is what the
platform makes of equal numbers, and the time of day is a number that nothing checks.

The lemmas follow the functions one by one and bear their names. Where a function computes with
numbers its outcome is a number up to the sign of zero (`Near`); where it computes with texts,
truth values or dates, it is the same one. The functions of a namespace are collected at its end
(`respects`), and only there is it seen which of them need an assumption.
-/

set_option autoImplicit false

namespace Spreadsheet

open Binary64 (Near)
open Argument

variable {A : Allowance} {v v' : Value} {args args' : List Value}

/-! ## Aggregates -/

namespace Aggregate

variable {x x' y y' : Float} {ns ns' : List Float}

/-- The greater of two numbers, of which either may be not-a-number and is then passed over. -/
theorem greater_near (hx : Near x x') (hy : Near y y') : Near (greater x y) (greater x' y') := by
  unfold greater
  simp only [hx.isNaN, hy.isNaN, hx.lt hy]
  split_ifs
  · exact hy
  · exact hx
  · exact hy
  · exact hx

theorem lesser_near (hx : Near x x') (hy : Near y y') : Near (lesser x y) (lesser x' y') := by
  unfold lesser
  simp only [hx.isNaN, hy.isNaN, hy.lt hx]
  split_ifs
  · exact hy
  · exact hx
  · exact hy
  · exact hx

/-- Going through numbers with a step that does not tell the zeros apart. -/
theorem reduce_near {f : Float → Float → Float}
    (step : ∀ {x x' y y'}, Near x x' → Near y y' → Near (f x y) (f x' y'))
    (h : List.Forall₂ Near ns ns') : Near (reduce f ns) (reduce f ns') := by
  cases h with
  | nil => exact .refl _
  | cons first rest =>
    exact List.rel_foldl (R := Near) (P := Near)
      (fun _ _ total _ _ next => step total next) first rest

/-- Whether an entry counts is seen from what alike entries share. -/
theorem isNumeric_congr {x y : Entry} (h : x.Alike A y) : isNumeric x = isNumeric y := by
  obtain ⟨v, inBlock⟩ := x
  obtain ⟨w, _⟩ := y
  obtain ⟨value, rfl⟩ := h
  cases value with
  | scalar h => cases h <;> rfl
  | _ => rfl

theorem isPresent_congr {x y : Entry} (h : x.Alike A y) : isPresent x = isPresent y := by
  obtain ⟨v, inBlock⟩ := x
  obtain ⟨w, _⟩ := y
  obtain ⟨value, rfl⟩ := h
  cases value with
  | scalar h => cases h <;> rfl
  | _ => rfl

/-- Alike arguments have as many entries of each kind. -/
theorem alike_countP {p : Entry → Bool} (same : ∀ {x y : Entry}, x.Alike A y → p x = p y)
    (h : List.Forall₂ (Value.Alike A) args args') :
    (Value.number (Float.ofNat ((flatten args).countP p))).Alike A
    (.number (Float.ofNat ((flatten args').countP p))) := by
  rw [countP_eq_of_forall₂ (flatten_alike h) same]
  exact Value.alike_ofInt (Int.ofNat _)

theorem respects : ∀ f ∈ functions, f.Respects A := by
  simp only [functions, List.forall_mem_cons]
  refine ⟨?sum, ?average, ?count, ?countPresent, ?maximum, ?minimum, ?product,
    List.forall_mem_nil _⟩
  case sum =>
    exact respects_of_arguments fun h =>
      alike_numberResult ((numbers_alike h).map sum_near)
  case average =>
    exact respects_of_arguments fun h =>
      alike_numberResult ((numbers_alike h).bind mean_near)
  case count => exact respects_of_arguments fun h => alike_countP isNumeric_congr h
  case countPresent => exact respects_of_arguments fun h => alike_countP isPresent_congr h
  case maximum =>
    exact respects_of_arguments fun h =>
      alike_numberResult ((numbers_alike h).map (reduce_near greater_near))
  case minimum =>
    exact respects_of_arguments fun h =>
      alike_numberResult ((numbers_alike h).map (reduce_near lesser_near))
  case product =>
    refine respects_of_arguments fun h =>
      alike_numberResult ((numbers_alike h).map fun {ns ns'} near => ?_)
    -- Of no numbers the product is zero and not one, so the list is looked at once more.
    have product := product_near near
    cases near with
    | nil => exact .refl _
    | cons _ _ => exact product

end Aggregate

/-! ## Arithmetic -/

/-- What fails alike in the arithmetic of operators fails with an error of its own. -/
theorem SameOutcome.related {r r' : Except ErrorCode Float} (h : SameOutcome r r')
    (other : r ≠ .error .cycle) :
    RelatedOutcome (Value.Alike A) Near r r' := by
  rcases h with ⟨x, y, rfl, rfl, near⟩ | ⟨e, rfl, rfl⟩
  · exact .ok near
  · exact .refused fun cycle => other (by rw [cycle])

namespace Arithmetic

/-- Rounding to places, in front of the point or behind it. -/
theorem roundTo_near {x y : Float} (h : Near x y) (places : Int) :
    Near (roundTo x places) (roundTo y places) := by
  unfold roundTo
  dsimp only
  split
  · exact (h.div_right _).roundHalfAway.mul (.refl _)
  · exact (h.mul (.refl _)).denoised.roundHalfAway.div_right _

theorem round_alike (h : List.Forall₂ (Value.Alike A) args args') :
    RelatedOutcome (Value.Alike A) Near (round args) (round args') := by
  match h with
  | .nil => exact .refused (by decide)
  | .cons hx .nil => exact hx.near.bind fun near => .ok (roundTo_near near _)
  | .cons hx (.cons hp .nil) =>
    refine hx.near.bind fun near => hp.near.bind fun places => .ok ?_
    rw [places.toIntWithin]
    exact roundTo_near near _
  | .cons _ (.cons _ (.cons _ _)) => exact .refused (by decide)

theorem absolute_alike (h : List.Forall₂ (Value.Alike A) args args') :
    RelatedOutcome (Value.Alike A) Near (absolute args) (absolute args') := by
  match h with
  | .nil => exact .refused (by decide)
  | .cons hx .nil => exact hx.near.map Near.abs
  | .cons _ (.cons _ _) => exact .refused (by decide)

theorem squareRoot_alike (h : List.Forall₂ (Value.Alike A) args args') :
    RelatedOutcome (Value.Alike A) Near (squareRoot args) (squareRoot args') := by
  match h with
  | .nil => exact .refused (by decide)
  | .cons hx .nil =>
    refine hx.near.bind fun near => ?_
    simp only [near.lt (.refl 0.0)]
    split
    · exact .refused (by decide)
    · exact .ok near.sqrt
  | .cons _ (.cons _ _) => exact .refused (by decide)

/-- A remainder by either zero is refused with the quotient. -/
theorem modulo_alike (h : List.Forall₂ (Value.Alike A) args args') :
    RelatedOutcome (Value.Alike A) Near (modulo args) (modulo args') := by
  match h with
  | .nil => exact .refused (by decide)
  | .cons _ .nil => exact .refused (by decide)
  | .cons ha (.cons hb .nil) =>
    refine ha.near.bind fun a => hb.near.bind fun b => ?_
    refine ((quotient_same a b).related (quotient_ne_cycle _ _)).bind fun q => ?_
    exact .ok (a.sub (b.mul q.floor))
  | .cons _ (.cons _ (.cons _ _)) => exact .refused (by decide)

/-- A draw is a draw between the same bounds. -/
theorem randomBetween_alike {c : Circumstances} (h : List.Forall₂ (Value.Alike A) args args') :
    RelatedOutcome (Value.Alike A) Near (randomBetween c args) (randomBetween c args') := by
  match h with
  | .nil => exact .refused (by decide)
  | .cons _ .nil => exact .refused (by decide)
  | .cons hl (.cons hh .nil) =>
    refine hl.near.bind fun low => hh.near.bind fun high => ?_
    simp only [high.floor.lt low.ceiling, low.ceiling.toInt64, high.floor.toInt64]
    split
    · exact .refused (by decide)
    · exact .ok (.refl _)
  | .cons _ (.cons _ (.cons _ _)) => exact .refused (by decide)

/-- Functions that compute with numbers, those that draw them included, but for the power. -/
theorem respects : ∀ f ∈ functions, f.name ≠ "POWER" → f.Respects A := by
  simp only [functions, List.forall_mem_cons]
  refine ⟨?round, ?absolute, ?power, ?squareRoot, ?modulo, ?random, ?randomBetween,
    List.forall_mem_nil _⟩
  case round => exact fun _ => respects_of_numbers round_alike
  case absolute => exact fun _ => respects_of_numbers absolute_alike
  case power => exact fun other => absurd (by decide) other
  case squareRoot => exact fun _ => respects_of_numbers squareRoot_alike
  case modulo => exact fun _ => respects_of_numbers modulo_alike
  case random =>
    exact fun _ c _ _ _ =>
      .scalar (.number (.refl _) (A.number_of_isFinite (isFinite_random c)))
  case randomBetween => exact fun _ _ _ _ h => alike_numberResult (randomBetween_alike h)

end Arithmetic

/-! ## Choices -/

namespace Logical

/-- A blank branch is zero, and any other is what is unwrapped from it. -/
theorem branch_alike (h : v.Alike A v') : (branch v).Alike A (branch v') := by
  cases h with
  | scalar h =>
    cases h with
    | blank => exact .scalar (.number (.refl _) (A.number_of_isFinite (by decide)))
    | number near allowed => exact .scalar (.number near allowed)
    | text s => exact .scalar (.text s)
    | bool b => exact .scalar (.bool b)
  | error allowed => exact .error allowed
  | block h => exact (Value.Alike.block h).unwrap

/-- Conditions hold alike, and fail alike. -/
theorem condition_cases (h : v.Alike A v') :
    (∃ b, v.unwrap.toBool = .ok b ∧ v'.unwrap.toBool = .ok b) ∨
      ∃ e, v.unwrap.toBool = .error e ∧ v'.unwrap.toBool = .error e ∧
      (Value.error e).Alike A (.error e) := by
  rcases h.unwrap.toBool with ⟨b, _, hb, hb', rfl⟩ | failed
  · exact .inl ⟨b, hb, hb'⟩
  · exact .inr failed

/-- The condition is the same truth value, so the same branch is taken. -/
theorem choose_alike (h : List.Forall₂ (Value.Alike A) args args') :
    (choose args).Alike A (choose args') := by
  cases h with
  | nil => exact Value.alike_error (by decide)
  | cons condition branches =>
    unfold choose
    dsimp only
    rcases condition_cases condition with ⟨b, hb, hb'⟩ | ⟨e, he, he', allowed⟩
    · rw [hb, hb']
      -- A branch that is not given comes to the truth value itself.
      cases b with
      | true =>
        cases branches with
        | nil => exact .scalar (.bool true)
        | cons yes _ => exact branch_alike yes
      | false =>
        match branches with
        | .nil => exact .scalar (.bool false)
        | .cons _ .nil => exact .scalar (.bool false)
        | .cons _ (.cons no _) => exact branch_alike no
    · rw [he, he']
      exact allowed

/-- The first condition that holds is the same one. -/
theorem firstBranch_alike {args args' : List Value} (h : List.Forall₂ (Value.Alike A) args args') :
    (firstBranch args).Alike A (firstBranch args') := by
  cases h with
  | nil => exact Value.alike_error (by decide)
  | cons condition h =>
    cases h with
    | nil => exact Value.alike_error (by decide)
    | cons yes rest =>
      rw [firstBranch, firstBranch]
      rcases condition_cases condition with ⟨b, hb, hb'⟩ | ⟨e, he, he', allowed⟩
      · rw [hb, hb']
        cases b with
        | true => exact branch_alike yes
        | false => exact firstBranch_alike rest
      · rw [he, he']
        exact allowed

/-- A text counts as a truth value only outside of blocks. -/
theorem truth?_alike {x y : Entry} (h : x.Alike A y) :
    RelatedOutcome (Value.Alike A) Eq (truth? x) (truth? y) := by
  obtain ⟨v, inBlock⟩ := x
  obtain ⟨w, _⟩ := y
  obtain ⟨value, rfl⟩ := h
  have truth := value.toBool.map fun {a b} same => congrArg some same
  -- Blanks are passed over, and so are texts in a block; the rest is converted.
  cases value with
  | scalar h =>
    cases h with
    | blank => exact .ok rfl
    | text s =>
      cases inBlock with
      | true => exact .ok rfl
      | false => exact truth
    | _ => exact truth
  | _ => exact truth

theorem truths_alike (h : List.Forall₂ (Value.Alike A) args args') :
    RelatedOutcome (Value.Alike A) Eq (truths args) (truths args') := by
  refine (RelatedOutcome.mapM (flatten_alike h) truth?_alike).bind fun {found found'} same => ?_
  rw [List.forall₂_eq_eq_eq] at same
  subst same
  dsimp only
  split
  · exact .refused (by decide)
  · exact .ok rfl

theorem negation_alike (h : List.Forall₂ (Value.Alike A) args args') :
    (negation args).Alike A (negation args') := by
  match h with
  | .nil => exact Value.alike_error (by decide)
  | .cons hv .nil => exact alike_boolResult (hv.toBool.map fun same => congrArg not same)
  | .cons _ (.cons _ _) => exact Value.alike_error (by decide)

/-- Errors are caught alike, whichever are caught. -/
theorem catching_alike {caught : ErrorCode → Bool} (h : List.Forall₂ (Value.Alike A) args args') :
    (catching caught args).Alike A (catching caught args') := by
  match h with
  | .nil => exact Value.alike_error (by decide)
  | .cons _ .nil => exact Value.alike_error (by decide)
  | .cons hv (.cons fallback .nil) =>
    have unwrapped := hv.unwrap
    -- The value is unwrapped before it is looked at, and on both sides alike.
    simp only [catching]
    generalize Value.unwrap _ = u at unwrapped
    generalize Value.unwrap _ = u' at unwrapped
    cases unwrapped with
    | scalar h => exact .scalar h
    | block h => exact .block h
    | error allowed =>
      dsimp only
      split
      · exact branch_alike fallback
      · exact .error allowed
  | .cons _ (.cons _ (.cons _ _)) => exact Value.alike_error (by decide)

theorem respects : ∀ f ∈ functions, f.Respects A := by
  simp only [functions, List.forall_mem_cons]
  refine ⟨?choose, ?conjunction, ?disjunction, ?negation, ?chooseFirst, ?ifError, ?ifNotAvailable,
    List.forall_mem_nil _⟩
  case choose => exact respects_of_arguments choose_alike
  case conjunction =>
    exact respects_of_arguments fun h =>
      alike_boolResult ((truths_alike h).map fun same => congrArg (List.all · id) same)
  case disjunction =>
    exact respects_of_arguments fun h =>
      alike_boolResult ((truths_alike h).map fun same => congrArg (List.any · id) same)
  case negation => exact respects_of_arguments negation_alike
  case chooseFirst =>
    refine respects_of_arguments fun h => ?_
    unfold chooseFirst
    rw [h.length_eq]
    split
    · exact firstBranch_alike h
    · exact Value.alike_error (by decide)
  all_goals exact respects_of_arguments catching_alike

end Logical

/-! ## Texts -/

namespace TextFunction

/-- A number of characters is the whole part of a number that is not below zero. -/
theorem count_alike (h : v.Alike A v') :
    RelatedOutcome (Value.Alike A) Eq (count v) (count v') := by
  refine h.near.bind fun near => ?_
  have part := near.truncate
  simp only [part.lt (.refl 0.0), part.toCount]
  split
  · exact .refused (by decide)
  · exact .ok rfl

theorem before_alike (h : v.Alike A v') :
    RelatedOutcome (Value.Alike A) Eq (before v) (before v') := by
  refine h.near.bind fun near => ?_
  have part := near.truncate
  simp only [part.lt (.refl 1.0), part.toCount]
  split
  · exact .refused (by decide)
  · exact .ok rfl

theorem countOrOne_alike (h : List.Forall₂ (Value.Alike A) args args') :
    RelatedOutcome (Value.Alike A) Eq (countOrOne args) (countOrOne args') := by
  cases h with
  | nil => exact .ok rfl
  | cons hv _ => exact count_alike hv

theorem concat_alike (h : List.Forall₂ (Value.Alike A) args args') :
    RelatedOutcome (Value.Alike A) Eq (concat args) (concat args') := by
  refine (RelatedOutcome.mapM (flatten_alike h) fun entry => entry.value.toText).bind fun same => ?_
  rw [List.forall₂_eq_eq_eq] at same
  exact .ok (congrArg String.join same)

theorem left_alike (h : List.Forall₂ (Value.Alike A) args args') :
    RelatedOutcome (Value.Alike A) Eq (left args) (left args') := by
  cases h with
  | nil => exact .refused (by decide)
  | cons hv rest => exact hv.toText.bind_eq fun s =>
    (countOrOne_alike rest).bind_eq fun n => .ok rfl

theorem right_alike (h : List.Forall₂ (Value.Alike A) args args') :
    RelatedOutcome (Value.Alike A) Eq (right args) (right args') := by
  cases h with
  | nil => exact .refused (by decide)
  | cons hv rest => exact hv.toText.bind_eq fun s =>
    (countOrOne_alike rest).bind_eq fun n => .ok rfl

/-- The position and the number of characters are the same. -/
theorem middle_alike (h : List.Forall₂ (Value.Alike A) args args') :
    RelatedOutcome (Value.Alike A) Eq (middle args) (middle args') := by
  match h with
  | .nil => exact .refused (by decide)
  | .cons _ .nil => exact .refused (by decide)
  | .cons _ (.cons _ .nil) => exact .refused (by decide)
  | .cons hv (.cons start (.cons length .nil)) =>
    exact hv.toText.bind_eq fun s => (before_alike start).bind_eq fun skipped =>
      (count_alike length).bind_eq fun n => .ok rfl
  | .cons _ (.cons _ (.cons _ (.cons _ _))) => exact .refused (by decide)

theorem length_alike (h : List.Forall₂ (Value.Alike A) args args') :
    RelatedOutcome (Value.Alike A) Near (length args) (length args') := by
  match h with
  | .nil => exact .refused (by decide)
  | .cons hv .nil => exact hv.toText.bind_eq fun s => .ok (.refl _)
  | .cons _ (.cons _ _) => exact .refused (by decide)

/-- A text that is rewritten, in whatever way. -/
theorem rewriting_alike {f : List Char → List Char} (h : List.Forall₂ (Value.Alike A) args args') :
    RelatedOutcome (Value.Alike A) Eq (rewriting f args) (rewriting f args') := by
  match h with
  | .nil => exact .refused (by decide)
  | .cons hv .nil => exact hv.toText.bind_eq fun s => .ok rfl
  | .cons _ (.cons _ _) => exact .refused (by decide)

/-- Which occurrence is replaced is the same number, or all are. -/
theorem substitute_alike (h : List.Forall₂ (Value.Alike A) args args') :
    RelatedOutcome (Value.Alike A) Eq (substitute args) (substitute args') := by
  match h with
  | .nil => exact .refused (by decide)
  | .cons _ .nil => exact .refused (by decide)
  | .cons _ (.cons _ .nil) => exact .refused (by decide)
  | .cons hv (.cons ho (.cons hn rest)) =>
    refine hv.toText.bind_eq fun s => ho.toText.bind_eq fun old => hn.toText.bind_eq fun new => ?_
    dsimp only
    split
    · exact .ok rfl
    · cases rest with
      | nil => exact .ok rfl
      | cons nth _ => exact (before_alike nth).bind_eq fun n => .ok rfl

theorem respects : ∀ f ∈ functions, f.Respects A := by
  simp only [functions, List.forall_mem_cons]
  refine ⟨?concat, ?concatenate, ?left, ?right, ?middle, ?length, ?trim, ?upper, ?lower, ?proper,
    ?substitute, List.forall_mem_nil _⟩
  case concat => exact respects_of_texts concat_alike
  case concatenate => exact respects_of_texts concat_alike
  case left => exact respects_of_texts left_alike
  case right => exact respects_of_texts right_alike
  case middle => exact respects_of_texts middle_alike
  case length => exact respects_of_numbers length_alike
  case substitute => exact respects_of_texts substitute_alike
  all_goals exact respects_of_texts rewriting_alike

end TextFunction

/-! ## Dates -/

namespace DateFunction

/-- The date that a serial or a text stands for. -/
theorem dateOf_alike (h : v.Alike A v') :
    RelatedOutcome (Value.Alike A) Eq (dateOf v) (dateOf v') := by
  have number : ∀ {x y}, Near x y →
    RelatedOutcome (Value.Alike A) Eq (dateOf (.number x)) (dateOf (.number y)) := by
    intro x y near
    have same : Date.ofNumber? x = Date.ofNumber? y := near.congr (by decide +kernel)
    rw [dateOf_number, dateOf_number, same]
    cases Date.ofNumber? y with
    | some d => exact .ok rfl
    | none => exact .refused (by decide)
  -- All but dates that are written out are converted to a number first.
  have serial : RelatedOutcome (Value.Alike A) Eq (v.toNumber >>= fun x => dateOf (.number x))
      (v'.toNumber >>= fun x => dateOf (.number x)) := h.near.bind number
  cases h with
  | scalar h =>
    cases h with
    | text s =>
      unfold dateOf
      dsimp only
      cases Date.read? (Text.trim s.toList) with
      | some d => exact .ok rfl
      | none => exact serial
    | _ => exact serial
  | _ => exact serial

/-- A month or a day, which may lie outside of its range. -/
theorem part_alike (h : v.Alike A v') : RelatedOutcome (Value.Alike A) Eq (part v) (part v') := by
  refine h.near.bind fun near => ?_
  have whole := near.truncate
  simp only [Binary64.Near.lt (.refl maxPart) whole.abs, whole.toInt64]
  split
  · exact .refused (by decide)
  · exact .ok rfl

/-- A date is made from parts that are the same, so it is the same date. -/
theorem date_alike (h : List.Forall₂ (Value.Alike A) args args') :
    RelatedOutcome (Value.Alike A) Near (date args) (date args') := by
  match h with
  | .nil => exact .refused (by decide)
  | .cons _ .nil => exact .refused (by decide)
  | .cons _ (.cons _ .nil) => exact .refused (by decide)
  | .cons hy (.cons hm (.cons hd .nil)) =>
    refine hy.near.bind fun near => (part_alike hm).bind_eq fun month =>
      (part_alike hd).bind_eq fun day => ?_
    -- The year is a whole number, and years before 1900 are counted from there.
    rw [near.truncate.toInt64]
    dsimp only
    generalize Decimal.toInt64 (Decimal.truncate _) = given
    generalize (if 0 ≤ given ∧ given < 1900 then given + 1900 else given) = year
    split
    · exact .refused (by decide)
    split
    · split
      · exact .refused (by decide)
      · exact .ok (.refl _)
    · exact .refused (by decide)
  | .cons _ (.cons _ (.cons _ (.cons _ _))) => exact .refused (by decide)

/-- A part of the date that the argument stands for. -/
theorem taking_alike {part : Date → Int} (h : List.Forall₂ (Value.Alike A) args args') :
    RelatedOutcome (Value.Alike A) Near (taking part args) (taking part args') := by
  match h with
  | .nil => exact .refused (by decide)
  | .cons hv .nil => exact (dateOf_alike hv).bind_eq fun d => .ok (.refl _)
  | .cons _ (.cons _ _) => exact .refused (by decide)

/-- Both dates are the same, and so is the unit. -/
theorem difference_alike (h : List.Forall₂ (Value.Alike A) args args') :
    RelatedOutcome (Value.Alike A) Near (difference args) (difference args') := by
  match h with
  | .nil => exact .refused (by decide)
  | .cons _ .nil => exact .refused (by decide)
  | .cons _ (.cons _ .nil) => exact .refused (by decide)
  | .cons hf (.cons hl (.cons hu .nil)) =>
    refine (dateOf_alike hf).bind_eq fun first => (dateOf_alike hl).bind_eq fun last =>
      hu.toText.bind_eq fun unit => ?_
    split
    · exact .refused (by decide)
    split
    · exact .ok (.refl _)
    · exact .ok (.refl _)
    · exact .ok (.refl _)
    · exact .refused (by decide)
  | .cons _ (.cons _ (.cons _ (.cons _ _))) => exact .refused (by decide)

theorem respects : ∀ f ∈ functions, (f.name = "NOW" → ∀ x, A.number x) → f.Respects A := by
  simp only [functions, List.forall_mem_cons]
  refine ⟨?today, ?now, ?date, ?year, ?month, ?day, ?difference, List.forall_mem_nil _⟩
  case today => exact fun _ c _ _ _ => Value.alike_ofInt _
  -- No clock is asked to be right, so the time of day may be any number.
  case now => exact fun all c _ _ _ => .scalar (.number (.refl _) (all trivial _))
  case date => exact fun _ => respects_of_numbers date_alike
  case difference => exact fun _ => respects_of_numbers difference_alike
  all_goals exact fun _ => respects_of_numbers taking_alike

end DateFunction

end Spreadsheet
