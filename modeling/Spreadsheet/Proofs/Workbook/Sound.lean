import Spreadsheet.Proofs.Value.Finite
import Spreadsheet.Proofs.Workbook.Edit
import Spreadsheet.Proofs.Workbook.View

/-!
# `Proofs/Workbook/Sound.lean` — what a settled value is worth

While cells wait, the values on record are partly old. What can be said of them at any time is said
cell by cell, of settled cells only, and relative to the values on record of the cells they read:

* `Consistent` — the value is what the content comes to over those values, or else it is the error
  of a loop, and so is one of those values. The second case cannot be left out. The members of a
  loop are put on the error without being evaluated, and a formula that would have made something
  else of it keeps the error until a value that it reads changes.
* `Traced` — an error of a loop in the value is in one of those values too.

Both survive whatever leaves a cell's record and the values it reads alone (`Undisturbed`), and an
edit disturbs only cells that it queues.
-/

set_option autoImplicit false

namespace Spreadsheet

/-- One value for another where recalculation sees no change. -/
def Value.Close (v v' : Value) : Prop := v = v' ∨ v.Same v'

namespace Value

theorem Close.same {v v' : Value} (h : Close v v') (proper : v'.Same v') : v.Same v' := by
  rcases h with rfl | h
  · exact proper
  · exact h

theorem Close.eq_error {v v' : Value} {e : ErrorCode} (h : Close v v') (hv : v = .error e) :
    v' = .error e := by
  rcases h with rfl | h
  · exact hv
  · subst hv
    cases h
    rfl

theorem Close.contains {v v' : Value} {e : ErrorCode} (h : Close v v') (hv : v.Contains e) :
    v'.Contains e := by
  rcases h with rfl | h
  · exact hv
  · exact h.contains hv

end Value

namespace Workbook

variable {w w' w'' : Workbook} {id x d : CellId} {raw : String} {c : Cell} {e : Expr}

/-! ## Compiling -/

/-- Sheets, functions and configuration are all that compiling depends on. -/
theorem compile_congr (settings : w'.settings = w.settings) (registry : w'.registry = w.registry)
    (sheets : w'.sheets = w.sheets) (sheet : Nat) (raw : String) :
    w'.compile sheet raw = w.compile sheet raw := by
  unfold compile precedentsOn covered callsVolatile resolve? sheetOf? sheetNamed?
  rw [settings, registry, sheets]

theorem precedents_of_compile {sheet : Nat} (h : (w.compile sheet raw).content = .formula e) :
    (w.compile sheet raw).precedents = w.precedentsOn sheet e := by
  unfold compile at h ⊢
  split at h
  · cases h
  · split at h
    · cases h
      rfl
    · cases h

theorem volatile_of_compile {sheet : Nat} (h : (w.compile sheet raw).content = .formula e) :
    (w.compile sheet raw).volatile = w.callsVolatile e := by
  unfold compile at h ⊢
  split at h
  · cases h
  · split at h
    · cases h
      rfl
    · cases h

/-- What is typed is a finite number, if it is one. -/
theorem isFinite_of_compile {sheet : Nat} {s : Scalar}
    (h : (w.compile sheet raw).content = .literal s) : s.IsFinite := by
  -- A number is taken from a text only if it is finite; everything else is no number.
  have plain : ∀ chars : List Char, (Input.ofPlain chars).IsFinite := by
    intro chars
    unfold Input.ofPlain
    split
    next x hx => exact (Option.filter_eq_some_iff.1 hx).2
    next =>
      dsimp only
      split
      · trivial
      · split <;> trivial
  unfold compile at h
  split at h
  next t ht =>
    cases h
    unfold Input.classify Input.ofTrimmed at ht
    split at ht
    · cases ht
      trivial
    · cases ht
    · split at ht
      · cases ht
        trivial
      · cases ht
        exact plain _
  next =>
    split at h <;> cases h

/-- What is typed is never a number that is none. -/
theorem same_of_compile {sheet : Nat} {s : Scalar}
    (h : (w.compile sheet raw).content = .literal s) :
    s.same s = true := by
  cases s with
  | number x => exact Binary64.beq_self_of_isFinite (isFinite_of_compile h)
  | text s => exact beq_self_eq_true s
  | bool b => exact beq_self_eq_true b
  | blank => rfl

/-- A formula is what its text is parsed to. -/
theorem exists_parse_of_compile {sheet : Nat} (h : (w.compile sheet raw).content = .formula e) :
    ∃ source, Formula.parse source = .ok e := by
  unfold compile at h
  split at h
  next => cases h
  next source _ =>
    split at h
    next parsed =>
      cases h
      exact ⟨source, parsed⟩
    next => cases h

/-- Compiling gives the same where the formula looks at the same sheets and functions. -/
theorem compile_of_alike {sheet : Nat} (alike : ∀ e, (w.compile sheet raw).content = .formula e →
    LooksAlike w w' sheet e ∧ w'.callsVolatile e = w.callsVolatile e) :
    w'.compile sheet raw = w.compile sheet raw := by
  unfold compile at alike ⊢
  cases hi : Input.classify raw with
  | literal s => rfl
  | formula source =>
    rw [hi] at alike
    simp only at alike ⊢
    cases hp : Formula.parse source with
    | error fault => rfl
    | ok e =>
      rw [hp] at alike
      simp only at alike ⊢
      obtain ⟨alike, volatile⟩ := alike e rfl
      -- Each reference covers the same cells, because it is to the same sheet and within the same
      -- limit.
      have covered : ∀ r ∈ e.precedents, w'.covered sheet r = w.covered sheet r := by
        intro r hr
        have sheetOf := alike.sheetOf r (Expr.mem_firstOfEach.1 hr)
        cases r with
        | cell a =>
          simp only [Workbook.covered, resolve?]
          rw [show w'.sheetOf? sheet a.sheet = w.sheetOf? sheet a.sheet from sheetOf]
        | range r =>
          simp only [Workbook.covered]
          rw [show w'.sheetOf? sheet r.sheet = w.sheetOf? sheet r.sheet from sheetOf, alike.limit]
      rw [volatile]
      unfold precedentsOn
      rw [List.flatMap_congr covered]

/-! ## What is known of one cell -/

/-- The cell was compiled from what was typed, as things stand. -/
def CompiledAt (w : Workbook) (x : CellId) : Prop :=
  ∀ c, w.cell? x = some c → c.compiled = w.compile x.sheet c.raw

/-- A settled value is what the content comes to over the values on record, or it is the error of a
loop, and so is one of those. -/
def Consistent (w : Workbook) (x : CellId) : Prop :=
  ∀ c, w.cell? x = some c → c.state.Settled → c.compiled.content.Lawful w.registry →
    (∀ d, w.Reads x d → (w.settledValue d).Same (w.settledValue d)) →
      c.value.Same (w.evaluated x.sheet c.compiled.content) ∨
        (c.value = .error .cycle ∧ ∃ d, w.Reads x d ∧ w.settledValue d = .error .cycle)

/-- An error of a loop in a settled value is in one of the values on record that the cell reads. -/
def Traced (w : Workbook) (x : CellId) : Prop :=
  ∀ c, w.cell? x = some c → c.state.Settled → c.compiled.content.CycleSafe w.registry →
    c.value.Contains .cycle → ∃ d, w.Reads x d ∧ (w.settledValue d).Contains .cycle

/-- Whether the formula of a cell calls stable functions only. -/
def StableAt (w : Workbook) (x : CellId) : Prop :=
  ∀ c, w.cell? x = some c → c.compiled.content.Stable w.registry

/-- All that is known of a cell at any time. -/
structure Sound (w : Workbook) (x : CellId) : Prop where
  compiled : w.CompiledAt x
  consistent : w.StableAt x → w.Consistent x
  traced : w.Traced x

theorem CompiledAt.reads_iff (compiled : w.CompiledAt x) (hc : w.cell? x = some c)
    (he : c.compiled.content = .formula e) : w.Reads x d ↔ d ∈ w.precedentsOn x.sheet e := by
  have at_ := compiled c hc
  rw [reads_of_cell? hc, at_]
  rw [at_] at he
  rw [precedents_of_compile he]

/-- Who is to be recomputed on every pass is worked out for all calls of a formula, however deep
they are. -/
theorem CompiledAt.stableAt (compiled : w.CompiledAt x)
    (stable : ∀ c, w.cell? x = some c → c.compiled.volatile = false) : w.StableAt x := by
  intro c hc
  have stable := stable c hc
  have at_ := compiled c hc
  cases he : c.compiled.content with
  | formula e =>
    intro name args called f found
    rw [at_] at he stable
    rw [volatile_of_compile he] at stable
    -- A call is found under the name in capitals, which is the name that was asked about when the
    -- cell was compiled.
    have unmarked : w.registry.isVolatile (Text.latinUpper name) = false := by
      have named : Text.latinUpper name ∈ e.calledFunctions :=
        Expr.mem_firstOfEach.2 (Expr.call_mem_calls called)
      exact Bool.eq_false_iff.2 fun marked => List.any_eq_false.1 stable _ named marked
    unfold Registry.isVolatile Registry.find? at unmarked
    rw [latinUpper_latinUpper, ← Registry.find?, found] at unmarked
    cases hv : f.volatility with
    | stable => rfl
    | volatile => simp [Function.isVolatile, hv] at unmarked
  | _ => trivial

/-! ## What leaves a cell alone -/

/-- If the cell is settled, its record is what it was, it sees what it saw, and the values that it
reads have not changed. -/
structure Undisturbed (w w' : Workbook) (x : CellId) : Prop where
  own : ∀ c, w'.cell? x = some c → c.state.Settled → w.cell? x = some c
  values : w'.IsSettled x → ∀ d, w.Reads x d → (w.settledValue d).Close (w'.settledValue d)
  alike : w'.IsSettled x → ∀ c e, w.cell? x = some c → c.compiled.content = .formula e →
    LooksAlike w w' x.sheet e

end Workbook

/-- Lawfulness looks at the functions that a formula calls, and at no others. -/
theorem Expr.Lawful.congr {registry registry' : Registry} {e : Expr}
    (find : ∀ name args, .call name args ∈ e.parts → registry'.find? name = registry.find? name)
    (h : e.Lawful registry') : e.Lawful registry := by
  intro part hp
  have lawful := h part hp
  cases part with
  | number x => exact lawful
  | binary op lhs rhs => cases op <;> exact lawful
  | call function args =>
    intro f hf
    exact lawful f (by rw [find function args hp, hf])
  | _ => trivial

namespace Workbook

variable {w w' w'' : Workbook} {id x d : CellId} {c : Cell} {e : Expr}

theorem LooksAlike.lawful {sheet : Nat} (alike : LooksAlike w w' sheet e)
    (h : e.Lawful w'.registry) :
    e.Lawful w.registry := h.congr alike.find

theorem LooksAlike.stable {sheet : Nat} (alike : LooksAlike w w' sheet e)
    (h : e.Stable w'.registry) :
    e.Stable w.registry := by
  intro name args hp f hf
  exact h name args hp f (by rw [alike.find name args hp, hf])

theorem LooksAlike.cycleSafe {sheet : Nat} (alike : LooksAlike w w' sheet e)
    (h : e.CycleSafe w'.registry) :
    e.CycleSafe w.registry := by
  intro name args hp f hf
  exact h name args hp f (by rw [alike.find name args hp, hf])

namespace Undisturbed

theorem reads (h : Undisturbed w w' x) (settled : w'.IsSettled x) : w'.Reads x d ↔ w.Reads x d := by
  obtain ⟨c, hc, settled⟩ := settled
  rw [reads_of_cell? hc, reads_of_cell? (h.own c hc settled)]

theorem consistent (h : Undisturbed w w' x) (compiled : w.CompiledAt x)
    (clock : w.now = w'.now ∨ w'.StableAt x) (consistent : w.Consistent x) : w'.Consistent x := by
  intro c hc settled lawful proper
  have isSettled : w'.IsSettled x := ⟨c, hc, settled⟩
  have hc₀ := h.own c hc settled
  have same : ∀ d, w.Reads x d → (w.settledValue d).Same (w'.settledValue d) := by
    intro d hd
    exact (h.values isSettled d hd).same (proper d ((h.reads isSettled).2 hd))
  have lawful₀ : c.compiled.content.Lawful w.registry := by
    cases he : c.compiled.content with
    | formula e =>
      rw [he] at lawful
      exact (h.alike isSettled c e hc₀ he).lawful lawful
    | _ =>
      rw [he] at lawful
      exact lawful
  -- Its reasons are carried over: the values read are the same ones, and so is what the formula
  -- looks at.
  rcases consistent c hc₀ settled lawful₀ (fun d hd => (same d hd).refl_left) with value |
    ⟨value, d, hd, cyclic⟩
  · left
    refine value.trans (evaluated_same lawful₀ ?_
      (fun e he => h.alike isSettled c e hc₀ he) fun e he d hd => ?_)
    · rcases clock with now | stable
      · exact .inl now
      · right
        have stable := stable c hc
        cases he : c.compiled.content with
        | formula e =>
          rw [he] at stable
          exact (h.alike isSettled c e hc₀ he).stable stable
        | _ => trivial
    · exact same d ((compiled.reads_iff hc₀ he).2 hd)
  · exact .inr ⟨value, d, (h.reads isSettled).2 hd, (h.values isSettled d hd).eq_error cyclic⟩

theorem traced (h : Undisturbed w w' x) (traced : w.Traced x) : w'.Traced x := by
  intro c hc settled safe contains
  have isSettled : w'.IsSettled x := ⟨c, hc, settled⟩
  have hc₀ := h.own c hc settled
  have safe₀ : c.compiled.content.CycleSafe w.registry := by
    cases he : c.compiled.content with
    | formula e =>
      rw [he] at safe
      exact (h.alike isSettled c e hc₀ he).cycleSafe safe
    | _ => trivial
  obtain ⟨d, hd, hcd⟩ := traced c hc₀ settled safe₀ contains
  exact ⟨d, (h.reads isSettled).2 hd, (h.values isSettled d hd).contains hcd⟩

end Undisturbed

/-- Workbooks with the same sheets, functions and configuration look alike to a formula if the
tombstones among its precedents are the same. -/
theorem looksAlike_of_eq (settings : w'.settings = w.settings) (registry : w'.registry = w.registry)
    (sheets : w'.sheets = w.sheets) {sheet : Nat}
    (tombstone : ∀ d ∈ w.precedentsOn sheet e, w'.isTombstone d = w.isTombstone d) :
    LooksAlike w w' sheet e where
  limit := by rw [settings]
  sheetOf r _ := by
    unfold sheetOf? sheetNamed?
    rw [sheets]
  find name args _ := by rw [registry]
  tombstone := tombstone

theorem SameText.compiledAt (text : SameText w w') (compiled : w.CompiledAt x) :
    w'.CompiledAt x := by
  intro c hc
  obtain ⟨c', hc', raw, compiled'⟩ := text.symm.cell? hc
  rw [compile_congr text.settings text.registry text.sheets, ← raw, ← compiled']
  exact compiled c' hc'

theorem SameText.stableAt (text : SameText w w') (stable : w'.StableAt x) : w.StableAt x := by
  intro c hc
  obtain ⟨c', hc', -, compiled⟩ := text.cell? hc
  rw [← compiled, ← text.registry]
  exact stable c' hc'

/-- Where nothing written changes, a cell is left alone if it was settled before on the same
value, and the values that it reads are what they were. -/
theorem SameText.undisturbed (text : SameText w w')
    (own : ∀ c, w'.cell? x = some c → c.state.Settled → w.cell? x = some c)
    (values : w'.IsSettled x → ∀ d, w.Reads x d → (w.settledValue d).Close (w'.settledValue d)) :
    Undisturbed w w' x :=
  ⟨own, values, fun _ _ _ _ _ => looksAlike_of_eq text.settings text.registry text.sheets fun d _ =>
    text.tombstone d⟩

/-- Queueing disturbs no cell that it leaves settled. -/
theorem Marked.undisturbed (marked : Marked w w') (x : CellId) : Undisturbed w w' x :=
  marked.text.undisturbed (fun _ hc settled => marked.cell?_of_settled hc settled) fun _ d _ =>
    .inl (marked.settledValue d).symm

/-- A cell that is left alone stays sound. -/
theorem Undisturbed.sound (undisturbed : Undisturbed w w' x) (text : SameText w w')
    (sound : w.Sound x) : w'.Sound x where
  compiled := text.compiledAt sound.compiled
  consistent stable :=
    undisturbed.consistent sound.compiled (.inl text.now.symm)
      (sound.consistent (text.stableAt stable))
  traced := undisturbed.traced sound.traced

/-- The queue means nothing to what is known of a cell. -/
theorem sameText_queue (w : Workbook) (queue : List CellId) :
    SameText w { w with pending := queue } :=
  ⟨rfl, rfl, rfl, rfl, rfl, fun _ => rfl, fun _ => rfl⟩

theorem undisturbed_queue (w : Workbook) (queue : List CellId) (x : CellId) :
    Undisturbed w { w with pending := queue } x :=
  (sameText_queue w queue).undisturbed (fun _ hc _ => hc) fun _ _ _ => .inl rfl

theorem Sound.of_queue (sound : w.Sound x) (queue : List CellId) :
    ({ w with pending := queue } : Workbook).Sound x :=
  (undisturbed_queue w queue x).sound (sameText_queue w queue) sound

/-- What is not settled is sound if it was compiled from what was typed. -/
theorem sound_of_unsettled (compiled : w.CompiledAt x) (unsettled : ¬ w.IsSettled x) :
    w.Sound x where
  compiled := compiled
  consistent _ c hc settled := absurd ⟨c, hc, settled⟩ unsettled
  traced c hc settled := absurd ⟨c, hc, settled⟩ unsettled

/-! ## What is assumed of formulas -/

/-- All formulas have a property, which may depend on what their functions are. -/
def EachFormula (w : Workbook) (P : Registry → Expr → Prop) : Prop :=
  ∀ x c e, w.cell? x = some c → c.compiled.content = .formula e → P w.registry e

theorem eachFormula_create {P : Registry → Expr → Prop} (settings : Settings) (now : Moment)
    (seed : Nat) (engine : Regex.Engine) :
    (create settings now seed engine).EachFormula P := by
  intro x c e hc
  rw [cell?_create] at hc
  cases hc

theorem EachFormula.of_sameText {P : Registry → Expr → Prop} (text : SameText w w')
    (each : w.EachFormula P) :
    w'.EachFormula P := by
  intro x c e hc he
  obtain ⟨c', hc', -, compiled⟩ := text.symm.cell? hc
  rw [text.registry]
  exact each x c' e hc' (by rw [compiled, he])

/-- What was compiled from a text is lawful if the formulas are. -/
theorem EachFormula.content_lawful (lawful : w.EachFormula Expr.Lawful) (compiled : w.CompiledAt x)
    (hc : w.cell? x = some c) : c.compiled.content.Lawful w.registry := by
  cases he : c.compiled.content with
  | literal s =>
    rw [compiled c hc] at he
    exact same_of_compile he
  | formula e => exact lawful x c e hc he
  | invalid fault => trivial

theorem EachFormula.stableAt (stable : w.EachFormula Expr.Stable) (x : CellId) : w.StableAt x := by
  intro c hc
  cases he : c.compiled.content with
  | formula e => exact stable x c e hc he
  | _ => trivial

theorem EachFormula.content_cycleSafe (safe : w.EachFormula Expr.CycleSafe)
    (hc : w.cell? x = some c) :
    c.compiled.content.CycleSafe w.registry := by
  cases he : c.compiled.content with
  | formula e => exact safe x c e hc he
  | _ => trivial

end Workbook

end Spreadsheet
