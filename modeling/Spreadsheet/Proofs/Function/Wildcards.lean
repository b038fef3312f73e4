import Mathlib
import Spreadsheet.Proofs.Function.Criterion
import Spreadsheet.Proofs.Function.Tables
import Spreadsheet.Proofs.Value.NumericText
import Spreadsheet.Proofs.Value.Order

/-!
# `Proofs/Function/Wildcards.lean` — the texts that a text with wildcards asks for

A criterion without a comparison and the key of an exact search are read alike. If a star or a
question mark in them is not escaped, they are translated to an expression, and if the engine
compiles it, they ask for the texts that the pattern describes. Otherwise they are no pattern at all
but a text like any other, with its tildes, and ask for the texts that have the same lower-case form
(`Asks`). So a tilde takes a wildcard literally only if there is another one that is not escaped.

What is known of the engine is what engines are documented to do (`Regex.Engine.Documented`): the
translation is gone into (`Text.Glob.test_iff_describes`), matching is not. Which expressions an
engine refuses, for being too large to compile, is left open; a pattern that is refused is compared
as it stands, like one without a wildcard.

A text that is compared as it stands is compared as a text: with a wildcard or a tilde in it, it is
neither a number nor a truth value (`operand_of_isMarked`), and it is not empty.
-/

set_option autoImplicit false

namespace Spreadsheet.Wildcards

open Lookup (Answers)
open Text.Glob (Describes IsCompiled IsWild)

variable {engine : Regex.Engine} {same : Char → Char → Bool} {p s : String} {v : Value}

/-! ## What is asked for -/

/-- Whether a text is taken for a pattern: it has a wildcard that is not escaped, and the engine
compiles what it is translated to. -/
def IsPattern (engine : Regex.Engine) (p : String) : Prop :=
  IsWild p.toList ∧ IsCompiled engine p

instance : Decidable (IsPattern engine p) :=
  inferInstanceAs (Decidable (_ ∧ _))

/-- Whether a text is one that a text with wildcards asks for. -/
def Asks (engine : Regex.Engine) (same : Char → Char → Bool) (p s : String) : Prop :=
  if IsPattern engine p then Describes same p.toList s.toList
  else Text.lowered s = Text.lowered p

instance : Decidable (Asks engine same p s) :=
  inferInstanceAs (Decidable (if IsPattern engine p then Describes same p.toList s.toList
    else Text.lowered s = Text.lowered p))

/-- Whether a cell is one that a criterion asks for. A pattern asks for numbers and truth values by
their texts. -/
def Counts (engine : Regex.Engine) (same : Char → Char → Bool) (p : String) : Value → Prop
  | .text s => Asks engine same p s
  | .number x => IsPattern engine p ∧ Describes same p.toList (numberText x).toList
  | .bool b => IsPattern engine p ∧ Describes same p.toList (boolText b).toList
  | _ => False

instance : Decidable (Counts engine same p v) :=
  match v with
  | .text s => inferInstanceAs (Decidable (Asks engine same p s))
  | .number _ => inferInstanceAs (Decidable (_ ∧ _))
  | .bool _ => inferInstanceAs (Decidable (_ ∧ _))
  | .blank | .error _ | .block _ => inferInstanceAs (Decidable False)

/-- Whether a key is one that an exact search asks for. -/
def Finds (engine : Regex.Engine) (same : Char → Char → Bool) (p : String) : Value → Prop
  | .text s => Asks engine same p s
  | _ => False

instance : Decidable (Finds engine same p v) :=
  match v with
  | .text s => inferInstanceAs (Decidable (Asks engine same p s))
  | .number _ | .bool _ | .blank | .error _ | .block _ => inferInstanceAs (Decidable False)

/-- Whether a text has anything in it that patterns are made of. -/
def IsMarked (p : String) : Prop := '*' ∈ p.toList ∨ '?' ∈ p.toList ∨ '~' ∈ p.toList

/-- Whether a text starts with no comparison. -/
def IsBare (p : String) : Prop :=
  p.toList.head? ≠ some '=' ∧ p.toList.head? ≠ some '<' ∧ p.toList.head? ≠ some '>'

/-! ## Texts that are compared as they stand -/

/-- A text that is taken for a pattern spells a test, and the test is true of what it describes. -/
theorem exists_test (documented : engine.Documented same) (pattern : IsPattern engine p) :
    ∃ test : String → Bool, Text.Glob.ofText? engine p = some test ∧
      ∀ s : String, test s = true ↔ Describes same p.toList s.toList := by
  obtain ⟨wild, compiled⟩ := pattern
  obtain ⟨test, compiled⟩ := Option.isSome_iff_exists.1 compiled
  refine ⟨test, ?_, Text.Glob.test_iff_describes documented compiled⟩
  rw [Text.Glob.ofText?_eq, if_pos wild, compiled]

/-- Any other text spells none, be it for want of a wildcard or because it is refused. -/
theorem ofText?_of_not_isPattern (literal : ¬ IsPattern engine p) :
    Text.Glob.ofText? engine p = none := by
  rw [Text.Glob.ofText?_eq]
  split_ifs with wild
  · exact Option.not_isSome_iff_eq_none.1 fun compiled => literal ⟨wild, compiled⟩
  · rfl

/-- No mark is a part of a number or of the name of a truth value. -/
theorem exists_foreign (marked : IsMarked p) : ∃ c ∈ p.toList, NumericText.Foreign c ∧
    c ∉ "TRUE".toList.map Char.toLower ∧ c ∉ "FALSE".toList.map Char.toLower ∧ c.toLower = c := by
  rcases marked with star | question | tilde
  · exact ⟨'*', star, by constructor <;> decide, by decide, by decide, by decide⟩
  · exact ⟨'?', question, by constructor <;> decide, by decide, by decide, by decide⟩
  · exact ⟨'~', tilde, by constructor <;> decide, by decide, by decide, by decide⟩

theorem not_sameName {name : String} {c : Char} (mem : c ∈ p.toList) (itself : c.toLower = c)
    (letters : c ∉ name.toList.map Char.toLower) : Text.sameName p name = false := by
  rw [Text.sameName, beq_eq_false_iff_ne]
  intro same
  have same := congrArg String.toList same
  rw [Text.latinLower, Text.latinLower, String.toList_ofList, String.toList_ofList] at same
  have lower : c.toLower ∈ p.toList.map Char.toLower := List.mem_map_of_mem mem
  rw [itself, same] at lower
  exact letters lower

/-- A text with a mark is an operand as it stands. -/
theorem operand_of_isMarked (marked : IsMarked p) : Criterion.operand p = .text p := by
  obtain ⟨c, mem, foreign, true_, false_, itself⟩ := exists_foreign marked
  unfold Criterion.operand
  rw [NumericText.read?_of_foreign foreign mem, not_sameName mem itself true_,
    not_sameName mem itself false_]
  rfl

theorem ne_empty_of_isMarked (marked : IsMarked p) : p ≠ "" := by
  obtain ⟨c, mem, -⟩ := exists_foreign marked
  rintro rfl
  cases mem

theorem compareTexts_eq_iff {a b : String} :
    compareTexts a b = .eq ↔ Text.lowered a = Text.lowered b := by
  unfold compareTexts
  constructor
  · exact Std.LawfulEqOrd.eq_of_compare
  · intro same
    rw [same]
    exact Std.ReflOrd.compare_self

/-! ## Criteria -/

theorem splitComparison_of_isBare (bare : IsBare p) :
    Criterion.splitComparison p.toList = (.equal, p.toList) := by
  obtain ⟨equal, less, greater⟩ := bare
  cases h : p.toList with
  | nil => rfl
  | cons c rest =>
    rw [h] at equal less greater
    have equal : c ≠ '=' := fun same => equal (congrArg some same)
    have less : c ≠ '<' := fun same => less (congrArg some same)
    have greater : c ≠ '>' := fun same => greater (congrArg some same)
    unfold Criterion.splitComparison
    split <;> simp_all

theorem isMet_of_isPattern (pattern : IsPattern engine p) {test : String → Bool}
    (describes : ∀ s : String, test s = true ↔ Describes same p.toList s.toList) (v : Value) :
    Criterion.isMet (.pattern test false) v = true ↔ Counts engine same p v := by
  show (Criterion.fits test v != false) = true ↔ _
  rw [Bool.bne_false]
  cases v with
  | scalar c =>
    cases c with
    | text s =>
      show _ ↔ Asks engine same p s
      rw [Asks, if_pos pattern]
      exact describes s
    -- Numbers and truth values are written out and described by the pattern as texts are.
    | number x => exact (describes _).trans (and_iff_right pattern).symm
    | bool b => exact (describes _).trans (and_iff_right pattern).symm
    | blank => exact ⟨nofun, nofun⟩
  | error e => exact ⟨nofun, nofun⟩
  | block b => exact ⟨nofun, nofun⟩

theorem isMet_of_literal (marked : IsMarked p) (literal : ¬ IsPattern engine p) (v : Value) :
    Criterion.isMet (.compare .equal (.text p)) v = true ↔ Counts engine same p v := by
  show (Criterion.order v (.text p) == some .eq) = true ↔ _
  rw [beq_iff_eq]
  cases v with
  | scalar c =>
    cases c with
    | text s =>
      show some (compareTexts s p) = some .eq ↔ Asks engine same p s
      rw [Asks, if_neg literal, Option.some_inj, compareTexts_eq_iff]
    | number x => exact ⟨nofun, fun counts => absurd counts.1 literal⟩
    | bool b => exact ⟨nofun, fun counts => absurd counts.1 literal⟩
    -- A blank is level with the empty text, and the criterion is not empty.
    | blank =>
      refine ⟨fun level => ?_, nofun⟩
      have level : compare "" p = .eq := Option.some_inj.1 level
      exact absurd (Std.LawfulEqOrd.eq_of_compare level).symm (ne_empty_of_isMarked marked)
  | error e => exact ⟨nofun, nofun⟩
  | block b => exact ⟨nofun, nofun⟩

/-- A criterion is met by the cells that it asks for. -/
theorem isMet_ofText (documented : engine.Documented same) (marked : IsMarked p) (bare : IsBare p)
    (v : Value) : (Criterion.ofText engine p).isMet v = decide (Counts engine same p v) := by
  have split := splitComparison_of_isBare bare
  rw [Bool.eq_iff_iff, decide_eq_true_iff]
  by_cases pattern : IsPattern engine p
  · obtain ⟨test, spelled, describes⟩ := exists_test documented pattern
    rw [Criterion.ofText_of_some split (.inl rfl) spelled]
    exact isMet_of_isPattern pattern describes v
  · rw [Criterion.ofText_of_none split fun _ => ofText?_of_not_isPattern pattern,
      operand_of_isMarked marked]
    exact isMet_of_literal marked pattern v

/-! ## Keys -/

theorem fits_iff (pattern : IsPattern engine p) {test : String → Bool}
    (describes : ∀ s : String, test s = true ↔ Describes same p.toList s.toList) (v : Value) :
    Lookup.fits test v = true ↔ Finds engine same p v := by
  cases v with
  | scalar c =>
    cases c with
    | text s =>
      show _ ↔ Asks engine same p s
      rw [Asks, if_pos pattern]
      exact describes s
    | _ => exact ⟨nofun, nofun⟩
  | error e => exact ⟨nofun, nofun⟩
  | block b => exact ⟨nofun, nofun⟩

theorem isLevel_iff (marked : IsMarked p) (literal : ¬ IsPattern engine p) (v : Value) :
    v.isLevel (.text p) = true ↔ Finds engine same p v := by
  show (v.compare (.text p) == .eq) = true ↔ _
  rw [beq_iff_eq]
  cases v with
  | scalar c =>
    cases c with
    | text s =>
      show compareTexts s p = .eq ↔ Asks engine same p s
      rw [Asks, if_neg literal, compareTexts_eq_iff]
    | number x => exact ⟨nofun, nofun⟩
    | bool b => exact ⟨nofun, nofun⟩
    | blank =>
      refine ⟨fun level => ?_, nofun⟩
      have empty := Text.eq_empty_of_lowered (compareTexts_eq_iff.1 level).symm
      exact absurd empty (ne_empty_of_isMarked marked)
  | error e => exact ⟨nofun, nofun⟩
  | block b => exact ⟨nofun, nofun⟩

/-- An exact search finds the first key that it asks for. -/
theorem firstMatch?_eq (documented : engine.Documented same) (marked : IsMarked p)
    (keys : List Value) : Lookup.firstMatch? engine (.text p) keys =
      keys.findIdx? fun v => decide (Finds engine same p v) := by
  unfold Lookup.firstMatch? Lookup.pattern?
  dsimp only
  -- A key that is a pattern is tested, and any other is compared.
  by_cases pattern : IsPattern engine p
  · obtain ⟨test, spelled, describes⟩ := exists_test documented pattern
    rw [spelled]
    dsimp only
    congr 1
    funext v
    rw [Bool.eq_iff_iff, decide_eq_true_iff]
    exact fits_iff pattern describes v
  · rw [ofText?_of_not_isPattern pattern]
    dsimp only
    congr 1
    funext v
    rw [Bool.eq_iff_iff, decide_eq_true_iff]
    exact isLevel_iff marked pattern v

/-! ## Calls -/

/-- The first place of a column is the first row that has it. -/
theorem findIdx?_ofFn {α : Type} {n : ℕ} (q : α → Bool) (f : Fin n → α) :
    (List.ofFn f).findIdx? q = ((List.finRange n).find? fun i => q (f i)).map Fin.val := by
  cases found : (List.finRange n).find? fun i => q (f i) with
  | none =>
    rw [Option.map_none, List.findIdx?_eq_none_iff]
    intro a mem
    obtain ⟨i, rfl⟩ := List.mem_ofFn.1 mem
    simpa using List.find?_eq_none.1 found i (List.mem_finRange i)
  | some i =>
    obtain ⟨holds, k, bound, here, before⟩ := List.find?_eq_some_iff_getElem.1 found
    rw [List.getElem_finRange] at here
    -- Rows are listed in order, so the number of a row is its place in the list.
    obtain rfl : k = i := by rw [← here]; rfl
    rw [Option.map_some, List.findIdx?_eq_some_iff_getElem]
    refine ⟨by simp, by simpa using holds, fun l less => ?_⟩
    simpa using before l less

/-- **What a text with wildcards asks for.** Whatever the engine is, if it does what engines are
documented to do: a criterion that starts with no comparison counts the texts that it asks for,
and an exact search for it finds the first of them, wherever the wildcards and tildes in it stand.
With a wildcard that is not escaped these are the texts that the pattern describes, provided that
its expression is compiled; else they are the texts that are the same as the whole criterion,
tildes included, in lower case. -/
theorem wildcards_ask (documented : engine.Documented same) (marked : IsMarked p)
    (bare : IsBare p) :
    (∀ cells : Block Value, Answers engine "COUNTIF" [.block cells, .text p]
      (.number (Float.ofNat (cells.cells.countP fun v => decide (Counts engine same p v))))) ∧
    (∀ (keys : Block Value) (values : List Value), keys.vector? = some values →
      Answers engine "MATCH" [.text p, .block keys, .number 0.0]
        (match values.findIdx? fun v => decide (Finds engine same p v) with
        | some i => .number (Float.ofNat (i + 1))
        | none => .error .notAvailable)) ∧
    ∀ (table : Block Value) (j : Fin table.columns), j.val + 1 < 2 ^ 53 →
      Answers engine "VLOOKUP"
        [.text p, .block table, .number (Float.ofNat (j + 1)), .bool false]
        (match (List.finRange table.rows).find? fun i =>
            decide (Finds engine same p (table.entry i ⟨0, j.pos⟩)) with
        | some i => table.entry i j
        | none => .error .notAvailable) := by
  have key : Lookup.keyOf (.text p) = .ok (.text p) := rfl
  have exact : Value.toBool (.bool false) = .ok false := rfl
  have search (keys : List Value) : Lookup.placeOf engine false (.text p) keys =
      keys.findIdx? fun v => decide (Finds engine same p v) := firstMatch?_eq documented marked keys
  refine ⟨fun cells => ?_, fun keys values hkeys => ?_, fun table j small => ?_⟩
  · have met : (Criterion.ofText engine p).isMet = fun v => decide (Counts engine same p v) :=
      funext (isMet_ofText documented marked bare)
    rw [← met]
    exact Criterion.answers_countIf engine cells p
  · have answer : Answers engine "MATCH" [.text p, .block keys, .number 0.0] _ :=
      Lookup.answers_positionOf keys 0.0
    have read := Lookup.positionOf_of_ok engine false key hkeys
    rw [if_neg Bool.false_ne_true] at read
    rw [read, search] at answer
    cases found : values.findIdx? fun v => decide (Finds engine same p v) with
    | none =>
      rw [found] at answer
      exact answer
    | some i =>
      rw [found] at answer
      exact answer
  · have answer : Answers engine "VLOOKUP"
        [.text p, .block table, .number (Float.ofNat (j + 1)), .bool false] _ :=
      Lookup.answers_inTable .vertical Lookup.find?_vlookup exact
    have column : table.column ⟨0, j.pos⟩ = List.ofFn fun i => table.entry i ⟨0, j.pos⟩ := rfl
    rw [Lookup.inTable_of_ok engine .vertical key exact small j.val.succ_pos,
      Lookup.lookUp_eq (Lookup.column?_zero j.pos) j, search, column, findIdx?_ofFn] at answer
    cases found : (List.finRange table.rows).find? fun i =>
        decide (Finds engine same p (table.entry i ⟨0, j.pos⟩)) with
    | none =>
      rw [found] at answer
      exact answer
    | some i =>
      rw [found, Option.map_some] at answer
      simp only [dif_pos i.isLt] at answer
      exact answer

/-- A question mark that is taken literally beside a star that is not, with the engine that the
program runs on. -/
theorem wildcards_ask_of_question :
    let p := "what~?*"
    let Counts := Counts .standard Text.sameLetter p
    let Finds := Finds .standard Text.sameLetter p
    Regex.Engine.standard.Documented Text.sameLetter ∧ IsMarked p ∧ IsBare p ∧
    IsPattern .standard p ∧ Counts (.text "WHAT? now") ∧ ¬ Counts (.text "whatX now") ∧
    (∀ cells : Block Value, Answers .standard "COUNTIF" [.block cells, .text p]
      (.number (Float.ofNat (cells.cells.countP fun v => decide (Counts v))))) ∧
    (∀ (keys : Block Value) (values : List Value), keys.vector? = some values →
      Answers .standard "MATCH" [.text p, .block keys, .number 0.0]
        (match values.findIdx? fun v => decide (Finds v) with
        | some i => .number (Float.ofNat (i + 1))
        | none => .error .notAvailable)) ∧
    ∀ (table : Block Value) (j : Fin table.columns), j.val + 1 < 2 ^ 53 →
      Answers .standard "VLOOKUP"
        [.text p, .block table, .number (Float.ofNat (j + 1)), .bool false]
        (match (List.finRange table.rows).find? fun i =>
            decide (Finds (table.entry i ⟨0, j.pos⟩)) with
        | some i => table.entry i j
        | none => .error .notAvailable) := by
  have documented := Regex.standard_documented
  have marked : IsMarked "what~?*" := .inl (by decide)
  have bare : IsBare "what~?*" := ⟨by decide, by decide, by decide⟩
  have pattern : IsPattern .standard "what~?*" := ⟨by decide, Text.Glob.isCompiled_standard _⟩
  exact ⟨documented, marked, bare, pattern, by decide +kernel, by decide +kernel,
    wildcards_ask documented marked bare⟩

/-- A star that is taken literally, and none that is not: the pattern describes the text, and the
text is not found. -/
theorem escaped_wildcard_is_not_found :
    Describes Text.sameLetter "a~*".toList "a*".toList ∧
    Answers .standard "COUNTIF" [.block (.single (.text "a*")), .text "a~*"] (.number 0.0) ∧
    Answers .standard "MATCH" [.text "a~*", .block (.single (.text "a*")), .number 0.0]
      (.error .notAvailable) ∧
    Answers .standard "VLOOKUP"
      [.text "a~*", .block (.single (.text "a*")), .number 1.0, .bool false]
      (.error .notAvailable) := by
  have count := Criterion.answers_countIf .standard (.single (.text "a*")) "a~*"
  have entry : Answers .standard "VLOOKUP"
      [.text "a~*", .block (.single (.text "a*")), .number (Float.ofNat 1), .bool false] _ :=
    Lookup.answers_inTable .vertical Lookup.find?_vlookup rfl
  exact ⟨by decide, count, Lookup.answers_positionOf _ 0.0, entry⟩

end Spreadsheet.Wildcards
