import Mathlib
import Spreadsheet.Proofs.Function.Answer
import Spreadsheet.Proofs.Number.Position
import Spreadsheet.Proofs.Text.Occurrence

/-!
# `Proofs/Function/Substitute.lean` — all occurrences, or one at a time

`SUBSTITUTE` replaces all occurrences of a text, or the one with a number. The two go through a
text separately, but they see the same occurrences: to replace all of them is to replace one after
the other, beginning with the last, and there is none with a higher number
(`substitute_all_is_one_by_one`). To begin with the last matters, for what is written may make
occurrences that have not been there before.

How often a text occurs is said by cutting at its occurrences from the left, into pieces of which
only the last has no occurrence behind it (`Text.Cuts`). A text can be cut in one way only, so the
number is one that belongs to the text.
-/

set_option autoImplicit false

namespace Spreadsheet.TextFunction

open Argument
open Binary64 (Exactly)
open Lookup (Answers)

variable {engine : Regex.Engine} {old new s t u : String} {k n : ℕ} {x : Float}

/-- How often a text occurs in another, from the left and without overlaps: once behind every
piece but the last. -/
def Occurs (old s : String) (n : ℕ) : Prop :=
  ∃ pieces, Text.Cuts old.toList s.toList pieces ∧ pieces.length = n + 1

/-- `SUBSTITUTE` makes one text of another by replacing the occurrences up to a number, one at a
time and the last first. -/
inductive OneByOne (engine : Regex.Engine) (old new : String) : ℕ → String → String → Prop
  | done {s : String} : OneByOne engine old new 0 s s
  | next {k : ℕ} {x : Float} {s t u : String} (place : Exactly x (k + 1))
      (replaced : Answers engine "SUBSTITUTE" [.text s, .text old, .text new, .number x] (.text t))
      (others : OneByOne engine old new k t u) : OneByOne engine old new (k + 1) s u

theorem library_substitute :
    (Registry.library engine).find? "SUBSTITUTE" =
    some (.ofArguments "SUBSTITUTE" (.between 3 4) .scalar (textResult ∘ substitute)) :=
  find?_library (by simp [Function.library, functions]) rfl

/-- A natural number is a position behind as many characters as it says, less one. -/
theorem before_of_exactly (exact : Exactly x k) (pos : 0 < k) :
    before (.number x) = .ok (min 0xFFFFFFFFFFFFFFFF k - 1) := by
  have read : before (.number x) = if Decimal.truncate x < 1.0 then .error .typeMismatch
      else .ok (Decimal.toCount (Decimal.truncate x) - 1) := rfl
  rw [read, exact.truncate, if_neg (exact.not_lt_one pos), exact.toCount]

theorem toList_ne_nil (some : old ≠ "") : old.toList ≠ [] := mt String.toList_eq_nil_iff.1 some

theorem answers_all (engine : Regex.Engine) (some : old ≠ "") (s new : String) :
    Answers engine "SUBSTITUTE" [.text s, .text old, .text new]
    (.text (String.ofList (Text.replaceAll old.toList new.toList s.toList))) := by
  have answer : Answers engine "SUBSTITUTE" [.text s, .text old, .text new]
    (textResult (substitute [.text s, .text old, .text new])) :=
    Lookup.answers_scalars library_substitute [.text s, .text old, .text new] rfl
  have result : substitute [.text s, .text old, .text new] =
      if old.toList = [] then .ok s
      else .ok (String.ofList (Text.replaceAll old.toList new.toList s.toList)) := rfl
  rwa [result, if_neg (toList_ne_nil some)] at answer

theorem answers_nth (engine : Regex.Engine) (some : old ≠ "") (s new : String)
    (exact : Exactly x (k + 1)) :
    Answers engine "SUBSTITUTE" [.text s, .text old, .text new, .number x]
      (.text (String.ofList (Text.replaceNth old.toList new.toList
        (min 0xFFFFFFFFFFFFFFFF (k + 1) - 1) s.toList))) := by
  have answer : Answers engine "SUBSTITUTE" [.text s, .text old, .text new, .number x]
      (textResult (substitute [.text s, .text old, .text new, .number x])) :=
    Lookup.answers_scalars library_substitute [.text s, .text old, .text new, .number x] rfl
  have result : substitute [.text s, .text old, .text new, .number x] =
      if old.toList = [] then .ok s
      else (before (.number x)).bind fun k =>
      .ok (String.ofList (Text.replaceNth old.toList new.toList k s.toList)) := rfl
  rwa [result, if_neg (toList_ne_nil some), before_of_exactly exact k.succ_pos] at answer

/-- One at a time, `SUBSTITUTE` does what is done from the last occurrence down to the first. -/
theorem oneByOne_replaceDown (some : old ≠ "") (few : n < 2 ^ 63)
    (numbers : ∀ k ≤ n, ∃ x, Exactly x k) (s new : String) :
    OneByOne engine old new n s
    (String.ofList (Text.replaceDown old.toList new.toList n s.toList)) := by
  induction n generalizing s with
  | zero =>
    rw [Text.replaceDown, String.ofList_toList]
    exact .done
  | succ n ih =>
    obtain ⟨x, exact⟩ := numbers (n + 1) le_rfl
    have replaced := answers_nth engine some s new exact
    -- The number of an occurrence counts from one, and is cut down to the numbers that there are.
    rw [show min 0xFFFFFFFFFFFFFFFF (n + 1) - 1 = n by omega] at replaced
    refine .next exact replaced ?_
    rw [Text.replaceDown]
    convert ih (by omega) (fun k le => numbers k (by omega)) _ using 2
    rw [String.toList_ofList]

/-- **All at once is one at a time.** In a text that memory can hold, a text that is not empty
occurs some number of times, `n` say. To replace all occurrences at once comes to the same as to
replace those with the numbers from `n` down to one, in that order, whatever is written in their
place, if every one of these is a number that can be passed on. An occurrence with a number beyond
`n` there is none to replace. -/
theorem substitute_all_is_one_by_one (engine : Regex.Engine) (some : old ≠ "")
    (fits : s.length < 2 ^ 63) (new : String) :
    ∃ n t, (∀ m, Occurs old s m ↔ m = n) ∧
      Answers engine "SUBSTITUTE" [.text s, .text old, .text new] (.text t) ∧
      ((∀ k ≤ n, ∃ x, Exactly x k) → OneByOne engine old new n s t) ∧
      ∀ x k, Exactly x k → n < k →
      Answers engine "SUBSTITUTE" [.text s, .text old, .text new, .number x] (.text s) := by
  have filled := toList_ne_nil some
  obtain ⟨pieces, cuts⟩ := Text.exists_cuts filled s.toList
  obtain ⟨n, count⟩ := Nat.exists_eq_add_one.2 cuts.pos
  -- Occurrences do not overlap, so there are no more of them than characters.
  have few : n < 2 ^ 63 := by
    have most := cuts.length_le filled
    rw [String.length_toList] at most
    omega
  refine ⟨n, _, fun m => ⟨?_, ?_⟩, answers_all engine some s new, fun numbers => ?_,
    fun x k exact beyond => ?_⟩
  · rintro ⟨pieces', cuts', count'⟩
    rw [cuts.unique cuts'] at count
    omega
  · rintro rfl
    exact ⟨pieces, cuts, count⟩
  · rw [← Text.replaceDown_eq_replaceAll filled cuts count]
    exact oneByOne_replaceDown some few numbers s new
  · obtain ⟨k, rfl⟩ := Nat.exists_eq_add_one.2 (Nat.zero_lt_of_lt beyond)
    have answer := answers_nth engine some s new exact
    rwa [cuts.replaceNth_of_le filled (by omega), String.ofList_toList] at answer

/-- Here occurrences overlap, and what is written in their place makes new ones. -/
theorem substitute_all_is_one_by_one_of_overlap :
    ("aa" ≠ "" ∧ "aaaaa".length < 2 ^ 63) ∧ Occurs "aa" "aaaaa" 2 ∧
      Answers .standard "SUBSTITUTE" [.text "aaaaa", .text "aa", .text "aaa"] (.text "aaaaaaa") ∧
      OneByOne .standard "aa" "aaa" 2 "aaaaa" "aaaaaaa" ∧
      ∀ x k, Exactly x k → 2 < k → Answers .standard "SUBSTITUTE"
      [.text "aaaaa", .text "aa", .text "aaa", .number x] (.text "aaaaa") := by
  have some : "aa" ≠ "" := by decide
  have fits : "aaaaa".length < 2 ^ 63 := by decide
  have none : ¬ ['a', 'a'] <:+: ['a'] := by decide
  have twice : Occurs "aa" "aaaaa" 2 :=
    ⟨[[], [], ['a']], .cut (Text.firstBehind_nil _)
      (.cut (Text.firstBehind_nil _) (.last none)), rfl⟩
  have written : Text.replaceAll "aa".toList "aaa".toList "aaaaa".toList = "aaaaaaa".toList := by
    show Text.replaceAll ['a', 'a'] ['a', 'a', 'a'] (['a', 'a'] ++ (['a', 'a'] ++ ['a'])) = _
    rw [Text.replaceAll_append (by decide), Text.replaceAll_append (by decide),
      Text.replaceAll_of_clear none]
    rfl
  obtain ⟨n, t, occurs, all, steps, beyond⟩ :=
    substitute_all_is_one_by_one .standard some fits "aaa"
  obtain rfl := (occurs 2).1 twice
  obtain rfl : t = "aaaaaaa" := by
    have same := all.unique (answers_all .standard some "aaaaa" "aaa")
    rw [written, String.ofList_toList] at same
    cases same
    rfl
  have numbers : ∀ k ≤ 2, ∃ x, Exactly x k := fun k le => ⟨_, Binary64.exactly_ofNat (by omega)⟩
  exact ⟨⟨some, fits⟩, twice, all, steps numbers, beyond⟩

end Spreadsheet.TextFunction
