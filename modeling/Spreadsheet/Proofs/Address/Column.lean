import Mathlib.Data.List.Induction
import Mathlib.Data.Nat.Digits.Defs
import Mathlib.Data.Option.Basic
import Spreadsheet.Address.Column
import Spreadsheet.Proofs.Text.Characters

/-!
# `Proofs/Address/Column.lean` — columns and their letters

Letters are digits from one to twenty-six, and every positive number is spelled in one way by
them. What a column is written with spells the successor of the column (`value_spell`), and
letters that spell a number are what is written for it, in capitals (`spell_value`). A digit more
is worth more than any digits (`value_lt_of_length_lt`), and of equally many the first that differ
decide (`value_lt_of_lex`).

Reading goes letter by letter and stops as soon as something does not fit in 64 bits. What has
been read never goes down again, so this stops just for the texts whose number does not fit
(`foldlM_extend?`).

Letters are taken off at the end, since that is where a spelling grows, so most inductions here
are from the end of a text. Only the order of the alphabet is decided at the front.
-/

set_option autoImplicit false

namespace Spreadsheet.Column

variable {s t : List Char} {c d : Char} {n column : Nat}

/-! ## Letters -/

theorem letter_spec : ∀ d < 26, isLetter (letter d) = true ∧ digit (letter d) = d + 1 := by decide

theorem isLetter_of_isUpper (h : c.isUpper = true) : isLetter c = true := by
  show (c.isUpper || c.isLower) = true
  rw [h, Bool.true_or]

/-- Every letter is a digit from one to twenty-six, and its capital is the letter of that digit. -/
theorem digit_spec (h : isLetter c = true) :
    1 ≤ digit c ∧ digit c ≤ 26 ∧ letter (digit c - 1) = c.toUpper := by
  have all : (Text.ascii.all fun c => !isLetter c ||
    decide (1 ≤ digit c ∧ digit c ≤ 26 ∧ letter (digit c - 1) = c.toUpper)) =
      true := by decide
  have holds := Text.of_ascii all (Text.toNat_lt_of_isAlphanum (Text.isAlphanum_of_isAlpha h))
  simpa [h] using holds

/-- A capital is the digit that it is in the alphabet. -/
theorem digit_of_isUpper (h : c.isUpper = true) : digit c + 64 = c.toNat := by
  have all : (Text.ascii.all fun c => !c.isUpper || decide (digit c + 64 = c.toNat)) = true := by
    decide
  have holds := Text.of_ascii all
    (Text.toNat_lt_of_isAlphanum (Text.isAlphanum_of_isAlpha (isLetter_of_isUpper h)))
  simpa [h] using holds

/-- Capitals are in the order of the alphabet. -/
theorem digit_lt_of_lt (hc : c.isUpper = true) (hd : d.isUpper = true) (before : c < d) :
    digit c < digit d := by
  have order : c.toNat < d.toNat := UInt32.lt_iff_toNat_lt.1 before
  have := digit_of_isUpper hc
  have := digit_of_isUpper hd
  omega

/-! ## Spelling -/

/-- How many columns have up to `k` letters. -/
def reach : Nat → Nat
  | 0 => 0
  | k + 1 => 26 * (reach k + 1)

theorem value_concat (s : List Char) (c : Char) : value (s ++ [c]) = 26 * value s + digit c := by
  simp [value, List.foldl_append]

/-- Letters count up to what can be spelled with as many. -/
theorem value_le (letters : ∀ c ∈ s, isLetter c = true) : value s ≤ reach s.length := by
  induction s using List.reverseRecOn with
  | nil => exact Nat.le_refl 0
  | append_singleton s c ih =>
    have := ih fun d hd => letters d (by simp [hd])
    have := (digit_spec (letters c (by simp))).2.1
    rw [value_concat, List.length_append, List.length_singleton, reach]
    omega

theorem spell_of_pos (h : n ≠ 0) : spell n = spell ((n - 1) / 26) ++ [letter ((n - 1) % 26)] := by
  rw [spell, if_neg h]

theorem value_spell (n : Nat) : value (spell n) = n := by
  induction n using Nat.strongRecOn with
  | ind n ih =>
    by_cases h : n = 0
    · subst h
      rw [spell, if_pos rfl]
      rfl
    · rw [spell_of_pos h, value_concat, ih _ (by omega),
        (letter_spec _ (Nat.mod_lt _ (by decide))).2]
      omega

theorem isLetter_of_mem_spell : ∀ c ∈ spell n, isLetter c = true := by
  induction n using Nat.strongRecOn with
  | ind n ih =>
    by_cases h : n = 0
    · subst h
      rw [spell, if_pos rfl]
      nofun
    · rw [spell_of_pos h]
      intro c hc
      rcases List.mem_append.1 hc with hc | hc
      · exact ih _ (by omega) c hc
      · rw [List.mem_singleton.1 hc]
        exact (letter_spec _ (Nat.mod_lt _ (by decide))).1

theorem length_spell_le (k : Nat) : ∀ n, n ≤ reach k → (spell n).length ≤ k := by
  induction k with
  | zero =>
    intro n h
    rw [spell, if_pos (Nat.le_zero.1 h)]
    exact Nat.le_refl 0
  | succ k ih =>
    intro n h
    by_cases zero : n = 0
    · rw [spell, if_pos zero]
      exact Nat.zero_le _
    · rw [reach] at h
      -- Taking a letter off takes one off the bound, as `reach` is made to.
      have := ih ((n - 1) / 26) (by omega)
      rw [spell_of_pos zero, List.length_append, List.length_singleton]
      omega

theorem letters_ne_nil (column : Nat) : letters column ≠ [] := by
  rw [letters, spell_of_pos (Nat.succ_ne_zero column)]
  simp

/-- There is no other way to spell a number than the one in which it is written, but for the case
of letters. -/
theorem spell_value (letters : ∀ c ∈ s, isLetter c = true) :
    spell (value s) = s.map Char.toUpper := by
  induction s using List.reverseRecOn with
  | nil => exact by rw [value, List.foldl_nil, spell, if_pos rfl]; rfl
  | append_singleton s c ih =>
    obtain ⟨least, most, letter⟩ := digit_spec (letters c (by simp))
    have quotient : (26 * value s + digit c - 1) / 26 = value s := by omega
    have remainder : (26 * value s + digit c - 1) % 26 = digit c - 1 := by omega
    rw [value_concat, spell_of_pos (by omega), quotient, remainder, letter,
      ih fun d hd => letters d (by simp [hd]), List.map_append]
    rfl

/-! ## Numerals -/

/-- The number that digits from one to twenty-six stand for by their places. -/
def numeral (s : List Char) : Nat := Nat.ofDigits 26 (s.map digit).reverse

theorem value_eq_numeral (s : List Char) : value s = numeral s := by
  unfold numeral
  induction s using List.reverseRecOn with
  | nil => rfl
  | append_singleton s c ih =>
    rw [value_concat, List.map_append, List.reverse_append, List.map_singleton,
      List.reverse_singleton, List.singleton_append, Nat.ofDigits_cons, ih, Nat.add_comm]

/-- A letter more is worth more than any letters. -/
theorem value_lt_of_length_lt (hs : ∀ c ∈ s, isLetter c = true) (ht : ∀ c ∈ t, isLetter c = true)
    (shorter : s.length < t.length) : value s < value t := by
  induction t using List.reverseRecOn generalizing s with
  | nil => exact absurd shorter (Nat.not_lt_zero _)
  | append_singleton t d ih =>
    have last := (digit_spec (ht d (by simp))).1
    rw [value_concat]
    cases s using List.reverseRecOn with
    | nil => exact Nat.lt_of_lt_of_le last (Nat.le_add_left _ _)
    | append_singleton s c =>
      -- Both lose their last letters. The longer one may be left with a single letter more.
      have front := ih (s := s) (fun c hc => hs c (by simp [hc])) (fun d hd => ht d (by simp [hd]))
        (by simpa using shorter)
      have most := (digit_spec (hs c (by simp))).2.1
      rw [value_concat]
      omega

theorem value_cons (c : Char) (s : List Char) :
    value (c :: s) = digit c * 26 ^ s.length + value s := by
  rw [value_eq_numeral, value_eq_numeral, numeral, numeral, List.map_cons, List.reverse_cons,
    Nat.ofDigits_append, Nat.ofDigits_singleton, List.length_reverse, List.length_map, Nat.mul_comm,
    Nat.add_comm]

/-- Behind the first that differ, letters cannot make up for a difference of one. -/
theorem value_lt_pow_add (hs : ∀ c ∈ s, isLetter c = true) (ht : ∀ c ∈ t, isLetter c = true)
    (same : s.length = t.length) :
    value s < 26 ^ s.length + value t := by
  induction s using List.reverseRecOn generalizing t with
  | nil => exact Nat.lt_add_right _ (by decide)
  | append_singleton s c ih =>
    cases t using List.reverseRecOn with
    | nil => simp at same
    | append_singleton t d =>
      have front := ih (t := t) (fun c hc => hs c (by simp [hc])) (fun d hd => ht d (by simp [hd]))
        (by simpa using same)
      have most := (digit_spec (hs c (by simp))).2.1
      have least := (digit_spec (ht d (by simp))).1
      rw [value_concat, value_concat, List.length_append, List.length_singleton, Nat.pow_succ]
      omega

/-- Equally many capitals are in the order of the alphabet. -/
theorem value_lt_of_lex (hs : ∀ c ∈ s, c.isUpper = true) (ht : ∀ c ∈ t, c.isUpper = true)
    (same : s.length = t.length) (before : s < t) : value s < value t := by
  induction s generalizing t with
  | nil =>
    obtain rfl := List.length_eq_zero_iff.1 same.symm
    exact absurd before (List.not_lt_nil _)
  | cons c s ih =>
    cases t with
    | nil => cases same
    | cons d t =>
      have rest : s.length = t.length := by simpa using same
      have hs' : ∀ c ∈ s, c.isUpper = true := fun c hc => hs c (List.mem_cons_of_mem _ hc)
      have ht' : ∀ d ∈ t, d.isUpper = true := fun d hd => ht d (List.mem_cons_of_mem _ hd)
      rw [value_cons, value_cons, ← rest]
      rcases List.cons_lt_cons_iff.1 before with first | ⟨rfl, behind⟩
      -- The first letters differ by one at least, which is worth more than all letters behind
      -- them.
      · have digits := digit_lt_of_lt (hs c List.mem_cons_self) (ht d List.mem_cons_self) first
        have bound := value_lt_pow_add (fun c hc => isLetter_of_isUpper (hs' c hc))
          (fun d hd => isLetter_of_isUpper (ht' d hd)) rest
        calc digit c * 26 ^ s.length + value s < digit c * 26 ^ s.length +
          (26 ^ s.length + value t) := by omega
          _ = (digit c + 1) * 26 ^ s.length + value t := by rw [Nat.succ_mul, Nat.add_assoc]
          _ ≤ digit d * 26 ^ s.length + value t :=
            Nat.add_le_add_right (Nat.mul_le_mul_right _ digits) _
      · exact Nat.add_lt_add_left (ih hs' ht' rest behind) _

/-! ## Reading -/

/-- One more letter is read if the number with it fits; on the way to it everything is smaller. -/
theorem extend?_of_isLetter (h : isLetter c = true) (n : Nat) :
    extend? n c = fit? (26 * n + digit c) := by
  unfold extend?
  simp only [h, guard_true]
  by_cases fits : 26 * n < capacity
  · simp [fit?, fits]
  · have beyond : ¬ 26 * n + digit c < capacity := by omega
    simp [fit?, fits, beyond]

/-- What is read of letters is the number that they stand for, as long as that fits. -/
theorem foldlM_extend? (letters : ∀ c ∈ s, isLetter c = true) :
    s.foldlM extend? 0 = fit? (value s) := by
  induction s using List.reverseRecOn with
  | nil => rfl
  | append_singleton s c ih =>
    rw [List.foldlM_append, ih fun d hd => letters d (by simp [hd]), value_concat]
    by_cases fits : value s < capacity
    · simp [fit?, fits, extend?_of_isLetter (letters c (by simp))]
    · -- What did not fit before does not fit with a letter more.
      have beyond : ¬ 26 * value s + digit c < capacity := by omega
      simp [fit?, fits, beyond]

theorem value_pos (letters : ∀ c ∈ s, isLetter c = true) (nonempty : s ≠ []) : 0 < value s := by
  have empty : value [] = 0 := rfl
  rw [← empty]
  exact value_lt_of_length_lt nofun letters (List.length_pos_iff.2 nonempty)

/-- Letters spell the column before the number that they stand for, if that number fits. -/
theorem ofLetters?_of_letters (letters : ∀ c ∈ s, isLetter c = true) (nonempty : s ≠ []) :
    ofLetters? s = if value s < capacity then some (value s - 1) else none := by
  have pos := value_pos letters nonempty
  unfold ofLetters?
  rw [foldlM_extend? letters]
  unfold fit?
  split
  · exact if_neg pos.ne'
  · rfl

/-- **Letters number the columns one to one.** Every column but the last that fits in 64 bits is
read back from its letters. Letters in either case spell no column just if the number that they
stand for by their places does not fit, and otherwise the column that they spell is written with
their capitals. Capitals are in the order of their columns, the shorter texts first and those of
one length as in the alphabet; a text before one that spells a column spells one, too. -/
theorem letters_number_columns :
    (∀ column < 2 ^ 64 - 1, ofLetters? (letters column) = some column) ∧
    (∀ s : List Char, s ≠ [] → (∀ c ∈ s, c.isAlpha) →
      (ofLetters? s = none ↔ 2 ^ 64 - 1 < numeral s) ∧
      ∀ column, ofLetters? s = some column → letters column = s.map Char.toUpper) ∧
    (∀ s t : List Char, s ≠ [] → (∀ c ∈ s, c.isUpper) → (∀ c ∈ t, c.isUpper) →
      (s.length < t.length ∨ s.length = t.length ∧ s < t) →
      numeral s < numeral t ∧ ∀ column, ofLetters? t = some column →
      ∃ before < column, ofLetters? s = some before) := by
  refine ⟨fun column few => ?_, fun s nonempty letters => ⟨?_, fun column read => ?_⟩,
    fun s t nonempty hs ht order => ?_⟩
  · have fits : column + 1 < capacity := by
      unfold capacity
      omega
    have number : value (letters column) = column + 1 := value_spell _
    have read :=
      ofLetters?_of_letters (s := letters column) isLetter_of_mem_spell (letters_ne_nil column)
    rw [read, number, if_pos fits]
    rfl
  · rw [ofLetters?_of_letters letters nonempty, value_eq_numeral]
    unfold capacity
    split <;> simp <;> omega
  · have pos := value_pos letters nonempty
    rw [ofLetters?_of_letters letters nonempty] at read
    split at read
    · obtain rfl := Option.some.inj read
      rw [Column.letters, Nat.sub_add_cancel pos, spell_value letters]
    · cases read
  · have hs' : ∀ c ∈ s, isLetter c = true := fun c hc => isLetter_of_isUpper (hs c hc)
    have ht' : ∀ c ∈ t, isLetter c = true := fun c hc => isLetter_of_isUpper (ht c hc)
    -- Of longer texts the length decides, and of equally long ones the alphabet.
    have less : value s < value t := by
      rcases order with shorter | ⟨same, before⟩
      · exact value_lt_of_length_lt hs' ht' shorter
      · exact value_lt_of_lex hs ht same before
    have nonempty' : t ≠ [] := by
      rintro rfl
      exact absurd less (Nat.not_lt_zero _)
    -- What the lower number spells fits because the higher one does.
    refine ⟨by rwa [← value_eq_numeral, ← value_eq_numeral], fun column read => ?_⟩
    have pos := value_pos hs' nonempty
    rw [ofLetters?_of_letters ht' nonempty'] at read
    split at read
    next fits =>
      obtain rfl := Option.some.inj read
      exact ⟨value s - 1, by omega,
        (ofLetters?_of_letters hs' nonempty).trans (if_pos (less.trans fits))⟩
    next => cases read

/-- The last column, the number after it, and the two texts between which a third letter is
needed. -/
theorem letters_number_columns_at_the_end :
    ofLetters? (letters 701) = some 701 ∧
    letters 18446744073709551614 = "gkgwbylwrxtlpo".toList.map Char.toUpper ∧
    ofLetters? "GKGWBYLWRXTLPP".toList = none ∧ 2 ^ 64 - 1 < numeral "GKGWBYLWRXTLPP".toList ∧
    numeral "ZZ".toList < numeral "AAA".toList ∧ ∃ before < 702,
    ofLetters? "ZZ".toList = some before := by
  obtain ⟨written, spelled, ordered⟩ := letters_number_columns
  have beyond : ofLetters? "GKGWBYLWRXTLPP".toList = none := by decide +kernel
  have last := spelled "gkgwbylwrxtlpo".toList (by decide) (List.all_eq_true.1 (by decide +kernel))
  have after := spelled "GKGWBYLWRXTLPP".toList (by decide) (List.all_eq_true.1 (by decide +kernel))
  obtain ⟨less, lower⟩ :=
    ordered "ZZ".toList "AAA".toList (by decide) (List.all_eq_true.1 (by decide +kernel))
    (List.all_eq_true.1 (by decide +kernel)) (.inl (by decide))
  exact ⟨written 701 (by decide), last.2 _ (by decide +kernel), beyond, after.1.1 beyond, less,
    lower 702 (by decide +kernel)⟩

end Spreadsheet.Column
