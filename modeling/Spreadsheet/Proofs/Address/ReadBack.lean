import Spreadsheet.Address.Range
import Spreadsheet.Proofs.Address.Column
import Spreadsheet.Proofs.Address.Spelling

/-!
# `Proofs/Address/ReadBack.lean` — what is written of an address is read back

An address that can be read names a cell within the limits, and no sheet or one that has a name
(`inBounds_of_ofChars?`). Each such address is read back from its text, whatever its sheet is
called (`ofChars?_write`). The same holds of ranges that are normalized (`normalized_of_ofText?`,
`ofText?_text`).

An address is written as its sheet, a mark, and its place, and it is cut at the same joints when
it is read. A plain name of a sheet is cut where its characters end; any other stands between
apostrophes, with those of the name doubled, and is cut at the first single one
(`closeApostrophe_double`). For a range the colon has to be found first, which no part of an
address hides, the quoted one apart (`splitColon_write`).
-/

set_option autoImplicit false

namespace Spreadsheet

/-! ## Rows -/

theorem Decimal.ofDigits_toDigits (n : Nat) : ofDigits (Nat.toDigits 10 n) = n :=
  Nat.ofDigitChars_ten_toDigits

theorem isDigit_of_mem_toDigits {n : Nat} : ∀ c ∈ Nat.toDigits 10 n, c.isDigit = true :=
  fun _ => Nat.isDigit_of_mem_toDigits (by decide) (by decide)

/-! ## Sheet names -/

namespace SheetName

/-- A name whose apostrophes are doubled goes up to the first apostrophe that is not. -/
theorem closeApostrophe_double (name : List Char) {z : List Char} (single : z.head? ≠ some '\'') :
    closeApostrophe (doubleApostrophes name ++ '\'' :: z) = some (name, z) := by
  unfold doubleApostrophes
  induction name with
  | nil =>
    rw [List.flatMap_nil, List.nil_append, closeApostrophe]
    rintro rest rfl
    exact single rfl
  | cons c name ih =>
    rw [List.flatMap_cons]
    split
    -- An apostrophe of the name is followed by its double, so it does not close the name.
    next quote =>
      subst quote
      simp only [List.cons_append, List.nil_append, closeApostrophe, ih, Option.map_some]
    next other =>
      simp only [List.cons_append, List.nil_append]
      rw [closeApostrophe, ih, Option.map_some]
      · rintro _ rfl
        exact absurd rfl other
      · exact other

theorem isPlainChar_of_isPlainStart {c : Char} (h : isPlainStart c = true) :
    isPlainChar c = true := by
  simp only [isPlainStart, Bool.or_eq_true] at h
  rcases h with h | h
  · simp [isPlainChar, Text.isAlphanum_of_isAlpha h]
  · simp [isPlainChar, h]

theorem isPlainChar_of_mem {s : List Char} (plain : isPlain s = true) :
    ∀ c ∈ s, isPlainChar c = true := by
  cases s with
  | nil => nofun
  | cons c s =>
    simp only [isPlain, Bool.and_eq_true, List.all_eq_true] at plain
    intro d hd
    rcases List.mem_cons.1 hd with rfl | hd
    · exact isPlainChar_of_isPlainStart plain.1
    · exact plain.2 d hd

theorem split?_write {name : List Char} (named : name ≠ []) (s : List Char) :
    split? (write name ++ '!' :: s) = some (some name, s) := by
  cases name with
  | nil => exact absurd rfl named
  | cons c name =>
    unfold write
    split
    next plain =>
      -- A plain name ends at the mark, which is no character of names.
      have cut : ((c :: name) ++ '!' :: s).span isPlainChar = (c :: name, '!' :: s) :=
        Text.span_append (isPlainChar_of_mem plain) (Text.stopsAt_cons.2 (by decide))
      simp only [isPlain, Bool.and_eq_true] at plain
      unfold split?
      split
      next h =>
        cases h
        exact absurd plain.1 (by decide)
      next =>
        rw [cut]
        exact if_pos plain.1
    next =>
      have closed := closeApostrophe_double (c :: name) (z := '!' :: s) (by simp)
      simp only [List.append_assoc, List.cons_append, List.nil_append, split?, closed]

theorem ne_nil_of_split? {s name rest : List Char} (h : split? s = some (some name, rest)) :
    name ≠ [] := by
  unfold split? at h
  split at h
  · split at h
    · cases h
      exact List.cons_ne_nil _ _
    · cases h
  · split at h
    · split at h
      · cases h
        exact List.cons_ne_nil _ _
      · cases h
    · cases h

end SheetName

/-! ## Addresses -/

namespace Address

variable {a : Address}

/-- The address is within the limits, and a sheet that it names has a name. -/
structure InBounds (a : Address) : Prop where
  row : a.row < rowLimit
  column : a.column < columnLimit
  sheet : a.sheet ≠ some ""

/-- An address without its sheet. -/
def writeLocal (a : Address) : List Char :=
  (if a.columnFixed then ['$'] else []) ++
    (Column.letters a.column ++ ((if a.rowFixed then ['$'] else []) ++ Nat.toDigits 10 (a.row + 1)))

/-- A sheet in front of an address. -/
def writeSheet : Option String → List Char
  | some name => SheetName.write name.toList ++ ['!']
  | none => []

theorem write_eq (a : Address) : a.write = writeSheet a.sheet ++ a.writeLocal := by
  unfold write writeLocal writeSheet
  cases a.sheet <;> simp only [List.append_assoc]

/-- How an address without its sheet falls apart. -/
theorem cut_writeLocal (a : Address) :
    let digits := Nat.toDigits 10 (a.row + 1)
    let rest := (if a.rowFixed then ['$'] else []) ++ digits
    dollar a.writeLocal = (a.columnFixed, Column.letters a.column ++ rest) ∧
      (Column.letters a.column ++ rest).span Column.isLetter = (Column.letters a.column, rest) ∧
      dollar rest = (a.rowFixed, digits) :=
  cut_place a.columnFixed a.rowFixed Column.isLetter_of_mem_spell
    (Column.letters_ne_nil _) isDigit_of_mem_toDigits
    Nat.toDigits_ne_nil

theorem local?_writeLocal (inBounds : a.InBounds) (sheet : Option String) :
    local? sheet a.writeLocal = some { a with sheet := sheet } := by
  obtain ⟨row, column, -⟩ := inBounds
  have short : (Column.letters a.column).length ≤ 3 := Column.length_spell_le 3 _ column
  have some : 1 ≤ (Column.letters a.column).length :=
    List.length_pos_iff.2 (Column.letters_ne_nil _)
  have digits : (Nat.toDigits 10 (a.row + 1)).all Char.isDigit = true :=
    List.all_eq_true.2 isDigit_of_mem_toDigits
  have number : Column.value (Column.letters a.column) = a.column + 1 := Column.value_spell _
  obtain ⟨first, span, second⟩ := a.cut_writeLocal
  unfold local?
  simp only [first, span, second]
  rw [Decimal.ofDigits_toDigits, number,
    if_pos ⟨some, short, Nat.toDigits_ne_nil, digits, by omega, row⟩]
  rfl

/-- An address without its sheet is made of characters of names. -/
theorem isNameChar_of_mem_writeLocal {c : Char} (h : c ∈ a.writeLocal) :
    Token.isNameChar c = true :=
  isNameChar_of_mem_place Column.isLetter_of_mem_spell isDigit_of_mem_toDigits h

theorem not_mem_writeLocal {c : Char} (h : Token.isNameChar c = false) : c ∉ a.writeLocal := by
  intro mem
  rw [isNameChar_of_mem_writeLocal mem] at h
  cases h

theorem writeLocal_head (a : Address) :
    ∃ c s, a.writeLocal = c :: s ∧ Token.startsCorner c = true := by
  unfold writeLocal
  -- A place starts with a dollar sign or with the first letter of its column.
  cases a.columnFixed with
  | true => exact ⟨_, _, rfl, by decide⟩
  | false =>
    cases h : Column.letters a.column with
    | nil => exact absurd h (Column.letters_ne_nil _)
    | cons c s =>
      have letter : Column.isLetter c = true :=
        Column.isLetter_of_mem_spell (n := a.column + 1) c (by
          rw [← Column.letters, h]
          simp)
      exact ⟨c, _, rfl, Text.startsCorner_of_isAlpha letter⟩

theorem write_head (a : Address) : ∃ c s, a.write = c :: s ∧ Token.startsName c = true := by
  rw [write_eq]
  cases a.sheet with
  | none =>
    obtain ⟨c, s, start, corner⟩ := a.writeLocal_head
    exact ⟨c, s, start, Text.startsName_of_startsCorner corner⟩
  | some name =>
    show ∃ c s, SheetName.write name.toList ++ ['!'] ++ a.writeLocal = c :: s ∧ _
    unfold SheetName.write
    split
    next plain =>
      cases h : name.toList with
      | nil =>
        rw [h] at plain
        cases plain
      | cons c s =>
        simp only [h, SheetName.isPlain, Bool.and_eq_true] at plain
        exact ⟨c, _, rfl, Text.startsName_of_isPlainStart plain.1⟩
    next => exact ⟨_, _, rfl, by decide⟩

theorem first_visible (a : Address) : Text.StopsAt Text.isBlank a.write := by
  obtain ⟨c, s, start, name⟩ := a.write_head
  rw [start]
  exact Text.stopsAt_cons.2 (Text.visible_of_startsName name)

/-- The last character of an address is a digit. -/
theorem last_visible (a : Address) (z : List Char) :
    Text.StopsAt Text.isBlank (z ++ a.write).reverse := by
  have digits : (z ++ a.write).reverse = (Nat.toDigits 10 (a.row + 1)).reverse ++
      (z ++ (writeSheet a.sheet ++ ((if a.columnFixed then ['$'] else []) ++
        (Column.letters a.column ++ (if a.rowFixed then ['$'] else []))))).reverse := by
    simp [write_eq, writeLocal]
  rw [digits]
  intro c hc
  cases h : (Nat.toDigits 10 (a.row + 1)).reverse with
  | nil => exact absurd (List.reverse_eq_nil_iff.1 h) Nat.toDigits_ne_nil
  | cons d s =>
    rw [h] at hc
    cases hc
    have mem : c ∈ (Nat.toDigits 10 (a.row + 1)).reverse := by simp [h]
    have digit := isDigit_of_mem_toDigits c (List.mem_reverse.1 mem)
    exact Text.visible_of_isNameChar
      (Text.isNameChar_of_isAlphanum (Text.isAlphanum_of_isDigit digit))

theorem split?_write (inBounds : a.InBounds) :
    SheetName.split? a.write = some (a.sheet.map String.toList, a.writeLocal) := by
  rw [write_eq]
  cases h : a.sheet with
  | none =>
    apply SheetName.split?_of_no_mark (not_mem_writeLocal (by decide))
    exact fun quote => not_mem_writeLocal (by decide) (List.mem_of_mem_head? quote)
  | some name =>
    have named : name.toList ≠ [] := by
      intro empty
      exact inBounds.sheet (by rw [h, String.toList_eq_nil_iff.1 empty])
    rw [writeSheet, List.append_assoc]
    exact SheetName.split?_write named a.writeLocal

/-- An address within the limits is read back. -/
theorem ofChars?_write (inBounds : a.InBounds) : ofChars? a.write = some a := by
  rw [ofChars?, Text.trim_of_visible a.first_visible (a.last_visible []), split?_write inBounds]
  dsimp only
  rw [local?_writeLocal inBounds, Option.map_map]
  simp [Function.comp_def]

theorem ofText?_text (inBounds : a.InBounds) : ofText? a.text = some a := by
  rw [ofText?, text, String.toList_ofList, ofChars?_write inBounds]

theorem inBounds_of_ofChars? {s : List Char} (h : ofChars? s = some a) : a.InBounds := by
  unfold ofChars? at h
  split at h
  next sheet rest cut =>
    unfold local? at h
    dsimp only at h
    split at h
    next form =>
      obtain ⟨-, short, -, -, -, row⟩ := form
      cases h
      refine ⟨?_, ?_, ?_⟩
      · show Decimal.ofDigits _ - 1 < rowLimit
        unfold rowLimit at *
        omega
      · show Column.value _ - 1 < columnLimit
        have letters : ∀ c ∈ ((dollar rest).2.span Column.isLetter).1,
          Column.isLetter c = true := by
          rw [List.span_eq_takeWhile_dropWhile]
          exact fun _ => List.mem_takeWhile_imp
        -- Three letters reach no further than the last column, so their number needs no check of
        -- its own.
        have reached : ∀ k ≤ 3, Column.reach k ≤ columnLimit := by decide
        have value := Nat.le_trans (Column.value_le letters) (reached _ short)
        unfold columnLimit at *
        omega
      · show sheet.map String.ofList ≠ some ""
        intro unnamed
        obtain ⟨name, rfl, empty⟩ := Option.map_eq_some_iff.1 unnamed
        exact SheetName.ne_nil_of_split? cut (String.ofList_eq_empty_iff.1 empty)
    next => cases h
  next => cases h

end Address

/-! ## Ranges -/

namespace Range

variable {r : Range} {a b : Address}

/-- Both corners are within the limits. -/
def InBounds (r : Range) : Prop := r.first.InBounds ∧ r.last.InBounds

theorem ofCorners?_of_normalized (normalized : r.Normalized) :
    ofCorners? r.first r.last = some r := by
  obtain ⟨rows, columns, sheet⟩ := normalized
  obtain ⟨⟨sheet₁, row₁, column₁, rowFixed₁, columnFixed₁⟩,
    ⟨sheet₂, row₂, column₂, rowFixed₂, columnFixed₂⟩⟩ := r
  cases sheet
  cases sheet₁ <;> simp [ofCorners?, if_pos rows, if_pos columns]

theorem normalized_of_ofCorners? (ha : a.InBounds) (hb : b.InBounds) (h : ofCorners? a b = some r) :
    r.Normalized ∧ r.InBounds := by
  obtain ⟨sheet, same, rfl⟩ := Option.map_eq_some_iff.1 h
  have named : sheet ≠ some "" := by
    have first := ha.sheet
    have second := hb.sheet
    -- The sheet of the range is that of a corner, and corners name no sheet by the empty text.
    cases hx : a.sheet <;> cases hy : b.sheet <;> simp only [hx, hy] at same first second
    · cases same
      exact first
    · cases same
      exact second
    · cases same
      exact first
    · split at same
      · cases same
        exact first
      · cases same
  obtain ⟨row, column, -⟩ := ha
  obtain ⟨row', column', -⟩ := hb
  by_cases columns : a.column ≤ b.column <;> by_cases rows : a.row ≤ b.row
  all_goals
    simp only [columns, rows, if_true, if_false]
    refine ⟨⟨?_, ?_, rfl⟩, ⟨?_, ?_, named⟩, ?_, ?_, nofun⟩ <;> dsimp only <;> omega

/-- Colons are found behind a text that has neither one nor an apostrophe. -/
theorem splitColon_append {s : List Char} (plain : ':' ∉ s ∧ '\'' ∉ s) (z : List Char) :
    splitColon false (s ++ z) = (splitColon false z).map fun (a, b) => (s ++ a, b) := by
  induction s with
  | nil => simp
  | cons c s ih =>
    simp only [List.mem_cons, not_or] at plain
    obtain ⟨⟨colon, noColon⟩, quote, noQuote⟩ := plain
    rw [List.cons_append, splitColon, if_neg (fun h => colon h.1.symm), if_neg (Ne.symm quote),
      ih ⟨noColon, noQuote⟩, Option.map_map]
    rfl

theorem splitColon_quoted (s z : List Char) :
    splitColon true (SheetName.doubleApostrophes s ++ '\'' :: z) =
      (splitColon false z).map fun (a, b) => (SheetName.doubleApostrophes s ++ '\'' :: a, b) := by
  unfold SheetName.doubleApostrophes
  induction s with
  | nil => rfl
  | cons c s ih =>
    rw [List.flatMap_cons]
    split
    next => simp [splitColon, ih, Function.comp_def]
    next other => simp [splitColon, ih, other, Function.comp_def]

/-- The colon behind an address is found, whatever its sheet is called. -/
theorem splitColon_write (a : Address) (z : List Char) :
    splitColon false (a.write ++ ':' :: z) = some (a.write, z) := by
  have own : ':' ∉ a.writeLocal ∧ '\'' ∉ a.writeLocal :=
    ⟨Address.not_mem_writeLocal (by decide), Address.not_mem_writeLocal (by decide)⟩
  have behind : ∀ {s : List Char}, ':' ∉ s ∧ '\'' ∉ s →
    splitColon false (s ++ (a.writeLocal ++ ':' :: z)) =
      some (s ++ a.writeLocal, z) := by
    intro s plain
    rw [splitColon_append plain, splitColon_append own]
    simp [splitColon]
  rw [Address.write_eq]
  cases a.sheet with
  | none => exact behind (s := []) ⟨nofun, nofun⟩
  | some name =>
    unfold Address.writeSheet SheetName.write
    dsimp only
    split
    next plain =>
      -- A plain name and the mark behind it have neither a colon nor an apostrophe.
      have other : ∀ c, Token.isNameChar c = false → c ≠ '!' → c ∉ name.toList ++ ['!'] := by
        intro c notName notMark hc
        rcases List.mem_append.1 hc with hc | hc
        · rw [Text.isNameChar_of_isPlainChar (SheetName.isPlainChar_of_mem plain c hc)] at notName
          cases notName
        · exact notMark (List.mem_singleton.1 hc)
      rw [List.append_assoc]
      exact behind ⟨other ':' (by decide) (by decide), other '\'' (by decide) (by decide)⟩
    next => simpa [splitColon, splitColon_quoted] using behind (s := []) ⟨nofun, nofun⟩

/-- A normalized range within the limits is read back. -/
theorem ofText?_text (normalized : r.Normalized) (inBounds : r.InBounds) :
    ofText? r.text = some r := by
  have visible : Text.StopsAt Text.isBlank (r.first.write ++ [':'] ++ r.last.write) := by
    obtain ⟨c, s, start, name⟩ := r.first.write_head
    rw [start]
    exact Text.stopsAt_cons.2 (Text.visible_of_startsName name)
  unfold ofText? text
  rw [String.toList_ofList, Text.trim_of_visible visible (r.last.last_visible _), List.append_assoc]
  dsimp only [List.cons_append, List.nil_append]
  rw [splitColon_write]
  simp only [Address.ofChars?_write inBounds.1, Address.ofChars?_write inBounds.2]
  exact ofCorners?_of_normalized normalized

theorem normalized_of_ofText? {s : String} (h : ofText? s = some r) :
    r.Normalized ∧ r.InBounds := by
  unfold ofText? at h
  dsimp only at h
  split at h
  · split at h
    next ha hb =>
      exact normalized_of_ofCorners? (Address.inBounds_of_ofChars? ha)
        (Address.inBounds_of_ofChars? hb) h
    next => cases h
  · split at h
    next ha =>
      exact normalized_of_ofCorners? (Address.inBounds_of_ofChars? ha)
        (Address.inBounds_of_ofChars? ha) h
    next => cases h

end Range

/-! ## Texts -/

/-- **Addresses and ranges are read back from their texts.** Whatever can be read is within the
limits, and a range that can be read is normalized; whatever is so is what its text spells,
whatever characters its sheet's name has. -/
theorem texts_read_back :
    (∀ a : Address, a.InBounds → Address.ofText? a.text = some a) ∧
      (∀ s a, Address.ofText? s = some a → a.InBounds ∧ Address.ofText? a.text = some a) ∧
      (∀ r : Range, r.Normalized → r.InBounds → Range.ofText? r.text = some r) ∧
      ∀ s r, Range.ofText? s = some r →
      r.Normalized ∧ r.InBounds ∧ Range.ofText? r.text = some r := by
  refine ⟨fun a => Address.ofText?_text, fun s a read => ?_, fun r => Range.ofText?_text,
    fun s r read => ?_⟩
  · have inBounds := Address.inBounds_of_ofChars? read
    exact ⟨inBounds, Address.ofText?_text inBounds⟩
  · obtain ⟨normalized, inBounds⟩ := Range.normalized_of_ofText? read
    exact ⟨normalized, inBounds, Range.ofText?_text normalized inBounds⟩

/-- A sheet whose name has an apostrophe, a colon and an exclamation mark, and the last cell there
is. -/
theorem texts_read_back_of_quoted :
    ∃ a r, Address.ofText? " 'it''s: a!'!zzz$01048576\t" = some a ∧ a.InBounds ∧
      a.text = "'it''s: a!'!ZZZ$1048576" ∧ Address.ofText? a.text = some a ∧
      Range.ofText? "'it''s: a!'!$c9:'IT''S: A!'!A$5" = some r ∧ r.Normalized ∧ r.InBounds ∧
      r.text = "'it''s: a!'!A$5:$C9" ∧ Range.ofText? r.text = some r := by
  let a : Address := ⟨some "it's: a!", 1048575, 18277, true, false⟩
  let r : Range := ⟨⟨some "it's: a!", 4, 0, true, false⟩, ⟨none, 8, 2, false, true⟩⟩
  obtain ⟨written, read, writtenRange, readRange⟩ := texts_read_back
  have spelled : Address.ofText? " 'it''s: a!'!zzz$01048576\t" = some a := by decide +kernel
  have spelledRange : Range.ofText? "'it''s: a!'!$c9:'IT''S: A!'!A$5" = some r := by decide +kernel
  obtain ⟨inBounds, -⟩ := read _ a spelled
  obtain ⟨normalized, inBoundsRange, -⟩ := readRange _ r spelledRange
  exact ⟨a, r, spelled, inBounds, by decide +kernel, written a inBounds, spelledRange, normalized,
    inBoundsRange, by decide +kernel, writtenRange r normalized inBoundsRange⟩

end Spreadsheet
