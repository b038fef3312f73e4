import Mathlib
import Spreadsheet.Proofs.Text.Occurrence

/-!
# `Proofs/Text/Bytes.lean` — occurrences among the bytes of a text

A text is stored as bytes, several for some characters, and to search it is to search these. No
byte inside a character looks like the first of one, so where the bytes of a text occur, the text
occurs (`exists_of_bytes`). Hence every place that is found among the bytes lies between
characters, and a text that is cut there and put together again with something else in between is
the text with its occurrences replaced, all of them (`written?_places`) or one (`written?_place`).

How many bytes a character takes is never looked at. What is used of the encoding is that
different characters have different bytes, and that the first byte of a character tells it from
the others.
-/

set_option autoImplicit false

namespace Spreadsheet.Text

/-! ## Bytes -/

/-- The bytes that characters are stored as. -/
def bytes (s : List Char) : List UInt8 := s.flatMap String.utf8EncodeChar

section
variable {s old p : List Char} {front back : List UInt8}

theorem bytes_append (s t : List Char) : bytes (s ++ t) = bytes s ++ bytes t := List.flatMap_append

theorem utf8Encode_eq (s : List Char) : s.utf8Encode = (bytes s).toByteArray := rfl

theorem utf8ByteSize_ofList (s : List Char) :
    (String.ofList s).utf8ByteSize = (bytes s).length := by
  rw [← String.size_toByteArray, String.toByteArray_ofList, utf8Encode_eq, List.size_toByteArray]

theorem utf8Len_eq (s : List Char) : String.utf8Len s = (bytes s).length := by
  rw [← utf8ByteSize_ofList, String.utf8ByteSize_ofList]

/-- In a character only the first byte looks like the first of a character. -/
theorem isFirst_iff {c : Char} {i : ℕ} (h : i < (String.utf8EncodeChar c).length) :
    (String.utf8EncodeChar c)[i].IsUTF8FirstByte ↔ i = 0 := by
  have single : [c].utf8Encode = (String.utf8EncodeChar c).toByteArray := List.utf8Encode_singleton
  have size : i < [c].utf8Encode.size := by rwa [single, List.size_toByteArray]
  have first : [c].utf8Encode[i].IsUTF8FirstByte ↔ i = 0 :=
    List.isUTF8FirstByte_getElem_utf8Encode_singleton
  rw [← first]
  simp only [single, List.getElem_toByteArray]

theorem encode_ne_nil (c : Char) : String.utf8EncodeChar c ≠ [] := by
  intro none
  have size := String.length_utf8EncodeChar c
  have pos := c.utf8Size_pos
  rw [none, List.length_nil] at size
  omega

/-- A text begins with a byte that looks like the first of a character. -/
theorem exists_first (some : old ≠ []) :
    ∃ first rest, bytes old = first :: rest ∧ first.IsUTF8FirstByte := by
  obtain ⟨c, old, rfl⟩ := List.exists_cons_of_ne_nil some
  obtain ⟨first, more, encoded⟩ := List.exists_cons_of_ne_nil (encode_ne_nil c)
  refine ⟨first, more ++ bytes old, ?_, ?_⟩
  · show String.utf8EncodeChar c ++ bytes old = _
    rw [encoded, List.cons_append]
  · have start : 0 < (String.utf8EncodeChar c).length := by
      rw [encoded]
      exact Nat.succ_pos _
    have looks := (isFirst_iff start).2 rfl
    simpa only [encoded, List.getElem_cons_zero] using looks

/-- Bytes that are not the first of a character do not look like it. -/
theorem not_first_of_encode {c : Char} {first : UInt8} {rest : List UInt8} (inside : front ≠ [])
    (encoded : String.utf8EncodeChar c = front ++ first :: rest) : ¬ first.IsUTF8FirstByte := by
  intro looks
  have pos := List.length_pos_iff.2 inside
  have within : front.length < (String.utf8EncodeChar c).length := by
    rw [encoded, List.length_append, List.length_cons]
    omega
  have place : (String.utf8EncodeChar c)[front.length] = first := by
    simp only [encoded, List.getElem_append_right le_rfl, Nat.sub_self, List.getElem_cons_zero]
  have start := (isFirst_iff within).1 (place ▸ looks)
  omega

/-- A text whose bytes begin another one's begins it. -/
theorem prefix_of_bytes (h : bytes s = bytes old ++ back) : ∃ b, s = old ++ b := by
  have whole : old.utf8Encode ++ back.toByteArray = s.utf8Encode := by
    rw [utf8Encode_eq, utf8Encode_eq, h, List.toByteArray_append]
  obtain ⟨b, rfl⟩ := List.isPrefix_of_utf8Encode_append_eq_utf8Encode _ whole
  exact ⟨b, rfl⟩

/-- Where the bytes of a text occur, the text occurs. -/
theorem exists_of_bytes (some : old ≠ []) (h : bytes s = front ++ (bytes old ++ back)) :
    ∃ f b, bytes f = front ∧ s = f ++ (old ++ b) := by
  obtain ⟨first, rest, begins, looks⟩ := exists_first some
  induction s generalizing front with
  | nil =>
    rw [begins] at h
    have none := congrArg List.length h
    simp [bytes] at none
  | cons c s ih =>
    have split : String.utf8EncodeChar c ++ bytes s = front ++ (bytes old ++ back) := h
    -- The occurrence begins behind the first character, or with it, or in the middle of it.
    rcases List.append_eq_append_iff.1 split with ⟨more, rfl, rest⟩ | ⟨more, encoded, rest⟩
    -- The text begins behind the first character.
    · obtain ⟨f, b, rfl, rfl⟩ := ih rest
      exact ⟨c :: f, b, rfl, rfl⟩
    · cases front with
      | nil =>
        obtain ⟨b, same⟩ := prefix_of_bytes (h.trans (List.nil_append _))
        exact ⟨[], b, rfl, same⟩
      | cons x front =>
        cases more with
        | nil =>
          obtain ⟨f, b, none, rfl⟩ := ih (rest.symm.trans (List.nil_append _).symm)
          refine ⟨c :: f, b, ?_, rfl⟩
          show String.utf8EncodeChar c ++ bytes f = _
          rw [none, List.append_nil, encoded, List.append_nil]
        -- It cannot begin in the middle of it.
        | cons y more =>
          rw [begins] at rest
          obtain ⟨rfl, -⟩ := List.cons.inj rest
          exact absurd looks (not_first_of_encode (List.cons_ne_nil x front) encoded)

theorem FirstBehind.bytes (some : old ≠ []) (h : FirstBehind old p) :
    FirstBehind (bytes old) (bytes p) := by
  intro front back same
  rw [← bytes_append, List.append_assoc] at same
  obtain ⟨f, b, rfl, whole⟩ := exists_of_bytes some same
  rw [h f b (whole.trans (List.append_assoc _ _ _).symm)]

/-- Where a text does not occur, its bytes do not. -/
theorem not_infix_bytes (some : old ≠ []) (clear : ¬ old <:+: p) : ¬ bytes old <:+: bytes p := by
  rintro ⟨front, back, same⟩
  obtain ⟨f, b, -, rfl⟩ := exists_of_bytes some (same.symm.trans (List.append_assoc _ _ _))
  exact clear ⟨f, b, List.append_assoc _ _ _⟩

theorem bytes_ne_nil (some : old ≠ []) : bytes old ≠ [] := by
  obtain ⟨first, rest, begins, -⟩ := exists_first some
  rw [begins]
  exact List.cons_ne_nil first rest

end

/-! ## Places -/

/-- Where the occurrences of a list begin in another one, from the left and without overlaps, if
that one itself begins at a place. -/
def placesFrom {α : Type} [BEq α] (old : List α) (start : ℕ) : List α → List ℕ
  | [] => []
  | c :: rest =>
    if old ≠ [] ∧ old.isPrefixOf (c :: rest) then
      start :: placesFrom old (start + old.length) (rest.drop (old.length - 1))
    else placesFrom old (start + 1) rest
termination_by s => s.length
decreasing_by all_goals simp only [List.length_drop, List.length_cons]; omega

section
variable {α : Type} [BEq α] [LawfulBEq α] {old p s : List α} {c : α}

theorem placesFrom_append (some : old ≠ []) (start : ℕ) (rest : List α) :
    placesFrom old start (old ++ rest) = start :: placesFrom old (start + old.length) rest := by
  obtain ⟨c, more, rfl⟩ := List.exists_cons_of_ne_nil some
  rw [List.cons_append, placesFrom, if_pos ⟨some, by simp⟩]
  simp

theorem placesFrom_cons (start : ℕ) (clear : ¬ old <+: c :: s) :
    placesFrom old start (c :: s) = placesFrom old (start + 1) s := by
  rw [placesFrom, if_neg fun occurs => clear (by simpa using occurs.2)]

theorem placesFrom_of_clear (start : ℕ) (clear : ¬ old <:+: s) : placesFrom old start s = [] := by
  induction s generalizing start with
  | nil => rw [placesFrom]
  | cons c s ih =>
    obtain ⟨here, behind⟩ := not_or.1 (mt List.infix_cons_iff.2 clear)
    rw [placesFrom_cons start here, ih (start + 1) behind]

/-- The first occurrence is behind the first piece, and the others are where they are in the
rest. -/
theorem placesFrom_piece (some : old ≠ []) (first : FirstBehind old p) (start : ℕ) (rest : List α) :
    placesFrom old start (p ++ (old ++ rest)) =
      (start + p.length) :: placesFrom old (start + p.length + old.length) rest := by
  induction p generalizing start with
  | nil => exact placesFrom_append some start rest
  | cons c p ih =>
    rw [List.cons_append, placesFrom_cons start (first.not_start rest), ih first.tail,
      List.length_cons, Nat.add_assoc, Nat.add_comm 1]

end

/-! ## Slices -/

/-- What a text has between two places, if these are in order and between characters. -/
def slice? (s : String) (first last : ℕ) : Option String :=
  if first ≤ last ∧ String.Pos.Raw.isValid s ⟨first⟩ ∧ String.Pos.Raw.isValid s ⟨last⟩ then
    some (String.Pos.Raw.extract s ⟨first⟩ ⟨last⟩)
  else none

/-- A text with something written in place of as many bytes at each of some places, from a place
on. -/
def written? (s new : String) (size start : ℕ) : List ℕ → Option String
  | [] => slice? s start s.utf8ByteSize
  | place :: places => do
    let front ← slice? s start place
    let behind ← written? s new size (place + size) places
    return front ++ new ++ behind

variable {old s : List Char} {pieces : List (List Char)} {new : String}

theorem isValid_append (front rest : List Char) :
    String.Pos.Raw.isValid (String.ofList (front ++ rest)) ⟨(bytes front).length⟩ = true := by
  rw [String.Pos.Raw.isValid_eq_true_iff, String.Pos.Raw.isValid_iff_exists_append]
  refine ⟨String.ofList front, String.ofList rest, String.ofList_append, ?_⟩
  rw [String.Pos.Raw.ext_iff, String.byteIdx_rawEndPos, utf8ByteSize_ofList]

/-- Between the bytes of what comes before and of what comes behind it is what a text has in the
middle. -/
theorem slice?_append (front p rest : List Char) :
    slice? (String.ofList (front ++ (p ++ rest))) (bytes front).length
      ((bytes front).length + (bytes p).length) =
      some (String.ofList p) := by
  have last := isValid_append (front ++ p) rest
  rw [bytes_append, List.length_append, List.append_assoc] at last
  have extracted := String.extract_of_valid front p rest
  rw [utf8Len_eq, utf8Len_eq, List.append_assoc] at extracted
  unfold slice?
  rw [if_pos ⟨Nat.le_add_right _ _, isValid_append front _, last⟩, extracted]

theorem slice?_end (front p : List Char) :
    slice? (String.ofList (front ++ p)) (bytes front).length
    (String.ofList (front ++ p)).utf8ByteSize = some (String.ofList p) := by
  rw [utf8ByteSize_ofList, bytes_append, List.length_append]
  simpa only [List.append_nil] using slice?_append front p []

/-- What is written behind a piece stands between the piece and what comes behind. -/
theorem written?_cons (front p rest : List Char) (places : List ℕ) {behind : List Char}
    (written : written? (String.ofList (front ++ (p ++ (old ++ rest)))) new (bytes old).length
      ((bytes front).length + (bytes p).length + (bytes old).length) places = some
      (String.ofList behind)) :
    written? (String.ofList (front ++ (p ++ (old ++ rest)))) new (bytes old).length
        (bytes front).length
        (((bytes front).length + (bytes p).length) :: places) =
      some (String.ofList (p ++ (new.toList ++ behind))) := by
  rw [written?, slice?_append, written, String.ofList_append, String.ofList_append,
    String.ofList_toList]
  show some (String.ofList p ++ new ++ String.ofList behind) = _
  rw [String.append_assoc]

/-- Where a text begins behind others, there begins what comes behind these. -/
theorem length_bytes_append (front p old : List Char) :
    (bytes (front ++ (p ++ old))).length = (bytes front).length + (bytes p).length +
    (bytes old).length := by
  rw [bytes_append, bytes_append, List.length_append, List.length_append, Nat.add_assoc]

/-- Something written at all the places where a text occurs among the bytes of another one
replaces all occurrences. -/
theorem written?_places (filled : old ≠ []) (cuts : Cuts old s pieces) (new : String)
    (front : List Char) :
    written? (String.ofList (front ++ s)) new (bytes old).length (bytes front).length
        (placesFrom (bytes old) (bytes front).length (bytes s)) =
      some (String.ofList (replaceAll old new.toList s)) := by
  induction cuts generalizing front with
  | last clear =>
    rw [placesFrom_of_clear _ (not_infix_bytes filled clear), written?, slice?_end,
      replaceAll_of_clear clear]
  | @cut p rest pieces first more ih =>
    have behind := ih (front ++ (p ++ old))
    rw [length_bytes_append, List.append_assoc, List.append_assoc] at behind
    rw [bytes_append, bytes_append, placesFrom_piece (bytes_ne_nil filled) (first.bytes filled),
      replaceAll_piece filled first]
    exact written?_cons front p rest _ behind

/-- A place where a text occurs among the bytes of another one belongs to the occurrence with the
same number, and there are no other occurrences. -/
theorem place_cases (filled : old ≠ []) (cuts : Cuts old s pieces) (new : List Char) (start k : ℕ) :
    match (placesFrom (bytes old) start (bytes s))[k]? with
    | none => replaceNth old new k s = s
    | some place => ∃ p rest, s = p ++ (old ++ rest) ∧ place = start + (bytes p).length ∧
        replaceNth old new k s = p ++ (new ++ rest) := by
  -- By induction on the pieces: the first place is behind the first piece, and the others are
  -- counted from there.
  induction cuts generalizing start k with
  | last clear =>
    rw [placesFrom_of_clear _ (not_infix_bytes filled clear), List.getElem?_nil]
    exact replaceNth_of_clear clear
  | @cut p rest pieces first more ih =>
    rw [bytes_append, bytes_append, placesFrom_piece (bytes_ne_nil filled) (first.bytes filled),
      replaceNth_piece first]
    cases k with
    | zero => exact ⟨p, rest, rfl, rfl, by rw [(replaceNth_append filled rest).1]⟩
    | succ k =>
      have behind := ih (start + (bytes p).length + (bytes old).length) k
      rw [List.getElem?_cons_succ, (replaceNth_append filled rest).2]
      cases found : (placesFrom (bytes old) (start + (bytes p).length + (bytes old).length)
        (bytes rest))[k]? with
      | none =>
        rw [found] at behind
        exact congrArg (fun s => p ++ (old ++ s)) behind
      | some place =>
        rw [found] at behind
        obtain ⟨p', rest', rfl, rfl, replaced⟩ := behind
        refine ⟨p ++ (old ++ p'), rest', by simp only [List.append_assoc],
          ?_, by rw [replaced]; simp only [List.append_assoc]⟩
        rw [length_bytes_append]
        omega

/-- Something written at one of these places replaces that occurrence. -/
theorem written?_place (filled : old ≠ []) (cuts : Cuts old s pieces) (new : String) (k : ℕ) :
    match (placesFrom (bytes old) 0 (bytes s))[k]? with
    | none => replaceNth old new.toList k s = s
    | some place => written? (String.ofList s) new (bytes old).length 0 [place] =
        some (String.ofList (replaceNth old new.toList k s)) := by
  have cases := place_cases filled cuts new.toList 0 k
  cases found : (placesFrom (bytes old) 0 (bytes s))[k]? with
  | none =>
    rw [found] at cases
    exact cases
  | some place =>
    rw [found] at cases
    obtain ⟨p, rest, rfl, rfl, replaced⟩ := cases
    have behind := slice?_end ([] ++ (p ++ old)) rest
    rw [length_bytes_append, List.append_assoc, List.append_assoc] at behind
    rw [replaced]
    exact written?_cons [] p rest [] behind

end Spreadsheet.Text
