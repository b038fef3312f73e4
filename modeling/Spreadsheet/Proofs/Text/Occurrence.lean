import Mathlib
import Spreadsheet.Text.Occurrence

/-!
# `Proofs/Text/Occurrence.lean` — a text in pieces

The occurrences of one text in another, counted from the left without overlaps, cut the other one
into pieces: each but the last is followed by an occurrence that is the first one from where the
piece begins, and nothing occurs in the last (`Cuts`). There is just one way to cut
(`exists_cuts`, `Cuts.unique`). Whatever is written in place of an occurrence, the pieces before
it and the occurrences between these are left alone. So to rewrite the occurrences one at a time,
beginning with the last, is to rewrite them all (`replaceDown_eq_replaceAll`).

Replacing is defined by a recursion that goes on behind what it has replaced. The pieces are its
own way of going through a text, so what is proved of whole texts is proved by induction on how
they are cut.
-/

set_option autoImplicit false

namespace Spreadsheet.Text

section
variable {α : Type} {old p rest s : List α} {pieces pieces' : List (List α)} {c : α}

/-! ## Cutting -/

/-- Behind a piece, a text occurs for the first time from where the piece begins. -/
def FirstBehind (old p : List α) : Prop := ∀ front back, p ++ old = front ++ old ++ back → front = p

/-- The occurrences of a text, from the left and without overlaps, cut another text into pieces. -/
inductive Cuts (old : List α) : List α → List (List α) → Prop
  | last {p : List α} (clear : ¬ old <:+: p) : Cuts old p [p]
  | cut {p rest : List α} {pieces : List (List α)} (first : FirstBehind old p)
      (more : Cuts old rest pieces) :
      Cuts old (p ++ (old ++ rest)) (p :: pieces)

theorem FirstBehind.tail (h : FirstBehind old (c :: p)) : FirstBehind old p := by
  intro front back same
  exact (List.cons.inj (h (c :: front) back (congrArg (c :: ·) same))).2

/-- A text does not occur where a piece begins that it follows, unless the piece is empty. -/
theorem FirstBehind.not_start (h : FirstBehind old (c :: p)) (rest : List α) :
    ¬ old <+: c :: (p ++ (old ++ rest)) := by
  intro occurs
  have whole : c :: p ++ old <+: c :: (p ++ (old ++ rest)) := ⟨rest, by simp⟩
  have fits : old.length ≤ (c :: p ++ old).length := by
    rw [List.length_append]
    omega
  obtain ⟨back, same⟩ := List.prefix_of_prefix_length_le occurs whole fits
  cases h [] back same.symm

theorem firstBehind_nil (old : List α) : FirstBehind old [] := by
  intro front back same
  have size := congrArg List.length same
  simp only [List.nil_append, List.length_append] at size
  exact List.eq_nil_of_length_eq_zero (by omega)

/-- A piece becomes longer by a place where nothing occurs. -/
theorem FirstBehind.cons (h : FirstBehind old p) (clear : ¬ old <+: c :: (p ++ (old ++ rest))) :
    FirstBehind old (c :: p) := by
  intro front back same
  cases front with
  | nil => exact absurd ⟨back ++ rest, by
      rw [← List.append_assoc, ← List.nil_append old, ← same]; simp⟩ clear
  | cons d front =>
    obtain ⟨rfl, behind⟩ := List.cons.inj same
    exact congrArg _ (h front back behind)

/-- A text is the same up to its first occurrence, wherever that is taken to end. -/
theorem FirstBehind.unique {p' rest' : List α} (h : FirstBehind old p) (h' : FirstBehind old p')
    (same : p ++ (old ++ rest) = p' ++ (old ++ rest')) : p = p' := by
  have whole : p ++ old <+: p ++ (old ++ rest) := ⟨rest, by simp⟩
  have whole' : p' ++ old <+: p ++ (old ++ rest) := ⟨rest', by rw [same]; simp⟩
  rcases Nat.le_total p.length p'.length with le | le
  · obtain ⟨back, within⟩ := List.prefix_of_prefix_length_le whole whole' (by simpa using le)
    exact h' p back within.symm
  · obtain ⟨back, within⟩ := List.prefix_of_prefix_length_le whole' whole (by simpa using le)
    exact (h p' back within.symm).symm

theorem Cuts.pos (h : Cuts old s pieces) : 0 < pieces.length := by
  cases h <;> exact Nat.succ_pos _

/-- A text has no more occurrences than there are places to begin one. -/
theorem Cuts.length_le (some : old ≠ []) (h : Cuts old s pieces) :
    pieces.length ≤ s.length + 1 := by
  have pos := List.length_pos_iff.2 some
  induction h with
  | last => exact Nat.le_add_left 1 _
  | cut first more ih =>
    rw [List.length_cons, List.length_append, List.length_append]
    omega

/-- There is at most one way to cut a text. -/
theorem Cuts.unique (h : Cuts old s pieces) (h' : Cuts old s pieces') : pieces = pieces' := by
  induction h generalizing pieces' with
  | last clear =>
    cases h' with
    | last => rfl
    | @cut p rest => exact absurd ⟨p, rest, by simp⟩ clear
  | @cut p rest pieces first more ih =>
    generalize same : p ++ (old ++ rest) = s at h'
    cases h' with
    | last clear => exact absurd ⟨p, rest, by simpa using same⟩ clear
    | cut first' more' =>
      obtain rfl := first.unique first' same
      obtain rfl := List.append_cancel_left (List.append_cancel_left same)
      rw [ih more']

/-- A text that begins where nothing occurs is cut if it is cut behind that. -/
theorem Cuts.cons (clear : ¬ old <+: c :: s) (h : Cuts old s pieces) :
    ∃ pieces', Cuts old (c :: s) pieces' := by
  cases h with
  | last none => exact ⟨_, .last fun occurs => (List.infix_cons_iff.1 occurs).elim clear none⟩
  | cut first more => exact ⟨_, .cut (first.cons clear) more⟩

/-- Every text is cut by one that is not empty. -/
theorem exists_cuts (some : old ≠ []) (s : List α) : ∃ pieces, Cuts old s pieces := by
  by_cases occurs : old <+: s
  · obtain ⟨rest, same⟩ := occurs
    obtain ⟨pieces, cuts⟩ := exists_cuts some rest
    have whole : Cuts old (old ++ rest) ([] :: pieces) := .cut (firstBehind_nil old) cuts
    exact ⟨_, same ▸ whole⟩
  · cases s with
    | nil => exact ⟨_, .last (mt List.infix_nil.1 some)⟩
    | cons c s =>
      obtain ⟨pieces, cuts⟩ := exists_cuts some s
      exact cuts.cons occurs
termination_by s.length
decreasing_by
  · have pos := List.length_pos_iff.2 some
    rw [← same, List.length_append]
    omega
  · exact Nat.lt_succ_self _

end

/-! ## Replacing -/

variable {old new p rest s : List Char} {pieces : List (List Char)} {c : Char} {k : ℕ}

theorem replaceAll_append (some : old ≠ []) (rest : List Char) :
    replaceAll old new (old ++ rest) = new ++ replaceAll old new rest := by
  obtain ⟨c, more, rfl⟩ := List.exists_cons_of_ne_nil some
  rw [List.cons_append, replaceAll, if_pos ⟨some, by simp⟩]
  simp

theorem replaceAll_cons (clear : ¬ old <+: c :: s) :
    replaceAll old new (c :: s) = c :: replaceAll old new s := by
  rw [replaceAll, if_neg fun occurs => clear (by simpa using occurs.2)]

theorem replaceNth_append (some : old ≠ []) (rest : List Char) :
    replaceNth old new 0 (old ++ rest) = new ++ rest ∧
      ∀ k, replaceNth old new (k + 1) (old ++ rest) = old ++ replaceNth old new k rest := by
  obtain ⟨c, more, rfl⟩ := List.exists_cons_of_ne_nil some
  have occurs : c :: more ≠ [] ∧ (c :: more).isPrefixOf (c :: (more ++ rest)) := ⟨some, by simp⟩
  have behind : (more ++ rest).drop ((c :: more).length - 1) = rest := by simp
  refine ⟨?_, fun k => ?_⟩ <;> rw [List.cons_append, replaceNth.eq_def] <;> dsimp only <;>
    rw [if_pos occurs, behind]

theorem replaceNth_cons (clear : ¬ old <+: c :: s) :
    replaceNth old new k (c :: s) = c :: replaceNth old new k s := by
  rw [replaceNth.eq_def]
  exact if_neg fun occurs => clear (by simpa using occurs.2)

/-- Where a text does not occur, it is not replaced. -/
theorem replaceAll_of_clear (clear : ¬ old <:+: s) : replaceAll old new s = s := by
  induction s with
  | nil => rw [replaceAll]
  | cons c s ih =>
    obtain ⟨here, behind⟩ := not_or.1 (mt List.infix_cons_iff.2 clear)
    rw [replaceAll_cons here, ih behind]

theorem replaceNth_of_clear (clear : ¬ old <:+: s) : replaceNth old new k s = s := by
  induction s with
  | nil => rw [replaceNth]
  | cons c s ih =>
    obtain ⟨here, behind⟩ := not_or.1 (mt List.infix_cons_iff.2 clear)
    rw [replaceNth_cons here, ih behind]

/-- The piece before the first occurrence stays, and what comes behind it is rewritten on its
own. -/
theorem replaceAll_piece (some : old ≠ []) (first : FirstBehind old p) (rest : List Char) :
    replaceAll old new (p ++ (old ++ rest)) = p ++ (new ++ replaceAll old new rest) := by
  induction p with
  | nil => exact replaceAll_append some rest
  | cons c p ih =>
    rw [List.cons_append, replaceAll_cons (first.not_start rest), ih first.tail, List.cons_append]

theorem replaceNth_piece (first : FirstBehind old p) (k : ℕ) (rest : List Char) :
    replaceNth old new k (p ++ (old ++ rest)) = p ++ replaceNth old new k (old ++ rest) := by
  induction p with
  | nil => rfl
  | cons c p ih =>
    rw [List.cons_append, replaceNth_cons (first.not_start rest), ih first.tail, List.cons_append]

/-- Nothing is replaced if there are no more occurrences than are skipped. -/
theorem Cuts.replaceNth_of_le (some : old ≠ []) (cuts : Cuts old s pieces)
    (few : pieces.length ≤ k + 1) :
    replaceNth old new k s = s := by
  induction cuts generalizing k with
  | last clear => exact replaceNth_of_clear clear
  | cut first more ih =>
    have pos := more.pos
    rw [List.length_cons] at few
    obtain ⟨k, rfl⟩ := Nat.exists_eq_add_one.2 (show 0 < k by omega)
    rw [replaceNth_piece first, (replaceNth_append some _).2, ih (by omega)]

/-- Replaces as many occurrences one at a time, from the last of them down to the first. -/
def replaceDown (old new : List Char) : ℕ → List Char → List Char
  | 0, s => s
  | k + 1, s => replaceDown old new k (replaceNth old new k s)

/-- The first occurrence stays the first while those behind it are replaced, and is replaced at
the end. -/
theorem replaceDown_piece (some : old ≠ []) (first : FirstBehind old p) (k : ℕ) (rest : List Char) :
    replaceDown old new (k + 1) (p ++ (old ++ rest)) = p ++
    (new ++ replaceDown old new k rest) := by
  induction k generalizing rest with
  | zero =>
    show replaceNth old new 0 (p ++ (old ++ rest)) = p ++ (new ++ rest)
    rw [replaceNth_piece first, (replaceNth_append some rest).1]
  | succ k ih =>
    rw [replaceDown, replaceNth_piece first, (replaceNth_append some rest).2, ih, ← replaceDown]

/-- To replace one occurrence after the other, beginning with the last, is to replace them all. -/
theorem replaceDown_eq_replaceAll (some : old ≠ []) (cuts : Cuts old s pieces)
    (count : pieces.length = k + 1) :
    replaceDown old new k s = replaceAll old new s := by
  induction cuts generalizing k with
  | last clear =>
    obtain rfl : k = 0 := by simpa using count.symm
    rw [replaceDown, replaceAll_of_clear clear]
  | cut first more ih =>
    obtain ⟨k, rfl⟩ : ∃ j, k = j + 1 := Nat.exists_eq_add_one.2 (Nat.succ.inj count ▸ more.pos)
    rw [replaceDown_piece some first, replaceAll_piece some first, ih (Nat.succ.inj count)]

end Spreadsheet.Text
