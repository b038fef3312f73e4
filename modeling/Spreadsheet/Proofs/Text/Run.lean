import Mathlib.Data.List.TakeDrop
import Mathlib.Data.List.TakeWhile
import Spreadsheet.Text.Blank

/-!
# `Proofs/Text/Run.lean` — runs of characters of one kind

Texts are cut where a run of characters ends. What stands behind a run makes no difference to it
as long as it does not go on with it (`StopsAt`).

With this a text that is put together from pieces is cut where it was put together: what a run
takes of two pieces is what it takes of the first, if the second stops it. Trimming is such a cut
at either end, and what has been trimmed is not trimmed any further.
-/

set_option autoImplicit false

namespace Spreadsheet.Text

variable {p : Char → Bool} {s z : List Char}

/-- A text starts with no character of a kind. -/
def StopsAt (p : Char → Bool) (z : List Char) : Prop := ∀ c ∈ z.head?, p c = false

@[simp] theorem stopsAt_nil : StopsAt p [] := nofun

@[simp] theorem stopsAt_cons {c : Char} : StopsAt p (c :: z) ↔ p c = false := by simp [StopsAt]

theorem stopsAt_of_forall (none : ∀ c ∈ z, p c = false) : StopsAt p z :=
  fun c hc => none c (List.mem_of_mem_head? hc)

/-- A text of one kind does not start with another. -/
theorem head?_append_ne {c : Char} (all : ∀ c ∈ s, p c = true) (nonempty : s ≠ [])
    (other : p c = false) :
    (s ++ z).head? ≠ some c := by
  cases s with
  | nil => exact absurd rfl nonempty
  | cons d s =>
    intro h
    cases h
    rw [all c (by simp)] at other
    cases other

/-- What cannot be gone on with does not make a run longer. -/
theorem takeWhile_append (stops : StopsAt p z) : (s ++ z).takeWhile p = s.takeWhile p := by
  induction s with
  | nil =>
    cases z with
    | nil => rfl
    | cons c z => simp [stopsAt_cons.1 stops]
  | cons c s ih => simp only [List.cons_append, List.takeWhile_cons, ih]

/-- A run ends where it cannot be gone on with. -/
theorem takeWhile_append_of_all (all : ∀ c ∈ s, p c = true) (stops : StopsAt p z) :
    (s ++ z).takeWhile p = s := by
  rw [List.takeWhile_append_of_pos all]
  cases z with
  | nil => simp
  | cons c z => simp [stopsAt_cons.1 stops]

theorem dropWhile_append_of_all (all : ∀ c ∈ s, p c = true) (stops : StopsAt p z) :
    (s ++ z).dropWhile p = z := by
  rw [List.dropWhile_append_of_pos all]
  cases z with
  | nil => rfl
  | cons c z => simp [stopsAt_cons.1 stops]

theorem span_append (all : ∀ c ∈ s, p c = true) (stops : StopsAt p z) :
    (s ++ z).span p = (s, z) := by
  rw [List.span_eq_takeWhile_dropWhile, takeWhile_append_of_all all stops,
    dropWhile_append_of_all all stops]

theorem length_takeWhile_le (p : Char → Bool) (s : List Char) : (s.takeWhile p).length ≤ s.length :=
  (List.takeWhile_sublist p).length_le

/-- A run is all of a text if the text is of one kind and what stands behind it does not go on
with that. -/
theorem length_takeWhile_append_eq_iff :
    ((s ++ z).takeWhile p).length = s.length ↔ (∀ c ∈ s, p c = true) ∧ StopsAt p z := by
  induction s with
  | nil => cases z with
    | nil => simp
    | cons c z => cases hc : p c <;> simp [hc]
  | cons c s ih => cases hc : p c <;> simp [hc, ih]

/-- Behind a run nothing goes on with it. -/
theorem stopsAt_drop (p : Char → Bool) (s : List Char) :
    StopsAt p (s.drop (s.takeWhile p).length) := by
  refine (length_takeWhile_append_eq_iff (s := s.take (s.takeWhile p).length).1 ?_).2
  rw [List.take_append_drop, List.length_take, Nat.min_eq_left (length_takeWhile_le p s)]

/-- A text with something visible at both ends has nothing to trim. -/
theorem trim_of_visible (first : StopsAt isBlank s) (last : StopsAt isBlank s.reverse) :
    trim s = s := by
  have stays : ∀ {z : List Char}, StopsAt isBlank z → z.dropWhile isBlank = z :=
    fun stops => dropWhile_append_of_all (s := []) nofun stops
  have start : trimStart s = s := stays first
  have behind : trimEnd s = s := by
    rw [trimEnd, stays last, List.reverse_reverse]
  rw [trim, start, behind]

theorem trimEnd_append (s : List Char) : ∃ z, s = trimEnd s ++ z ∧ ∀ c ∈ z, isBlank c = true := by
  refine ⟨(s.reverse.takeWhile isBlank).reverse, ?_, fun c hc => ?_⟩
  · unfold trimEnd
    rw [← List.reverse_append, List.takeWhile_append_dropWhile, List.reverse_reverse]
  · exact List.mem_takeWhile_imp (List.mem_reverse.1 hc)

/-- A text that starts with something visible still does so when it is trimmed. -/
theorem trimEnd_cons {c : Char} {s : List Char} (visible : isBlank c = false) :
    trimEnd (c :: s) = c :: trimEnd s := by
  unfold trimEnd
  rw [List.reverse_cons]
  generalize s.reverse = r
  induction r with
  | nil => simp [visible]
  | cons d r ih =>
    simp only [List.cons_append, List.dropWhile_cons]
    split
    · exact ih
    · simp

theorem stopsAt_dropWhile (p : Char → Bool) (s : List Char) : StopsAt p (s.dropWhile p) := by
  induction s with
  | nil => exact stopsAt_nil
  | cons c s ih =>
    rw [List.dropWhile_cons]
    split
    next => exact ih
    next other => exact stopsAt_cons.2 (by simpa using other)

/-- Every text starts with a run of each kind, which may be empty. -/
theorem exists_run (p : Char → Bool) (s : List Char) :
    ∃ run rest, s = run ++ rest ∧ (∀ c ∈ run, p c = true) ∧ StopsAt p rest :=
  ⟨s.takeWhile p, s.dropWhile p, List.takeWhile_append_dropWhile.symm,
    fun _ hc => List.mem_takeWhile_imp hc, stopsAt_dropWhile p s⟩

/-- A trimmed text starts with something visible, if with anything. -/
theorem stopsAt_trim (s : List Char) : StopsAt isBlank (trim s) := by
  have first : StopsAt isBlank (trimStart s) := stopsAt_dropWhile _ _
  unfold trim
  cases start : trimStart s with
  | nil => exact stopsAt_nil
  | cons c rest =>
    rw [start, stopsAt_cons] at first
    rw [trimEnd_cons first]
    exact stopsAt_cons.2 first

/-- A trimmed text has something visible at both ends, if it has anything. -/
theorem trim_trim (s : List Char) : trim (trim s) = trim s := by
  refine trim_of_visible (stopsAt_trim s) ?_
  unfold trim trimEnd
  rw [List.reverse_reverse]
  exact stopsAt_dropWhile _ _

theorem trimmed_trimmed (s : String) : trimmed (trimmed s) = trimmed s := by
  unfold trimmed
  rw [String.toList_ofList, trim_trim]

end Spreadsheet.Text
