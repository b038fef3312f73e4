import Mathlib.Data.List.Forall2
import Spreadsheet.Proofs.Address.Spelling
import Spreadsheet.Proofs.Text.Lines
import Spreadsheet.SheetFile

/-!
# `Proofs/SheetFile/Reading.lean` — what a sheet file says

Every line says one thing or has one fault, whatever stands before it (`Means`, `Lacks`): a cell's
reference starts with none of the characters that comments and headers start with, and it ends at
the first colon. A file is read if all of its lines say something, and then it holds the cells of
its lines, each under the last header above it. Otherwise it is refused for the first line that
says nothing that can be read, and the number of that line is counted among all lines.

Meaning and lacking are relations between a line and what is said of it, and each line is in just
one of them (`means_or_lacks`). So reading is shown in one direction only, from what a line means
to what it is read as, and the other direction follows.
-/

set_option autoImplicit false

namespace Spreadsheet.SheetFile

/-! ## Lines -/

/-- What a line says. -/
inductive Means (s : List Char) : Line → Prop
  | empty (h : Text.trim s = []) : Means s .nothing
  | comment {rest : List Char} (h : Text.trim s = '#' :: rest) : Means s .nothing
  | header {name : List Char} (h : Text.trim s = '[' :: (name ++ [']']))
      (named : Text.trim name ≠ []) :
      Means s (.header (String.ofList (Text.trim name)))
  | cell {reference value : List Char} {w : Address.Spelling}
      (h : Text.trim s = reference ++ ':' :: value)
      (first : ':' ∉ reference) (spelled : Text.trim reference = w.chars) :
      Means s (.cell w.position (String.ofList (decode (Text.trim value))))

/-- A line is about a cell if it is not empty and has no sign of being anything else. -/
def AboutCell (s : List Char) : Prop :=
  Text.trim s ≠ [] ∧ ∀ c ∈ (Text.trim s).head?, c ≠ '#' ∧ c ≠ '['

/-- What a line lacks. -/
inductive Lacks (s : List Char) : Fault → Prop
  | header {rest : List Char} (h : Text.trim s = '[' :: rest)
      (unnamed : ∀ name, rest = name ++ [']'] → Text.trim name = []) :
      Lacks s .header
  | format (about : AboutCell s) (colon : ':' ∉ Text.trim s) : Lacks s .format
  | reference {reference value : List Char} (about : AboutCell s)
      (h : Text.trim s = reference ++ ':' :: value)
      (first : ':' ∉ reference)
      (unspelled : ∀ w : Address.Spelling, Text.trim reference ≠ w.chars) :
      Lacks s (.reference (String.ofList (Text.trim reference)))

theorem headerName?_eq_some_iff {s name : List Char} :
    headerName? s = some name ↔ ∃ inner, s = inner ++ [']'] ∧ Text.trim inner ≠ [] ∧
    Text.trim inner = name := by
  unfold headerName?
  constructor
  · intro h
    split at h
    next closed =>
      obtain ⟨inner, rfl⟩ := List.getLast?_eq_some_iff.1 closed
      simp only [List.dropLast_concat] at h
      split at h
      next => cases h
      next named => exact ⟨inner, rfl, named, Option.some.inj h⟩
    next => cases h
  · rintro ⟨inner, rfl, named, rfl⟩
    simp [named]

/-- What a line about a cell is read as. -/
theorem AboutCell.read {s : List Char} (about : AboutCell s) : Line.read s =
    match Text.cut? ':' (Text.trim s) with
    | none => .error .format
    | some (reference, value) =>
      match Position.ofText? (String.ofList (Text.trim reference)) with
      | some p => .ok (.cell p (String.ofList (decode (Text.trim value))))
      | none => .error (.reference (String.ofList (Text.trim reference))) := by
  obtain ⟨something, other⟩ := about
  unfold Line.read
  split
  next empty => exact absurd empty something
  next rest comment =>
    rw [comment] at other
    exact absurd rfl (other _ rfl).1
  next rest header =>
    rw [header] at other
    exact absurd rfl (other _ rfl).2
  next => rfl

theorem ofText?_trim_eq_some_iff {reference : List Char} {p : Position} :
    Position.ofText? (String.ofList (Text.trim reference)) = some p ↔
      ∃ w : Address.Spelling, Text.trim reference = w.chars ∧ w.position = p := by
  rw [Position.ofText?_eq_some_iff, String.toList_ofList, Text.trim_trim]

/-- What starts with the place of a cell is about a cell. -/
theorem aboutCell_of_spelled {s reference rest : List Char} {w : Address.Spelling}
    (h : Text.trim s = reference ++ rest) (spelled : Text.trim reference = w.chars) :
    AboutCell s := by
  have visible := Text.stopsAt_trim s
  unfold AboutCell
  rw [h] at visible ⊢
  cases reference with
  | nil => exact absurd spelled.symm w.chars_ne_nil
  | cons c reference =>
    rw [List.cons_append, Text.stopsAt_cons] at visible
    have start : Text.trim (c :: reference) = c :: Text.trimEnd reference := by
      rw [Text.trim, Text.trimStart, List.dropWhile_cons, if_neg (by simp [visible]),
        Text.trimEnd_cons visible]
    -- The first character of the line is the first of a reference, which is spelled with letters,
    -- digits and dollar signs.
    have mem : c ∈ w.chars := by simp [← spelled, start]
    refine ⟨List.cons_ne_nil _ _, fun d hd => ?_⟩
    obtain rfl : c = d := Option.some.inj hd
    constructor
    · rintro rfl
      exact w.not_mem_chars (by decide) mem
    · rintro rfl
      exact w.not_mem_chars (by decide) mem

/-- A line is read as what it says. -/
theorem Means.read {s : List Char} {line : Line} (means : Means s line) :
    Line.read s = .ok line := by
  cases means with
  | empty h =>
    unfold Line.read
    rw [h]
  | comment h =>
    unfold Line.read
    rw [h]
    rfl
  | header h named =>
    have name := headerName?_eq_some_iff.2 ⟨_, rfl, named, rfl⟩
    unfold Line.read
    rw [h]
    simp only [name]
  | cell h first spelled =>
    have cut := Text.cut?_eq_some_iff.2 ⟨h, first⟩
    have place := ofText?_trim_eq_some_iff.2 ⟨_, spelled, rfl⟩
    rw [(aboutCell_of_spelled h spelled).read]
    simp only [cut, place]

/-- A line is refused for what it lacks. -/
theorem Lacks.read {s : List Char} {fault : Fault} (lacks : Lacks s fault) :
    Line.read s = .error fault := by
  cases lacks with
  | @header rest h unnamed =>
    have nothing : headerName? rest = none := by
      rw [Option.eq_none_iff_forall_ne_some]
      intro name found
      obtain ⟨inner, closed, named, -⟩ := headerName?_eq_some_iff.1 found
      exact named (unnamed inner closed)
    unfold Line.read
    rw [h]
    simp only [nothing]
  | format about colon =>
    rw [about.read, Text.cut?_eq_none_iff.2 colon]
  | @reference reference value about h first unspelled =>
    have cut := Text.cut?_eq_some_iff.2 ⟨h, first⟩
    -- If a place were read, the reference would be spelled like one.
    have nowhere : Position.ofText? (String.ofList (Text.trim reference)) = none := by
      rw [Option.eq_none_iff_forall_ne_some]
      intro p found
      obtain ⟨w, spelled, -⟩ := ofText?_trim_eq_some_iff.1 found
      exact unspelled w spelled
    rw [about.read]
    simp only [cut, nowhere]

/-- Every line says something or lacks something. -/
theorem means_or_lacks (s : List Char) : (∃ line, Means s line) ∨ ∃ fault, Lacks s fault := by
  -- Comments, headers and what is empty are told by the first character; what is left is about a
  -- cell.
  by_cases about : AboutCell s
  · cases cut : Text.cut? ':' (Text.trim s) with
    | none => exact .inr ⟨_, .format about (Text.cut?_eq_none_iff.1 cut)⟩
    | some parts =>
      obtain ⟨h, first⟩ := Text.cut?_eq_some_iff.1 cut
      by_cases spelled : ∃ w : Address.Spelling, Text.trim parts.1 = w.chars
      · obtain ⟨w, spelled⟩ := spelled
        exact .inl ⟨_, .cell h first spelled⟩
      · exact .inr ⟨_, .reference about h first (not_exists.1 spelled)⟩
  · cases h : Text.trim s with
    | nil => exact .inl ⟨_, .empty h⟩
    | cons c rest =>
      by_cases comment : c = '#'
      · subst comment
        exact .inl ⟨_, .comment h⟩
      by_cases header : c = '['
      · subst header
        by_cases named : ∃ name, rest = name ++ [']'] ∧ Text.trim name ≠ []
        · obtain ⟨name, rfl, named⟩ := named
          exact .inl ⟨_, .header h named⟩
        · exact .inr ⟨_, .header h fun name closed => not_not.1 fun blank =>
            named ⟨name, closed, blank⟩⟩
      · exact absurd ⟨by simp [h], by simp [h, comment, header]⟩ about

/-- A line is read as what it says. -/
theorem read_eq_ok_iff {s : List Char} {line : Line} : Line.read s = .ok line ↔ Means s line := by
  refine ⟨fun read => ?_, Means.read⟩
  rcases means_or_lacks s with ⟨line, means⟩ | ⟨fault, lacks⟩
  · cases means.read.symm.trans read
    exact means
  · cases lacks.read.symm.trans read

/-- A line is refused for what it lacks. -/
theorem read_eq_error_iff {s : List Char} {fault : Fault} :
    Line.read s = .error fault ↔ Lacks s fault := by
  refine ⟨fun read => ?_, Lacks.read⟩
  rcases means_or_lacks s with ⟨line, means⟩ | ⟨fault, lacks⟩
  · cases means.read.symm.trans read
  · cases lacks.read.symm.trans read
    exact lacks

/-- What lacks something means nothing. -/
theorem Lacks.not_means {s : List Char} {fault : Fault} (lacks : Lacks s fault) (line : Line) :
    ¬ Means s line := by
  intro means
  cases means.read.symm.trans lacks.read

/-! ## Files -/

/-- The name in a header. -/
def Line.name? : Line → Option String
  | .header name => some name
  | _ => none

/-- The last name among lines. -/
def lastName (said : List Line) : Option String := (said.filterMap Line.name?).getLast?

/-- The cell in a line, under the last header above it. -/
def entryAt (said : List Line) : Line × Nat → Option Entry
  | (.cell p input, i) => some ⟨lastName (said.take i), p, input⟩
  | _ => none

/-- The cells in lines, each under the last header above it. -/
def cellsOf (said : List Line) : List Entry := said.zipIdx.filterMap (entryAt said)

/-- The cells in lines under a header, each under the last one. -/
def cellsFrom : Option String → List Line → List Entry
  | _, [] => []
  | sheet, .nothing :: rest => cellsFrom sheet rest
  | _, .header name :: rest => cellsFrom (some name) rest
  | sheet, .cell p input :: rest => ⟨sheet, p, input⟩ :: cellsFrom sheet rest

theorem lastName_concat (above : List Line) (line : Line) :
    lastName (above ++ [line]) = line.name?.or (lastName above) := by
  unfold lastName
  cases line <;> simp [Line.name?]

theorem cellsFrom_eq (above rest : List Line) :
    cellsFrom (lastName above) rest = (rest.zipIdx above.length).filterMap
    (entryAt (above ++ rest)) := by
  induction rest generalizing above with
  | nil => rfl
  | cons line rest ih =>
    have more := ih (above ++ [line])
    rw [lastName_concat, List.length_append, List.length_singleton, List.append_assoc,
      List.singleton_append] at more
    rw [List.zipIdx_cons, List.filterMap_cons, ← more]
    cases line with
    | nothing => rfl
    | header name => rfl
    | cell p input =>
      have here : (above ++ .cell p input :: rest).take above.length = above := List.take_left
      simp only [entryAt, here]
      rfl

theorem cellsOf_eq (said : List Line) : cellsOf said = cellsFrom none said :=
  (cellsFrom_eq [] said).symm

theorem cellsFrom_cons (sheet : Option String) (line : Line) (rest : List Line) :
    cellsFrom sheet (line :: rest) = cellsFrom sheet [line] ++
    cellsFrom (line.name?.or sheet) rest := by
  cases line <;> rfl

variable {s : List Char} {ls : List (List Char)} {number : Nat} {sheet : Option String}

/-- What a line means goes in front of what is read from the lines below. -/
theorem entriesFrom_cons {line : Line} (read : Line.read s = .ok line) :
    entriesFrom number sheet (s :: ls) = (cellsFrom sheet [line] ++ ·) <$> entriesFrom (number + 1)
    (line.name?.or sheet) ls := by
  rw [entriesFrom, read]
  cases line with
  | cell p input => rfl
  | nothing => exact (id_map _).symm
  | header name => exact (id_map _).symm

theorem exists_forall₂_iff :
    (∃ said, List.Forall₂ Means ls said) ↔ ∀ s ∈ ls, ∃ line, Means s line := by
  induction ls with
  | nil => simp
  | cons s ls ih =>
    rw [List.forall_mem_cons, ← ih]
    simp only [List.forall₂_cons_left_iff]
    exact ⟨fun ⟨_, line, said, means, all, _⟩ => ⟨⟨line, means⟩, said, all⟩,
      fun ⟨⟨line, means⟩, said, all⟩ => ⟨_, line, said, means, all, rfl⟩⟩

/-- Lines are read one by one. -/
theorem entriesFrom_eq_ok_iff {entries : List Entry} :
    entriesFrom number sheet ls = .ok entries ↔
    ∃ said, List.Forall₂ Means ls said ∧ entries = cellsFrom sheet said := by
  -- By induction on the lines, whatever number and header they are read under.
  induction ls generalizing number sheet entries with
  | nil => simp [entriesFrom, cellsFrom, eq_comm]
  | cons s ls ih =>
    constructor
    · intro h
      cases read : Line.read s with
      | error fault =>
        rw [entriesFrom, read] at h
        cases h
      | ok line =>
        rw [entriesFrom_cons read] at h
        cases more : entriesFrom (number + 1) (line.name?.or sheet) ls with
        | error fault =>
          rw [more] at h
          cases h
        | ok below =>
          rw [more] at h
          cases h
          obtain ⟨said, all, rfl⟩ := ih.1 more
          exact ⟨line :: said, .cons (read_eq_ok_iff.1 read) all,
            (cellsFrom_cons sheet line said).symm⟩
    · rintro ⟨said, all, rfl⟩
      obtain ⟨line, below, means, rest, rfl⟩ := List.forall₂_cons_left_iff.1 all
      rw [entriesFrom_cons means.read, ih.2 ⟨below, rest, rfl⟩, cellsFrom_cons sheet line below]
      rfl

/-- Lines are refused for the first that lacks something. -/
theorem entriesFrom_eq_error_iff {n : Nat} {fault : Fault} :
    entriesFrom number sheet ls = .error (n, fault) ↔ ∃ before s after, ls = before ++ s :: after ∧
      n = number + before.length ∧ (∀ t ∈ before, ∃ line, Means t line) ∧ Lacks s fault := by
  induction ls generalizing number sheet with
  | nil => simp [entriesFrom]
  | cons s ls ih =>
    constructor
    · intro h
      cases read : Line.read s with
      | error fault =>
        rw [entriesFrom, read] at h
        cases h
        exact ⟨[], s, ls, rfl, rfl, by simp, read_eq_error_iff.1 read⟩
      | ok line =>
        rw [entriesFrom_cons read] at h
        -- If this line means something, the fault is below it, and is counted from there.
        cases more : entriesFrom (number + 1) (line.name?.or sheet) ls with
        | ok below =>
          rw [more] at h
          cases h
        | error refusal =>
          rw [more] at h
          cases h
          obtain ⟨before, t, after, rfl, rfl, all, lacks⟩ := ih.1 more
          refine ⟨s :: before, t, after, rfl, ?_, ?_, lacks⟩
          · rw [List.length_cons]
            omega
          · exact List.forall_mem_cons.2 ⟨⟨line, read_eq_ok_iff.1 read⟩, all⟩
    -- Either the line itself is the first that lacks something, or the lines above it come first.
    · rintro ⟨before, t, after, split, rfl, all, lacks⟩
      cases before with
      | nil =>
        cases split
        rw [entriesFrom, lacks.read]
        rfl
      | cons _ before =>
        cases split
        obtain ⟨⟨line, means⟩, rest⟩ := List.forall_mem_cons.1 all
        have count : number + (s :: before).length = number + 1 + before.length := by
          rw [List.length_cons]
          omega
        rw [entriesFrom_cons means.read, ih.2 ⟨before, t, after, rfl, count, rest, lacks⟩]
        rfl

/-! ## Line endings -/

theorem read_of_isPieceOf {piece line : List Char} (h : Text.IsPieceOf piece line) :
    Line.read piece = Line.read line := by
  unfold Line.read
  rw [h.trim]

theorem entriesFrom_congr {pieces : List (List Char)}
    (same : List.Forall₂ (fun a b => Line.read a = Line.read b) pieces ls) :
    entriesFrom number sheet pieces = entriesFrom number sheet ls := by
  induction same generalizing number sheet with
  | nil => rfl
  | cons read _ ih => simp only [entriesFrom, read, ih]

theorem entriesFrom_concat_nil :
    entriesFrom number sheet (ls ++ [[]]) = entriesFrom number sheet ls := by
  induction ls generalizing number sheet with
  | nil => rfl
  | cons s ls ih => simp only [List.cons_append, entriesFrom, ih]

/-- A file is read by lines. -/
theorem parse_eq (content : String) :
    parse content = entriesFrom 1 none (Text.lines content.toList) := by
  obtain ⟨behind, shape, same⟩ := Text.pieces_lines content.toList
  unfold parse
  rw [entriesFrom_congr (same.imp fun _ _ => read_of_isPieceOf)]
  rcases shape with rfl | rfl
  · rw [List.append_nil]
  · exact entriesFrom_concat_nil

/-- **A sheet file is read line by line.** It can be read just if every line means something; it
then holds the cells of its lines in their order, each under the name in the last header above it.
If it cannot be read, it is refused with the number of the first line that means nothing, counted
from one, and with what that line lacks. -/
theorem file_is_read_by_lines (content : String) :
    ((∃ entries, parse content = .ok entries) ↔
      ∀ s ∈ Text.lines content.toList, ∃ line, Means s line) ∧
    (∀ entries, parse content = .ok entries ↔
      ∃ said, List.Forall₂ Means (Text.lines content.toList) said ∧ entries = cellsOf said) ∧
    ∀ number fault, parse content = .error (number, fault) ↔
      ∃ before s after, Text.lines content.toList = before ++ s :: after ∧
        number = before.length + 1 ∧
        (∀ t ∈ before, ∃ line, Means t line) ∧ (∀ line, ¬ Means s line) ∧ Lacks s fault := by
  have succeeds (entries : List Entry) : parse content = .ok entries ↔
      ∃ said, List.Forall₂ Means (Text.lines content.toList) said ∧ entries = cellsOf said := by
    rw [parse_eq, entriesFrom_eq_ok_iff]
    simp only [cellsOf_eq]
  refine ⟨?_, succeeds, fun number fault => ?_⟩
  · simp only [succeeds, ← exists_forall₂_iff]
    exact ⟨fun ⟨_, said, all, _⟩ => ⟨said, all⟩, fun ⟨said, all⟩ => ⟨_, said, all, rfl⟩⟩
  · rw [parse_eq, entriesFrom_eq_error_iff]
    refine exists_congr fun before => exists_congr fun s => exists_congr fun after => ?_
    rw [Nat.add_comm 1]
    exact ⟨fun ⟨split, count, all, lacks⟩ => ⟨split, count, all, lacks.not_means, lacks⟩,
      fun ⟨split, count, all, _, lacks⟩ => ⟨split, count, all, lacks⟩⟩

/-- Lines that say nothing count, whatever they end with. -/
example : parse "\r\n[ S ]\r\n # B: 2\n$a$01: =A1:B2\nA:1" = .error (5, .reference "A") := by decide

end Spreadsheet.SheetFile
