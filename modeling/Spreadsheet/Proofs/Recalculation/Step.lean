import Spreadsheet.Proofs.Graph.Search
import Spreadsheet.Proofs.Recalculation.Settling

/-!
# `Proofs/Recalculation/Step.lean` — the steps of a pass

A step is one of five (`Stepped`): a waiting cell is fetched, an expanded cell is evaluated, a
frame that has nothing left to do is dropped, a cell is expanded, or expanding it closes a loop.
This is all that later files know of `step` and `request`.

What is read off the stack when a loop is closed is a loop indeed. The stack is `Threaded`: every
cell on it is read by the next expanded one below, and that holds of frames as well whose cell was
settled in the meantime.

Whether a loop shows is looked up in a book that does not change while the precedents are looked
at; only the stack grows. So the list of precedents is gone through by induction with the stack as
it is by then, and what was pushed before does not make a loop longer.
-/

set_option autoImplicit false

namespace Spreadsheet.Pass

variable {p q : Pass} {w : Workbook} {id d : CellId} {stack pushed : List Frame}
    {members reads : List CellId}

/-! ## Looking at precedents -/

/-- Frames for cells that wait, out of a list. -/
def Pushed (w : Workbook) (reads : List CellId) (pushed : List Frame) : Prop :=
  ∀ f ∈ pushed, f.expanded = false ∧ f.cell ∈ reads ∧ w.state? f.cell = some .dirty

theorem Pushed.mono {reads' : List CellId} (h : Pushed w reads pushed)
    (sub : ∀ d ∈ reads, d ∈ reads') :
    Pushed w reads' pushed := by
  intro f hf
  obtain ⟨unexpanded, mem, state⟩ := h f hf
  exact ⟨unexpanded, sub _ mem, state⟩

/-- The first of the list has its frame below those of the others. -/
theorem Pushed.concat (h : Pushed w reads pushed) (dirty : w.state? d = some .dirty) :
    Pushed w (d :: reads) (pushed ++ [⟨d, false⟩]) := by
  intro f hf
  rcases List.mem_append.1 hf with hf | hf
  · exact h.mono (fun _ => List.mem_cons_of_mem _) f hf
  · cases List.mem_singleton.1 hf
    exact ⟨rfl, List.mem_cons_self, dirty⟩

/-- Unexpanded frames on top have no part in a loop. -/
theorem loopFrom_append (unexpanded : ∀ f ∈ pushed, f.expanded = false) :
    loopFrom d (pushed ++ stack) = loopFrom d stack := by
  have none : pushed.reverse.filter Frame.expanded = [] := by
    rw [List.filter_eq_nil_iff]
    intro f hf
    rw [unexpanded f (List.mem_reverse.1 hf)]
    exact Bool.false_ne_true
  unfold loopFrom
  rw [List.reverse_append, List.filter_append, none, List.append_nil]

/-- A loop that shows while the precedents of a cell are looked at: one of them is being
evaluated, or one holds the error of a loop and the cell lies on one. -/
def LoopShows (w : Workbook) (id : CellId) (stack : List Frame)
    (reads members : List CellId) : Prop :=
  (∃ d ∈ reads, w.state? d = some .evaluating ∧ members = loopFrom d stack) ∨
    ((∃ d ∈ reads, w.isCyclic d = true) ∧ w.loop? id = some members)

/-- No loop shows at a precedent. -/
def Unremarkable (w : Workbook) (id d : CellId) : Prop :=
  w.state? d ≠ some .evaluating ∧
    (w.state? d = some .error → w.isCyclic d = true → w.loop? id = none)

/-- Looking at a precedent: it is stacked, a loop is settled, or there is nothing remarkable. -/
theorem request_cons (id : CellId) (p : Pass) (d : CellId) (reads : List CellId) :
    (p.book.state? d = some .dirty ∧
      request id p (d :: reads) = request id ⟨p.book, ⟨d, false⟩ :: p.stack⟩ reads) ∨
    (∃ members, LoopShows p.book id p.stack [d] members ∧
      request id p (d :: reads) = ⟨p.book.settleLoop members, p.stack⟩) ∨
    (Unremarkable p.book id d ∧ p.book.state? d ≠ some .dirty ∧
      request id p (d :: reads) = request id p reads) := by
  -- One case for each branch of `request`, by the state of the cell that is looked at.
  cases hs : p.book.state? d with
  | none =>
    refine .inr (.inr ⟨⟨by rw [hs]; nofun, by rw [hs]; nofun⟩, nofun, ?_⟩)
    rw [request, hs]
  | some s =>
    cases s with
    | dirty =>
      refine .inl ⟨rfl, ?_⟩
      rw [request, hs]
    | evaluating =>
      refine .inr (.inl ⟨loopFrom d p.stack, .inl ⟨d, List.mem_singleton.2 rfl, hs, rfl⟩, ?_⟩)
      rw [request, hs]
    | clean =>
      refine .inr (.inr ⟨⟨by rw [hs]; nofun, by rw [hs]; nofun⟩, nofun, ?_⟩)
      rw [request, hs]
    | error =>
      cases hcyclic : p.book.isCyclic d with
      | false =>
        refine .inr (.inr ⟨⟨by rw [hs]; nofun, by rw [hcyclic]; nofun⟩, nofun, ?_⟩)
        rw [request, hs]
        simp only [hcyclic, Bool.false_eq_true, if_false]
      | true =>
        cases hloop : p.book.loop? id with
        | none =>
          refine .inr (.inr ⟨⟨by rw [hs]; nofun, fun _ _ => hloop⟩, nofun, ?_⟩)
          rw [request, hs]
          simp only [hcyclic, if_true, hloop]
        | some members =>
          refine .inr (.inl ⟨members, .inr ⟨⟨d, List.mem_singleton.2 rfl, hcyclic⟩, hloop⟩, ?_⟩)
          rw [request, hs]
          simp only [hcyclic, if_true, hloop]

theorem LoopShows.mono {reads' : List CellId} (sub : ∀ d ∈ reads, d ∈ reads')
    (h : LoopShows w id stack reads members) :
    LoopShows w id stack reads' members := by
  rcases h with ⟨d, hd, state, eq⟩ | ⟨⟨d, hd, cyclic⟩, loop⟩
  · exact .inl ⟨d, sub d hd, state, eq⟩
  · exact .inr ⟨⟨d, sub d hd, cyclic⟩, loop⟩

theorem LoopShows.of_pushed (unexpanded : ∀ f ∈ pushed, f.expanded = false)
    (h : LoopShows w id (pushed ++ stack) reads members) : LoopShows w id stack reads members := by
  rcases h with ⟨d, hd, state, eq⟩ | found
  · exact .inl ⟨d, hd, state, by rw [eq, loopFrom_append unexpanded]⟩
  · exact .inr found

/-- Either the precedents that wait are stacked and no loop shows, or a loop is settled. -/
theorem request_cases (id : CellId) (p : Pass) (reads : List CellId) :
    (∃ pushed, request id p reads = ⟨p.book, pushed ++ p.stack⟩ ∧ Pushed p.book reads pushed ∧
      ∀ d ∈ reads, Unremarkable p.book id d ∧
      (p.book.state? d = some .dirty → ⟨d, false⟩ ∈ pushed)) ∨
    ∃ pushed members, request id p reads = ⟨p.book.settleLoop members, pushed ++ p.stack⟩ ∧
      Pushed p.book reads pushed ∧ LoopShows p.book id p.stack reads members := by
  -- By induction on what is still to be looked at, for every stack: the stack grows on the way,
  -- and the book does not change.
  induction reads generalizing p with
  | nil => exact .inl ⟨[], rfl, nofun, nofun⟩
  | cons d reads ih =>
    have more : ∀ e ∈ reads, e ∈ d :: reads := fun e he => List.mem_cons_of_mem _ he
    rcases request_cons id p d reads with ⟨dirty, eq⟩ | ⟨members, shows_, eq⟩ |
      ⟨unremarkable, state, eq⟩
    · -- The others are looked at with the frame of this one on the stack already.
      have append : ∀ pushed : List Frame,
        pushed ++ ⟨d, false⟩ :: p.stack = (pushed ++ [⟨d, false⟩]) ++ p.stack := by simp
      rcases ih ⟨p.book, ⟨d, false⟩ :: p.stack⟩ with ⟨pushed, eq', valid, all⟩ |
        ⟨pushed, members, eq', valid, shows_⟩
      · refine .inl ⟨pushed ++ [⟨d, false⟩], ?_, valid.concat dirty, fun e he => ?_⟩
        · rw [eq, eq', append]
        · rcases List.mem_cons.1 he with rfl | he
          · refine ⟨⟨?_, ?_⟩, fun _ => by simp⟩
            · rw [dirty]
              nofun
            · rw [dirty]
              nofun
          · exact ⟨(all e he).1, fun h => List.mem_append_left _ ((all e he).2 h)⟩
      · refine .inr ⟨pushed ++ [⟨d, false⟩], members, ?_, valid.concat dirty, ?_⟩
        · rw [eq, eq', append]
        · have unexpanded : ∀ f ∈ ([⟨d, false⟩] : List Frame), f.expanded = false := by
            intro f hf
            cases List.mem_singleton.1 hf
            rfl
          exact (LoopShows.of_pushed unexpanded shows_).mono more
    · -- Once a loop is settled the rest of the list is not looked at.
      refine .inr ⟨[], members, eq, nofun, shows_.mono fun e he => ?_⟩
      rw [List.mem_singleton.1 he]
      exact List.mem_cons_self
    · rcases ih p with ⟨pushed, eq', valid, all⟩ | ⟨pushed, members, eq', valid, shows_⟩
      · refine .inl ⟨pushed, eq.trans eq', valid.mono more, fun e he => ?_⟩
        rcases List.mem_cons.1 he with rfl | he
        · exact ⟨unremarkable, fun dirty => absurd dirty state⟩
        · exact all e he
      · exact .inr ⟨pushed, members, eq.trans eq', valid.mono more, shows_.mono more⟩

/-! ## Steps -/

/-- What a step of a pass can do. -/
inductive Stepped : Pass → Pass → Prop where
  /-- The stack is empty, and a waiting cell comes on it. -/
  | fetch {w : Workbook} {id : CellId} {rest : List CellId} (pending : w.pending = id :: rest) :
      Stepped ⟨w, []⟩ ⟨{ w with pending := rest }, [⟨id, false⟩]⟩
  /-- An expanded cell is evaluated. -/
  | evaluate {w : Workbook} {id : CellId} {stack : List Frame}
      (state : w.state? id = some .evaluating) :
      Stepped ⟨w, ⟨id, true⟩ :: stack⟩ ⟨w.evaluateCell id, stack⟩
  /-- A frame has nothing left to do. -/
  | drop {w : Workbook} {frame : Frame} {stack : List Frame}
      (idle : w.state? frame.cell ≠ some (if frame.expanded then .evaluating else .dirty)) :
      Stepped ⟨w, frame :: stack⟩ ⟨w, stack⟩
  /-- A cell is expanded, and the precedents that wait are stacked. -/
  | expand {w : Workbook} {id : CellId} {stack pushed : List Frame}
      (state : w.state? id = some .dirty)
      (pushes : Pushed (w.beginEvaluation id) (w.precedentsOf id).toList pushed)
      (all : ∀ d, w.Reads id d → Unremarkable (w.beginEvaluation id) id d ∧
        ((w.beginEvaluation id).state? d = some .dirty → ⟨d, false⟩ ∈ pushed)) :
      Stepped ⟨w, ⟨id, false⟩ :: stack⟩ ⟨w.beginEvaluation id, pushed ++ ⟨id, true⟩ :: stack⟩
  /-- A cell is expanded, and that closes a loop. -/
  | close {w : Workbook} {id : CellId} {stack pushed : List Frame} {members : List CellId}
      (state : w.state? id = some .dirty)
      (pushes : Pushed (w.beginEvaluation id) (w.precedentsOf id).toList pushed)
      (loop : LoopShows (w.beginEvaluation id) id (⟨id, true⟩ :: stack)
        (w.precedentsOf id).toList members) :
      Stepped ⟨w, ⟨id, false⟩ :: stack⟩ ⟨(w.beginEvaluation id).settleLoop members,
        pushed ++ ⟨id, true⟩ :: stack⟩

theorem stepped_of_step (h : p.step = some q) : Stepped p q := by
  obtain ⟨w, stack⟩ := p
  unfold step at h
  split at h
  next hstack =>
    simp only at hstack
    subst hstack
    split at h
    next => cases h
    next id rest pending =>
      cases h
      exact .fetch pending
  next id stack' hstack =>
    simp only at hstack
    subst hstack
    simp only at h
    split at h
    next state =>
      cases h
      exact .evaluate state
    next idle =>
      cases h
      exact .drop idle
  next id stack' hstack =>
    simp only at hstack
    subst hstack
    simp only at h
    split at h
    next state =>
      cases h
      -- Only when a cell is expanded something can happen besides: a loop shows.
      rcases request_cases id ⟨w.beginEvaluation id, ⟨id, true⟩ :: stack'⟩
        (w.precedentsOf id).toList with
        ⟨pushed, eq, pushes, all⟩ | ⟨pushed, members, eq, pushes, loop⟩
      · rw [eq]
        exact .expand state pushes fun d hd => all d (Std.ExtTreeSet.mem_toList.2 hd)
      · rw [eq]
        exact .close state pushes loop
    next idle =>
      cases h
      exact .drop idle

/-- A pass that makes no step is over: nothing is stacked and nothing waits. -/
theorem over_of_step (h : p.step = none) : p.stack = [] ∧ p.book.pending = [] := by
  obtain ⟨w, stack⟩ := p
  unfold step at h
  split at h
  next hstack =>
    split at h
    next pending => exact ⟨hstack, pending⟩
    next => cases h
  next => cases h
  next =>
    split at h <;> cases h

/-! ## The thread on the stack -/

/-- Every cell on the stack is read by the next expanded one below. -/
def Threaded (reads : CellId → CellId → Prop) : List Frame → Prop
  | [] => True
  | frame :: below =>
    (∀ g ∈ below.find? Frame.expanded, reads g.cell frame.cell) ∧ Threaded reads below

variable {R : CellId → CellId → Prop}

/-- Frames for precedents of an expanded cell keep the thread. -/
theorem Threaded.push (threaded : Threaded R (⟨id, true⟩ :: stack))
    (read : ∀ f ∈ pushed, f.expanded = false ∧ R id f.cell) :
    Threaded R (pushed ++ ⟨id, true⟩ :: stack) := by
  induction pushed with
  | nil => exact threaded
  | cons f pushed ih =>
    refine ⟨fun g hg => ?_, ih fun g hg => read g (List.mem_cons_of_mem _ hg)⟩
    -- The next expanded frame below is that of the cell itself, whatever has been stacked in
    -- between.
    have none : pushed.find? Frame.expanded = none := by
      rw [List.find?_eq_none]
      intro g hg
      rw [(read g (List.mem_cons_of_mem _ hg)).1]
      exact Bool.false_ne_true
    have top : (pushed ++ ⟨id, true⟩ :: stack).find? Frame.expanded = some ⟨id, true⟩ := by
      rw [List.find?_append, none]
      rfl
    have hg : g ∈ (pushed ++ ⟨id, true⟩ :: stack).find? Frame.expanded := hg
    rw [top] at hg
    cases hg
    exact (read f List.mem_cons_self).2

/-- Expanding a cell leaves the thread below it. -/
theorem Threaded.expand {b : Bool} (threaded : Threaded R (⟨id, b⟩ :: stack)) :
    Threaded R (⟨id, true⟩ :: stack) := threaded

/-- The expanded cells of a stack, the top one first. -/
def expandedCells (stack : List Frame) : List CellId := (stack.filter Frame.expanded).map Frame.cell

theorem mem_expandedCells : d ∈ expandedCells stack ↔ ⟨d, true⟩ ∈ stack := by
  unfold expandedCells
  simp only [List.mem_map, List.mem_filter]
  constructor
  · rintro ⟨⟨cell, expanded⟩, ⟨mem, he⟩, rfl⟩
    simp only at he
    rwa [← he]
  · intro mem
    exact ⟨⟨d, true⟩, ⟨mem, rfl⟩, rfl⟩

/-- Going down the stack, each expanded cell is read by the next. -/
theorem Threaded.isChain (threaded : Threaded R stack) :
    List.IsChain (fun a b => R b a) (expandedCells stack) := by
  -- Frames that are not expanded yet are skipped, on the thread as in the chain.
  induction stack with
  | nil => exact .nil
  | cons f stack ih =>
    obtain ⟨read, threaded⟩ := threaded
    unfold expandedCells
    cases hf : f.expanded with
    | false =>
      rw [List.filter_cons_of_neg (by rw [hf]; exact Bool.false_ne_true)]
      exact ih threaded
    | true =>
      rw [List.filter_cons_of_pos hf, List.map_cons, List.isChain_cons]
      refine ⟨fun d hd => ?_, ih threaded⟩
      rw [List.head?_map, List.head?_filter, Option.mem_def, Option.map_eq_some_iff] at hd
      obtain ⟨g, hg, rfl⟩ := hd
      exact read g hg

/-- Reading a cell that is expanded below closes a loop, from there to the top. -/
theorem isLoop_loopFrom (threaded : Threaded R (⟨id, true⟩ :: stack))
    (expanded : ⟨d, true⟩ ∈ (⟨id, true⟩ : Frame) :: stack) (read : R id d) :
    Graph.IsLoop R d (loopFrom d (⟨id, true⟩ :: stack)) ∧
    id ∈ loopFrom d (⟨id, true⟩ :: stack) := by
  have fromBottom : ((⟨id, true⟩ :: stack).reverse.filter Frame.expanded).map Frame.cell =
      (expandedCells (⟨id, true⟩ :: stack)).reverse := by
    unfold expandedCells
    rw [List.filter_reverse, List.map_reverse]
  have chain : List.IsChain R (expandedCells (⟨id, true⟩ :: stack)).reverse :=
    List.isChain_reverse.2 threaded.isChain
  have last : (expandedCells (⟨id, true⟩ :: stack)).reverse.getLast? = some id := by
    rw [List.getLast?_reverse]
    rfl
  have mem : d ∈ (expandedCells (⟨id, true⟩ :: stack)).reverse :=
    List.mem_reverse.2 (mem_expandedCells.2 expanded)
  unfold loopFrom
  rw [fromBottom]
  generalize (expandedCells (⟨id, true⟩ :: stack)).reverse = cells at chain last mem
  -- The loop is what is left from the first frame of `d` on, so `d` must not come before.
  obtain ⟨before, after, rfl, absent⟩ := List.eq_append_cons_of_mem mem
  have members : (before ++ d :: after).dropWhile (· ≠ d) = d :: after := by
    rw [List.dropWhile_append_of_pos]
    · simp
    · intro x hx
      rw [decide_eq_true_eq]
      rintro rfl
      exact absent hx
  simp only [members]
  rw [List.getLast?_append, Option.or_of_isSome (by simp)] at last
  refine ⟨⟨rfl, ?_⟩, List.mem_of_getLast? last⟩
  rw [List.isChain_append]
  refine ⟨(List.isChain_append.1 chain).2.1, .singleton _, fun x hx y hy => ?_⟩
  rw [last] at hx
  cases hx
  cases hy
  exact read

end Spreadsheet.Pass
