import Mathlib
import Spreadsheet.Function.Library

/-!
# `Proofs/Function/Registry.lean` — what a registry holds

A registry is filled by inserting functions one after the other, each in place of one with the same
name. So what is found under a name was inserted under it (`mem_of_find?_foldl`), and a function is
found if no later one has its name (`find?_foldl`).

Some functions of the library match texts with an engine. It is a part of what they compute only, so
names, arities, policies and volatility are the same in the libraries for all engines
(`signature_library`). In particular the names are all different (`nodup_names`), and there the two
are one: a name finds just the function that has it (`find?_library`, `mem_library`).
-/

set_option autoImplicit false

namespace Spreadsheet

variable {f g : Function} {fs : List Function} {r : Registry} {name : String}
  {engine : Regex.Engine}

namespace Registry

theorem find?_insert (r : Registry) (f : Function) (name : String) :
    (r.insert f).find? name = if f.name = Text.latinUpper name then some f else r.find? name := by
  unfold find? insert
  simp only [Std.ExtTreeMap.getElem?_insert, Std.compare_eq_iff_eq]

theorem find?_insert_of_ne (r : Registry) (f : Function) {name : String}
    (h : Text.latinUpper name ≠ f.name) : (r.insert f).find? name = r.find? name := by
  rw [find?_insert, if_neg h.symm]

/-- A function that is found was added, under its own name. -/
theorem mem_of_find?_foldl (found : (fs.foldl insert r).find? name = some f) :
    f ∈ fs ∧ f.name = Text.latinUpper name ∨ r.find? name = some f := by
  induction fs generalizing r with
  | nil => exact .inr found
  | cons g fs ih =>
    rcases ih found with ⟨mem, named⟩ | found
    · exact .inl ⟨List.mem_cons_of_mem _ mem, named⟩
    · rw [find?_insert] at found
      split at found
      next named =>
        cases found
        exact .inl ⟨List.mem_cons_self, named⟩
      next => exact .inr found

/-- What is found under a name stays, if no function of that name is added. -/
theorem find?_foldl_of_forall (other : ∀ f ∈ fs, f.name ≠ Text.latinUpper name) :
    (fs.foldl insert r).find? name = r.find? name := by
  induction fs generalizing r with
  | nil => rfl
  | cons g fs ih =>
    obtain ⟨first, rest⟩ := List.forall_mem_cons.1 other
    rw [List.foldl_cons, ih rest, find?_insert_of_ne r g first.symm]

/-- Of functions with different names each is found under its own. -/
theorem find?_foldl (nodup : (fs.map Function.name).Nodup) (mem : f ∈ fs)
    (named : f.name = Text.latinUpper name) : (fs.foldl insert r).find? name = some f := by
  induction fs generalizing r with
  | nil => cases mem
  | cons g fs ih =>
    rw [List.map_cons, List.nodup_cons] at nodup
    rw [List.foldl_cons]
    rcases List.mem_cons.1 mem with rfl | mem
    · have other : ∀ g ∈ fs, g.name ≠ Text.latinUpper name := by
        intro g hg same
        exact nodup.1 (List.mem_map.2 ⟨g, hg, same.trans named.symm⟩)
      rw [find?_foldl_of_forall other, find?_insert, if_pos named]
    · exact ih nodup.2 mem

end Registry

/-! ## The library -/

/-- What is known of a function before it is called. -/
def Function.signature (f : Function) : String × Arity × ArgumentPolicy × Volatility :=
  (f.name, f.arity, f.policy, f.volatility)

theorem Lookup.mem_names (mem : f ∈ Lookup.functions engine) :
    f.name ∈ ["VLOOKUP", "HLOOKUP", "INDEX", "MATCH"] := by
  have names : (Lookup.functions engine).map Function.name =
      ["VLOOKUP", "HLOOKUP", "INDEX", "MATCH"] := rfl
  exact names ▸ List.mem_map_of_mem mem

theorem Criterion.mem_names (mem : f ∈ Criterion.functions engine) :
    f.name ∈ ["SUMIF", "COUNTIF", "AVERAGEIF"] := by
  have names : (Criterion.functions engine).map Function.name =
      ["SUMIF", "COUNTIF", "AVERAGEIF"] := rfl
  exact names ▸ List.mem_map_of_mem mem

/-- The engine is in what functions compute only: the libraries have the same signatures. -/
theorem signature_library (engine : Regex.Engine) :
    (Function.library engine).map Function.signature =
      (Function.library .standard).map Function.signature := by
  have lookups (e : Regex.Engine) : (Lookup.functions e).map Function.signature =
      [("VLOOKUP", .between 3 4, .lookup, .stable), ("HLOOKUP", .between 3 4, .lookup, .stable),
        ("INDEX", .between 2 3, .lookup, .stable), ("MATCH", .between 2 3, .lookup, .stable)] := rfl
  have criteria (e : Regex.Engine) : (Criterion.functions e).map Function.signature =
      [("SUMIF", .between 2 3, .lookup, .stable), ("COUNTIF", .exactly 2, .lookup, .stable),
        ("AVERAGEIF", .between 2 3, .lookup, .stable)] := rfl
  simp only [Function.library, List.map_append, lookups, criteria]

/-- So what all signatures of one library have, those of any other have. -/
theorem exists_standard (mem : f ∈ Function.library engine) :
    ∃ g ∈ Function.library .standard, g.signature = f.signature := by
  have listed : f.signature ∈ (Function.library engine).map Function.signature :=
    List.mem_map_of_mem mem
  rw [signature_library] at listed
  exact List.mem_map.1 listed

/-- No two functions of the library have one name. -/
theorem nodup_names (engine : Regex.Engine) :
    ((Function.library engine).map Function.name).Nodup := by
  have names (e : Regex.Engine) : (Function.library e).map Function.name =
      ((Function.library e).map Function.signature).map Prod.fst := by
    rw [List.map_map]
    rfl
  rw [names, signature_library, ← names]
  decide +kernel

theorem eq_of_mem_library (hf : f ∈ Function.library engine) (hg : g ∈ Function.library engine)
    (named : f.name = g.name) : f = g :=
  List.inj_on_of_nodup_map (nodup_names engine) hf hg named

/-- A function of the library is found under its name. -/
theorem find?_library (mem : f ∈ Function.library engine) (named : f.name = Text.latinUpper name) :
    (Registry.library engine).find? name = some f :=
  Registry.find?_foldl (nodup_names engine) mem named

/-- What is found under a name is a function of the library that has it. -/
theorem mem_library (found : (Registry.library engine).find? name = some f) :
    f ∈ Function.library engine ∧ f.name = Text.latinUpper name := by
  rcases Registry.mem_of_find?_foldl found with added | found
  · exact added
  · cases found

end Spreadsheet
