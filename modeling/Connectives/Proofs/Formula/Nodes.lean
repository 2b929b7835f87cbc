import Mathlib.Data.List.Basic
import Mathlib.Data.List.Induction
import Connectives.Conversion.Interpretation
import Connectives.Proofs.Formula.FirstOccurrence

/-!
# Connectives — the nodes of a formula

A walk through a formula meets the root first and then the nodes of each operand, left before right.
The names and the symbols that it meets are what `Formula.vars` and `Formula.connectives` list, each
where it is met for the first time. One of them drops repetitions at every binary node and the other
once at the end; the walk does not tell them apart.

* `ListsFirsts` — a list of first occurrences, told by the places where they are.
* `listsFirsts_iff` — there is one such list, and `eraseDups` computes it.
* `Formula.nodes` — the walk.
* `Formula.names_eq_filterMap_nodes`, `Formula.connectiveOccurrences_eq_filterMap_nodes` — what it
  meets.
* `Formula.lists_by_first_occurrence` — variables, witness and connectives, told by the walk.
-/

namespace Connectives

-- ---------------------------------------------------------------------------
-- First occurrences, by their places
-- ---------------------------------------------------------------------------

section List

variable {α : Type} [BEq α] [LawfulBEq α]

/-- The list has each member of `l` once, and those that come first in `l` come first in it. -/
structure ListsFirsts (l firsts : List α) : Prop where
  nodup : firsts.Nodup
  mem_iff : ∀ a, a ∈ firsts ↔ a ∈ l
  ordered : firsts.Pairwise fun a b => l.idxOf a < l.idxOf b

/-- A member at the end is dropped if it has occurred, and kept otherwise. -/
theorem eraseDups_concat (l : List α) (a : α) :
    (l ++ [a]).eraseDups = if a ∈ l then l.eraseDups else l.eraseDups ++ [a] := by
  rw [List.eraseDups_append, List.removeAll]
  split
  · next hMem => simp [hMem]
  · next hNew =>
    have hOnly : [a].filter (fun b => !l.elem b) = [a] := by simp [hNew]
    rw [hOnly]
    rfl

theorem pairwise_idxOf_eraseDups (l : List α) :
    l.eraseDups.Pairwise fun a b => l.idxOf a < l.idxOf b := by
  -- from the end, because what comes later does not move a first occurrence
  induction l using List.reverseRecOn with
  | nil => exact List.Pairwise.nil
  | append_singleton l a ih =>
    have hPlace : ∀ b ∈ l, (l ++ [a]).idxOf b = l.idxOf b := fun b hb =>
      List.idxOf_append_of_mem hb
    have hKeep : l.eraseDups.Pairwise fun b c => (l ++ [a]).idxOf b < (l ++ [a]).idxOf c := by
      refine ih.imp_of_mem fun hb hc hLt => ?_
      rwa [hPlace _ (List.mem_eraseDups.1 hb), hPlace _ (List.mem_eraseDups.1 hc)]
    rw [eraseDups_concat]
    split
    · exact hKeep
    · next hNew =>
      rw [List.pairwise_append]
      refine ⟨hKeep, List.pairwise_singleton _ _, fun b hb c hc => ?_⟩
      have hMem := List.mem_eraseDups.1 hb
      rw [List.mem_singleton.1 hc, hPlace b hMem, List.idxOf_append_of_notMem hNew]
      exact Nat.lt_add_right _ (List.idxOf_lt_length_of_mem hMem)

theorem listsFirsts_eraseDups (l : List α) : ListsFirsts l l.eraseDups where
  nodup := nodup_eraseDups l
  mem_iff _ := List.mem_eraseDups
  ordered := pairwise_idxOf_eraseDups l

/-- **There is one list of first occurrences.** -/
theorem listsFirsts_iff {l firsts : List α} : ListsFirsts l firsts ↔ firsts = l.eraseDups := by
  constructor
  · intro h
    have hErase := listsFirsts_eraseDups l
    have hPerm : firsts.Perm l.eraseDups := by
      rw [List.perm_ext_iff_of_nodup h.nodup hErase.nodup]
      exact fun a => (h.mem_iff a).trans (hErase.mem_iff a).symm
    refine hPerm.eq_of_pairwise (fun a b _ _ hab hba => ?_) h.ordered hErase.ordered
    exact absurd hab (Nat.lt_asymm hba)
  · rintro rfl
    exact listsFirsts_eraseDups l

end List

-- ---------------------------------------------------------------------------
-- The walk through a formula
-- ---------------------------------------------------------------------------

namespace Formula

/-- The nodes, each as the formula below it: root first, left before right. -/
def nodes : Formula → List Formula
  | top => [top]
  | bottom => [bottom]
  | var v => [var v]
  | not f => not f :: f.nodes
  | binary op f g => binary op f g :: (f.nodes ++ g.nodes)

/-- The name, if the formula is a variable. -/
def name? : Formula → Option String
  | var v => some v
  | _ => none

theorem name?_eq_some_iff {f : Formula} {v : String} : f.name? = some v ↔ f = var v := by
  cases f <;> simp [name?]

/-- The walk meets the leaves from left to right. -/
theorem names_eq_filterMap_nodes (f : Formula) : f.names = f.nodes.filterMap name? := by
  induction f with
  | top | bottom | var => rfl
  | not f ih => exact ih
  | binary op f g ihf ihg =>
    rw [names, nodes, List.filterMap_cons_none rfl, List.filterMap_append, ihf, ihg]

/-- The walk meets each connective before those of its operands. -/
theorem connectiveOccurrences_eq_filterMap_nodes (f : Formula) :
    f.connectiveOccurrences = f.nodes.filterMap root := by
  induction f with
  | top | bottom | var => rfl
  | not f ih => rw [connectiveOccurrences, nodes, List.filterMap_cons, root, ih]
  | binary op f g ihf ihg =>
    rw [connectiveOccurrences, nodes, List.filterMap_cons, root, List.filterMap_append, ihf, ihg]

theorem mem_vars_iff_var_mem_nodes {f : Formula} {v : String} :
    v ∈ f.vars ↔ var v ∈ f.nodes := by
  rw [mem_vars_iff_mem_names, names_eq_filterMap_nodes, List.mem_filterMap]
  simp only [name?_eq_some_iff, exists_eq_right]

/--
**Variables and connectives are listed once, by first occurrence.** The variables are the names at
the leaves from left to right, with later repetitions dropped at the end: none twice, those that occur
and no others, and the witness is the leftmost one. The connectives are those of the nodes, root
first and left before right, with later repetitions dropped.
-/
theorem lists_by_first_occurrence (f : Formula) :
    (f.vars = (f.nodes.filterMap name?).eraseDups ∧
      ListsFirsts (f.nodes.filterMap name?) f.vars ∧
      (∀ v, v ∈ f.vars ↔ var v ∈ f.nodes) ∧
      f.vars.head? = (f.nodes.filterMap name?).head? ∧
      f.witness = (f.nodes.filterMap name?).headD defaultWitness) ∧
    (f.connectives = (f.nodes.filterMap root).eraseDups ∧
      ListsFirsts (f.nodes.filterMap root) f.connectives) := by
  have hVars : f.vars = (f.nodes.filterMap name?).eraseDups := by
    rw [vars_eq_eraseDups_names, names_eq_filterMap_nodes]
  have hHead : f.vars.head? = (f.nodes.filterMap name?).head? := by
    rw [hVars, head?_eraseDups]
  have hConnectives : f.connectives = (f.nodes.filterMap root).eraseDups := by
    rw [connectives, connectiveOccurrences_eq_filterMap_nodes]
  refine ⟨⟨hVars, listsFirsts_iff.2 hVars, fun v => mem_vars_iff_var_mem_nodes, hHead, ?_⟩,
    hConnectives, listsFirsts_iff.2 hConnectives⟩
  rw [witness, List.headD_eq_head?_getD, hHead, List.headD_eq_head?_getD]

end Formula

end Connectives
