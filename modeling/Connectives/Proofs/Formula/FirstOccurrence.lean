import Connectives.Proofs.Formula.Occurrence

/-!
# Connectives — variables by first occurrence

`Formula.vars` keeps the first occurrence of each name, and drops the others node by node. What is
left is the same as if they were all dropped at the end, so the list is known from the leaves alone:
it has no name twice, and starts with the leftmost one.

* `nodup_eraseDups`, `filter_eraseDups`, `head?_eraseDups` — what the first occurrences are like.
* `eraseDups_append_of_subset` — a name that has occurred adds nothing.
* `Formula.names` — the names at the leaves, from left to right.
* `Formula.vars_eq_eraseDups_names` — the variables are the first occurrences among them.
* `Formula.head?_vars` — the first variable is the leftmost name.
-/

namespace Connectives

-- ---------------------------------------------------------------------------
-- First occurrences in a list
-- ---------------------------------------------------------------------------

section List

variable {α : Type} [BEq α]

theorem head?_eraseDups (l : List α) : l.eraseDups.head? = l.head? := by
  cases l with
  | nil => rfl
  | cons a l => rw [List.eraseDups_cons, List.head?_cons, List.head?_cons]

variable [LawfulBEq α]

theorem nodup_eraseDups (l : List α) : l.eraseDups.Nodup := by
  -- by recursion on the length: the head goes, and with it whatever repeats it
  cases l with
  | nil => exact List.nodup_nil
  | cons a l =>
    rw [List.eraseDups_cons, List.nodup_cons]
    constructor
    · rw [List.mem_eraseDups, List.mem_filter]
      rintro ⟨-, hNe⟩
      simp at hNe
    · exact nodup_eraseDups _
termination_by l.length
decreasing_by exact Nat.lt_succ_of_le (List.length_filter_le _ l)

theorem filter_ne_eq_self {a : α} {l : List α} (h : a ∉ l) : l.filter (· != a) = l := by
  rw [List.filter_eq_self]
  intro b hb
  have hNe : b ≠ a := fun hEq => h (hEq ▸ hb)
  simpa using hNe

/-- Where no two members are equal, each is its own first occurrence. -/
theorem eraseDups_eq_self {l : List α} (h : l.Nodup) : l.eraseDups = l := by
  induction l with
  | nil => rfl
  | cons a l ih =>
    obtain ⟨hHead, hTail⟩ := List.nodup_cons.1 h
    have hKeep : l.filter (fun b => !b == a) = l := filter_ne_eq_self hHead
    rw [List.eraseDups_cons, hKeep, ih hTail]

theorem filter_eraseDups (p : α → Bool) (l : List α) :
    (l.filter p).eraseDups = l.eraseDups.filter p := by
  cases l with
  | nil => rfl
  | cons a l =>
    have hRest := filter_eraseDups p (l.filter fun b => !b == a)
    rw [List.filter_filter] at hRest
    cases hp : p a with
    | true =>
      rw [List.filter_cons_of_pos hp, List.eraseDups_cons, List.eraseDups_cons,
        List.filter_cons_of_pos hp, ← hRest, List.filter_filter]
      simp only [Bool.and_comm]
    | false =>
      -- the head goes anyway, so it need not be taken out of the tail
      have hSame : l.filter p = l.filter fun b => p b && !b == a := by
        refine List.filter_congr fun b _ => ?_
        cases hb : b == a with
        | false => simp
        | true => rw [eq_of_beq hb, hp]; rfl
      rw [List.filter_cons_of_neg (by simp [hp]), List.eraseDups_cons,
        List.filter_cons_of_neg (by simp [hp]), ← hRest, hSame]
termination_by l.length
decreasing_by exact Nat.lt_succ_of_le (List.length_filter_le _ l)

theorem removeAll_congr {a a' : List α} (h : ∀ x, x ∈ a ↔ x ∈ a') (b : List α) :
    b.removeAll a = b.removeAll a' := by
  refine List.filter_congr fun x _ => ?_
  rw [Bool.eq_iff_iff]
  simp [h x]

/-- First occurrences may be taken at any time. -/
theorem eraseDups_eraseDups_append (a b : List α) :
    (a.eraseDups ++ b.eraseDups).eraseDups = (a ++ b).eraseDups := by
  have hSame : ∀ x, x ∈ a.eraseDups ↔ x ∈ a := fun x => List.mem_eraseDups
  rw [List.eraseDups_append, List.eraseDups_append, eraseDups_eq_self (nodup_eraseDups a),
    removeAll_congr hSame, List.removeAll, filter_eraseDups,
    eraseDups_eq_self (nodup_eraseDups b), ← filter_eraseDups, List.removeAll]

/-- What has occurred adds nothing. -/
theorem eraseDups_append_of_subset {a b : List α} (hNodup : a.Nodup) (hSubset : b ⊆ a) :
    (a ++ b).eraseDups = a := by
  have hNone : b.removeAll a = [] := by
    rw [List.removeAll, List.filter_eq_nil_iff]
    intro x hx
    simp [hSubset hx]
  rw [List.eraseDups_append, hNone, List.eraseDups_nil, List.append_nil, eraseDups_eq_self hNodup]

end List

-- ---------------------------------------------------------------------------
-- The variables of a formula
-- ---------------------------------------------------------------------------

namespace Formula

/-- The names at the leaves, from left to right, as often as they occur. -/
def names : Formula → List String
  | top | bottom => []
  | var v => [v]
  | not f => f.names
  | binary _ f g => f.names ++ g.names

/-- **The variables are the first occurrences among the names.** -/
theorem vars_eq_eraseDups_names (f : Formula) : f.vars = f.names.eraseDups := by
  induction f with
  | top | bottom | var => rfl
  | not f ih => exact ih
  | binary op f g ihf ihg => rw [vars, names, ihf, ihg, eraseDups_eraseDups_append]

theorem mem_vars_iff_mem_names {f : Formula} {v : String} : v ∈ f.vars ↔ v ∈ f.names := by
  rw [vars_eq_eraseDups_names, List.mem_eraseDups]

theorem nodup_vars (f : Formula) : f.vars.Nodup := by
  rw [vars_eq_eraseDups_names]
  exact nodup_eraseDups _

/-- **The first variable is the leftmost name.** -/
theorem head?_vars (f : Formula) : f.vars.head? = f.names.head? := by
  rw [vars_eq_eraseDups_names, head?_eraseDups]

theorem vars_eq_nil_iff {f : Formula} : f.vars = [] ↔ f.names = [] := by
  rw [← List.head?_eq_none_iff, head?_vars, List.head?_eq_none_iff]

end Formula

end Connectives
