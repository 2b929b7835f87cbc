/-!
# Connectives — assignments

An `Assignment` gives truth values to finitely many variables. Its entries are kept in the order of
the names' code points, each name once, so two assignments are equal when they give the same
values.
-/

namespace Connectives

/-- Truth values for some variables. -/
structure Assignment where
  entries : List (String × Bool)
  sorted : entries.Pairwise fun a b => a.1 < b.1
  deriving DecidableEq

namespace Assignment

/-- The assignment that gives no value. -/
def empty : Assignment :=
  ⟨[], .nil⟩

instance : EmptyCollection Assignment where
  emptyCollection := empty

/-- Puts an entry in its place among sorted ones, and drops the one with the same name. -/
def insertEntry (v : String) (b : Bool) : List (String × Bool) → List (String × Bool)
  | [] => [(v, b)]
  | e :: rest =>
    if v < e.1 then (v, b) :: e :: rest
    else if v = e.1 then (v, b) :: rest
    else e :: insertEntry v b rest

private theorem mem_insertEntry {v : String} {b : Bool} {e : String × Bool} :
    ∀ {l : List (String × Bool)}, e ∈ insertEntry v b l → e = (v, b) ∨ e ∈ l
  | [], h => by
    rw [insertEntry, List.mem_singleton] at h
    exact Or.inl h
  | d :: rest, h => by
    unfold insertEntry at h
    split at h
    · exact List.mem_cons.1 h
    · split at h
      · rcases List.mem_cons.1 h with h | h
        · exact Or.inl h
        · exact Or.inr (List.mem_cons_of_mem _ h)
      · rcases List.mem_cons.1 h with h | h
        · exact Or.inr (h ▸ List.mem_cons_self)
        · exact (mem_insertEntry h).imp_right (List.mem_cons_of_mem _)

private theorem pairwise_insertEntry {v : String} {b : Bool} :
    ∀ {l : List (String × Bool)}, l.Pairwise (fun a c => a.1 < c.1) →
      (insertEntry v b l).Pairwise fun a c => a.1 < c.1
  | [], _ => List.pairwise_singleton _ _
  | d :: rest, h => by
    obtain ⟨hd, hrest⟩ := List.pairwise_cons.1 h
    unfold insertEntry
    split
    · next hlt =>
      refine List.pairwise_cons.2 ⟨fun e he => ?_, h⟩
      rcases List.mem_cons.1 he with rfl | he
      · exact hlt
      · exact String.lt_trans hlt (hd e he)
    · next hnlt =>
      split
      · next heq => exact List.pairwise_cons.2 ⟨fun e he => heq ▸ hd e he, hrest⟩
      · next hne =>
        -- the new name comes after the head, so the head stays the least
        have hlt : d.1 < v := by
          rcases Decidable.em (d.1 < v) with hlt | hnlt'
          · exact hlt
          · exact absurd (String.le_antisymm (String.not_lt.1 hnlt') (String.not_lt.1 hnlt)) hne
        refine List.pairwise_cons.2 ⟨fun e he => ?_, pairwise_insertEntry hrest⟩
        rcases mem_insertEntry he with rfl | he
        · exact hlt
        · exact hd e he

/-- Gives a value to a variable, in place of any earlier one. -/
def insert (a : Assignment) (v : String) (b : Bool) : Assignment :=
  ⟨insertEntry v b a.entries, pairwise_insertEntry a.sorted⟩

/-- The assignment of these pairs; of several values for one variable the last one counts. -/
def ofList (pairs : List (String × Bool)) : Assignment :=
  pairs.foldl (fun a p => a.insert p.1 p.2) empty

/-- The value of a variable, if it has one. -/
def get? (a : Assignment) (v : String) : Option Bool :=
  a.entries.lookup v

/-- The variables that have a value, in the order of their names. -/
def vars (a : Assignment) : List String :=
  a.entries.map (·.1)

/-- The assignment in braces, as `v ↦ true` for each variable. -/
def render (a : Assignment) : String :=
  "\x7b" ++ ", ".intercalate (a.entries.map fun e => e.1 ++ " ↦ " ++ toString e.2) ++ "\x7d"

instance : ToString Assignment where
  toString := render

end Assignment

end Connectives
