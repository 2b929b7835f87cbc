/-!
# Connectives — columns of text

Text that is laid out in columns is padded with spaces to a width counted in Unicode scalars.
-/

namespace Connectives.Text

/-- A character `n` times. -/
def replicate (n : Nat) (c : Char) : String :=
  String.ofList (List.replicate n c)

theorem mem_toList_replicate {n : Nat} {c d : Char} (h : d ∈ (replicate n c).toList) : d = c := by
  rw [replicate, String.toList_ofList] at h
  exact List.eq_of_mem_replicate h

/-- The text with spaces after it up to the width; a longer text stays as it is. -/
def padRight (width : Nat) (s : String) : String :=
  s ++ replicate (width - s.length) ' '

end Connectives.Text
