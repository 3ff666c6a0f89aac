namespace SqlTemplate.Text

abbrev Ranges := List (Nat × Nat)

def Ranges.contains (ranges : Ranges) (c : Char) : Bool :=
  ranges.any fun (first, last) => first ≤ c.toNat && c.toNat ≤ last

theorem Ranges.contains_iff {ranges : Ranges} {c : Char} :
    ranges.contains c ↔ ∃ r ∈ ranges, r.1 ≤ c.toNat ∧ c.toNat ≤ r.2 := by
  simp [Ranges.contains, Prod.exists]

theorem Ranges.not_contains_of_lt {ranges : Ranges} {c : Char} {bound : Nat}
    (below : c.toNat < bound) (starts : ∀ r ∈ ranges, bound ≤ r.1) :
    ranges.contains c = false := by
  rw [Bool.eq_false_iff]
  intro held
  obtain ⟨r, member, first, _⟩ := Ranges.contains_iff.1 held
  have := starts r member
  omega

end SqlTemplate.Text
