namespace SqlTemplate.Text

/-- White space of any script: the Unicode property White_Space. -/
def isBlank (c : Char) : Bool :=
  let n := c.toNat
  (9 ≤ n && n ≤ 13) || n == 0x20 || n == 0x85 || n == 0xa0 || n == 0x1680
    || (0x2000 ≤ n && n ≤ 0x200a) || n == 0x2028 || n == 0x2029 || n == 0x202f || n == 0x205f
    || n == 0x3000

def isAsciiBlank (c : Char) : Bool :=
  c == ' ' || c == '\t' || c == '\n' || c == '\x0c' || c == '\r'

def isGap (c : Char) : Bool := c == ' ' || c == '\t' || c == '\r' || c == '\n'

theorem isBlank_of_isAsciiBlank {c : Char} (h : isAsciiBlank c) : isBlank c := by
  simp [isAsciiBlank] at h
  rcases h with (((rfl | rfl) | rfl) | rfl) | rfl <;> decide

def trimLeft (s : List Char) : List Char := s.dropWhile isBlank

def trimRight (s : List Char) : List Char := (s.reverse.dropWhile isBlank).reverse

def trim (s : List Char) : List Char := trimRight (trimLeft s)

theorem head?_trimLeft {s : List Char} {c : Char} (h : (trimLeft s).head? = some c) :
    isBlank c = false := by
  have := List.head?_dropWhile_not isBlank s
  rw [show s.dropWhile isBlank = trimLeft s from rfl, h] at this
  simpa using this

theorem trimRight_prefix (s : List Char) : trimRight s <+: s := by
  have := List.dropWhile_suffix (l := s.reverse) isBlank
  rw [← List.reverse_prefix, List.reverse_reverse] at this
  exact this

theorem head?_trim {s : List Char} {c : Char} (h : (trim s).head? = some c) :
    isBlank c = false := by
  obtain ⟨t, same⟩ := trimRight_prefix (trimLeft s)
  apply head?_trimLeft (s := s)
  rw [← same, List.head?_append]
  simp [show (trimRight (trimLeft s)).head? = some c from h]

theorem getLast?_trim {s : List Char} {c : Char} (h : (trim s).getLast? = some c) :
    isBlank c = false := by
  rw [trim, trimRight, List.getLast?_reverse] at h
  exact head?_trimLeft h

theorem trimLeft_eq_self {s : List Char} (h : ∀ c ∈ s.head?, isBlank c = false) :
    trimLeft s = s := by
  cases s with
  | nil => rfl
  | cons c s => exact List.dropWhile_cons_of_neg (by simpa using h c rfl)

theorem trimRight_eq_self {s : List Char} (h : ∀ c ∈ s.getLast?, isBlank c = false) :
    trimRight s = s := by
  have last : s.reverse.dropWhile isBlank = s.reverse := trimLeft_eq_self (by simpa using h)
  rw [trimRight, last, List.reverse_reverse]

theorem trim_eq_self {s : List Char} (head : ∀ c ∈ s.head?, isBlank c = false)
    (last : ∀ c ∈ s.getLast?, isBlank c = false) : trim s = s := by
  rw [trim, trimLeft_eq_self head, trimRight_eq_self last]

theorem mem_of_mem_trim {s : List Char} {c : Char} (h : c ∈ trim s) : c ∈ s := by
  have left : trim s <+: trimLeft s := trimRight_prefix (trimLeft s)
  exact (List.dropWhile_suffix isBlank).subset (left.subset h)

@[simp] theorem trim_trim (s : List Char) : trim (trim s) = trim s :=
  trim_eq_self (fun _ => head?_trim) fun _ => getLast?_trim

structure Trimmed (s : List Char) : Prop where
  nonempty : s ≠ []
  head : ∀ c ∈ s.head?, isBlank c = false
  last : ∀ c ∈ s.getLast?, isBlank c = false

theorem trimmed_iff {s : List Char} : Trimmed s ↔ s ≠ [] ∧ (s.head?.all fun c => !isBlank c) = true
    ∧ (s.getLast?.all fun c => !isBlank c) = true := by
  simp only [Option.all_eq_true, Bool.not_eq_true']
  exact ⟨fun h => ⟨h.nonempty, h.head, h.last⟩, fun ⟨full, head, last⟩ => ⟨full, head, last⟩⟩

instance {s : List Char} : Decidable (Trimmed s) := decidable_of_iff _ trimmed_iff.symm

theorem Trimmed.append {r s : List Char} (first : Trimmed r) (second : Trimmed s)
    (between : List Char) : Trimmed (r ++ between ++ s) := by
  constructor
  · simp [first.nonempty]
  · intro c found
    obtain ⟨d, rest, rfl⟩ := List.exists_cons_of_ne_nil first.nonempty
    exact first.head c found
  · intro c found
    rw [List.getLast?_append, List.getLast?_eq_some_getLast second.nonempty] at found
    exact second.last c (by rw [List.getLast?_eq_some_getLast second.nonempty]; exact found)

theorem trimmed_of_inked {s : List Char} (nonempty : s ≠ [])
    (inked : ∀ c ∈ s, isBlank c = false) : Trimmed s :=
  ⟨nonempty, fun c found => inked c (List.mem_of_mem_head? found),
    fun c found => inked c (List.mem_of_getLast? found)⟩

theorem trimLeft_append {front : List Char} (blank : ∀ c ∈ front, isBlank c = true)
    (s : List Char) : trimLeft (front ++ s) = trimLeft s :=
  List.dropWhile_append_of_pos blank

theorem trimRight_append {back : List Char} (blank : ∀ c ∈ back, isBlank c = true)
    (s : List Char) : trimRight (s ++ back) = trimRight s := by
  rw [trimRight, List.reverse_append, List.dropWhile_append_of_pos (by simpa using blank),
    trimRight]

theorem Trimmed.trim_surrounded {s front back : List Char} (h : Trimmed s)
    (left : ∀ c ∈ front, isBlank c = true) (right : ∀ c ∈ back, isBlank c = true) :
    trim (front ++ (s ++ back)) = s := by
  have head : ∀ c ∈ (s ++ back).head?, isBlank c = false := by
    obtain ⟨c, rest, rfl⟩ := List.exists_cons_of_ne_nil h.nonempty
    exact h.head
  rw [trim, trimLeft_append left, trimLeft_eq_self head, trimRight_append right,
    trimRight_eq_self h.last]

def skipGap (s : List Char) : List Char := s.dropWhile isGap

theorem skipGap_suffix (s : List Char) : skipGap s <:+ s := List.dropWhile_suffix _

end SqlTemplate.Text
