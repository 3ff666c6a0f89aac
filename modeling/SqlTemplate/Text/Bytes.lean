namespace SqlTemplate.Text

def byteLength : List Char → Nat
  | [] => 0
  | c :: s => c.utf8Size + byteLength s

def takeBytes : Nat → List Char → List Char
  | _, [] => []
  | n, c :: s => if c.utf8Size ≤ n then c :: takeBytes (n - c.utf8Size) s else []

def dropBytes : Nat → List Char → List Char
  | _, [] => []
  | n, c :: s => if c.utf8Size ≤ n then dropBytes (n - c.utf8Size) s else c :: s

@[simp] theorem byteLength_nil : byteLength [] = 0 := rfl

@[simp] theorem byteLength_cons (c : Char) (s : List Char) :
    byteLength (c :: s) = c.utf8Size + byteLength s := rfl

@[simp] theorem byteLength_append (s t : List Char) :
    byteLength (s ++ t) = byteLength s + byteLength t := by
  induction s with
  | nil => simp
  | cons c s ih => simp [ih, Nat.add_assoc]

theorem length_le_byteLength (s : List Char) : s.length ≤ byteLength s := by
  induction s with
  | nil => exact Nat.le_refl 0
  | cons c s ih =>
    rw [List.length_cons, byteLength_cons, Nat.add_comm]
    exact Nat.add_le_add c.utf8Size_pos ih

theorem byteLength_eq_zero {s : List Char} : byteLength s = 0 ↔ s = [] := by
  constructor
  · intro h
    exact List.eq_nil_of_length_eq_zero (Nat.le_zero.1 (h ▸ length_le_byteLength s))
  · rintro rfl
    rfl

@[simp] theorem takeBytes_append_dropBytes (n : Nat) (s : List Char) :
    takeBytes n s ++ dropBytes n s = s := by
  induction s generalizing n with
  | nil => rfl
  | cons c s ih => simp only [takeBytes, dropBytes]; split <;> simp [ih]

@[simp] theorem takeBytes_byteLength_append (s t : List Char) :
    takeBytes (byteLength s) (s ++ t) = s := by
  induction s with
  | nil =>
    cases t with
    | nil => rfl
    | cons c t => simp [takeBytes, Nat.not_le.2 c.utf8Size_pos]
  | cons c s ih => simp [takeBytes, ih]

@[simp] theorem dropBytes_byteLength_append (s t : List Char) :
    dropBytes (byteLength s) (s ++ t) = t := by
  induction s with
  | nil =>
    cases t with
    | nil => rfl
    | cons c t => simp [dropBytes, Nat.not_le.2 c.utf8Size_pos]
  | cons c s ih => simp [dropBytes, ih]

def bytes (s : String) : List UInt8 := s.toUTF8.toList

end SqlTemplate.Text
