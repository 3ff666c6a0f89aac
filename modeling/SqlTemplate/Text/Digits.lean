namespace SqlTemplate.Text

def minus (negative : Bool) : String := if negative then "-" else ""

def padded (size n : Nat) : List Char :=
  List.replicate (size - (Nat.toDigits 10 n).length) '0' ++ Nat.toDigits 10 n

theorem le_length_padded (size n : Nat) : size ≤ (padded size n).length := by
  simp only [padded, List.length_append, List.length_replicate]
  omega

def pointed (places : Nat) (digits : List Char) : List Char :=
  if places = 0 then digits
  else digits.take (digits.length - places) ++ '.' :: digits.drop (digits.length - places)

def withPlaces (places n : Nat) : List Char := pointed places (padded (places + 1) n)

end SqlTemplate.Text
