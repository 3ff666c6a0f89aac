namespace SqlTemplate.Text

def hexValue? (c : Char) : Option Nat :=
  if '0' ≤ c ∧ c ≤ '9' then some (c.toNat - '0'.toNat)
  else if 'a' ≤ c ∧ c ≤ 'f' then some (c.toNat - 'a'.toNat + 10)
  else if 'A' ≤ c ∧ c ≤ 'F' then some (c.toNat - 'A'.toNat + 10)
  else none

def hexByte (b : UInt8) : List Char :=
  [Nat.digitChar (b.toNat / 16), Nat.digitChar (b.toNat % 16)]

def hexBytes (bytes : List UInt8) : List Char := bytes.flatMap hexByte

def readHexBytes? : List Char → Option (List UInt8)
  | [] => some []
  | [_] => none
  | high :: low :: rest => do
    let high ← hexValue? high
    let low ← hexValue? low
    let bytes ← readHexBytes? rest
    return UInt8.ofNat (high * 16 + low) :: bytes

theorem hexValue?_digitChar : ∀ n < 16, hexValue? (Nat.digitChar n) = some n := by decide

theorem readHexBytes?_map_hexBytes {letter : Char → Char}
    (value : ∀ n < 16, hexValue? (letter (Nat.digitChar n)) = some n) (bytes : List UInt8) :
    readHexBytes? ((hexBytes bytes).map letter) = some bytes := by
  induction bytes with
  | nil => rfl
  | cons b bytes ih =>
    have high := value (b.toNat / 16) (by have := b.toNat_lt; omega)
    have low := value (b.toNat % 16) (by omega)
    have whole : UInt8.ofNat (b.toNat / 16 * 16 + b.toNat % 16) = b := by
      rw [show b.toNat / 16 * 16 + b.toNat % 16 = b.toNat by omega, UInt8.ofNat_toNat]
    have unfolded : (hexBytes (b :: bytes)).map letter = letter (Nat.digitChar (b.toNat / 16))
        :: letter (Nat.digitChar (b.toNat % 16)) :: (hexBytes bytes).map letter := rfl
    rw [unfolded, readHexBytes?, high, low, ih]
    exact congrArg (fun b => some (b :: bytes)) whole

theorem length_hexBytes (bytes : List UInt8) : (hexBytes bytes).length = 2 * bytes.length := by
  induction bytes with
  | nil => rfl
  | cons b bytes ih =>
    rw [hexBytes, List.flatMap_cons, List.length_append, ← hexBytes, ih]
    simp only [hexByte, List.length_cons, List.length_nil]
    omega

theorem exists_digitChar_of_mem_hexBytes {bytes : List UInt8} :
    ∀ c ∈ hexBytes bytes, ∃ n < 16, c = Nat.digitChar n := by
  intro c found
  obtain ⟨b, -, digit⟩ := List.mem_flatMap.1 found
  have small := b.toNat_lt
  simp only [hexByte, List.mem_cons, List.not_mem_nil, or_false] at digit
  rcases digit with rfl | rfl
  · exact ⟨b.toNat / 16, by omega, rfl⟩
  · exact ⟨b.toNat % 16, by omega, rfl⟩

def readHex? (s : List Char) : Option Nat :=
  s.foldl (fun n c => do return (← n) * 16 + (← hexValue? c)) (some 0)

end SqlTemplate.Text
