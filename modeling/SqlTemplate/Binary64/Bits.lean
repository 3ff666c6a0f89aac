import SqlTemplate.Binary64.Basic

namespace SqlTemplate.Binary64

def ofFields (width top bias : Nat) (negative : Bool) (e f : Nat) : Binary64 :=
  if e = top then (if f = 0 then .infinite negative else .nan)
  else if e = 0 then ofUnits negative (f * Nat.pow 2 bias) 1
  else ofUnits negative ((Nat.pow 2 width + f) * Nat.pow 2 (bias + e - 1)) 1

def ofBits (w : UInt64) : Binary64 :=
  let n := w.toNat
  ofFields 52 2047 0 (n / Nat.pow 2 63 = 1) (n / Nat.pow 2 52 % Nat.pow 2 11) (n % Nat.pow 2 52)

def ofSingleBits (w : UInt32) : Binary64 :=
  let n := w.toNat
  ofFields 23 255 925 (n / Nat.pow 2 31 = 1) (n / Nat.pow 2 23 % Nat.pow 2 8) (n % Nat.pow 2 23)

def Magnitude.fields (m : Magnitude) : Nat :=
  if m.units < Nat.pow 2 52 then m.units
  else
    let e := m.units.log2 - 52
    (e + 1) * Nat.pow 2 52 + (m.units / Nat.pow 2 e - Nat.pow 2 52)

def toBits : Binary64 → UInt64
  | .nan => 0x7ff8000000000000
  | .infinite s => if s then 0xfff0000000000000 else 0x7ff0000000000000
  | .finite s m => .ofNat ((if s then Nat.pow 2 63 else 0) + Magnitude.fields m)

end SqlTemplate.Binary64
