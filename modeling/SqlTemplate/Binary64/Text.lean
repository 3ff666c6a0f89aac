import SqlTemplate.Binary64.Shortest
import SqlTemplate.Text.Digits

namespace SqlTemplate.Binary64

open Text (minus withPlaces)

def Scientific.positional (x : Scientific) : List Char :=
  if 0 ≤ x.exponent then Nat.toDigits 10 x.digits ++ List.replicate x.exponent.toNat '0'
  else withPlaces (-x.exponent).toNat x.digits

def toText : Binary64 → String
  | .nan => "NaN"
  | .infinite s => minus s ++ "inf"
  | .finite s m => minus s ++ String.ofList (m.shortest true).positional

def toFixed (places : Nat) : Binary64 → String
  | .nan => "NaN"
  | .infinite s => minus s ++ "inf"
  | .finite s m =>
    minus s ++ String.ofList
      (withPlaces places (roundQuotient (m.units * Nat.pow 10 places) unitsPerOne))

end SqlTemplate.Binary64
