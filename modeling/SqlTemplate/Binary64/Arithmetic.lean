import SqlTemplate.Binary64.Basic

namespace SqlTemplate.Binary64

def neg : Binary64 → Binary64
  | .nan => .nan
  | .infinite s => .infinite (!s)
  | .finite s m => .finite (!s) m

def add : Binary64 → Binary64 → Binary64
  | .nan, _ => .nan
  | _, .nan => .nan
  | .infinite s, .infinite t => if s = t then .infinite s else .nan
  | .infinite s, .finite _ _ => .infinite s
  | .finite _ _, .infinite t => .infinite t
  | .finite s m, .finite t n =>
    let sum := scaled s m + scaled t n
    ofUnits (if sum = 0 then s && t else sum < 0) sum.natAbs 1

def sub (x y : Binary64) : Binary64 := x.add y.neg

def mul : Binary64 → Binary64 → Binary64
  | .nan, _ => .nan
  | _, .nan => .nan
  | .infinite s, .infinite t => .infinite (s != t)
  | .infinite s, .finite t n => if n.units = 0 then .nan else .infinite (s != t)
  | .finite s m, .infinite t => if m.units = 0 then .nan else .infinite (s != t)
  | .finite s m, .finite t n => ofUnits (s != t) (m.units * n.units) unitsPerOne

def div : Binary64 → Binary64 → Binary64
  | .nan, _ => .nan
  | _, .nan => .nan
  | .infinite _, .infinite _ => .nan
  | .infinite s, .finite t _ => .infinite (s != t)
  | .finite s _, .infinite t => zero (s != t)
  | .finite s m, .finite t n =>
    if n.units = 0 then (if m.units = 0 then .nan else .infinite (s != t))
    else ofRatio (s != t) m.units n.units

def rem : Binary64 → Binary64 → Binary64
  | .nan, _ => .nan
  | _, .nan => .nan
  | .infinite _, _ => .nan
  | .finite s m, .infinite _ => .finite s m
  | .finite s m, .finite _ n =>
    if n.units = 0 then .nan else ofUnits s (m.units % n.units) 1

def round : Binary64 → Binary64
  | .finite s m => ofRatio s ((2 * m.units + unitsPerOne) / (2 * unitsPerOne)) 1
  | x => x

@[simp] theorem neg_neg (x : Binary64) : x.neg.neg = x := by cases x <;> simp [neg]

theorem add_comm (x y : Binary64) : x.add y = y.add x := by
  cases x with
  | nan => cases y <;> rfl
  | infinite s => cases y with
    | nan => rfl
    | infinite t => cases s <;> cases t <;> rfl
    | finite t n => rfl
  | finite s m => cases y with
    | nan => rfl
    | infinite t => rfl
    | finite t n => simp only [add, Int.add_comm (scaled t n), Bool.and_comm t]

theorem mul_comm (x y : Binary64) : x.mul y = y.mul x := by
  cases x with
  | nan => cases y <;> rfl
  | infinite s => cases y with
    | nan => rfl
    | infinite t => simp only [mul, bne_comm (a := s)]
    | finite t n => simp only [mul, bne_comm (a := s)]
  | finite s m => cases y with
    | nan => rfl
    | infinite t => simp only [mul, bne_comm (a := s)]
    | finite t n => simp only [mul, bne_comm (a := s), Nat.mul_comm m.units]

end SqlTemplate.Binary64
