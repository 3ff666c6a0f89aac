import SqlTemplate.Error
import SqlTemplate.Text.Bytes

/-!
Printers: the SQL text and the bind values that a rendering has written so far. The first error
stays; offsets into the text count bytes.
-/

namespace SqlTemplate

/-- `base` is the number of values that are bound before those of the printer. -/
structure Printer where
  text : String
  values : List Value
  base : Nat
  error? : Option Error
  deriving Inhabited

namespace Printer

def start (base : Nat) : Printer := ⟨"", [], base, none⟩

def isFailed (p : Printer) : Bool := p.error?.isSome

def length (p : Printer) : Nat := Text.byteLength p.text.toList

def index (p : Printer) : Nat := p.base + p.values.length

def write (p : Printer) (s : String) : Printer := { p with text := p.text ++ s }

def push (p : Printer) (vs : List Value) : Printer := { p with values := p.values ++ vs }

def fail (p : Printer) (e : Error) : Printer := { p with error? := p.error?.or (some e) }

def truncate (p : Printer) (n : Nat) : Printer :=
  { p with text := String.ofList (Text.takeBytes n p.text.toList) }

def tail (p : Printer) (n : Nat) : List Char := Text.dropBytes n p.text.toList

def replaceTail (p : Printer) (n : Nat) (s : String) : Printer := (p.truncate n).write s

def child (p : Printer) : Printer := start p.index

def absorb (p other : Printer) : Printer :=
  let q := (p.write other.text).push other.values
  match other.error? with
  | some e => q.fail e
  | none => q

def finish (p : Printer) : Except Error (String × List Value) :=
  match p.error? with
  | some e => .error e
  | none => .ok (p.text, p.values)

@[simp] theorem text_write (p : Printer) (s : String) : (p.write s).text = p.text ++ s := rfl

@[simp] theorem values_write (p : Printer) (s : String) : (p.write s).values = p.values := rfl

@[simp] theorem text_push (p : Printer) (vs : List Value) : (p.push vs).text = p.text := rfl

@[simp] theorem index_write (p : Printer) (s : String) : (p.write s).index = p.index := rfl

@[simp] theorem index_child (p : Printer) : p.child.index = p.index := rfl

@[simp] theorem write_write (p : Printer) (s t : String) :
    (p.write s).write t = p.write (s ++ t) := by
  simp [write, String.append_assoc]

@[simp] theorem length_write (p : Printer) (s : String) :
    (p.write s).length = p.length + Text.byteLength s.toList := by
  simp [length, write]

@[simp] theorem truncate_write (p : Printer) (s : String) :
    (p.write s).truncate p.length = p := by
  simp [truncate, write, length]

@[simp] theorem tail_write (p : Printer) (s : String) :
    (p.write s).tail p.length = s.toList := by
  simp [tail, write, length]

@[simp] theorem replaceTail_write (p : Printer) (s t : String) :
    (p.write s).replaceTail p.length t = p.write t := by
  simp [replaceTail]

@[simp] theorem values_push (p : Printer) (vs : List Value) :
    (p.push vs).values = p.values ++ vs := rfl

@[simp] theorem index_push (p : Printer) (vs : List Value) :
    (p.push vs).index = p.index + vs.length := by
  simp [index, push, Nat.add_assoc]

@[simp] theorem length_push (p : Printer) (vs : List Value) : (p.push vs).length = p.length := rfl

@[simp] theorem tail_push (p : Printer) (vs : List Value) (n : Nat) :
    (p.push vs).tail n = p.tail n := rfl

@[simp] theorem truncate_push (p : Printer) (vs : List Value) (n : Nat) :
    (p.push vs).truncate n = (p.truncate n).push vs := rfl

@[simp] theorem replaceTail_push (p : Printer) (vs : List Value) (n : Nat) (s : String) :
    (p.push vs).replaceTail n s = (p.replaceTail n s).push vs := rfl

@[simp] theorem fail_fail (p : Printer) (e f : Error) : (p.fail e).fail f = p.fail e := by
  cases h : p.error? <;> simp [fail, h]

@[simp] theorem isFailed_fail (p : Printer) (e : Error) : (p.fail e).isFailed = true := by
  cases h : p.error? <;> simp [isFailed, fail, h]

@[simp] theorem isFailed_write (p : Printer) (s : String) :
    (p.write s).isFailed = p.isFailed := rfl

@[simp] theorem isFailed_push (p : Printer) (vs : List Value) :
    (p.push vs).isFailed = p.isFailed := rfl

@[simp] theorem text_absorb (p other : Printer) :
    (p.absorb other).text = p.text ++ other.text := by
  cases h : other.error? <;> simp [absorb, h, fail]

@[simp] theorem values_absorb (p other : Printer) :
    (p.absorb other).values = p.values ++ other.values := by
  cases h : other.error? <;> simp [absorb, h, fail]

@[simp] theorem base_absorb (p other : Printer) : (p.absorb other).base = p.base := by
  cases h : other.error? <;> simp [absorb, h, fail, push, write]

@[simp] theorem error?_absorb (p other : Printer) :
    (p.absorb other).error? = p.error?.or other.error? := by
  cases h : other.error? <;> simp [absorb, h, fail, push, write]

end Printer
end SqlTemplate
