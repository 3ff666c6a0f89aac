import SqlTemplate.Dialect
import SqlTemplate.Source
import SqlTemplate.Text.Blank
import SqlTemplate.Text.Bytes

/-!
SQL text with markers: a name between `#` and braces stands for a value that is bound to the
statement under a placeholder.
-/

namespace SqlTemplate

structure Marker where
  raw : String
  deriving DecidableEq, Inhabited

def Marker.name (m : Marker) : String := String.ofList (Text.trim m.raw.toList)

/-- The text before the first marker, then each marker with the text up to the next one. -/
structure MarkedText where
  head : String
  rest : List (Marker × String)
  deriving DecidableEq, Inhabited

namespace MarkedText

def opening : List Char := ['#', '\x7b']

def closing : List Char := ['\x7d']

def splitOpening? : List Char → Option (List Char × List Char)
  | [] => none
  | [_] => none
  | c :: d :: s =>
    if [c, d] = opening then some ([], s)
    else (splitOpening? (d :: s)).map fun (before, after) => (c :: before, after)

def splitClosing? : List Char → Option (List Char × List Char)
  | [] => none
  | c :: s =>
    if [c] = closing then some ([], s)
    else (splitClosing? s).map fun (before, after) => (c :: before, after)

theorem eq_of_splitOpening? {s before after : List Char}
    (h : splitOpening? s = some (before, after)) : s = before ++ opening ++ after := by
  induction s generalizing before with
  | nil => simp [splitOpening?] at h
  | cons c s ih =>
    cases s with
    | nil => simp [splitOpening?] at h
    | cons d s =>
      simp only [splitOpening?] at h
      split at h
      · next same =>
        obtain ⟨rfl, rfl⟩ := by simpa using h
        simp [← same]
      · obtain ⟨⟨b, a⟩, found, same⟩ := Option.map_eq_some_iff.1 h
        obtain ⟨rfl, rfl⟩ := by simpa using same
        simp [ih found]

theorem eq_of_splitClosing? {s before after : List Char}
    (h : splitClosing? s = some (before, after)) : s = before ++ closing ++ after := by
  induction s generalizing before with
  | nil => simp [splitClosing?] at h
  | cons c s ih =>
    simp only [splitClosing?] at h
    split at h
    · next same =>
      obtain ⟨rfl, rfl⟩ := by simpa using h
      simp [← same]
    · obtain ⟨⟨b, a⟩, found, same⟩ := Option.map_eq_some_iff.1 h
      obtain ⟨rfl, rfl⟩ := by simpa using same
      simp [ih found]

theorem length_lt_of_split {s before after raw behind : List Char}
    (found : splitOpening? s = some (before, after))
    (closed : splitClosing? after = some (raw, behind)) : behind.length < s.length := by
  rw [eq_of_splitOpening? found, eq_of_splitClosing? closed]
  simp [opening, closing]
  omega

inductive Fault : Type
  | unterminated | empty
  deriving DecidableEq, Repr

def scan (position : Nat) (s : List Char) : Except (Fault × Nat) MarkedText :=
  match found : splitOpening? s with
  | none => .ok ⟨String.ofList s, []⟩
  | some (before, after) =>
    let start := position + Text.byteLength before
    match closed : splitClosing? after with
    | none => .error (.unterminated, start)
    | some (raw, behind) =>
      if (Text.trim raw).isEmpty then .error (.empty, start)
      else do
        have : behind.length < s.length := length_lt_of_split found closed
        let more ← scan (start + Text.byteLength (opening ++ raw ++ closing)) behind
        return ⟨String.ofList before, (⟨String.ofList raw⟩, more.head) :: more.rest⟩
termination_by s.length

def ofText? (sql : String) : Except Error MarkedText :=
  match scan 0 sql.toList with
  | .ok t => .ok t
  | .error (.unterminated, position) => .error (.unterminatedMarker position sql)
  | .error (.empty, position) => .error (.emptyMarker position sql)

def fragments (t : MarkedText) : List String := t.head :: t.rest.map (·.2)

def markers (t : MarkedText) : List Marker := t.rest.map (·.1)

def source (t : MarkedText) : String :=
  t.rest.foldl (fun s (m, fragment) =>
    s ++ String.ofList opening ++ m.raw ++ String.ofList closing ++ fragment) t.head

def positionsFrom (start : Nat) : List (Marker × String) → List Nat
  | [] => []
  | (m, fragment) :: rest =>
    start :: positionsFrom (start
      + Text.byteLength (opening ++ m.raw.toList ++ closing ++ fragment.toList)) rest

def binds (t : MarkedText) : List (String × Nat) :=
  (t.markers.map (·.name)).zip (positionsFrom (Text.byteLength t.head.toList) t.rest)

def restWithPlaceholders (p : Placeholder) (start : Nat) : List (Marker × String) → String
  | [] => ""
  | (_, fragment) :: rest => p.format start ++ fragment ++ restWithPlaceholders p (start + 1) rest

def withPlaceholders (p : Placeholder) (start : Nat) (t : MarkedText) : String :=
  t.head ++ restWithPlaceholders p start t.rest

def bindMarker (source : Source) (m : Marker) : Except Error Value := do
  match ← source m.name with
  | some v => return v.resolved
  | none => throw (.parameterNotFound m.name)

def bindAll (source : Source) : List Marker → Except Error (List Value)
  | [] => .ok []
  | m :: rest => do
    let v ← bindMarker source m
    return v :: (← bindAll source rest)

def bind (source : Source) (t : MarkedText) : Except Error (List Value) :=
  bindAll source t.markers

end MarkedText
end SqlTemplate
