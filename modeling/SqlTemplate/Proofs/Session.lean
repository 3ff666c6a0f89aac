import Mathlib.Logic.Function.Basic
import SqlTemplate.Proofs.Window

/-!
Sessions: printers in use side by side, some of them scoped from others. Whatever is done to them in
whatever order, each printer holds the values and the first error of its own record.
-/

namespace SqlTemplate

inductive Operation : Type
  | write : String → Operation
  | push : List Value → Operation
  | fail : Error → Operation
  | truncate : (offset : Nat) → Operation
  | replaceTail : (offset : Nat) → String → Operation

namespace Printer

def CutsAt (p : Printer) (n : Nat) : Prop := p.length ≤ n ∨ Text.IsBoundary p.text.toList n

instance {p : Printer} {n : Nat} : Decidable (p.CutsAt n) :=
  inferInstanceAs (Decidable (_ ∨ _))

def perform? (p : Printer) : Operation → Option Printer
  | .write s => some (p.write s)
  | .push vs => some (p.push vs)
  | .fail e => some (p.fail e)
  | .truncate n => if p.CutsAt n then some (p.truncate n) else none
  | .replaceTail n s => if p.CutsAt n then some (p.replaceTail n s) else none

end Printer

inductive Entry : Type
  | value : Value → Entry
  | error : Error → Entry

namespace Entry

def value? : Entry → Option Value
  | .value v => some v
  | .error _ => none

def error? : Entry → Option Error
  | .value _ => none
  | .error e => some e

end Entry

def Operation.entries : Operation → List Entry
  | .push vs => vs.map .value
  | .fail e => [.error e]
  | .write _ | .truncate _ | .replaceTail _ _ => []

structure Record where
  start : Nat
  entries : List Entry

namespace Record

def values (r : Record) : List Value := r.entries.filterMap Entry.value?

def error? (r : Record) : Option Error := r.entries.findSome? Entry.error?

def index (r : Record) : Nat := r.start + r.values.length

def add (r : Record) (entries : List Entry) : Record := { r with entries := r.entries ++ entries }

@[simp] theorem start_add (r : Record) (entries : List Entry) : (r.add entries).start = r.start :=
  rfl

@[simp] theorem values_add (r : Record) (entries : List Entry) :
    (r.add entries).values = r.values ++ entries.filterMap Entry.value? := by
  rw [values, add, List.filterMap_append, values]

@[simp] theorem error?_add (r : Record) (entries : List Entry) :
    (r.add entries).error? = r.error?.or (entries.findSome? Entry.error?) := by
  rw [error?, add, List.findSome?_append, error?]

end Record

namespace Operation

theorem values_push (vs : List Value) : (push vs).entries.filterMap Entry.value? = vs := by
  rw [entries, List.filterMap_map]
  exact List.filterMap_some

theorem error?_push (vs : List Value) : (push vs).entries.findSome? Entry.error? = none := by
  rw [entries, List.findSome?_map]
  exact List.findSome?_eq_none_iff.2 fun _ _ => rfl

end Operation

/-- Whether a printer holds what its record says. -/
structure Printer.Keeps (p : Printer) (r : Record) : Prop where
  base : p.base = r.start
  values : p.values = r.values
  error? : p.error? = r.error?

namespace Printer.Keeps

variable {p q : Printer} {r t : Record} {op : Operation}

theorem start (n : Nat) : (Printer.start n).Keeps ⟨n, []⟩ := ⟨rfl, rfl, rfl⟩

theorem index (h : p.Keeps r) : p.index = r.index := by
  rw [Printer.index, Record.index, h.base, h.values]

theorem child (h : p.Keeps r) : p.child.Keeps ⟨r.index, []⟩ := by
  rw [← h.index]
  exact .start p.index

theorem of_eq (h : p.Keeps r) (base : q.base = p.base) (values : q.values = p.values)
    (error? : q.error? = p.error?) : q.Keeps (r.add []) := by
  constructor
  · rw [base, h.base, Record.start_add]
  · rw [values, h.values, Record.values_add, List.filterMap_nil, List.append_nil]
  · rw [error?, h.error?, Record.error?_add, List.findSome?_nil, Option.or_none]

theorem push (h : p.Keeps r) (vs : List Value) :
    (p.push vs).Keeps (r.add (Operation.push vs).entries) := by
  constructor
  · exact h.base
  · rw [values_push, h.values, Record.values_add, Operation.values_push]
  · rw [Record.error?_add, Operation.error?_push, Option.or_none]
    exact h.error?

theorem fail (h : p.Keeps r) (e : Error) :
    (p.fail e).Keeps (r.add (Operation.fail e).entries) := by
  constructor
  · exact h.base
  · rw [Record.values_add]
    exact h.values.trans (List.append_nil _).symm
  · rw [Record.error?_add, ← h.error?]
    rfl

theorem perform (h : p.Keeps r) (done : p.perform? op = some q) : q.Keeps (r.add op.entries) := by
  cases op with
  | write s =>
    cases done
    exact h.of_eq rfl rfl rfl
  | push vs =>
    cases done
    exact h.push vs
  | fail e =>
    cases done
    exact h.fail e
  | truncate n =>
    obtain ⟨-, cut⟩ := Option.ite_none_right_eq_some.1 done
    cases cut
    exact h.of_eq rfl rfl rfl
  | replaceTail n s =>
    obtain ⟨-, cut⟩ := Option.ite_none_right_eq_some.1 done
    cases cut
    exact h.of_eq rfl rfl rfl

theorem absorb (h : p.Keeps r) (other : q.Keeps t) : (p.absorb q).Keeps (r.add t.entries) := by
  constructor
  · rw [base_absorb, h.base, Record.start_add]
  · rw [values_absorb, h.values, other.values, Record.values_add]
    rfl
  · rw [error?_absorb, h.error?, other.error?, Record.error?_add]
    rfl

theorem finish_of_error {e : Error} (h : p.Keeps r) (failed : r.error? = some e) :
    p.finish = .error e := by
  rw [Printer.finish, h.error?, failed]

theorem finish_of_none (h : p.Keeps r) (sound : r.error? = none) :
    p.finish = .ok (p.text, r.values) := by
  rw [Printer.finish, h.error?, sound, h.values]

end Printer.Keeps

inductive Command : Type
  | perform : Nat → Operation → Command
  | scope : (parent child : Nat) → Command
  | absorb : (parent child : Nat) → Command
  | drop : Nat → Command

def Command.touched : Command → List Nat
  | .perform k _ => [k]
  | .scope _ child => [child]
  | .absorb parent child => [parent, child]
  | .drop k => [k]

abbrev Session := Nat → Option Printer

namespace Session

def alone (p : Printer) : Session := Function.update (fun _ => none) 0 (some p)

inductive Step : Session → Command → Session → Prop
  | perform {s : Session} {k : Nat} {p q : Printer} {op : Operation} : s k = some p →
      p.perform? op = some q → Step s (.perform k op) (Function.update s k (some q))
  | scope {s : Session} {parent child : Nat} {p : Printer} : s parent = some p →
      s child = none → Step s (.scope parent child) (Function.update s child (some p.child))
  | absorb {s : Session} {parent child : Nat} {p q : Printer} : parent ≠ child →
      s parent = some p → s child = some q →
      Step s (.absorb parent child)
        (Function.update (Function.update s child none) parent (some (p.absorb q)))
  | drop {s : Session} {k : Nat} {p : Printer} : s k = some p →
      Step s (.drop k) (Function.update s k none)

inductive Run : Session → List Command → Session → Prop
  | nil {s : Session} : Run s [] s
  | cons {s next last : Session} {command : Command} {commands : List Command} :
      Step s command next → Run next commands last → Run s (command :: commands) last

/-- The records behind a command. What a child has taken in counts where it is absorbed. -/
def note (records : Nat → Record) : Command → Nat → Record
  | .perform k op => Function.update records k ((records k).add op.entries)
  | .scope parent child => Function.update records child ⟨(records parent).index, []⟩
  | .absorb parent child =>
    Function.update records parent ((records parent).add (records child).entries)
  | .drop _ => records

def record (start : Nat) (commands : List Command) : Nat → Record :=
  commands.foldl note fun _ => ⟨start, []⟩

def Kept (s : Session) (records : Nat → Record) : Prop := ∀ k p, s k = some p → p.Keeps (records k)

variable {s after : Session} {records : Nat → Record} {command : Command} {k : Nat}

namespace Kept

theorem set {p : Printer} {r : Record} (kept : s.Kept records) (own : p.Keeps r) :
    Kept (Function.update s k (some p)) (Function.update records k r) := by
  intro j q found
  by_cases same : j = k
  · subst same
    rw [Function.update_self] at found ⊢
    exact Option.some.inj found ▸ own
  · rw [Function.update_of_ne same] at found ⊢
    exact kept j q found

theorem remove (kept : s.Kept records) : Kept (Function.update s k none) records := by
  intro j q found
  by_cases same : j = k
  · subst same
    rw [Function.update_self] at found
    cases found
  · rw [Function.update_of_ne same] at found
    exact kept j q found

theorem step (kept : s.Kept records) (h : Step s command after) :
    after.Kept (note records command) := by
  cases h with
  | perform found done => exact kept.set ((kept _ _ found).perform done)
  | scope found _ => exact kept.set (kept _ _ found).child
  | absorb _ found other =>
    -- The child goes out of use, but its record stands, so that the parent can take it over.
    exact kept.remove.set ((kept _ _ found).absorb (kept _ _ other))
  | drop _ => exact kept.remove

theorem run {last : Session} {commands : List Command} (h : Run s commands last)
    (kept : s.Kept records) : last.Kept (commands.foldl note records) := by
  induction h generalizing records with
  | nil => exact kept
  | cons h _ ih => exact ih (kept.step h)

theorem alone (start : Nat) : (alone (.start start)).Kept fun _ => ⟨start, []⟩ := by
  intro k p found
  by_cases first : k = 0
  · subst first
    cases found
    exact .start start
  · rw [Session.alone, Function.update_of_ne first] at found
    cases found

end Kept

theorem Step.frame (h : Step s command after) (apart : k ∉ command.touched) : after k = s k := by
  cases h with
  | perform _ _ => exact Function.update_of_ne (List.ne_of_not_mem_cons apart) _ _
  | scope _ _ => exact Function.update_of_ne (List.ne_of_not_mem_cons apart) _ _
  | absorb _ _ _ =>
    have child := List.not_mem_of_not_mem_cons apart
    rw [Function.update_of_ne (List.ne_of_not_mem_cons apart),
      Function.update_of_ne (List.ne_of_not_mem_cons child)]
  | drop _ => exact Function.update_of_ne (List.ne_of_not_mem_cons apart) _ _

/-- Each printer in use ends with the first error of its record, or else with all values of it in
order, and its index is the one that it started at plus the number of its values. A child starts at
the index that its parent has then, and a command leaves all printers as they are but those that it
makes, changes or uses up. -/
theorem printers_keep_records {start : Nat} {commands : List Command} {s : Session}
    (run : Run (alone (.start start)) commands s) :
    (∀ k p, s k = some p →
      (∀ e, (record start commands k).error? = some e → p.finish = .error e)
      ∧ ((record start commands k).error? = none →
        p.finish = .ok (p.text, (record start commands k).values))
      ∧ p.values = (record start commands k).values
      ∧ p.index = (record start commands k).start + p.values.length)
    ∧ (∀ parent child after, Step s (.scope parent child) after → ∃ p q,
      s parent = some p ∧ after parent = some p ∧ after child = some q
      ∧ q.index = p.index ∧ q.values = [] ∧ q.isFailed = false)
    ∧ ∀ command after, Step s command after → ∀ k, k ∉ command.touched → after k = s k := by
  have kept : s.Kept (record start commands) := Kept.run run (Kept.alone start)
  refine ⟨?_, ?_, ?_⟩
  · intro k p found
    have keeps := kept k p found
    refine ⟨fun e failed => keeps.finish_of_error failed, keeps.finish_of_none, keeps.values, ?_⟩
    rw [keeps.values, keeps.index, Record.index]
  · intro parent child after step
    cases step with
    | @scope _ _ p found free =>
      have apart : parent ≠ child := by
        rintro rfl
        cases found.symm.trans free
      refine ⟨p, p.child, found, ?_, Function.update_self .., p.index_child, rfl, rfl⟩
      rw [Function.update_of_ne apart, found]
  · intro command after step k apart
    exact step.frame apart

theorem printers_keep_records_nested :
    let commands : List Command :=
      [.perform 0 (.write "é,"), .perform 0 (.push [.integer 1]), .scope 0 1,
        .perform 1 (.push [.integer 7]), .scope 1 2, .perform 2 (.push [.null]),
        .perform 2 (.fail (.parameterNotFound "c")), .absorb 1 2, .scope 0 3,
        .perform 3 (.fail (.parameterNotFound "d")), .drop 3,
        .perform 0 (.fail (.parameterNotFound "a")), .perform 0 (.replaceTail 2 "x"),
        .absorb 0 1]
    ∃ s p, Run (alone (.start 3)) commands s ∧ s 0 = some p
      ∧ p.finish = .error (.parameterNotFound "a")
      ∧ p.values = [.integer 1, .integer 7, .null] ∧ p.index = 6 := by
  intro commands
  have runs : ∃ s p, Run (alone (.start 3)) commands s ∧ s 0 = some p :=
    ⟨_, _, .cons (.perform rfl rfl) (.cons (.perform rfl rfl) (.cons (.scope rfl rfl)
      (.cons (.perform rfl rfl) (.cons (.scope rfl rfl) (.cons (.perform rfl rfl)
      (.cons (.perform rfl rfl) (.cons (.absorb (by decide) rfl rfl) (.cons (.scope rfl rfl)
      (.cons (.perform rfl rfl) (.cons (.drop rfl) (.cons (.perform rfl rfl)
      (.cons (.perform rfl rfl) (.cons (.absorb (by decide) rfl rfl) .nil))))))))))))), rfl⟩
  obtain ⟨s, p, run, found⟩ := runs
  obtain ⟨failed, -, values, index⟩ := (printers_keep_records run).1 0 p found
  have held : p.values = [.integer 1, .integer 7, .null] := values
  rw [held] at index
  exact ⟨s, p, run, found, failed _ rfl, held, index⟩

end Session
end SqlTemplate
