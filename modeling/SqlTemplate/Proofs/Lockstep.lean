import SqlTemplate.Proofs.Loop

/-!
Two renderings side by side. They do the same up to where they part, and how they may part is told
by their errors. What a node does to two runs follows from what its parts do to them.
-/

namespace SqlTemplate

/-- How two runs may part, by the errors that they have come to. The first run has failed; if the
second has not, it may go on to anything. -/
structure Parting where
  Apart : Option Error → Option Error → Prop
  failed : ∀ {a b}, Apart a b → a.isSome = true
  free : ∀ {a}, Apart a none → ∀ b, Apart a b

def Parting.failures : Parting where
  Apart a b := a.isSome = true ∧ b.isSome = true
  failed h := h.1
  free := by
    rintro _ ⟨_, ⟨⟩⟩

def fault? {α : Type} : Except Error α → Option Error
  | .error e => some e
  | .ok _ => none

namespace Parting

def Alike (parting : Parting) {α : Type} (x y : Except Error α) : Prop :=
  x = y ∨ parting.Apart (fault? x) (fault? y)

/-- Whether two ways of writing leave the same in every printer that has not failed, unless they
part. -/
def Lockstep (parting : Parting) (w v : Printer → Printer) : Prop :=
  ∀ p : Printer, p.isFailed = false → w p = v p ∨ parting.Apart (w p).error? (v p).error?

variable {parting : Parting}

theorem Apart.stay {a b c : Option Error} (h : parting.Apart a b)
    (stays : b.isSome = true → c = b) : parting.Apart a c := by
  cases b with
  | none => exact parting.free h c
  | some e =>
    rw [stays rfl]
    exact h

namespace Alike

variable {α β : Type} {x y : Except Error α} {f g : α → Except Error β}

theorem refl (x : Except Error α) : parting.Alike x x := .inl rfl

theorem imp {other : Parting} (h : parting.Alike x y)
    (wider : ∀ {a b}, parting.Apart a b → other.Apart a b) : other.Alike x y :=
  Or.imp id wider h

theorem bind (first : parting.Alike x y) (next : ∀ a, parting.Alike (f a) (g a)) :
    parting.Alike (x >>= f) (y >>= g) := by
  rcases first with rfl | apart
  · cases x with
    | error e => exact refl _
    | ok a => exact next a
  · cases x with
    | error e =>
      refine .inr (apart.stay fun stopped => ?_)
      cases y with
      | error d => rfl
      | ok b => cases stopped
    | ok a => cases parting.failed apart

end Alike

namespace Lockstep

variable {w v w' v' : Printer → Printer}

theorem refl (w : Printer → Printer) : parting.Lockstep w w := fun _ _ => .inl rfl

theorem imp {other : Parting} (h : parting.Lockstep w v)
    (wider : ∀ {a b}, parting.Apart a b → other.Apart a b) : other.Lockstep w v := by
  intro p ok
  exact (h p ok).imp id wider

theorem of_alike {α : Type} {x y : Except Error α} (alike : parting.Alike x y)
    (left : ∀ e, x = .error e → ∀ p, w p = p.fail e)
    (right : ∀ e, y = .error e → ∀ p, v p = p.fail e)
    (next : ∀ a, x = .ok a → y = .ok a → parting.Lockstep w v) : parting.Lockstep w v := by
  rcases alike with same | apart
  · cases h : x with
    | error e =>
      intro p _
      exact .inl ((left e h p).trans (right e (same ▸ h) p).symm)
    | ok a => exact next a h (same ▸ h)
  · intro p ok
    have going : p.error? = none := by simpa [Printer.isFailed] using ok
    cases h : x with
    | error e =>
      rw [h] at apart
      have stopped : (w p).error? = some e := by
        rw [left e h p, Printer.fail, going, Option.none_or]
      rw [stopped]
      refine .inr (apart.stay fun failed => ?_)
      cases k : y with
      | error d => rw [right d k p, Printer.fail, going, Option.none_or, fault?]
      | ok b =>
        rw [k] at failed
        cases failed
    | ok a =>
      rw [h] at apart
      cases parting.failed apart

theorem andThen (first : parting.Lockstep w v) (second : parting.Lockstep w' v') :
    parting.Lockstep (fun p => if (w p).isFailed then w p else w' (w p))
      (fun p => if (v p).isFailed then v p else v' (v p)) := by
  intro p ok
  rcases first p ok with same | apart
  · simp only [same]
    cases h : (v p).isFailed with
    | true => exact .inl rfl
    | false => exact second (v p) h
  · have failed : (w p).isFailed = true := parting.failed apart
    simp only [failed, if_true]
    refine .inr (apart.stay fun stopped => ?_)
    exact congrArg Printer.error? (if_pos stopped)

theorem behind (h : parting.Lockstep w v) {s t : String} (same : s = t) :
    parting.Lockstep (fun p => w (p.write s)) (fun p => v (p.write t)) := by
  subst same
  exact fun p ok => h (p.write s) ok

theorem child (h : parting.Lockstep w v) :
    parting.Lockstep (fun p => p.absorb (w p.child)) (fun p => p.absorb (v p.child)) := by
  intro p ok
  have going : p.error? = none := by simpa [Printer.isFailed] using ok
  rcases h p.child rfl with same | apart
  · exact .inl (congrArg p.absorb same)
  · simp only [Printer.error?_absorb, going, Option.none_or]
    exact .inr apart

theorem clause {clause : (Printer → Printer) → Printer → Printer} {keyword : String}
    {join : List Char → List Char} (h : parting.Lockstep w v)
    (joins : Clause.Joins clause keyword join)
    (congr : ∀ {fragments others p}, fragments (p.write keyword) = others (p.write keyword) →
      clause fragments p = clause others p) : parting.Lockstep (clause w) (clause v) := by
  intro p ok
  rcases h (p.write keyword) ok with same | apart
  · exact .inl (congr same)
  · rw [joins.failed (parting.failed apart)]
    refine .inr (apart.stay fun stopped => ?_)
    rw [joins.failed stopped]

end Lockstep

end Parting

namespace Node

variable {parting : Parting} {ctx other : Context} {loop twin : Loop}
  {body more : Context → Printer → Printer}

theorem lockstep_writeElements {elements : List (Value × Value)}
    (separator : loop.separator = twin.separator) (closing : loop.closing = twin.closing)
    (inner : ∀ element ∈ elements, parting.Lockstep
      (body { ctx with source := loopSource ctx.source loop element.1 element.2 })
      (more { other with source := loopSource other.source twin element.1 element.2 }))
    (isFirst : Bool) : parting.Lockstep (writeElements ctx loop body isFirst elements)
      (writeElements other twin more isFirst elements) := by
  induction elements generalizing isFirst with
  | nil =>
    intro p _
    rw [writeElements, writeElements, closing]
    exact .inl rfl
  | cons element rest ih =>
    obtain ⟨own, others⟩ := List.forall_mem_cons.1 inner
    have following := ih others false
    cases isFirst with
    | true => exact own.child.andThen following
    | false => exact (own.child.behind separator).andThen following

theorem lockstep_writeLoop {shown words : String}
    (alike : parting.Alike (loopElements ctx.source loop shown)
      (loopElements other.source twin words))
    (opening : loop.opening = twin.opening) (separator : loop.separator = twin.separator)
    (closing : loop.closing = twin.closing)
    (inner : ∀ elements, loopElements ctx.source loop shown = .ok elements →
      ∀ element ∈ elements, parting.Lockstep
        (body { ctx with source := loopSource ctx.source loop element.1 element.2 })
        (more { other with source := loopSource other.source twin element.1 element.2 })) :
    parting.Lockstep (writeLoop ctx loop shown body) (writeLoop other twin words more) := by
  refine .of_alike alike ?_ ?_ ?_
  · intro e failed p
    rw [writeLoop, failed]
  · intro e failed p
    rw [writeLoop, failed]
  · intro elements here there p ok
    rw [writeLoop, writeLoop, here, there]
    cases elements with
    | nil => exact .inl rfl
    | cons element rest =>
      have written := lockstep_writeElements separator closing (inner _ here) true
      exact written.behind opening p ok

theorem lockstep_writeText {t u : MarkedText}
    (bound : parting.Alike (t.bind ctx.source) (u.bind other.source))
    (spelled : ∀ n, t.withPlaceholders ctx.dialect.placeholder n
      = u.withPlaceholders other.dialect.placeholder n) :
    parting.Lockstep (writeText ctx t) (writeText other u) := by
  refine .of_alike bound ?_ ?_ ?_
  · intro e failed p
    rw [writeText, failed]
  · intro e failed p
    rw [writeText, failed]
  · intro values here there p _
    rw [writeText, writeText, here, there, spelled]
    exact .inl rfl

theorem lockstep_writePrint {print another : Print}
    (shown : parting.Alike (printText ctx.source print) (printText other.source another))
    (before : print.before = another.before) (after : print.after = another.after) :
    parting.Lockstep (writePrint ctx print) (writePrint other another) := by
  refine .of_alike shown ?_ ?_ ?_
  · intro e failed p
    rw [writePrint, failed]
  · intro e failed p
    rw [writePrint, failed]
  · intro s here there p _
    rw [writePrint, writePrint, here, there, before, after]
    exact .inl rfl

section Branch

variable {test rival : Condition} {inside within : List Node}

theorem lockstep_conditional
    (tested : parting.Alike (holds ctx.source test inside)
      (holds other.source rival within))
    (inner : holds ctx.source test inside = .ok true →
      parting.Lockstep (writeAll ctx inside) (writeAll other within)) :
    parting.Lockstep (write ctx (.conditional test inside))
      (write other (.conditional rival within)) := by
  refine .of_alike tested ?_ ?_ ?_
  · intro e failed p
    rw [write, failed]
  · intro e failed p
    rw [write, failed]
  · intro b here there p ok
    rw [write, write, here, there]
    cases b with
    | true => exact inner here p ok
    | false => exact .inl rfl

theorem lockstep_branch {rest others : List (Condition × List Node)} {w v : Printer → Printer}
    (tested : parting.Alike (holds ctx.source test inside)
      (holds other.source rival within))
    (inner : holds ctx.source test inside = .ok true →
      parting.Lockstep (writeAll ctx inside) (writeAll other within))
    (following : holds ctx.source test inside = .ok false →
      parting.Lockstep (writeBranches ctx rest w) (writeBranches other others v)) :
    parting.Lockstep (writeBranches ctx ((test, inside) :: rest) w)
      (writeBranches other ((rival, within) :: others) v) := by
  refine .of_alike tested ?_ ?_ ?_
  · intro e failed p
    rw [writeBranches, failed]
  · intro e failed p
    rw [writeBranches, failed]
  · intro b here there p ok
    rw [writeBranches, writeBranches, here, there]
    cases b with
    | true => exact inner here p ok
    | false => exact following here p ok

end Branch

end Node
end SqlTemplate
