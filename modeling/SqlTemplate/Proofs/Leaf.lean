import SqlTemplate.Template.Render
import Mathlib.Data.List.Forall2

namespace SqlTemplate

namespace Marker

variable {source : Source} {m : Marker} {v : Value} {e : Error}

def Finds (source : Source) (m : Marker) (v : Value) : Prop := source m.name = .ok (some v)

inductive Fails (source : Source) (m : Marker) : Error → Prop
  | missing : source m.name = .ok none → Fails source m (.parameterNotFound m.name)
  | search {e : Error} : source m.name = .error e → Fails source m e

theorem finds_or_fails (source : Source) (m : Marker) :
    (∃ v, m.Finds source v) ∨ ∃ e, m.Fails source e := by
  cases answer : source m.name with
  | error e => exact .inr ⟨e, .search answer⟩
  | ok found? =>
    cases found? with
    | none => exact .inr ⟨_, .missing answer⟩
    | some v => exact .inl ⟨v, answer⟩

theorem Finds.bindMarker (h : m.Finds source v) :
    MarkedText.bindMarker source m = .ok v.resolved := by
  rw [MarkedText.bindMarker, h]
  rfl

theorem Fails.bindMarker (h : m.Fails source e) : MarkedText.bindMarker source m = .error e := by
  rw [MarkedText.bindMarker]
  cases h with
  | missing answer =>
    rw [answer]
    rfl
  | search answer =>
    rw [answer]
    rfl

end Marker

namespace MarkedText

open List (Forall₂)

variable {source : Source} {markers : List Marker} {e : Error}

def FailsFirst (source : Source) (markers : List Marker) (e : Error) : Prop :=
  ∃ before m after, markers = before ++ m :: after ∧ (∀ k ∈ before, ∃ v, k.Finds source v)
    ∧ m.Fails source e

theorem find_or_failsFirst (source : Source) (markers : List Marker) :
    (∃ found, Forall₂ (Marker.Finds source) markers found)
      ∨ ∃ e, FailsFirst source markers e := by
  induction markers with
  | nil => exact .inl ⟨[], .nil⟩
  | cons m markers ih =>
    rcases m.finds_or_fails source with ⟨v, finds⟩ | ⟨e, fails⟩
    · rcases ih with ⟨found, others⟩ | ⟨e, before, k, after, rfl, found, fails⟩
      · exact .inl ⟨v :: found, .cons finds others⟩
      · have found := List.forall_mem_cons.2 ⟨⟨v, finds⟩, found⟩
        exact .inr ⟨e, m :: before, k, after, rfl, found, fails⟩
    · exact .inr ⟨e, [], m, markers, rfl, nofun, fails⟩

theorem bindAll_of_finds {found : List Value} (h : Forall₂ (Marker.Finds source) markers found) :
    bindAll source markers = .ok (found.map Value.resolved) := by
  induction h with
  | nil => rfl
  | cons finds _ ih =>
    rw [bindAll, finds.bindMarker, ih]
    rfl

theorem bindAll_of_failsFirst (h : FailsFirst source markers e) :
    bindAll source markers = .error e := by
  obtain ⟨before, m, after, rfl, found, fails⟩ := h
  induction before with
  | nil =>
    rw [List.nil_append, bindAll, fails.bindMarker]
    rfl
  | cons k before ih =>
    -- This marker finds its value, and the error behind it stands for the whole list.
    obtain ⟨⟨v, finds⟩, others⟩ := List.forall_mem_cons.1 found
    rw [List.cons_append, bindAll, finds.bindMarker, ih others]
    rfl

def interleaved (ph : Placeholder) (start : Nat) (t : MarkedText) : String :=
  String.join (t.fragments.mapIdx fun i fragment =>
    fragment ++ if i < t.markers.length then ph.format (start + i) else "")

theorem interleaved_cons (ph : Placeholder) (start : Nat) (head fragment : String) (m : Marker)
    (rest : List (Marker × String)) :
    interleaved ph start ⟨head, (m, fragment) :: rest⟩
      = head ++ (ph.format start ++ interleaved ph (start + 1) ⟨fragment, rest⟩) := by
  have numbered : (fun (i : Nat) (fragment : String) => fragment ++
        if i + 1 < rest.length + 1 then ph.format (start + (i + 1)) else "")
      = fun (i : Nat) (fragment : String) => fragment ++
        if i < rest.length then ph.format (start + 1 + i) else "" := by
    funext i fragment
    have shift : start + (i + 1) = start + 1 + i := Nat.add_right_comm start i 1
    simp only [shift, Nat.add_lt_add_iff_right]
  simp only [interleaved, fragments, markers, List.map_cons, List.length_cons, List.length_map,
    List.mapIdx_cons, String.join_cons, Nat.zero_lt_succ, if_true, Nat.add_zero, numbered,
    String.append_assoc]

theorem withPlaceholders_eq_interleaved (ph : Placeholder) (start : Nat) (t : MarkedText) :
    t.withPlaceholders ph start = t.interleaved ph start := by
  obtain ⟨head, rest⟩ := t
  induction rest generalizing head start with
  | nil => simp [withPlaceholders, restWithPlaceholders, interleaved, fragments, markers]
  | cons entry rest ih =>
    obtain ⟨m, fragment⟩ := entry
    rw [interleaved_cons, ← ih, withPlaceholders, restWithPlaceholders, withPlaceholders,
      String.append_assoc]

end MarkedText

namespace Print

variable {source : Source} {print : Print} {e : Error}

inductive Shows (source : Source) (print : Print) : String → Prop
  | plain {v : Value} : source print.name = .ok (some v) → v.isNil = false →
      print.format = none → Shows source print v.toText
  | formatted {v : Value} {pattern shown : String} : source print.name = .ok (some v) →
      v.isNil = false → print.format = some pattern → formatValue pattern v = .ok shown →
      Shows source print shown

inductive Fails (source : Source) (print : Print) : Error → Prop
  | search {e : Error} : source print.name = .error e →
      Fails source print (.printLookup print.name e)
  | missing : source print.name = .ok none → Fails source print (.printMissing print.name)
  | nil {v : Value} : source print.name = .ok (some v) → v.isNil = true →
      Fails source print (.printMissing print.name)
  | format {v : Value} {pattern : String} {e : Error} : source print.name = .ok (some v) →
      v.isNil = false → print.format = some pattern → formatValue pattern v = .error e →
      Fails source print e

theorem shows_or_fails (source : Source) (print : Print) :
    (∃ shown, print.Shows source shown) ∨ ∃ e, print.Fails source e := by
  cases answer : source print.name with
  | error e => exact .inr ⟨_, .search answer⟩
  | ok found? =>
    cases found? with
    | none => exact .inr ⟨_, .missing answer⟩
    | some v =>
      cases isNil : v.isNil with
      | true => exact .inr ⟨_, .nil answer isNil⟩
      | false =>
        cases format : print.format with
        | none => exact .inl ⟨_, .plain answer isNil format⟩
        | some pattern =>
          cases written : formatValue pattern v with
          | ok shown => exact .inl ⟨shown, .formatted answer isNil format written⟩
          | error e => exact .inr ⟨e, .format answer isNil format written⟩

theorem Shows.printText {shown : String} (h : print.Shows source shown) :
    Node.printText source print = .ok shown := by
  cases h with
  | plain answer isNil format => simp [Node.printText, answer, isNil, format]
  | formatted answer isNil format written => simp [Node.printText, answer, isNil, format, written]

theorem Fails.printText (h : print.Fails source e) : Node.printText source print = .error e := by
  cases h with
  | search answer => simp [Node.printText, answer]
  | missing answer => simp [Node.printText, answer]
  | nil answer isNil => simp [Node.printText, answer, isNil]
  | format answer isNil format written => simp [Node.printText, answer, isNil, format, written]

end Print

namespace Printer

theorem fail_of_not_isFailed {p : Printer} (sound : p.isFailed = false) (e : Error) :
    p.fail e = { p with error? := some e } := by
  have none : p.error? = none := Option.not_isSome_iff_eq_none.1 (Bool.not_eq_true _ ▸ sound)
  rw [fail, none]
  rfl

end Printer

namespace Node

open List (Forall₂)

variable {ctx : Context} {p : Printer} {e : Error}

theorem writeText_of_finds {t : MarkedText} {found : List Value}
    (h : Forall₂ (Marker.Finds ctx.source) t.markers found) :
    writeText ctx t p = { p with
      text := p.text ++ t.interleaved ctx.dialect.placeholder p.index
      values := p.values ++ found.map Value.resolved } := by
  rw [writeText, MarkedText.bind, MarkedText.bindAll_of_finds h,
    MarkedText.withPlaceholders_eq_interleaved]
  rfl

theorem writeText_of_failsFirst {t : MarkedText} (sound : p.isFailed = false)
    (h : MarkedText.FailsFirst ctx.source t.markers e) :
    writeText ctx t p = { p with error? := some e } := by
  rw [writeText, MarkedText.bind, MarkedText.bindAll_of_failsFirst h]
  exact Printer.fail_of_not_isFailed sound e

theorem writePrint_of_shows {print : Print} {shown : String} (h : print.Shows ctx.source shown) :
    writePrint ctx print p
      = { p with text := p.text ++ (print.before ++ shown ++ print.after) } := by
  rw [writePrint, h.printText]
  simp [Printer.write, String.append_assoc]

theorem writePrint_of_fails {print : Print} (sound : p.isFailed = false)
    (h : print.Fails ctx.source e) : writePrint ctx print p = { p with error? := some e } := by
  rw [writePrint, h.printText]
  exact Printer.fail_of_not_isFailed sound e

/-- A leaf is written as a whole, or it leaves an error and the printer as it was. A text is written
if each marker finds a value; else the first marker that does not decides the error. -/
theorem write_leaf (ctx : Context) (sound : p.isFailed = false) :
    (∀ t : MarkedText,
      (∀ found, Forall₂ (Marker.Finds ctx.source) t.markers found →
        write ctx (.text t) p = { p with
          text := p.text ++ t.interleaved ctx.dialect.placeholder p.index
          values := p.values ++ found.map Value.resolved })
      ∧ (∀ e, MarkedText.FailsFirst ctx.source t.markers e →
        write ctx (.text t) p = { p with error? := some e })
      ∧ ((∃ found, Forall₂ (Marker.Finds ctx.source) t.markers found)
        ∨ ∃ e, MarkedText.FailsFirst ctx.source t.markers e))
    ∧ ∀ print : Print,
      (∀ shown, print.Shows ctx.source shown →
        write ctx (.print print) p
          = { p with text := p.text ++ (print.before ++ shown ++ print.after) })
      ∧ (∀ e, print.Fails ctx.source e →
        write ctx (.print print) p = { p with error? := some e })
      ∧ ((∃ shown, print.Shows ctx.source shown) ∨ ∃ e, print.Fails ctx.source e) := by
  constructor
  · intro t
    refine ⟨?_, ?_, MarkedText.find_or_failsFirst ctx.source t.markers⟩
    · intro found finds
      rw [write, writeText_of_finds finds]
    · intro e fails
      rw [write, writeText_of_failsFirst sound fails]
  · intro print
    refine ⟨?_, ?_, print.shows_or_fails ctx.source⟩
    · intro shown shows
      rw [write, writePrint_of_shows shows]
    · intro e fails
      rw [write, writePrint_of_fails sound fails]

theorem write_leaf_mixed :
    let source : Source := fun name =>
      if name = "a" then .ok (some (.present (.integer 1)))
      else if name = "b" then .ok none
      else .error (.evaluation (.sourceFailed "closed"))
    let ctx : Context := ⟨.postgres, source⟩
    let p : Printer := ⟨"SELECT ", [.integer 7], 0, none⟩
    let a : Marker := ⟨"a"⟩
    let b : Marker := ⟨" b "⟩
    let c : Marker := ⟨"c"⟩
    write ctx (.text ⟨"x = ", [(a, " OR y = "), (a, "")]⟩) p
        = { p with text := "SELECT x = $2 OR y = $3"
                   values := [.integer 7, .integer 1, .integer 1] }
      ∧ write ctx (.text ⟨"x = ", [(a, ", "), (b, ", "), (c, "")]⟩) p
        = { p with error? := some (.parameterNotFound "b") }
      ∧ write ctx (.text ⟨"x = ", [(a, ", "), (c, ", "), (b, "")]⟩) p
        = { p with error? := some (.evaluation (.sourceFailed "closed")) }
      ∧ write ctx (.print ⟨"a", some "%5%", "(", ")"⟩) p
        = { p with error? := some (.format (.unknownVerb '%') "%5%") } := by
  intro source ctx p a b c
  obtain ⟨texts, prints⟩ := write_leaf ctx (show p.isFailed = false from rfl)
  obtain ⟨nameA, nameB, nameC⟩ : a.name = "a" ∧ b.name = "b" ∧ c.name = "c" := by decide
  have there : a.Finds source (.present (.integer 1)) := by simp [Marker.Finds, nameA, source]
  have missing : b.Fails source (.parameterNotFound "b") := by
    rw [← nameB]
    exact .missing (by simp [nameB, source])
  have closed : c.Fails source (.evaluation (.sourceFailed "closed")) :=
    .search (by simp [nameC, source])
  have before : ∀ k ∈ [a], ∃ v, k.Finds source v := fun k found =>
    ⟨_, List.mem_singleton.1 found ▸ there⟩
  have refused : formatValue "%5%" (.present (.integer 1))
      = .error (.format (.unknownVerb '%') "%5%") := by decide +kernel
  refine ⟨?_, ?_, ?_, ?_⟩
  · let t : MarkedText := ⟨"x = ", [(a, " OR y = "), (a, "")]⟩
    have written := (texts t).1 _ (.cons there (.cons there .nil))
    have text : "SELECT " ++ t.interleaved .dollar 1 = "SELECT x = $2 OR y = $3" := by
      decide +kernel
    exact written.trans (text ▸ rfl)
  · exact (texts _).2.1 _ ⟨[a], b, [c], rfl, before, missing⟩
  · exact (texts _).2.1 _ ⟨[a], c, [b], rfl, before, closed⟩
  · exact (prints _).2.1 _ (.format (by simp [ctx, source]) rfl rfl refused)

end Node
end SqlTemplate
