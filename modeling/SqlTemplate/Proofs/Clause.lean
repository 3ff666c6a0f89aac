import SqlTemplate.Clause
import SqlTemplate.Proofs.Outline
import SqlTemplate.Text.Alphanumeric
import Mathlib.Data.List.Find

namespace SqlTemplate

namespace Clause

open Placeholder (isMark)

theorem toLower_of_isMark {c : Char} (h : isMark c = true) : c.toLower = c := by
  simp only [isMark, Bool.or_eq_true, beq_iff_eq] at h
  rcases h with ((((rfl | rfl) | rfl) | rfl) | rfl) | digit
  · rfl
  · rfl
  · rfl
  · rfl
  · rfl
  · apply Text.toLower_of_not_upper
    have : c.toNat ≤ 57 := (Char.isDigit_iff_toNat.1 digit).2
    omega

theorem not_isMark_of_toLower_mem {c : Char} {w : List Char} (known : w ∈ connectors)
    (h : c.toLower ∈ w) : isMark c = false := by
  cases e : isMark c with
  | false => rfl
  | true =>
    rw [toLower_of_isMark e] at h
    have letters : ∀ w ∈ connectors, ∀ d ∈ w, isMark d = false := by simp [connectors, isMark]
    rw [letters w known c h] at e
    exact e.symm

theorem not_isMark_of_isAsciiBlank {c : Char} (h : Text.isAsciiBlank c = true) :
    isMark c = false := by
  cases e : isMark c with
  | false => rfl
  | true =>
    have := Text.isBlank_of_isAsciiBlank h
    rw [Placeholder.not_isBlank_of_isMark e] at this
    exact this.symm

theorem opensWith_iff {word s : List Char} : opensWith word s = true ↔
    ∃ x c t, s = x ++ c :: t ∧ x.map Char.toLower = word ∧ Text.isAsciiBlank c = true := by
  simp only [opensWith, Bool.and_eq_true, beq_iff_eq]
  constructor
  · rintro ⟨same, behind⟩
    cases e : s.drop word.length with
    | nil => simp [e] at behind
    | cons c t =>
      refine ⟨s.take word.length, c, t, ?_, same, by simpa [e] using behind⟩
      rw [← e, List.take_append_drop]
  · rintro ⟨x, c, t, rfl, rfl, blank⟩
    have cut : (x.map Char.toLower).length = x.length := List.length_map _
    rw [cut, List.take_left, List.drop_left]
    exact ⟨rfl, blank⟩

theorem plain_of_map_toLower {x w : List Char} (known : w ∈ connectors)
    (h : x.map Char.toLower = w) : ∀ c ∈ x, isMark c = false := by
  intro c found
  apply not_isMark_of_toLower_mem known
  rw [← h]
  exact List.mem_map_of_mem found

theorem solid_of_map_toLower {x w : List Char} (known : w ∈ connectors)
    (h : x.map Char.toLower = w) : ∀ c ∈ x, Text.isAsciiBlank c = false := by
  intro c found
  cases e : Text.isAsciiBlank c with
  | false => rfl
  | true =>
    have letter : c.toLower ∈ w := h ▸ List.mem_map_of_mem found
    have letters : ∀ w ∈ connectors, ∀ d ∈ w, Text.isAsciiBlank d = false := by
      simp [connectors, Text.isAsciiBlank]
    have small : c.toNat < 65 := by
      simp only [Text.isAsciiBlank, Bool.or_eq_true, beq_iff_eq] at e
      rcases e with (((rfl | rfl) | rfl) | rfl) | rfl <;> decide
    rw [Text.toLower_of_not_upper (.inl small)] at letter
    exact e.symm.trans (letters w known c letter)

theorem leadingConnector_window (s : List Char) :
    ∃ x t, s = x ++ t ∧ x.length = leadingConnector s ∧ (∀ c ∈ x, isMark c = false)
      ∧ ∀ c ∈ x, Text.isAsciiBlank c = false := by
  rw [leadingConnector]
  split
  · next w found =>
    have known : w ∈ connectors := List.mem_of_find?_eq_some found
    have opens := List.find?_some found
    obtain ⟨x, c, t, same, lower, -⟩ := opensWith_iff.1 opens
    refine ⟨x, c :: t, same, ?_, plain_of_map_toLower known lower,
      solid_of_map_toLower known lower⟩
    rw [← lower, List.length_map]
  · exact ⟨[], s, rfl, rfl, by simp, by simp⟩

theorem trailingConnector_window (s : List Char) :
    ∃ t x, s = t ++ x ∧ x.length = trailingConnector s ∧ (∀ c ∈ x, isMark c = false)
      ∧ (x = [] ∨ ∃ c ∈ t, Text.isAsciiBlank c = true) := by
  rw [trailingConnector]
  split
  · next w found =>
    have known : w ∈ connectors := List.mem_of_find?_eq_some found
    have opens := List.find?_some found
    obtain ⟨x, c, t, same, lower, blank⟩ := opensWith_iff.1 opens
    have lower : x.reverse.map Char.toLower = w := by
      rw [List.map_reverse, lower, List.reverse_reverse]
    refine ⟨(c :: t).reverse, x.reverse, ?_, ?_, plain_of_map_toLower known lower,
      .inr ⟨c, by simp, blank⟩⟩
    · rw [← List.reverse_append, ← same, List.reverse_reverse]
    · rw [← lower, List.length_map]
  · exact ⟨s, [], by simp, rfl, by simp, .inl rfl⟩

theorem connectors_window (s : List Char) :
    ∃ y b x, s = y ++ b ++ x ∧ y.length = leadingConnector s ∧ x.length = trailingConnector s
      ∧ (∀ c ∈ y, isMark c = false) ∧ ∀ c ∈ x, isMark c = false := by
  obtain ⟨y, t, front, first, lead, solid⟩ := leadingConnector_window s
  obtain ⟨u, x, back, last, trail, blank⟩ := trailingConnector_window s
  rcases List.append_eq_append_iff.1 (front.symm.trans back) with ⟨b, rfl, -⟩ | ⟨a, rfl, rest⟩
  · exact ⟨y, b, x, back, first, last, lead, trail⟩
  · rcases blank with rfl | ⟨c, found, blank⟩
    · obtain ⟨rfl, rfl⟩ := List.append_eq_nil_iff.1 rest.symm
      exact ⟨u ++ [], [], [], by simpa using front, first, last, lead, trail⟩
    · have := solid c (List.mem_append_left a found)
      rw [blank] at this
      exact absurd this (by simp)

theorem drop_take_append {α : Type} (y b x : List α) :
    ((y ++ b ++ x).take ((y ++ b ++ x).length - x.length)).drop y.length = b := by
  have : (y ++ b ++ x).length - x.length = (y ++ b).length := by
    rw [List.length_append, Nat.add_sub_cancel]
  rw [this, List.take_left, List.drop_left]

theorem dropConnectors_append {y b x : List Char}
    (first : y.length = leadingConnector (y ++ b ++ x))
    (last : x.length = trailingConnector (y ++ b ++ x)) : dropConnectors (y ++ b ++ x) = b := by
  rw [dropConnectors, ← first, ← last, drop_take_append]

theorem isConnector_iff {s : List Char} :
    isConnector s = true ↔ s.map Char.toLower ∈ connectors := List.contains_iff_mem

theorem plain_of_isConnector {s : List Char} (h : isConnector s = true) :
    ∀ c ∈ s, isMark c = false := plain_of_map_toLower (isConnector_iff.1 h) rfl

theorem utf8Size_of_toLower_mem {c : Char} {w : List Char} (known : w ∈ connectors)
    (h : c.toLower ∈ w) : c.utf8Size = 1 := by
  have letters : ∀ w ∈ connectors, ∀ d ∈ w, d.utf8Size = 1 := by
    simp [connectors, Char.utf8Size]
  rcases Nat.lt_or_ge 90 c.toNat with high | low
  · rw [Text.toLower_of_not_upper (.inr high)] at h
    exact letters w known c h
  · have : c.val ≤ 0x7f := UInt32.le_iff_toNat_le.2 (Nat.le_trans low (by decide))
    rw [Char.utf8Size]
    exact if_pos this

theorem byteLength_eq_length {s : List Char} (single : ∀ c ∈ s, c.utf8Size = 1) :
    Text.byteLength s = s.length := by
  induction s with
  | nil => rfl
  | cons c s ih =>
    rw [Text.byteLength_cons, single c List.mem_cons_self, List.length_cons, Nat.add_comm,
      ih fun d found => single d (List.mem_cons_of_mem c found)]

theorem byteLength_eq_length_of_isConnector {s : List Char} (h : isConnector s = true) :
    Text.byteLength s = s.length :=
  byteLength_eq_length fun _ found =>
    utf8Size_of_toLower_mem (isConnector_iff.1 h) (List.mem_map_of_mem found)

theorem byteLength_of_isConnector {s : List Char} (h : isConnector s = true) :
    Text.byteLength s < shortestJoined := by
  have short : ∀ w ∈ connectors, w.length < shortestJoined := by decide
  rw [byteLength_eq_length_of_isConnector h, ← List.length_map Char.toLower]
  exact short _ (isConnector_iff.1 h)

theorem shortestJoined_le_of_opensWith {w s : List Char} (long : 2 ≤ w.length)
    (h : opensWith w s = true) (solid : ∀ c, s.getLast? = some c → Text.isBlank c = false) :
    shortestJoined ≤ s.length := by
  obtain ⟨x, c, t, rfl, rfl, blank⟩ := opensWith_iff.1 h
  rw [List.length_map] at long
  cases t with
  | nil =>
    have := solid c (by simp)
    rw [Text.isBlank_of_isAsciiBlank blank] at this
    exact absurd this (by simp)
  | cons d t =>
    rw [List.length_append, List.length_cons, List.length_cons]
    exact Nat.add_le_add long (Nat.le_add_left 2 t.length)

theorem no_connectors_of_short {s : List Char}
    (short : Text.byteLength (Text.trim s) < shortestJoined) :
    leadingConnector (Text.trim s) = 0 ∧ trailingConnector (Text.trim s) = 0 := by
  have few : (Text.trim s).length < shortestJoined :=
    Nat.lt_of_le_of_lt (Text.length_le_byteLength _) short
  have long : ∀ w ∈ connectors, 2 ≤ w.length := by decide
  constructor
  · rw [leadingConnector]
    split
    · next w found =>
      have opens := List.find?_some found
      have := shortestJoined_le_of_opensWith (long w (List.mem_of_find?_eq_some found)) opens
        fun c last => Text.getLast?_trim last
      exact absurd few (Nat.not_lt.2 this)
    · rfl
  · rw [trailingConnector]
    split
    · next w found =>
      have wide : 2 ≤ w.reverse.length := by
        rw [List.length_reverse]
        exact long w (List.mem_of_find?_eq_some found)
      have opens := List.find?_some found
      have := shortestJoined_le_of_opensWith wide opens fun c first =>
        Text.head?_trim (by rwa [List.getLast?_reverse] at first)
      rw [List.length_reverse] at this
      exact absurd few (Nat.not_lt.2 this)
    · rfl

def joinConditions (written : List Char) : List Char :=
  let body := Text.trim written
  if written = [] ∨ isConnector body then []
  else if leadingConnector body = 0 ∧ trailingConnector body = 0 then whereKeyword.toList ++ written
  else whereKeyword.toList ++ dropConnectors body

def joinAssignments (written : List Char) : List Char :=
  let body := Text.trim written
  if written = [] then []
  else if body.getLast? = some ',' then setKeyword.toList ++ body.dropLast
  else setKeyword.toList ++ written

variable {fragments : Printer → Printer} {p : Printer} {s : String} {vs : List Value}

theorem tail_behind (p : Printer) (keyword s : String) (vs : List Value) :
    (((p.write keyword).write s).push vs).tail (p.write keyword).length = s.toList := by
  rw [Printer.tail_push, Printer.tail_write]

theorem length_behind_iff (p : Printer) (keyword s : String) (vs : List Value) :
    (((p.write keyword).write s).push vs).length = (p.write keyword).length ↔ s.toList = [] := by
  rw [Printer.length_push, Printer.length_write, Nat.add_eq_left, Text.byteLength_eq_zero]

theorem truncate_behind (p : Printer) (keyword s : String) (vs : List Value) :
    (((p.write keyword).write s).push vs).truncate p.length = p.push vs := by
  rw [Printer.truncate_push, Printer.write_write, Printer.truncate_write]

theorem replaceTail_behind (p : Printer) (keyword s t : String) (vs : List Value) :
    (((p.write keyword).write s).push vs).replaceTail (p.write keyword).length t
      = (p.write (keyword ++ t)).push vs := by
  rw [Printer.replaceTail_push, Printer.replaceTail_write, Printer.write_write]

theorem writeWhere_of_isFailed (failed : (fragments (p.write whereKeyword)).isFailed = true) :
    writeWhere fragments p = fragments (p.write whereKeyword) := by
  simp only [writeWhere, failed, if_true]

theorem writeSet_of_isFailed (failed : (fragments (p.write setKeyword)).isFailed = true) :
    writeSet fragments p = fragments (p.write setKeyword) := by
  simp only [writeSet, failed, if_true]

theorem writeWhere_eq (ok : p.isFailed = false)
    (wrote : fragments (p.write whereKeyword) = ((p.write whereKeyword).write s).push vs) :
    writeWhere fragments p = (p.write (String.ofList (joinConditions s.toList))).push vs := by
  have unfailed : (((p.write whereKeyword).write s).push vs).isFailed = false := ok
  simp only [writeWhere, wrote, unfailed, tail_behind, truncate_behind, length_behind_iff,
    replaceTail_behind, joinConditions]
  by_cases empty : s.toList = []
  · simp [empty, Printer.write]
  by_cases alone : isConnector (Text.trim s.toList) = true
  · simp [empty, alone, byteLength_of_isConnector alone, Printer.write]
  by_cases none : leadingConnector (Text.trim s.toList) = 0
      ∧ trailingConnector (Text.trim s.toList) = 0
  · simp [empty, alone, none, String.ofList_append]
  · have long : ¬ Text.byteLength (Text.trim s.toList) < shortestJoined := by
      intro short
      exact none (no_connectors_of_short short)
    simp [empty, alone, none, long, String.ofList_append]

theorem writeSet_eq (ok : p.isFailed = false)
    (wrote : fragments (p.write setKeyword) = ((p.write setKeyword).write s).push vs) :
    writeSet fragments p = (p.write (String.ofList (joinAssignments s.toList))).push vs := by
  have unfailed : (((p.write setKeyword).write s).push vs).isFailed = false := ok
  simp only [writeSet, wrote, unfailed, tail_behind, truncate_behind, length_behind_iff,
    replaceTail_behind, joinAssignments]
  by_cases empty : s.toList = []
  · simp [empty, Printer.write]
  by_cases comma : (Text.trim s.toList).getLast? = some ','
  · simp [empty, comma, String.ofList_append]
  · simp [empty, comma, String.ofList_append]

structure Joins (clause : (Printer → Printer) → Printer → Printer) (keyword : String)
    (join : List Char → List Char) : Prop where
  failed : ∀ {fragments p}, (fragments (p.write keyword)).isFailed = true →
    clause fragments p = fragments (p.write keyword)
  written : ∀ {fragments p s vs}, p.isFailed = false →
    fragments (p.write keyword) = ((p.write keyword).write s).push vs →
    clause fragments p = (p.write (String.ofList (join s.toList))).push vs

theorem joins_writeWhere : Joins writeWhere whereKeyword joinConditions :=
  ⟨writeWhere_of_isFailed, writeWhere_eq⟩

theorem joins_writeSet : Joins writeSet setKeyword joinAssignments :=
  ⟨writeSet_of_isFailed, writeSet_eq⟩

end Clause

namespace Outline

open Clause (whereKeyword setKeyword opensWith opensWith_iff connectors plain_of_map_toLower
  not_isMark_of_isAsciiBlank)

variable {α β : Type} {p q : Placeholder} {n m : Nat} {o : Outline α}

theorem opensWith_of_fill {w : List Char} (known : w ∈ connectors)
    (h : opensWith w (fill p n o) = true) : opensWith w (fill q m o) = true := by
  obtain ⟨x, c, t, same, lower, blank⟩ := opensWith_iff.1 h
  have plain : ∀ d ∈ x ++ [c], Placeholder.isMark d = false := by
    intro d found
    rcases List.mem_append.1 found with found | found
    · exact plain_of_map_toLower known lower d found
    · rw [List.mem_singleton.1 found]
      exact not_isMark_of_isAsciiBlank blank
  obtain ⟨r, rfl, -⟩ := eq_literal_append (s := x ++ [c]) (t := t) (by simpa using same) plain
  rw [fill_append, fill_literal, holes_literal]
  exact opensWith_iff.2 ⟨x, c, fill q m r, by simp, lower, blank⟩

theorem opensWith_reverse_of_fill {w : List Char} (known : w ∈ connectors)
    (h : opensWith w.reverse (fill p n o).reverse = true) :
    opensWith w.reverse (fill q m o).reverse = true := by
  obtain ⟨x, c, t, same, lower, blank⟩ := opensWith_iff.1 h
  have plain : ∀ d ∈ (x ++ [c]).reverse, Placeholder.isMark d = false := by
    intro d found
    rcases List.mem_append.1 (List.mem_reverse.1 found) with found | found
    · have lower : x.reverse.map Char.toLower = w := by
        rw [List.map_reverse, lower, List.reverse_reverse]
      exact plain_of_map_toLower known lower d (List.mem_reverse.2 found)
    · rw [List.mem_singleton.1 found]
      exact not_isMark_of_isAsciiBlank blank
  have same : fill p n o = t.reverse ++ (x ++ [c]).reverse := by
    rw [← List.reverse_append, List.append_assoc, List.singleton_append, ← same,
      List.reverse_reverse]
  obtain ⟨r, rfl, -⟩ := eq_append_literal same plain
  rw [fill_append, fill_literal]
  exact opensWith_iff.2 ⟨x, c, (fill q m r).reverse, by simp, lower, blank⟩

theorem leadingConnector_fill (p q : Placeholder) (n m : Nat) (o : Outline α) :
    Clause.leadingConnector (fill p n o) = Clause.leadingConnector (fill q m o) := by
  have same : ∀ w ∈ connectors, opensWith w (fill p n o) = opensWith w (fill q m o) := by
    intro w known
    exact Bool.eq_iff_iff.2 ⟨opensWith_of_fill known, opensWith_of_fill known⟩
  rw [Clause.leadingConnector, Clause.leadingConnector, List.find?_congr same]

theorem trailingConnector_fill (p q : Placeholder) (n m : Nat) (o : Outline α) :
    Clause.trailingConnector (fill p n o) = Clause.trailingConnector (fill q m o) := by
  have same : ∀ w ∈ connectors, opensWith w.reverse (fill p n o).reverse
      = opensWith w.reverse (fill q m o).reverse := by
    intro w known
    exact Bool.eq_iff_iff.2 ⟨opensWith_reverse_of_fill known, opensWith_reverse_of_fill known⟩
  rw [Clause.trailingConnector, Clause.trailingConnector, List.find?_congr same]

theorem eq_literal_of_isConnector (h : Clause.isConnector (fill p n o) = true) :
    ∃ s, o = literal s := by
  obtain ⟨r, same, empty⟩ := eq_literal_append (t := []) (List.append_nil _).symm
    (Clause.plain_of_isConnector h)
  rw [fill_eq_nil_iff.1 empty, List.append_nil] at same
  exact ⟨_, same⟩

theorem isConnector_fill (p q : Placeholder) (n m : Nat) (o : Outline α) :
    Clause.isConnector (fill p n o) = Clause.isConnector (fill q m o) := by
  have either {p q : Placeholder} {n m : Nat} (h : Clause.isConnector (fill p n o) = true) :
      Clause.isConnector (fill q m o) = true := by
    obtain ⟨s, rfl⟩ := eq_literal_of_isConnector h
    simpa using h
  exact Bool.eq_iff_iff.2 ⟨either, either⟩

def shown (o : Outline α) : List Char := fill .question 0 o

def dropConnectors (o : Outline α) : Outline α :=
  (o.take (o.length - Clause.trailingConnector (shown o))).drop
    (Clause.leadingConnector (shown o))

def whereClause (o : Outline α) : Outline α :=
  let body := trim o
  if o = [] ∨ Clause.isConnector (shown body) then []
  else if Clause.leadingConnector (shown body) = 0 ∧ Clause.trailingConnector (shown body) = 0 then
    literal whereKeyword.toList ++ o
  else literal whereKeyword.toList ++ dropConnectors body

def setClause (o : Outline α) : Outline α :=
  let body := trim o
  if o = [] then []
  else if (shown body).getLast? = some ',' then literal setKeyword.toList ++ body.dropLast
  else literal setKeyword.toList ++ o

theorem exists_dropConnectors (p : Placeholder) (n : Nat) (o : Outline α) :
    ∃ y x, o = literal y ++ dropConnectors o ++ literal x
      ∧ fill p n (dropConnectors o) = Clause.dropConnectors (fill p n o) := by
  obtain ⟨y, b, x, same, first, last, lead, trail⟩ := Clause.connectors_window (fill p n o)
  obtain ⟨r, rfl, cut⟩ := eq_append_literal same trail
  obtain ⟨q, rfl, filled⟩ := eq_literal_append cut lead
  have inner : dropConnectors (literal y ++ q ++ literal x) = q := by
    rw [dropConnectors, shown, leadingConnector_fill .question p 0 n,
      trailingConnector_fill .question p 0 n, ← first, ← last, ← length_literal (α := α) y,
      ← length_literal (α := α) x, Clause.drop_take_append]
  refine ⟨y, x, by rw [inner], ?_⟩
  rw [inner, filled, same, Clause.dropConnectors_append (same ▸ first) (same ▸ last)]

theorem fill_dropConnectors (p : Placeholder) (n : Nat) (o : Outline α) :
    fill p n (dropConnectors o) = Clause.dropConnectors (fill p n o) := by
  obtain ⟨y, x, -, filled⟩ := exists_dropConnectors p n o
  exact filled

theorem holes_dropConnectors (o : Outline α) : holes (dropConnectors o) = holes o := by
  obtain ⟨y, x, same, -⟩ := exists_dropConnectors .question 0 o
  have := congrArg holes same
  simpa using this.symm

theorem eq_append_comma (h : (fill p n o).getLast? = some ',') : ∃ r, o = r ++ literal [','] := by
  obtain ⟨t, same⟩ := List.getLast?_eq_some_iff.1 h
  have plain : ∀ c ∈ [','], Placeholder.isMark c = false := by simp [Placeholder.isMark]
  obtain ⟨r, cut, -⟩ := eq_append_literal same plain
  exact ⟨r, cut⟩

theorem getLast?_fill_eq_comma (p q : Placeholder) (n m : Nat) (o : Outline α) :
    (fill p n o).getLast? = some ',' ↔ (fill q m o).getLast? = some ',' := by
  have either {p q : Placeholder} {n m : Nat} (h : (fill p n o).getLast? = some ',') :
      (fill q m o).getLast? = some ',' := by
    obtain ⟨r, rfl⟩ := eq_append_comma h
    rw [fill_append, fill_literal, List.getLast?_append_cons]
    rfl
  exact ⟨either, either⟩

theorem dropLast_append_comma (o : Outline α) : (o ++ literal [',']).dropLast = o :=
  List.dropLast_concat

theorem fill_whereClause (p : Placeholder) (n : Nat) (o : Outline α) :
    fill p n (whereClause o) = Clause.joinConditions (fill p n o) := by
  simp only [whereClause, Clause.joinConditions, ← fill_trim, fill_eq_nil_iff, shown,
    isConnector_fill .question p 0 n, leadingConnector_fill .question p 0 n,
    trailingConnector_fill .question p 0 n]
  split
  · rfl
  · split
    · rw [fill_append, fill_literal, holes_literal]
      rfl
    · rw [fill_append, fill_literal, holes_literal, ← fill_dropConnectors]
      rfl

theorem fill_setClause (p : Placeholder) (n : Nat) (o : Outline α) :
    fill p n (setClause o) = Clause.joinAssignments (fill p n o) := by
  simp only [setClause, Clause.joinAssignments, ← fill_trim, fill_eq_nil_iff, shown,
    getLast?_fill_eq_comma .question p 0 n]
  split
  · rfl
  · split
    · next comma =>
      obtain ⟨r, same⟩ := eq_append_comma comma
      rw [fill_append, fill_literal, holes_literal, same, dropLast_append_comma, fill_append,
        fill_literal, List.dropLast_concat]
      rfl
    · rw [fill_append, fill_literal, holes_literal]
      rfl

theorem holes_whereClause (o : Outline α) : holes (whereClause o) = holes o := by
  rw [whereClause]
  split
  · next absent =>
    rcases absent with rfl | alone
    · rfl
    · obtain ⟨s, same⟩ := eq_literal_of_isConnector alone
      rw [← holes_trim o, same, holes_literal]
      rfl
  · split
    · rw [holes_append, holes_literal, List.nil_append]
    · rw [holes_append, holes_literal, holes_dropConnectors, holes_trim, List.nil_append]

theorem holes_setClause (o : Outline α) : holes (setClause o) = holes o := by
  rw [setClause]
  split
  · next empty => rw [empty]
  · split
    · next comma =>
      obtain ⟨r, same⟩ := eq_append_comma comma
      have kept : holes r = holes o := by
        rw [← holes_trim o, same, holes_append, holes_literal, List.append_nil]
      rw [holes_append, holes_literal, same, dropLast_append_comma, kept, List.nil_append]
    · rw [holes_append, holes_literal, List.nil_append]

structure Cuts (cut : Outline α → Outline α) (join : List Char → List Char) : Prop where
  fill : ∀ p n o, fill p n (cut o) = join (fill p n o)
  holes : ∀ o, holes (cut o) = holes o

theorem cuts_whereClause : Cuts (α := α) whereClause Clause.joinConditions :=
  ⟨fill_whereClause, holes_whereClause⟩

theorem cuts_setClause : Cuts (α := α) setClause Clause.joinAssignments :=
  ⟨fill_setClause, holes_setClause⟩

theorem shown_map (f : α → β) (o : Outline α) : shown (map f o) = shown o := fill_map _ _ f o

theorem map_dropConnectors (f : α → β) (o : Outline α) :
    map f (dropConnectors o) = dropConnectors (map f o) := by
  rw [dropConnectors, dropConnectors, shown_map, map, map, List.map_drop, List.map_take,
    List.length_map]

theorem map_dropLast (f : α → β) (o : Outline α) :
    map f o.dropLast = (map f o).dropLast := List.map_dropLast

theorem map_eq_nil (f : α → β) (o : Outline α) : map f o = [] ↔ o = [] := List.map_eq_nil_iff

theorem map_whereClause (f : α → β) (o : Outline α) :
    map f (whereClause o) = whereClause (map f o) := by
  rw [whereClause, whereClause, ← map_trim, shown_map]
  by_cases absent : o = [] ∨ Clause.isConnector (shown (trim o))
  · rw [if_pos absent, if_pos (absent.imp_left (map_eq_nil f o).2)]
    rfl
  · rw [if_neg absent, if_neg (mt (Or.imp_left (map_eq_nil f o).1) absent), apply_ite (map f),
      map_append, map_append, map_literal, map_dropConnectors]

theorem map_setClause (f : α → β) (o : Outline α) :
    map f (setClause o) = setClause (map f o) := by
  rw [setClause, setClause, ← map_trim, shown_map]
  by_cases empty : o = []
  · rw [if_pos empty, if_pos ((map_eq_nil f o).2 empty)]
    rfl
  · rw [if_neg empty, if_neg (mt (map_eq_nil f o).1 empty), apply_ite (map f), map_append,
      map_append, map_literal, map_dropLast]

end Outline
end SqlTemplate
