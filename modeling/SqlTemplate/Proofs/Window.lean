import SqlTemplate.Proofs.Dangling
import SqlTemplate.Proofs.Draft

/-!
The bytes of a `WHERE`. Its connectors are looked for in the UTF-8 bytes at the two ends of a body,
and the body is cut between two of its bytes. Where each byte that is read and each boundary that is
cut at is checked to be there, a clause writes the same: none of them is ever missing.
-/

namespace SqlTemplate

namespace Text

def encoding (s : List Char) : List UInt8 := s.flatMap String.utf8EncodeChar

/-- Whether an offset is in the range of a text and stands between two characters. -/
def IsBoundary (s : List Char) (n : Nat) : Prop := byteLength (takeBytes n s) = n

instance {s : List Char} {n : Nat} : Decidable (IsBoundary s n) :=
  inferInstanceAs (Decidable (_ = _))

def inner? (s : List Char) (front back : Nat) : Option (List Char) :=
  let stop := byteLength s - back
  if front + back ≤ byteLength s ∧ IsBoundary s front ∧ IsBoundary s stop then
    some (takeBytes (stop - front) (dropBytes front s))
  else none

def reads? {α : Type} : List (α → Bool) → List α → Option Bool
  | [], _ => some true
  | _ :: _, [] => none
  | test :: tests, a :: s => if test a then reads? tests s else some false

def onByte (test : Char → Bool) (b : UInt8) : Bool := test (Char.ofNat b.toNat)

theorem length_encoding (s : List Char) : (encoding s).length = byteLength s := by
  induction s with
  | nil => rfl
  | cons c s ih =>
    rw [encoding, List.flatMap_cons, List.length_append, String.length_utf8EncodeChar,
      byteLength_cons, ← ih, encoding]

theorem isBoundary_append (s t : List Char) : IsBoundary (s ++ t) (byteLength s) := by
  rw [IsBoundary, takeBytes_byteLength_append]

theorem inner?_append (y b x : List Char) :
    inner? (y ++ b ++ x) (byteLength y) (byteLength x) = some b := by
  have size : byteLength (y ++ b ++ x) = byteLength y + byteLength b + byteLength x := by
    rw [byteLength_append, byteLength_append]
  have stop : byteLength (y ++ b ++ x) - byteLength x = byteLength (y ++ b) := by
    rw [size, Nat.add_sub_cancel, byteLength_append]
  have first : IsBoundary (y ++ b ++ x) (byteLength y) := by
    rw [List.append_assoc]
    exact isBoundary_append y (b ++ x)
  have last : IsBoundary (y ++ b ++ x) (byteLength (y ++ b)) := isBoundary_append (y ++ b) x
  have width : byteLength (y ++ b) - byteLength y = byteLength b := by
    rw [byteLength_append, Nat.add_sub_cancel_left]
  simp only [inner?, stop, width]
  rw [if_pos ⟨by omega, first, last⟩, List.append_assoc, dropBytes_byteLength_append,
    takeBytes_byteLength_append]

structure Lined (line : Char → List UInt8) : Prop where
  narrow : ∀ c, c.toNat < 128 → line c = [UInt8.ofNat c.toNat]
  wide : ∀ c, 128 ≤ c.toNat → ∃ b bs, line c = b :: bs ∧ 128 ≤ b.toNat

theorem utf8EncodeChar_of_lt {c : Char} (h : c.toNat < 128) :
    String.utf8EncodeChar c = [UInt8.ofNat c.toNat] := by
  have low : c.val.toNat ≤ 127 := Nat.le_of_lt_succ h
  rw [String.utf8EncodeChar]
  simp only [low, if_true]
  rfl

theorem le_of_mem_utf8EncodeChar {c : Char} (h : 128 ≤ c.toNat) {b : UInt8}
    (found : b ∈ String.utf8EncodeChar c) : 128 ≤ b.toNat := by
  have high : ¬ c.val.toNat ≤ 127 := Nat.not_le.2 h
  have byte {n : Nat} (low : 128 ≤ n % 256) (same : b = UInt8.ofNat n) : 128 ≤ b.toNat := by
    rw [same, UInt8.toNat_ofNat']
    exact low
  simp only [String.utf8EncodeChar, high, if_false] at found
  split at found
  · simp only [List.mem_cons, List.not_mem_nil, or_false] at found
    rcases found with same | same <;> exact byte (by omega) same
  · split at found
    · simp only [List.mem_cons, List.not_mem_nil, or_false] at found
      rcases found with same | same | same <;> exact byte (by omega) same
    · simp only [List.mem_cons, List.not_mem_nil, or_false] at found
      rcases found with same | same | same | same <;> exact byte (by omega) same

theorem utf8EncodeChar_ne_nil (c : Char) : String.utf8EncodeChar c ≠ [] := by
  intro empty
  have size := String.length_utf8EncodeChar c
  rw [empty] at size
  exact absurd size (Nat.ne_of_lt c.utf8Size_pos)

theorem lined_forward : Lined String.utf8EncodeChar := by
  constructor
  · exact fun c narrow => utf8EncodeChar_of_lt narrow
  · intro c wide
    cases e : String.utf8EncodeChar c with
    | nil => exact absurd e (utf8EncodeChar_ne_nil c)
    | cons b bs => exact ⟨b, bs, rfl, le_of_mem_utf8EncodeChar wide (e ▸ List.mem_cons_self)⟩

theorem lined_backward : Lined fun c => (String.utf8EncodeChar c).reverse := by
  constructor
  · intro c narrow
    rw [utf8EncodeChar_of_lt narrow]
    rfl
  · intro c wide
    cases e : (String.utf8EncodeChar c).reverse with
    | nil => exact absurd (List.reverse_eq_nil_iff.1 e) (utf8EncodeChar_ne_nil c)
    | cons b bs =>
      have found : b ∈ (String.utf8EncodeChar c).reverse := e ▸ List.mem_cons_self
      exact ⟨b, bs, rfl, le_of_mem_utf8EncodeChar wide (List.mem_reverse.1 found)⟩

theorem reverse_encoding (s : List Char) :
    (encoding s).reverse = s.reverse.flatMap fun c => (String.utf8EncodeChar c).reverse := by
  rw [encoding, List.reverse_flatMap]
  rfl

theorem onByte_of_lt (test : Char → Bool) {c : Char} (h : c.toNat < 128) :
    onByte test (UInt8.ofNat c.toNat) = test c := by
  have same : (UInt8.ofNat c.toNat).toNat = c.toNat := by
    rw [UInt8.toNat_ofNat']
    omega
  rw [onByte, same, Char.ofNat_toNat]

theorem onByte_of_le {test : Char → Bool} (ascii : ∀ c, test c = true → c.toNat < 128) {b : UInt8}
    (h : 128 ≤ b.toNat) : onByte test b = false := by
  have small : b.toNat < 256 := b.toNat_lt
  have same : (Char.ofNat b.toNat).toNat = b.toNat := by
    rw [Char.ofNat, dif_pos (.inl (by omega))]
    rfl
  rw [onByte, ← Bool.not_eq_true]
  intro passed
  have low := ascii _ passed
  omega

theorem reads?_flatMap {line : Char → List UInt8} (lined : Lined line) {tests : List (Char → Bool)}
    (ascii : ∀ test ∈ tests, ∀ c, test c = true → c.toNat < 128) (s : List Char) :
    reads? (tests.map onByte) (s.flatMap line) = reads? tests s := by
  induction tests generalizing s with
  | nil => rfl
  | cons test tests ih =>
    obtain ⟨own, others⟩ := List.forall_mem_cons.1 ascii
    cases s with
    | nil => rfl
    | cons c s =>
      rw [List.map_cons, List.flatMap_cons]
      rcases Nat.lt_or_ge c.toNat 128 with narrow | wide
      · rw [lined.narrow c narrow, List.singleton_append, reads?, reads?, onByte_of_lt test narrow,
          ih others]
      · obtain ⟨b, bs, same, high⟩ := lined.wide c wide
        -- The character fails, and so does its first byte: none of the bytes behind it is read.
        have failed : test c = false := by
          rw [← Bool.not_eq_true]
          exact fun passed => Nat.not_lt.2 wide (own c passed)
        rw [same, List.cons_append, reads?, reads?, onByte_of_le own high, failed,
          if_neg Bool.false_ne_true, if_neg Bool.false_ne_true]

theorem exists_reads? {α : Type} {tests : List (α → Bool)} {s : List α}
    (enough : tests.length ≤ s.length) : ∃ passed, reads? tests s = some passed := by
  induction tests generalizing s with
  | nil => exact ⟨true, rfl⟩
  | cons test tests ih =>
    cases s with
    | nil => simp at enough
    | cons a s =>
      rw [reads?]
      cases test a with
      | true => exact ih (Nat.le_of_succ_le_succ enough)
      | false => exact ⟨false, rfl⟩

end Text

namespace Clause

open Text (reads? onByte Lined)

def windowTests (word : List Char) : List (Char → Bool) :=
  word.map (fun letter c => c.toLower == letter) ++ [Text.isAsciiBlank]

def width? : List (List Char) → List UInt8 → Option Nat
  | [], _ => some 0
  | word :: words, bs => do
    if ← reads? ((windowTests word).map onByte) bs then return word.length else width? words bs

def leadingWidth? (bs : List UInt8) : Option Nat := width? connectors bs

def trailingWidth? (bs : List UInt8) : Option Nat :=
  width? (connectors.reverse.map List.reverse) bs.reverse

theorem opensWith_cons (letter c : Char) (word s : List Char) :
    opensWith (letter :: word) (c :: s) = (c.toLower == letter && opensWith word s) := by
  simp only [opensWith, List.length_cons, List.take_succ_cons, List.drop_succ_cons, List.map_cons,
    List.cons_beq_cons, Bool.and_assoc]

theorem opensWith_of_reads? {word s : List Char} {passed : Bool}
    (read : reads? (windowTests word) s = some passed) : opensWith word s = passed := by
  induction word generalizing s with
  | nil =>
    cases s with
    | nil => cases read
    | cons c s =>
      simp only [windowTests, List.map_nil, List.nil_append, reads?] at read
      cases blank : Text.isAsciiBlank c <;> simp_all [opensWith]
  | cons letter word ih =>
    cases s with
    | nil => cases read
    | cons c s =>
      simp only [windowTests, List.map_cons, List.cons_append, reads?] at read
      rw [opensWith_cons]
      cases same : c.toLower == letter with
      | true =>
        rw [same, if_pos rfl] at read
        exact ih read
      | false =>
        rw [same] at read
        cases read
        rfl

theorem ascii_of_mem_windowTests {word : List Char}
    (letters : ∀ letter ∈ word, letter.toNat < 128) :
    ∀ test ∈ windowTests word, ∀ c, test c = true → c.toNat < 128 := by
  intro test found c passed
  rcases List.mem_append.1 found with found | found
  · obtain ⟨letter, inside, rfl⟩ := List.mem_map.1 found
    rcases Nat.lt_or_ge 90 c.toNat with high | low
    · have same : c = letter := by
        rw [← Text.toLower_of_not_upper (.inr high)]
        exact beq_iff_eq.1 passed
      exact same ▸ letters letter inside
    · omega
  · rw [List.mem_singleton.1 found] at passed
    simp only [Text.isAsciiBlank, Bool.or_eq_true, beq_iff_eq] at passed
    rcases passed with (((rfl | rfl) | rfl) | rfl) | rfl <;> decide

theorem width?_flatMap {line : Char → List UInt8} (lined : Lined line) {words : List (List Char)}
    (letters : ∀ word ∈ words, ∀ letter ∈ word, letter.toNat < 128)
    (short : ∀ word ∈ words, word.length < shortestJoined) {s : List Char}
    (long : shortestJoined ≤ (s.flatMap line).length) :
    width? words (s.flatMap line) = some (match words.find? fun w => opensWith w s with
      | some w => w.length
      | none => 0) := by
  induction words with
  | nil => rfl
  | cons word words ih =>
    obtain ⟨own, others⟩ := List.forall_mem_cons.1 letters
    obtain ⟨brief, rest⟩ := List.forall_mem_cons.1 short
    have enough : ((windowTests word).map onByte).length ≤ (s.flatMap line).length := by
      simp only [windowTests, List.length_map, List.length_append, List.length_singleton]
      omega
    obtain ⟨passed, read⟩ := Text.exists_reads? enough
    have opens : opensWith word s = passed := by
      rw [Text.reads?_flatMap lined (ascii_of_mem_windowTests own)] at read
      exact opensWith_of_reads? read
    rw [width?, read, List.find?_cons, opens]
    cases passed with
    | true => rfl
    | false => exact ih others rest

theorem leadingWidth?_encoding {s : List Char} (long : shortestJoined ≤ Text.byteLength s) :
    leadingWidth? (Text.encoding s) = some (leadingConnector s) := by
  rw [← Text.length_encoding] at long
  exact width?_flatMap Text.lined_forward (by simp [connectors]) (by decide) long

theorem trailingWidth?_encoding {s : List Char} (long : shortestJoined ≤ Text.byteLength s) :
    trailingWidth? (Text.encoding s) = some (trailingConnector s) := by
  rw [← Text.length_encoding, ← List.length_reverse, Text.reverse_encoding] at long
  rw [trailingWidth?, Text.reverse_encoding,
    width?_flatMap Text.lined_backward (by simp [connectors]) (by decide) long,
    trailingConnector]
  cases e : s.reverse with
  | nil => rfl
  | cons c t =>
    have words : connectors.reverse.map List.reverse = [['d', 'n', 'a'], ['r', 'o']] := rfl
    rw [words]
    simp only [connectors, List.reverse_cons, List.reverse_nil, List.nil_append,
      List.cons_append, List.find?_cons, List.find?_nil, opensWith_cons]
    cases last : c.toLower == 'd' with
    | false =>
      rw [Bool.false_and]
      cases c.toLower == 'r' && opensWith ['o'] t <;> rfl
    | true =>
      have other : (c.toLower == 'r') = false := by
        rw [beq_iff_eq.1 last]
        rfl
      rw [other, Bool.true_and, Bool.false_and]
      cases opensWith ['n', 'a'] t <;> rfl

end Clause

namespace Printer

def truncate? (p : Printer) (n : Nat) : Option Printer :=
  if Text.IsBoundary p.text.toList n then some (p.truncate n) else none

def tail? (p : Printer) (n : Nat) : Option (List Char) := Text.inner? p.text.toList n 0

theorem truncate?_push_write (p : Printer) (s : String) (vs : List Value) :
    ((p.write s).push vs).truncate? p.length = some (p.push vs) := by
  have boundary : Text.IsBoundary ((p.write s).push vs).text.toList p.length := by
    rw [text_push, text_write, String.toList_append]
    exact Text.isBoundary_append p.text.toList s.toList
  rw [truncate?, if_pos boundary, truncate_push, truncate_write]

theorem tail?_push_write (p : Printer) (s : String) (vs : List Value) :
    ((p.write s).push vs).tail? p.length = some s.toList := by
  have cut := Text.inner?_append p.text.toList s.toList []
  rw [List.append_nil, Text.byteLength_nil] at cut
  rw [tail?, text_push, text_write, String.toList_append]
  exact cut

end Printer

namespace Clause

/-- Writes fragments behind a `WHERE`, with every byte that it reads and every cut that it makes
checked to be there. -/
def writeWhere? (fragments : Printer → Printer) (p : Printer) : Option Printer := do
  let opened := p.write whereKeyword
  let written := fragments opened
  if written.isFailed then return written
  else if written.length = opened.length then written.truncate? p.length
  else
    let body := Text.trim (← written.tail? opened.length)
    if Text.byteLength body < shortestJoined then
      if isConnector body then written.truncate? p.length else return written
    else
      let front ← leadingWidth? (Text.encoding body)
      let back ← trailingWidth? (Text.encoding body)
      if front = 0 ∧ back = 0 then return written
      else
        let left ← Text.inner? body front back
        let kept ← written.truncate? opened.length
        return kept.write (String.ofList left)

variable {fragments : Printer → Printer} {p : Printer} {s : String} {vs : List Value}

theorem byteLength_eq_of_leads {m y : List Char} (h : Leads m y) :
    Text.byteLength y = leadingConnector m := by
  rw [← length_eq_of_leads h]
  cases h with
  | connector _ _ _ _ connector => exact byteLength_eq_length_of_isConnector connector
  | none => rfl

theorem byteLength_eq_of_trails {m x : List Char} (h : Trails m x) :
    Text.byteLength x = trailingConnector m := by
  rw [← length_eq_of_trails h]
  cases h with
  | connector _ _ _ _ connector => exact byteLength_eq_length_of_isConnector connector
  | none => rfl

theorem inner?_connectors (m : List Char) :
    Text.inner? m (leadingConnector m) (trailingConnector m) = some (dropConnectors m) := by
  obtain ⟨y, first⟩ := exists_leads m
  obtain ⟨x, last⟩ := exists_trails m
  obtain ⟨b, rfl⟩ := exists_between first last
  rw [dropConnectors_append (length_eq_of_leads first) (length_eq_of_trails last),
    ← byteLength_eq_of_leads first, ← byteLength_eq_of_trails last, Text.inner?_append]

theorem writeWhere?_of_isFailed (failed : (fragments (p.write whereKeyword)).isFailed = true) :
    writeWhere? fragments p = some (writeWhere fragments p) := by
  simp only [writeWhere?, writeWhere, failed, if_true]
  rfl

theorem writeWhere?_eq_some (ok : p.isFailed = false)
    (wrote : fragments (p.write whereKeyword) = ((p.write whereKeyword).write s).push vs) :
    writeWhere? fragments p = some (writeWhere fragments p) := by
  have unfailed : (((p.write whereKeyword).write s).push vs).isFailed = false := ok
  have outer : (((p.write whereKeyword).write s).push vs).truncate? p.length
      = some (p.push vs) := by
    rw [Printer.write_write, Printer.truncate?_push_write]
  simp only [writeWhere?, writeWhere, wrote, unfailed, tail_behind, length_behind_iff, outer,
    truncate_behind, replaceTail_behind, Printer.tail?_push_write, Printer.truncate?_push_write,
    Option.bind_eq_bind, Option.bind_some, Bool.false_eq_true, if_false]
  split
  · rfl
  split
  · split <;> rfl
  · next short =>
    -- From here on there are enough bytes for the windows at both ends.
    have long := Nat.le_of_not_lt short
    simp only [leadingWidth?_encoding long, trailingWidth?_encoding long, inner?_connectors,
      Option.bind_some]
    split
    · rfl
    · rw [← Printer.write_write]
      rfl

end Clause

namespace Node

open Clause (whereKeyword writeWhere? Leaves Leads Trails)

theorem writeWhere?_writeAll (ctx : Context) (body : List Node) {p : Printer}
    (ok : p.isFailed = false) :
    writeWhere? (writeAll ctx body) p = some (write ctx (.whereClause body) p) := by
  rw [write]
  cases failed : (writeAll ctx body (p.write whereKeyword)).isFailed with
  | true => exact Clause.writeWhere?_of_isFailed failed
  | false =>
    obtain ⟨b, vs, wrote⟩ := (writes_writeAll ctx body).exists_eq (p := p.write whereKeyword) ok
      failed
    exact Clause.writeWhere?_eq_some ok wrote

/-- A `WHERE` removes the connectors that dangle at the ends of its body, and nothing else. Its
reads stay in the bytes of the body and its cuts between two characters, and two connectors with one
blank between them are both removed. -/
theorem write_whereClause_exact (ctx : Context) (body : List Node) {p : Printer}
    (ok : p.isFailed = false) :
    writeWhere? (writeAll ctx body) p = some (write ctx (.whereClause body) p)
    ∧ ((writeAll ctx body (p.write whereKeyword)).isFailed = false → ∃ b vs,
      writeAll ctx body (p.write whereKeyword) = ((p.write whereKeyword).write b).push vs
      ∧ (b ≠ "" → ∃ left, (∀ other, Leaves b.toList other ↔ other = left)
        ∧ write ctx (.whereClause body) p = (p.write (String.ofList left)).push vs))
    ∧ ∀ m, ∃ y x z, m = y ++ x ++ z ∧ (∀ k, Leads m k ↔ k = y) ∧ ∀ k, Trails m k ↔ k = z := by
  refine ⟨writeWhere?_writeAll ctx body ok, ?_, Clause.exists_dangling⟩
  intro going
  obtain ⟨b, vs, wrote⟩ := (writes_writeAll ctx body).exists_eq (p := p.write whereKeyword) ok going
  refine ⟨b, vs, wrote, fun some => ⟨Clause.joinConditions b.toList, fun other => ?_, ?_⟩⟩
  · exact Clause.leaves_iff fun empty => some (String.toList_eq_nil_iff.1 empty)
  · rw [write, Clause.writeWhere_eq ok wrote]

theorem write_whereClause_exact_accent :
    let ctx : Context := ⟨.postgres, .ofBindings [("id", .integer 7)]⟩
    let body : List Node := [.text ⟨"or é = ", [(⟨"id"⟩, " AND\n")]⟩]
    let p : Printer := (Printer.start 3).write "SELECT é"
    let left := " WHERE  é = $4 "
    p.isFailed = false ∧ (writeAll ctx body (p.write whereKeyword)).isFailed = false
    ∧ writeAll ctx body (p.write whereKeyword)
      = ((p.write whereKeyword).write "or é = $4 AND\n").push [.integer 7]
    ∧ (∀ other, Leaves "or é = $4 AND\n".toList other ↔ other = left.toList)
    ∧ writeWhere? (writeAll ctx body) p = some ((p.write left).push [.integer 7]) := by
  intro ctx body p left
  obtain ⟨checked, written, -⟩ := write_whereClause_exact ctx body (p := p) rfl
  obtain ⟨b, vs, wrote, leaving⟩ := written rfl
  have text : (writeAll ctx body (p.write whereKeyword)).text
      = (p.write whereKeyword).text ++ "or é = $4 AND\n" := by decide +kernel
  have values : (writeAll ctx body (p.write whereKeyword)).values = [.integer 7] := rfl
  rw [wrote] at text values
  obtain rfl : vs = [.integer 7] := values
  obtain rfl : b = "or é = $4 AND\n" := (String.append_right_inj _).1 text
  obtain ⟨kept, only, wrote'⟩ := leaving (by decide +kernel)
  have leaves : Leaves "or é = $4 AND\n".toList left.toList := by
    have trimmed : Text.trim "or é = $4 AND\n".toList = "or é = $4 AND".toList := by decide +kernel
    have spelled : left.toList = whereKeyword.toList ++ " é = $4 ".toList := by decide +kernel
    rw [spelled]
    refine .cut "or".toList " é = $4 ".toList "AND".toList ?_ ?_ ?_ (by decide +kernel) trimmed
    · decide +kernel
    · rw [trimmed]
      exact .connector _ ' ' "é = $4 AND".toList rfl (by decide +kernel) rfl
    · rw [trimmed]
      exact .connector "or é = $4".toList ' ' _ rfl (by decide +kernel) rfl
  obtain rfl := (only _).1 leaves
  rw [checked, wrote', String.ofList_toList]
  exact ⟨rfl, rfl, wrote, only, rfl⟩

end Node
end SqlTemplate
