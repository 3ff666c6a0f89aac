import SqlTemplate.Proofs.Marking

namespace SqlTemplate

namespace MarkedText

/-- Why a marker is no proper one, by the text behind its opening. -/
inductive Refused (after : List Char) : Fault → Prop
  | unterminated : '\x7d' ∉ after → Refused after .unterminated
  | empty {raw behind} : after = raw ++ closing ++ behind → '\x7d' ∉ raw → Text.trim raw = [] →
      Refused after .empty

variable {s before after raw behind : List Char}

section Splitting

theorem splitOpening?_eq_none_iff : splitOpening? s = none ↔ ¬opening <:+: s := by
  induction s with
  | nil => simp [splitOpening?, opening]
  | cons c s ih =>
    cases s with
    | nil => simp [splitOpening?, opening, List.infix_cons_iff]
    | cons d s =>
      have here : [c, d] = opening ↔ opening <+: c :: d :: s := by
        simp [opening, List.cons_prefix_cons, eq_comm]
      rw [List.infix_cons_iff, ← here, splitOpening?]
      split
      · next opens => simp [opens]
      · next other => simp [other, ih]

theorem splitOpening?_eq_some_iff : splitOpening? s = some (before, after)
    ↔ s = before ++ opening ++ after ∧ ¬opening <:+: before := by
  constructor
  · intro found
    refine ⟨eq_of_splitOpening? found, ?_⟩
    rw [← splitOpening?_eq_none_iff]
    cases earlier : splitOpening? before with
    | none => rfl
    | some split =>
      obtain ⟨b, a⟩ := split
      -- An opening in front would have been found first.
      have first := splitOpening?_append_right earlier (opening ++ after)
      rw [← List.append_assoc, ← eq_of_splitOpening? found, found] at first
      have same : before = b := congrArg Prod.fst (Option.some.inj first)
      have shorter := congrArg List.length (eq_of_splitOpening? earlier)
      simp [same, opening] at shorter
  · rintro ⟨rfl, free⟩
    induction before with
    | nil => simp [splitOpening?, opening]
    | cons c before ih =>
      rw [List.infix_cons_iff, not_or] at free
      have apart : c ≠ '#' ∨ '\x7b' ∉ (before ++ opening ++ after).head? := by
        cases before with
        | nil => simp [opening]
        | cons d before =>
          simpa [opening, List.cons_prefix_cons, eq_comm, imp_iff_not_or] using free.1
      rw [List.cons_append, List.cons_append, splitOpening?_cons apart, ih free.2]
      rfl

theorem splitClosing?_cons {c : Char} (other : c ≠ '\x7d') :
    splitClosing? (c :: s) = (splitClosing? s).map fun (before, after) => (c :: before, after) := by
  rw [splitClosing?, if_neg (by simpa [closing] using other)]

theorem splitClosing?_eq_none_iff : splitClosing? s = none ↔ '\x7d' ∉ s := by
  induction s with
  | nil => simp [splitClosing?]
  | cons c s ih =>
    by_cases closes : c = '\x7d'
    · simp [splitClosing?, closes, closing]
    · rw [splitClosing?_cons closes, Option.map_eq_none_iff, ih]
      simp [Ne.symm closes]

theorem splitClosing?_eq_some_iff : splitClosing? s = some (raw, behind)
    ↔ s = raw ++ closing ++ behind ∧ '\x7d' ∉ raw := by
  constructor
  · intro found
    refine ⟨eq_of_splitClosing? found, ?_⟩
    induction s generalizing raw with
    | nil => cases found
    | cons c s ih =>
      by_cases closes : c = '\x7d'
      · rw [splitClosing?, if_pos (by simp [closes, closing])] at found
        cases found
        exact List.not_mem_nil
      · rw [splitClosing?_cons closes] at found
        obtain ⟨⟨r, b⟩, later, same⟩ := Option.map_eq_some_iff.1 found
        cases same
        exact List.not_mem_cons_of_ne_of_not_mem (Ne.symm closes) (ih later)
  · rintro ⟨rfl, free⟩
    induction raw with
    | nil => simp [splitClosing?, closing]
    | cons c raw ih =>
      obtain ⟨other, free⟩ := List.ne_and_not_mem_of_not_mem_cons free
      rw [List.cons_append, List.cons_append, splitClosing?_cons other.symm, ih free]
      rfl

end Splitting

structure WellFormed (t : MarkedText) : Prop where
  free : ∀ fragment ∈ t.fragments, ¬opening <:+: fragment.toList
  closed : ∀ m ∈ t.markers, '\x7d' ∉ m.raw.toList
  named : ∀ m ∈ t.markers, Text.trim m.raw.toList ≠ []

theorem wellFormed_singleton {head : String} :
    WellFormed ⟨head, []⟩ ↔ ¬opening <:+: head.toList :=
  ⟨fun h => h.free head List.mem_cons_self,
    fun h => ⟨List.forall_mem_singleton.2 h, List.forall_mem_nil _, List.forall_mem_nil _⟩⟩

theorem wellFormed_cons {head fragment : String} {m : Marker} {rest : List (Marker × String)} :
    WellFormed ⟨head, (m, fragment) :: rest⟩ ↔ ¬opening <:+: head.toList
      ∧ '\x7d' ∉ m.raw.toList ∧ Text.trim m.raw.toList ≠ [] ∧ WellFormed ⟨fragment, rest⟩ := by
  constructor
  · rintro ⟨free, closed, named⟩
    obtain ⟨first, free⟩ := List.forall_mem_cons.1 free
    obtain ⟨here, closed⟩ := List.forall_mem_cons.1 closed
    obtain ⟨name, named⟩ := List.forall_mem_cons.1 named
    exact ⟨first, here, name, free, closed, named⟩
  · rintro ⟨first, here, name, free, closed, named⟩
    exact ⟨List.forall_mem_cons.2 ⟨first, free⟩, List.forall_mem_cons.2 ⟨here, closed⟩,
      List.forall_mem_cons.2 ⟨name, named⟩⟩

section Source

variable {head fragment : String} {m : Marker} {rest : List (Marker × String)}

theorem source_prepend (front : String) (t : MarkedText) :
    (t.prepend front).source = front ++ t.source := by
  obtain ⟨head, rest⟩ := t
  induction rest generalizing head with
  | nil => rfl
  | cons entry rest ih =>
    obtain ⟨m, fragment⟩ := entry
    have later := ih (head ++ String.ofList opening ++ m.raw ++ String.ofList closing ++ fragment)
    simp only [prepend, source, List.foldl_cons, String.append_assoc] at later ⊢
    exact later

theorem source_cons : source ⟨head, (m, fragment) :: rest⟩
    = head ++ String.ofList opening ++ m.raw ++ String.ofList closing ++ source ⟨fragment, rest⟩ :=
  source_prepend _ ⟨fragment, rest⟩

theorem toList_source_cons : (source ⟨head, (m, fragment) :: rest⟩).toList
    = head.toList ++ opening ++ (m.raw.toList ++ closing ++ (source ⟨fragment, rest⟩).toList) := by
  simp [source_cons]

end Source

theorem reads_iff {t : MarkedText} : Reads s t ↔ t.WellFormed ∧ t.source.toList = s := by
  constructor
  · intro h
    induction h with
    | plain none =>
      refine ⟨wellFormed_singleton.2 ?_, String.toList_ofList⟩
      simpa using splitOpening?_eq_none_iff.1 none
    | marker found closed named _ ih =>
      obtain ⟨rfl, free⟩ := splitOpening?_eq_some_iff.1 found
      obtain ⟨rfl, bare⟩ := splitClosing?_eq_some_iff.1 closed
      obtain ⟨form, same⟩ := ih
      refine ⟨wellFormed_cons.2 ⟨?_, ?_, ?_, form⟩, ?_⟩
      · simpa using free
      · simpa using bare
      · simpa using named
      · rw [toList_source_cons, same]
        simp
  · rintro ⟨form, rfl⟩
    obtain ⟨head, rest⟩ := t
    induction rest generalizing head with
    | nil =>
      have none := splitOpening?_eq_none_iff.2 (wellFormed_singleton.1 form)
      simpa [source] using Reads.plain none
    | cons entry rest ih =>
      obtain ⟨m, fragment⟩ := entry
      obtain ⟨free, bare, named, form⟩ := wellFormed_cons.1 form
      have read := Reads.marker (splitOpening?_eq_some_iff.2 ⟨toList_source_cons, free⟩)
        (splitClosing?_eq_some_iff.2 ⟨rfl, bare⟩) (by simpa using named) (ih fragment form)
      simpa using read

theorem refused_or_closed (after : List Char) : (∃ fault, Refused after fault)
    ∨ ∃ raw behind, splitClosing? after = some (raw, behind) ∧ Text.trim raw ≠ [] := by
  cases closed : splitClosing? after with
  | none => exact .inl ⟨_, .unterminated (splitClosing?_eq_none_iff.1 closed)⟩
  | some split =>
    obtain ⟨raw, behind⟩ := split
    obtain ⟨whole, bare⟩ := splitClosing?_eq_some_iff.1 closed
    by_cases named : Text.trim raw = []
    · exact .inl ⟨_, .empty whole bare named⟩
    · exact .inr ⟨raw, behind, rfl, named⟩

theorem reads_or_refused (s : List Char) : (∃ t, Reads s t) ∨ ∃ t after fault,
    WellFormed t ∧ s = t.source.toList ++ opening ++ after ∧ Refused after fault := by
  cases found : splitOpening? s with
  | none => exact .inl ⟨_, .plain found⟩
  | some split =>
    obtain ⟨before, after⟩ := split
    obtain ⟨same, free⟩ := splitOpening?_eq_some_iff.1 found
    have free : ¬opening <:+: (String.ofList before).toList := by simpa using free
    rcases refused_or_closed after with ⟨fault, refused⟩ | ⟨raw, behind, closed, named⟩
    · have whole : s = (source ⟨String.ofList before, []⟩).toList ++ opening ++ after := by
        simpa [source] using same
      exact .inr ⟨_, after, fault, wellFormed_singleton.2 free, whole, refused⟩
    · obtain ⟨whole, bare⟩ := splitClosing?_eq_some_iff.1 closed
      have shorter : behind.length < s.length := length_lt_of_split found closed
      rcases reads_or_refused behind with
        ⟨more, read⟩ | ⟨⟨fragment, rest⟩, stop, fault, form, split, refused⟩
      · exact .inl ⟨_, .marker found closed (by simpa using named) read⟩
      · refine .inr ⟨⟨String.ofList before, (⟨String.ofList raw⟩, fragment) :: rest⟩, stop, fault,
          wellFormed_cons.2 ⟨free, ?_, ?_, form⟩, ?_, refused⟩
        · simpa using bare
        · simpa using named
        · simp [toList_source_cons, same, whole, split]
termination_by s.length

section Scan

variable {position : Nat} {fault : Fault}

theorem scan_of_refused (found : splitOpening? s = some (before, after))
    (refused : Refused after fault) :
    scan position s = .error (fault, position + Text.byteLength before) := by
  rw [scan]
  split
  · next none => simp [found] at none
  · next again =>
    obtain ⟨rfl, rfl⟩ := by simpa using found.symm.trans again
    cases refused with
    | unterminated bare =>
      split
      · rfl
      · next closed => simp [splitClosing?_eq_none_iff.2 bare] at closed
    | empty same bare blank =>
      have closed := splitClosing?_eq_some_iff.2 ⟨same, bare⟩
      split
      · next unclosed => simp [closed] at unclosed
      · next again =>
        obtain ⟨rfl, rfl⟩ := by simpa using closed.symm.trans again
        simp [blank]

theorem scan_of_source {t : MarkedText} (form : t.WellFormed) (refused : Refused after fault)
    (position : Nat) : scan position (t.source.toList ++ opening ++ after)
      = .error (fault, position + Text.byteLength t.source.toList) := by
  obtain ⟨head, rest⟩ := t
  induction rest generalizing head position with
  | nil =>
    have free : ¬opening <:+: head.toList := wellFormed_singleton.1 form
    exact scan_of_refused (splitOpening?_eq_some_iff.2 ⟨rfl, free⟩) refused
  | cons entry rest ih =>
    obtain ⟨m, fragment⟩ := entry
    obtain ⟨free, bare, named, form⟩ := wellFormed_cons.1 form
    -- The first marker is closed and named, so that the scan goes on behind it.
    have whole : (source ⟨head, (m, fragment) :: rest⟩).toList ++ opening ++ after
        = head.toList ++ opening ++ (m.raw.toList ++ closing
          ++ ((source ⟨fragment, rest⟩).toList ++ opening ++ after)) := by
      simp [toList_source_cons]
    rw [scan_of_named (splitOpening?_eq_some_iff.2 ⟨whole, free⟩)
      (splitClosing?_eq_some_iff.2 ⟨rfl, bare⟩) (by simpa using named), ih _ fragment form]
    simp only [toList_source_cons, Text.byteLength_append, Except.map, Nat.add_assoc]

theorem scan_eq_error_iff {stop : Nat} : scan position s = .error (fault, stop)
    ↔ ∃ t after, WellFormed t ∧ s = t.source.toList ++ opening ++ after ∧ Refused after fault
      ∧ stop = position + Text.byteLength t.source.toList := by
  constructor
  · intro h
    rcases reads_or_refused s with ⟨t, read⟩ | ⟨t, after, why, form, rfl, refused⟩
    · rw [scan_of_reads read] at h
      cases h
    · rw [scan_of_source form refused] at h
      cases h
      exact ⟨t, after, form, rfl, refused, rfl⟩
  · rintro ⟨t, after, form, rfl, refused, rfl⟩
    exact scan_of_source form refused position

end Scan

section Positions

theorem length_positionsFrom (start : Nat) (rest : List (Marker × String)) :
    (positionsFrom start rest).length = rest.length := by
  induction rest generalizing start with
  | nil => rfl
  | cons entry rest ih => exact congrArg (· + 1) (ih _)

theorem le_of_mem_positionsFrom {start position : Nat} {rest : List (Marker × String)}
    (h : position ∈ positionsFrom start rest) : start ≤ position := by
  induction rest generalizing start with
  | nil => cases h
  | cons entry rest ih =>
    rcases List.mem_cons.1 h with rfl | h
    · exact Nat.le_refl _
    · exact Nat.le_trans (Nat.le_add_right _ _) (ih h)

theorem pairwise_positionsFrom (start : Nat) (rest : List (Marker × String)) :
    (positionsFrom start rest).Pairwise (· < ·) := by
  induction rest generalizing start with
  | nil => exact .nil
  | cons entry rest ih =>
    refine .cons (fun position among => ?_) (ih _)
    have later := le_of_mem_positionsFrom among
    have wide : 0 < Text.byteLength opening := by decide
    simp only [Text.byteLength_append] at later
    omega

theorem getElem?_positionsFrom (head : String) (front : List (Marker × String)) (m : Marker)
    (fragment : String) (rest : List (Marker × String)) :
    (positionsFrom (Text.byteLength head.toList) (front ++ (m, fragment) :: rest))[front.length]?
      = some (Text.byteLength (source ⟨head, front⟩).toList) := by
  induction front generalizing head with
  | nil => rfl
  | cons entry front ih =>
    obtain ⟨m, fragment⟩ := entry
    have later := ih (head ++ String.ofList opening ++ m.raw ++ String.ofList closing ++ fragment)
    simpa [positionsFrom, source] using later

end Positions

variable {t : MarkedText}

theorem map_snd_binds (t : MarkedText) :
    t.binds.map (·.2) = positionsFrom (Text.byteLength t.head.toList) t.rest := by
  apply List.map_snd_zip
  simp [length_positionsFrom, markers]

theorem length_binds (t : MarkedText) : t.binds.length = t.rest.length := by
  rw [← List.length_map (·.2), map_snd_binds, length_positionsFrom]

theorem name_of_wellFormed (form : t.WellFormed) {m : Marker} (h : m ∈ t.markers) :
    m.name ≠ "" ∧ Text.trim m.name.toList = m.name.toList ∧ '\x7d' ∉ m.name.toList := by
  rw [Marker.name, String.toList_ofList]
  refine ⟨?_, Text.trim_trim _, fun brace => form.closed m h (Text.mem_of_mem_trim brace)⟩
  simpa using form.named m h

def Fault.error (sql : String) (position : Nat) : Fault → Error
  | .unterminated => .unterminatedMarker position sql
  | .empty => .emptyMarker position sql

theorem ofText?_eq_error_iff {sql : String} {e : Error} : ofText? sql = .error e
    ↔ ∃ t after fault, WellFormed t ∧ sql.toList = t.source.toList ++ opening ++ after
      ∧ Refused after fault ∧ e = fault.error sql (Text.byteLength t.source.toList) := by
  have reported : ofText? sql = .error e ↔ ∃ fault position,
      scan 0 sql.toList = .error (fault, position) ∧ fault.error sql position = e := by
    rw [ofText?]
    split
    · next read => simp [read]
    · next stopped => simp [stopped, Fault.error]
    · next stopped => simp [stopped, Fault.error]
  rw [reported]
  constructor
  · rintro ⟨fault, position, stopped, rfl⟩
    obtain ⟨t, after, form, same, refused, rfl⟩ := scan_eq_error_iff.1 stopped
    exact ⟨t, after, fault, form, same, refused, by rw [Nat.zero_add]⟩
  · rintro ⟨t, after, fault, form, same, refused, rfl⟩
    exact ⟨fault, _, scan_eq_error_iff.2 ⟨t, after, form, same, refused, rfl⟩, by rw [Nat.zero_add]⟩

theorem source_cut (head : String) (front : List (Marker × String)) (m : Marker)
    (fragment : String) (behind : List (Marker × String)) :
    source ⟨head, front ++ (m, fragment) :: behind⟩
      = source ⟨head, front⟩ ++ "#\x7b" ++ m.raw ++ "\x7d" ++ source ⟨fragment, behind⟩ := by
  have joined : source ⟨head, front ++ (m, fragment) :: behind⟩
      = source ⟨source ⟨head, front⟩, (m, fragment) :: behind⟩ := List.foldl_append
  rw [joined, source_cons]
  rfl

theorem binds_getElem? {front behind : List (Marker × String)} {m : Marker} {fragment : String}
    (cut : t.rest = front ++ (m, fragment) :: behind) : t.binds[front.length]?
      = some (m.name, Text.byteLength (source ⟨t.head, front⟩).toList) := by
  rw [binds, List.getElem?_zip_eq_some, cut, getElem?_positionsFrom]
  simp [markers, cut]

/-- Marked text is fragments with markers between them. A text is read as it if and only if it is
the text of its fragments and markers and these are well-formed. Each bind then has the trimmed name
of its marker and the byte position of the opening of its marker in the text. A text is not read if
and only if what is well-formed up to some opening is followed by no brace or by a blank name. -/
theorem ofText?_exact (sql : String) :
    (∀ t, ofText? sql = .ok t ↔ t.WellFormed ∧ t.source = sql)
    ∧ (∀ t, ofText? sql = .ok t →
      t.fragments.length = t.binds.length + 1
      ∧ (∀ bind ∈ t.binds, bind.1 ≠ "" ∧ Text.trim bind.1.toList = bind.1.toList
        ∧ '\x7d' ∉ bind.1.toList)
      ∧ (∀ front m fragment behind, t.rest = front ++ (m, fragment) :: behind →
        sql = source ⟨t.head, front⟩ ++ "#\x7b" ++ m.raw ++ "\x7d" ++ source ⟨fragment, behind⟩
        ∧ t.binds[front.length]?
          = some (m.name, Text.byteLength (source ⟨t.head, front⟩).toList))
      ∧ (t.binds.map (·.2)).Pairwise (· < ·))
    ∧ ∀ e, ofText? sql = .error e ↔ ∃ t after fault, WellFormed t
      ∧ sql.toList = t.source.toList ++ opening ++ after ∧ Refused after fault
      ∧ e = fault.error sql (Text.byteLength t.source.toList) := by
  have accepted (t : MarkedText) : ofText? sql = .ok t ↔ t.WellFormed ∧ t.source = sql := by
    rw [ofText?_eq_ok_iff, reads_iff, String.toList_inj]
  refine ⟨accepted, ?_, fun _ => ofText?_eq_error_iff⟩
  intro t read
  obtain ⟨form, rfl⟩ := (accepted t).1 read
  refine ⟨?_, ?_, ?_, ?_⟩
  · simp [fragments, length_binds]
  · intro bind among
    obtain ⟨m, marker, same⟩ := List.mem_map.1 (List.of_mem_zip among).1
    exact same ▸ name_of_wellFormed form marker
  · intro front m fragment behind cut
    refine ⟨?_, binds_getElem? cut⟩
    rw [← source_cut, ← cut]
  · rw [map_snd_binds]
    exact pairwise_positionsFrom _ _

theorem ofText?_exact_nested :
    let sql := "é##\x7b a#\x7bb \x7d"
    let t : MarkedText := ⟨"é#", [(⟨" a#\x7bb "⟩, "")]⟩
    ofText? sql = .ok t ∧ t.fragments = ["é#", ""] ∧ t.binds = [("a#\x7bb", 3)]
      ∧ (t.binds.map (·.2)).Pairwise (· < ·)
      ∧ ofText? "é#\x7b \x7d" = .error (.emptyMarker 2 "é#\x7b \x7d") := by
  intro sql t
  have form : t.WellFormed := by
    refine wellFormed_cons.2 ⟨?_, ?_, ?_, wellFormed_singleton.2 ?_⟩
    all_goals decide
  have read : ofText? sql = .ok t := ((ofText?_exact sql).1 t).2 ⟨form, rfl⟩
  refine ⟨read, rfl, by decide, ((ofText?_exact sql).2.1 t read).2.2.2, ?_⟩
  have front : WellFormed ⟨"é", []⟩ := wellFormed_singleton.2 (by decide)
  have blank : Refused [' ', '\x7d'] .empty := @Refused.empty _ [' '] [] rfl (by decide) (by decide)
  exact ((ofText?_exact _).2.2 _).2 ⟨⟨"é", []⟩, _, _, front, rfl, blank, rfl⟩

end MarkedText
end SqlTemplate
