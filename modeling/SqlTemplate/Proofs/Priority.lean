import SqlTemplate.CommandLine.Run
import SqlTemplate.Text.Alphanumeric

namespace SqlTemplate

theorem Text.lt_of_toLower {c : Char} (small : 97 ≤ c.toLower.toNat) : 57 < c.toNat := by
  by_cases upper : c.toNat < 65
  · rw [toLower_of_not_upper (.inl upper)] at small
    omega
  · omega

namespace Dialect

variable {name : String} {d : Dialect}

theorem mem_aliases_of_ofName? (h : ofName? name = .ok d) :
    Setting.lowerKey name ∈ d.aliases := by
  rw [ofName?] at h
  split at h
  · next found =>
    cases h
    simpa [Setting.lowerKey] using List.find?_some found
  · cases h

theorem word_of_mem_aliases {word : String} (h : word ∈ d.aliases) :
    word ∉ ["true", "false", "inf", "infinity", "nan"]
    ∧ (word.toList.head?.any fun c => 97 ≤ c.toNat) = true := by
  have all : ∀ word ∈ d.aliases, word ∉ ["true", "false", "inf", "infinity", "nan"]
      ∧ (word.toList.head?.any fun c => 97 ≤ c.toNat) = true := by
    cases d <;> decide
  exact all word h

end Dialect

namespace Setting

variable {c : Char} {s : List Char}

theorem ne_of_letter {mark : Char} (h : 57 < c.toNat) (low : mark.toNat ≤ 57) : c ≠ mark := by
  rintro rfl
  omega

theorem isDigit_of_letter (h : 57 < c.toNat) : c.isDigit = false := by
  rw [Bool.eq_false_iff]
  intro digit
  rw [Char.isDigit, Bool.and_eq_true, decide_eq_true_iff, decide_eq_true_iff] at digit
  have last : c.toNat ≤ 57 := UInt32.le_iff_toNat_le.1 digit.2
  omega

theorem integer?_of_letter (h : 57 < c.toNat) : integer? (c :: s) = none := by
  have plus : c ≠ '+' := ne_of_letter h (by decide)
  have minus : c ≠ '-' := ne_of_letter h (by decide)
  have digit := isDigit_of_letter h
  simp [integer?, signed?, plus, minus, digit]

theorem ofChars?_of_letter (h : 57 < c.toNat)
    (word : String.ofList ((c :: s).map Char.toLower) ∉ ["inf", "infinity", "nan"]) :
    Binary64.ofChars? (c :: s) = none := by
  have plus : c ≠ '+' := ne_of_letter h (by decide)
  have minus : c ≠ '-' := ne_of_letter h (by decide)
  have point : c ≠ '.' := ne_of_letter h (by decide)
  have digit := isDigit_of_letter h
  simp only [List.mem_cons, List.not_mem_nil, or_false, not_or] at word
  obtain ⟨inf, infinity, nan⟩ := word
  have unsigned : Binary64.ofUnsigned? false (c :: s) = none := by
    simp only [Binary64.ofUnsigned?]
    rw [if_neg (not_or.2 ⟨inf, infinity⟩), if_neg nan]
    simp [point, digit]
  simpa [Binary64.ofChars?, plus, minus] using unsigned

theorem ofText_of_dialect {name : String} {d : Dialect} (h : Dialect.ofName? name = .ok d) :
    ofText name = .text name := by
  have listed := Dialect.mem_aliases_of_ofName? h
  obtain ⟨word, first⟩ := Dialect.word_of_mem_aliases listed
  simp only [List.mem_cons, List.not_mem_nil, or_false, not_or] at word
  obtain ⟨true, false, inf, infinity, nan⟩ := word
  obtain ⟨c, s, spelled⟩ : ∃ c s, name.toList = c :: s := by
    cases spelled : name.toList with
    | nil => simp [lowerKey, spelled] at first
    | cons c s => exact ⟨c, s, rfl⟩
  have lower : (lowerKey name).toList = c.toLower :: s.map Char.toLower := by
    rw [lowerKey, String.toList_ofList, spelled, List.map_cons]
  rw [lower] at first
  -- No number begins with this letter, and the whole name is no word for a number.
  have high := Text.lt_of_toLower (of_decide_eq_true first)
  have word : String.ofList ((c :: s).map Char.toLower) ∉ ["inf", "infinity", "nan"] := by
    rw [← spelled]
    simpa [lowerKey] using ⟨inf, infinity, nan⟩
  rw [ofText, if_neg true, if_neg false, spelled, integer?_of_letter high,
    ofChars?_of_letter high word]

end Setting

namespace Settings

/-- The dialect that settings name, or the default one where they name none. Any other text has no
answer. -/
def dialectOf? (settings : List (String × Setting)) : Option Dialect :=
  get? settings "dialect" default.dialect Setting.dialect?

def showSqlOf? (settings : List (String × Setting)) : Option Bool :=
  get? settings "show_sql" default.showSql Setting.boolean?

variable {settings : List (String × Setting)} {before after : Environment}
  {key text : String} {d : Dialect}

theorem dialectOf?_of_text (h : settings.lookup "dialect" = some (.text text))
    (known : Dialect.ofName? text = .ok d) : dialectOf? settings = some d := by
  rw [dialectOf?, get?, h]
  simp only [Setting.dialect?, known, Except.toOption]

theorem lookup_ofEnvironment (set : environmentKey? key = some "dialect")
    (last : (ofEnvironment after).lookup "dialect" = none)
    (known : Dialect.ofName? text = .ok d) :
    (ofEnvironment (before ++ (key, text) :: after)).lookup "dialect"
      = some (.text text) := by
  have entry : Setting.keyed "dialect" (Setting.ofText text) = ("dialect", .text text) := by
    rw [Setting.ofText_of_dialect known]
    rfl
  rw [ofEnvironment] at last ⊢
  simp [List.filterMap_append, List.lookup_append, set, entry, last]

end Settings

namespace CommandLine

open Settings (ofEnvironment dialectOf? showSqlOf?)
open Settings.FileFormat (builtin)

variable {formats : List Settings.FileFormat} {files : Files} {env : Environment}
  {args : Arguments} {ofFile : List (String × Setting)} {shown : Bool}

theorem loadSettings_eq (parsed : Settings.ofFile? formats files args.config = some ofFile)
    (acceptable : showSqlOf? (ofEnvironment env ++ ofFile) = some shown) :
    loadSettings formats files env args = match dialectOf? (ofEnvironment env ++ ofFile) with
      | none => .error .configuration
      | some below => (args.dialect.elim (.ok below) Dialect.ofName?).map
          fun d => ⟨d, shown || args.showSql⟩ := by
  rw [showSqlOf?] at acceptable
  rw [loadSettings, Settings.load, parsed]
  simp only [Settings.ofList?, acceptable, dialectOf?]
  cases Settings.get? (ofEnvironment env ++ ofFile) "dialect" Settings.default.dialect
    Setting.dialect? with
  | none => rfl
  | some below =>
    cases args.dialect with
    | none => rfl
    | some name => cases Dialect.ofName? name <;> rfl

/-- Over layers whose dialect can be read, or is left to the default one, the arguments decide, and
over a dialect that cannot be read they do not. A variable of the environment that names a dialect
decides over every file, and without one the file does over the default. -/
theorem loadSettings_priority (parsed : Settings.ofFile? formats files args.config = some ofFile)
    (acceptable : showSqlOf? (ofEnvironment env ++ ofFile) = some shown) :
    (∀ name d, args.dialect = some name → Dialect.ofName? name = .ok d →
      (∀ below, dialectOf? (ofEnvironment env ++ ofFile) = some below →
        loadSettings formats files env args = .ok ⟨d, shown || args.showSql⟩)
      ∧ (dialectOf? (ofEnvironment env ++ ofFile) = none →
        loadSettings formats files env args = .error .configuration))
    ∧ (∀ before name text after d, env = before ++ (name, text) :: after →
      Settings.environmentKey? name = some "dialect" →
      (ofEnvironment after).lookup "dialect" = none → Dialect.ofName? text = .ok d →
      (args.dialect = none → loadSettings formats files env args = .ok ⟨d, shown || args.showSql⟩)
      ∧ ∀ name d, args.dialect = some name → Dialect.ofName? name = .ok d →
        loadSettings formats files env args = .ok ⟨d, shown || args.showSql⟩)
    ∧ ((ofEnvironment env).lookup "dialect" = none → args.dialect = none →
      loadSettings formats files env args = match dialectOf? ofFile with
        | some d => .ok ⟨d, shown || args.showSql⟩
        | none => .error .configuration) := by
  have loaded := loadSettings_eq parsed acceptable
  have arguments (name : String) (d : Dialect) (given : args.dialect = some name)
      (known : Dialect.ofName? name = .ok d) (below : Dialect)
      (readable : dialectOf? (ofEnvironment env ++ ofFile) = some below) :
      loadSettings formats files env args = .ok ⟨d, shown || args.showSql⟩ := by
    rw [loaded, readable, given]
    simp only [Option.elim, known]
    rfl
  refine ⟨?_, ?_, ?_⟩
  · intro name d given known
    refine ⟨arguments name d given known, ?_⟩
    intro unreadable
    rw [loaded, unreadable]
  · intro before name text after d layers sets last known
    have found : (ofEnvironment env ++ ofFile).lookup "dialect" = some (.text text) := by
      rw [List.lookup_append, layers, Settings.lookup_ofEnvironment sets last known]
      rfl
    have readable := Settings.dialectOf?_of_text found known
    refine ⟨?_, ?_⟩
    · intro given
      rw [loaded, readable, given]
      rfl
    · intro name e given known
      exact arguments name e given known d readable
  · intro unset given
    have below : dialectOf? (ofEnvironment env ++ ofFile) = dialectOf? ofFile := by
      rw [dialectOf?, dialectOf?, Settings.get?, Settings.get?, List.lookup_append, unset,
        Option.none_or]
    rw [loaded, below, given]
    cases dialectOf? ofFile <;> rfl

theorem loadSettings_priority_oracle :
    let env : Environment :=
      [("DYNSQL_SHOW_SQL", "yes"), ("dynsql_dialect", "Oracle"), ("PATH", "")]
    let args : Arguments := ⟨"t.json", none, none, none, false, .table⟩
    Settings.ofFile? builtin (fun _ => none) none = some []
      ∧ showSqlOf? (ofEnvironment env ++ []) = some true
      ∧ loadSettings builtin (fun _ => none) env args = .ok ⟨.oracle, true⟩
      ∧ loadSettings builtin (fun _ => none) env { args with dialect := some "mysql" }
        = .ok ⟨.mysql, true⟩ := by
  intro env args
  have parsed : Settings.ofFile? builtin (fun _ => none) none = some [] := by
    rfl
  have acceptable : showSqlOf? (ofEnvironment env ++ []) = some true := by
    rfl
  have under (args : Arguments)
      (here : Settings.ofFile? builtin (fun _ => none) args.config = some []) :=
    (loadSettings_priority here acceptable).2.1
      [("DYNSQL_SHOW_SQL", "yes")] "dynsql_dialect" "Oracle" [("PATH", "")] .oracle rfl rfl rfl rfl
  refine ⟨parsed, acceptable, ?_, ?_⟩
  · exact (under args parsed).1 rfl
  · exact (under { args with dialect := some "mysql" } parsed).2 "mysql" .mysql rfl rfl

/-- Arguments do not decide over an environment with an unknown dialect: nothing is loaded. -/
theorem loadSettings_unreadable :
    ¬ ∀ (formats : List Settings.FileFormat) (files : Files) (env : Environment) (args : Arguments)
      ofFile shown name d,
      Settings.ofFile? formats files args.config = some ofFile →
      showSqlOf? (ofEnvironment env ++ ofFile) = some shown → args.dialect = some name →
      Dialect.ofName? name = .ok d →
      ∃ settings, loadSettings formats files env args = .ok settings ∧ settings.dialect = d := by
  intro priority
  let args : Arguments := ⟨"t.json", none, some "mysql", none, false, .table⟩
  let env : Environment := [("DYNSQL_DIALECT", "db2")]
  have refused : loadSettings builtin (fun _ => none) env args = .error .configuration := by
    rfl
  obtain ⟨settings, loaded, -⟩ :=
    priority builtin (fun _ => none) env args [] false "mysql" .mysql rfl rfl rfl rfl
  cases refused.symm.trans loaded

end CommandLine
end SqlTemplate
