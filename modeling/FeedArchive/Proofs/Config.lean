import FeedArchive.Config
import FeedArchive.Proofs.Text.Integer
import FeedArchive.Proofs.Text.Trimming

/-!
# Reading the configuration

`NamesPositive` is the grammar of limits: a number of 64 bits, at least one, with any white space
around it. `SearchConfig.Judges` says what comes of the variables that have the limits: limits if
each variable is unset or stands for a number, and otherwise the failure of the first variable that
stands for none. Reading the configuration comes to just this, and a limit is never zero.
`PositiveSpelling` lists the ways of writing a number, each of which is read as the number
(`read_judges`).
-/

namespace FeedArchive

/-- The text stands for a positive number of 64 bits. -/
def NamesPositive (text : String) (n : Nat) : Prop :=
  ∃ inner, Text.Trims text.toList inner ∧ Decimal.Natural inner n ∧ 1 ≤ n ∧ n < 2 ^ 64

/-- A number of 64 bits, at least one, and what may be written around its numeral: zeros in front, a
`+` in front of these, and white space on both sides. -/
structure PositiveSpelling where
  number : Nat
  number_mem : 1 ≤ number ∧ number < 2 ^ 64
  zeros : Nat
  plus : Bool
  before : List Char
  after : List Char
  blank : ∀ c ∈ before ++ after, Text.isBlank c = true

namespace PositiveSpelling

/-- The number with its zeros and its `+`. -/
def inner (s : PositiveSpelling) : List Char :=
  (if s.plus then ['+'] else []) ++ (List.replicate s.zeros '0' ++ Decimal.numeral s.number)

def text (s : PositiveSpelling) : String :=
  String.ofList (s.before ++ s.inner ++ s.after)

/-- The digits of a spelling, with its plus sign if it has one, are those of its number. -/
theorem natural_inner (s : PositiveSpelling) : Decimal.Natural s.inner s.number := by
  obtain ⟨hdigits, hvalue⟩ := Decimal.isDigits_leading_zeros s.zeros s.number
  rw [inner]
  cases s.plus with
  | true =>
    have hplus := Decimal.Natural.plus hdigits
    rwa [hvalue] at hplus
  | false =>
    have hplain := Decimal.Natural.digits hdigits
    rwa [hvalue] at hplain

/-- What is written for a number stands for it. -/
theorem namesPositive_text (s : PositiveSpelling) : NamesPositive s.text s.number := by
  have hblank := (Decimal.Whole.natural s.natural_inner).not_blank
  refine ⟨s.inner, ⟨?_, ?_, ?_⟩, s.natural_inner, s.number_mem⟩
  · exact fun c hc => hblank c (List.mem_of_mem_head? hc)
  · exact fun c hc => hblank c (List.mem_of_getLast? hc)
  · refine ⟨s.before, s.after, String.toList_ofList, ?_, ?_⟩
    · exact fun c hc => s.blank c (List.mem_append_left _ hc)
    · exact fun c hc => s.blank c (List.mem_append_right _ hc)

end PositiveSpelling

namespace SearchConfig

/-- The limit that a variable stands for, or the default where the variable is not set. -/
inductive Gives (lookup : Lookup) (name : String) (default : Nat) : Nat → Prop
  | unset (h : lookup name = none) : Gives lookup name default default
  | set {text : String} {n : Nat} (h : lookup name = some text) (hn : NamesPositive text n) :
      Gives lookup name default n

/-- The variable is set to a text that stands for no limit. -/
structure Spoils (lookup : Lookup) (name text : String) : Prop where
  set : lookup name = some text
  not_names : ∀ n, ¬NamesPositive text n

/-- What comes of the variables. The first variable that stands for no limit is reported, with its
text as it stands. -/
inductive Judges (lookup : Lookup) : Except ConfigError SearchConfig → Prop
  | accepted {count length seconds : Nat} (hcount : Gives lookup "SEARCH_MAX_KEYWORDS" 10 count)
      (hlength : Gives lookup "SEARCH_MAX_KEYWORD_LENGTH" 100 length)
      (hseconds : Gives lookup "SEARCH_TIMEOUT_SECS" 5 seconds) :
      Judges lookup (.ok ⟨count, length, .ofSeconds seconds⟩)
  | refused {before after : List String} {name text : String}
      (hnames : variableNames = before ++ name :: after)
      (hbefore : ∀ other ∈ before, ∀ text, ¬Spoils lookup other text)
      (hname : Spoils lookup name text) :
      Judges lookup
        (.error (.invalidValue (name ++ "は正の整数で指定してください: '" ++ text ++ "'")))

variable {lookup : Lookup} {name text : String} {default n : Nat}

/-! ## One variable -/

/-- A trimmed text is read as a number above zero if it spells one. -/
theorem readPositive_number_eq_some_iff :
    (Decimal.readNat64 (Text.trim text.toList)).filter (0 < ·) = some n ↔
      NamesPositive text n := by
  rw [Option.filter_eq_some_iff, Decimal.readNat64_eq_some_iff, decide_eq_true_eq]
  constructor
  · rintro ⟨⟨hnatural, hlt⟩, hpos⟩
    exact ⟨_, Text.trims_trim _, hnatural, hpos, hlt⟩
  · rintro ⟨inner, htrims, hnatural, hpos, hlt⟩
    rw [htrims.trim_eq]
    exact ⟨⟨hnatural, hlt⟩, hpos⟩

/-- A variable that gives a number is read as the number. -/
theorem Gives.readPositive_eq (h : Gives lookup name default n) :
    readPositive lookup name default = .ok n := by
  cases h with
  | unset h => simp only [readPositive, h]
  | set h hn => simp only [readPositive, h, readPositive_number_eq_some_iff.mpr hn]

/-- A variable that spoils the configuration is reported with its text. -/
theorem Spoils.readPositive_eq (h : Spoils lookup name text) (default : Nat) :
    readPositive lookup name default = .error (notPositive name text) := by
  have hnone : (Decimal.readNat64 (Text.trim text.toList)).filter (0 < ·) = none :=
    Option.eq_none_iff_forall_ne_some.mpr fun n hn =>
      h.not_names n (readPositive_number_eq_some_iff.mp hn)
  simp only [readPositive, h.set, hnone]

/-- A variable gives a limit if it is not spoiled. -/
theorem exists_gives_iff :
    (∃ n, Gives lookup name default n) ↔ ∀ text, ¬Spoils lookup name text := by
  constructor
  · rintro ⟨n, h⟩ text hspoils
    have hok := h.readPositive_eq
    rw [hspoils.readPositive_eq] at hok
    cases hok
  · intro hnot
    cases hset : lookup name with
    | none => exact ⟨default, .unset hset⟩
    | some text =>
      by_cases hn : ∃ n, NamesPositive text n
      · obtain ⟨n, hn⟩ := hn
        exact ⟨n, .set hset hn⟩
      · exact absurd ⟨hset, not_exists.mp hn⟩ (hnot text)

/-- A variable gives a number above zero, if the default is one. -/
theorem Gives.pos (h : Gives lookup name default n) (hdefault : 0 < default) : 0 < n := by
  cases h with
  | unset => exact hdefault
  | set _ hn =>
    obtain ⟨_, _, _, hpos, _⟩ := hn
    exact hpos

/-! ## All variables -/

/-- The places of a variable among the others. -/
theorem variableNames_eq_append_cons {before after : List String}
    (h : variableNames = before ++ name :: after) :
    before = [] ∧ name = "SEARCH_MAX_KEYWORDS" ∨
      before = ["SEARCH_MAX_KEYWORDS"] ∧ name = "SEARCH_MAX_KEYWORD_LENGTH" ∨
      before = ["SEARCH_MAX_KEYWORDS", "SEARCH_MAX_KEYWORD_LENGTH"] ∧
        name = "SEARCH_TIMEOUT_SECS" := by
  simp only [variableNames, List.cons_eq_append_iff, List.nil_eq, List.append_eq_nil_iff,
    List.cons.injEq, List.cons_ne_nil, and_false, exists_false, or_false] at h
  obtain ⟨rfl, rfl, -⟩ | ⟨_, rfl, ⟨rfl, rfl, -⟩ | ⟨_, rfl, rfl, rfl, -⟩⟩ := h
  · exact Or.inl ⟨rfl, rfl⟩
  · exact Or.inr (Or.inl ⟨rfl, rfl⟩)
  · exact Or.inr (Or.inr ⟨rfl, rfl⟩)

/-- What is judged of the variables is how the configuration is read. -/
theorem Judges.read_eq {x : Except ConfigError SearchConfig} (h : Judges lookup x) :
    read lookup = x := by
  cases h with
  | accepted hcount hlength hseconds =>
    simp only [read, hcount.readPositive_eq, hlength.readPositive_eq, hseconds.readPositive_eq]
    rfl
  | @refused before after name text hnames hbefore hname =>
    have hgives : ∀ other ∈ before, ∀ default, ∃ n, readPositive lookup other default = .ok n := by
      intro other hother default
      obtain ⟨n, hn⟩ := exists_gives_iff.mpr (hbefore other hother)
      exact ⟨n, hn.readPositive_eq⟩
    -- the variables in front of the one at fault are read, and the ones behind it are not
    obtain ⟨rfl, rfl⟩ | ⟨rfl, rfl⟩ | ⟨rfl, rfl⟩ := variableNames_eq_append_cons hnames
    · simp only [read, hname.readPositive_eq]
      rfl
    · obtain ⟨count, hcount⟩ := hgives "SEARCH_MAX_KEYWORDS" (by simp) 10
      simp only [read, hcount, hname.readPositive_eq]
      rfl
    · obtain ⟨count, hcount⟩ := hgives "SEARCH_MAX_KEYWORDS" (by simp) 10
      obtain ⟨length, hlength⟩ := hgives "SEARCH_MAX_KEYWORD_LENGTH" (by simp) 100
      simp only [read, hcount, hlength, hname.readPositive_eq]
      rfl

/-- Either there is a first variable that is spoiled, or all variables give limits. -/
theorem exists_judges (lookup : Lookup) : ∃ x, Judges lookup x := by
  classical
  cases hfind : variableNames.find? fun name => ∃ text, Spoils lookup name text with
  | some name =>
    obtain ⟨hname, before, after, hnames, hbefore⟩ := List.find?_eq_some_iff_append.mp hfind
    obtain ⟨text, hname⟩ := of_decide_eq_true hname
    exact ⟨_, .refused hnames (by simpa using hbefore) hname⟩
  | none =>
    have hgives : ∀ name ∈ variableNames, ∀ default, ∃ n, Gives lookup name default n := by
      intro name hname default
      have hnot := List.find?_eq_none.mp hfind name hname
      rw [decide_eq_true_eq, not_exists] at hnot
      exact exists_gives_iff.mpr hnot
    obtain ⟨_, hcount⟩ := hgives "SEARCH_MAX_KEYWORDS" (by simp [variableNames]) 10
    obtain ⟨_, hlength⟩ := hgives "SEARCH_MAX_KEYWORD_LENGTH" (by simp [variableNames]) 100
    obtain ⟨_, hseconds⟩ := hgives "SEARCH_TIMEOUT_SECS" (by simp [variableNames]) 5
    exact ⟨_, .accepted hcount hlength hseconds⟩

/-- Reading the variables judges them. -/
theorem read_eq_iff {x : Except ConfigError SearchConfig} : read lookup = x ↔ Judges lookup x := by
  refine ⟨?_, Judges.read_eq⟩
  rintro rfl
  obtain ⟨x, h⟩ := exists_judges lookup
  rw [h.read_eq]
  exact h

/-- Limits are read if no variable is spoiled. -/
theorem exists_ok_iff : (∃ c, read lookup = .ok c) ↔
    ∀ name ∈ variableNames, ∀ text, lookup name = some text → ∃ n, NamesPositive text n := by
  constructor
  · rintro ⟨c, h⟩ name hname text hset
    by_contra hnot
    have hspoils : Spoils lookup name text := ⟨hset, not_exists.mp hnot⟩
    cases read_eq_iff.mp h with
    | accepted hcount hlength hseconds =>
      simp only [variableNames, List.mem_cons, List.not_mem_nil, or_false] at hname
      rcases hname with rfl | rfl | rfl
      · exact exists_gives_iff.mp ⟨_, hcount⟩ text hspoils
      · exact exists_gives_iff.mp ⟨_, hlength⟩ text hspoils
      · exact exists_gives_iff.mp ⟨_, hseconds⟩ text hspoils
  · intro hall
    cases hread : read lookup with
    | ok c => exact ⟨c, rfl⟩
    | error e =>
      cases read_eq_iff.mp hread with
      | @refused before after name text hnames _ hname =>
        have hmem : name ∈ variableNames := by
          rw [hnames]
          simp
        obtain ⟨n, hn⟩ := hall name hmem text hname.set
        exact absurd hn (hname.not_names n)

/-- Reading the variables judges them: limits are read if each variable that is set stands for a
positive number of 64 bits, and no limit is zero then. However such a number is written, it is read
as it was. -/
theorem read_judges (lookup : Lookup) :
    (∀ x, read lookup = x ↔ Judges lookup x) ∧
    ((∃ c, read lookup = .ok c) ↔
      ∀ name ∈ variableNames, ∀ text, lookup name = some text → ∃ n, NamesPositive text n) ∧
    (∀ c, read lookup = .ok c →
      0 < c.maxKeywordCount ∧ 0 < c.maxKeywordLength ∧ 0 < c.timeout.nanos) ∧
    ∀ count length seconds : PositiveSpelling,
      lookup "SEARCH_MAX_KEYWORDS" = some count.text →
      lookup "SEARCH_MAX_KEYWORD_LENGTH" = some length.text →
      lookup "SEARCH_TIMEOUT_SECS" = some seconds.text →
      read lookup = .ok ⟨count.number, length.number, .ofSeconds seconds.number⟩ := by
  refine ⟨fun x => read_eq_iff, exists_ok_iff, fun c h => ?_,
    fun count length seconds hcount hlength hseconds => ?_⟩
  · cases read_eq_iff.mp h with
    | accepted hcount hlength hseconds =>
      have hpos := hseconds.pos (by decide)
      refine ⟨hcount.pos (by decide), hlength.pos (by decide), ?_⟩
      exact Nat.mul_pos hpos (by decide)
  · have haccepted := Judges.accepted (.set hcount count.namesPositive_text)
      (.set hlength length.namesPositive_text) (.set hseconds seconds.namesPositive_text)
    exact haccepted.read_eq

/-- Zeros, a sign and white space do not matter, and the greatest number is read as it is. -/
theorem read_judges_spelled :
    read (fun name => List.lookup name [("SEARCH_MAX_KEYWORDS", " +007\n"),
        ("SEARCH_MAX_KEYWORD_LENGTH", "18446744073709551615"),
        ("SEARCH_TIMEOUT_SECS", "01\t")])
      = .ok ⟨7, 18446744073709551615, .ofSeconds 1⟩ ∧
    0 < (⟨7, 18446744073709551615, .ofSeconds 1⟩ : SearchConfig).timeout.nanos := by
  obtain ⟨-, -, hpos, hread⟩ := read_judges fun name =>
    List.lookup name [("SEARCH_MAX_KEYWORDS", " +007\n"),
      ("SEARCH_MAX_KEYWORD_LENGTH", "18446744073709551615"), ("SEARCH_TIMEOUT_SECS", "01\t")]
  have hok := hread ⟨7, by decide, 2, true, [' '], ['\n'], by simp [Text.isBlank]⟩
    ⟨18446744073709551615, by decide, 0, false, [], [], by simp⟩
    ⟨1, by decide, 1, false, [], ['\t'], by simp [Text.isBlank]⟩
    (by decide +kernel) (by decide +kernel) (by decide +kernel)
  exact ⟨hok, (hpos _ hok).2.2⟩

end SearchConfig

end FeedArchive
