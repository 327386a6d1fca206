import DemandPaging.BootOptions.Basic
import DemandPaging.Proofs.FramePool
import Mathlib.Data.List.Induction
import Mathlib.Data.Nat.Digits.Defs
import Mathlib.Logic.ExistsUnique

/-!
The boot line follows a grammar. The grammar is stated as relations, on words between blanks, on
tokens and on their values; reading a line yields what the relations say and nothing else.
-/
namespace DemandPaging

section Words

variable {text gap word rest : List Char} {words : List (List Char)} {c : Char}

/-- A text as words without blanks, with blanks between any two of them. -/
inductive Spaced : List Char → List (List Char) → Prop where
  | blanks {text : List Char} : (∀ c ∈ text, isBlank c = true) → Spaced text []
  | word {gap word rest : List Char} {words : List (List Char)} :
      (∀ c ∈ gap, isBlank c = true) → word ≠ [] → (∀ c ∈ word, isBlank c = false) →
      (∀ c ∈ rest.head?, isBlank c = true) → Spaced rest words →
      Spaced (gap ++ word ++ rest) (word :: words)

theorem leadingWord_cons_blank (h : isBlank c = true) (rest : List Char) :
    leadingWord (c :: rest) = ([], splitBlank rest) := by
  simp only [leadingWord, h, if_true]
  rfl

theorem leadingWord_cons_of_not (h : isBlank c = false) (rest : List Char) :
    leadingWord (c :: rest) = (c :: (leadingWord rest).1, (leadingWord rest).2) := by
  simp only [leadingWord, h, if_false, Bool.false_eq_true]

theorem splitBlank_cons_blank (h : isBlank c = true) (rest : List Char) :
    splitBlank (c :: rest) = splitBlank rest := by
  rw [splitBlank, leadingWord_cons_blank h]
  rfl

theorem splitBlank_blanks (h : ∀ c ∈ gap, isBlank c = true) (rest : List Char) :
    splitBlank (gap ++ rest) = splitBlank rest := by
  induction gap with
  | nil => rfl
  | cons c gap ih =>
      obtain ⟨hc, hgap⟩ := List.forall_mem_cons.1 h
      rw [List.cons_append, splitBlank_cons_blank hc, ih hgap]

theorem leadingWord_append (h : ∀ c ∈ word, isBlank c = false) (rest : List Char) :
    leadingWord (word ++ rest) = (word ++ (leadingWord rest).1, (leadingWord rest).2) := by
  induction word with
  | nil => rfl
  | cons c word ih =>
      obtain ⟨hc, hword⟩ := List.forall_mem_cons.1 h
      rw [List.cons_append, leadingWord_cons_of_not hc, ih hword, List.cons_append]

theorem leadingWord_blank (h : ∀ c ∈ rest.head?, isBlank c = true) :
    leadingWord rest = ([], splitBlank rest) := by
  cases rest with
  | nil => rfl
  | cons c rest => rw [leadingWord_cons_blank (h c rfl), splitBlank_cons_blank (h c rfl)]

theorem Spaced.splitBlank_eq (h : Spaced text words) : splitBlank text = words := by
  induction h with
  | @blanks text hblank =>
      rw [← List.append_nil text, splitBlank_blanks hblank]
      rfl
  | @word gap word rest words hgap hne hword hrest _ ih =>
      rw [List.append_assoc, splitBlank_blanks hgap, splitBlank, leadingWord_append hword,
        leadingWord_blank hrest, List.append_nil, ih]
      exact if_neg (by simpa using hne)

theorem Spaced.cons_blank (h : Spaced text words) (hc : isBlank c = true) :
    Spaced (c :: text) words := by
  cases h with
  | blanks hblank => exact .blanks (List.forall_mem_cons.2 ⟨hc, hblank⟩)
  | @word gap _ _ _ hgap hne hword hrest hwords =>
      have hlonger : ∀ d ∈ c :: gap, isBlank d = true := List.forall_mem_cons.2 ⟨hc, hgap⟩
      exact .word hlonger hne hword hrest hwords

theorem Spaced.consWord (hword : ∀ c ∈ word, isBlank c = false)
    (hrest : ∀ c ∈ rest.head?, isBlank c = true) (h : Spaced rest words) :
    Spaced (word ++ rest) (consWord word words) := by
  cases word with
  | nil => exact h
  | cons c word =>
      have hgap : ∀ c ∈ ([] : List Char), isBlank c = true := nofun
      exact .word hgap (List.cons_ne_nil c word) hword hrest h

/-- The text up to the first blank, and words of what is left. -/
theorem spaced_leadingWord (text : List Char) :
    ∃ rest, text = (leadingWord text).1 ++ rest ∧
      (∀ c ∈ (leadingWord text).1, isBlank c = false) ∧ (∀ c ∈ rest.head?, isBlank c = true) ∧
      Spaced rest (leadingWord text).2 := by
  induction text with
  | nil => exact ⟨[], rfl, nofun, nofun, .blanks nofun⟩
  | cons c text ih =>
      obtain ⟨rest, htext, hword, hrest, hspaced⟩ := ih
      by_cases hc : isBlank c = true
      · rw [leadingWord_cons_blank hc]
        refine ⟨c :: text, rfl, nofun, fun _ h => (Option.some.inj h) ▸ hc, .cons_blank ?_ hc⟩
        have hwords := hspaced.consWord hword hrest
        rwa [← htext] at hwords
      · have hc : isBlank c = false := by simpa using hc
        rw [leadingWord_cons_of_not hc]
        refine ⟨rest, ?_, List.forall_mem_cons.2 ⟨hc, hword⟩, hrest, hspaced⟩
        rw [List.cons_append, ← htext]

/-- The words of a text are what the line is split into. -/
theorem spaced_iff : Spaced text words ↔ splitBlank text = words := by
  refine ⟨Spaced.splitBlank_eq, ?_⟩
  rintro rfl
  obtain ⟨rest, htext, hword, hrest, hspaced⟩ := spaced_leadingWord text
  have hwords := hspaced.consWord hword hrest
  rwa [← htext] at hwords

end Words

section Grammar

variable {token value : List Char} {key other : OptionKey} {setting : Setting} {number : Nat}

/-- A token that names an option. -/
def Gives (token : List Char) (key : OptionKey) (value : List Char) : Prop :=
  token = key.name.toList ++ '=' :: value

/-- A number in ASCII digits, leading zeros allowed. -/
structure Numeral (text : List Char) (number : Nat) : Prop where
  nonempty : text ≠ []
  digits : ∀ c ∈ text, '0' ≤ c ∧ c ≤ '9'
  value : number = Nat.ofDigits 10 (text.reverse.map fun c => c.toNat - '0'.toNat)

/-- The values that the options take. -/
inductive Means : OptionKey → List Char → Setting → Prop where
  | swap {value : List Char} : value ≠ [] → Means .swap value (.swapDevice (String.ofList value))
  | frames {value : List Char} {number : Nat} : Numeral value number → 1 ≤ number →
      number ≤ 2 ^ 20 → Means .frames value (.userFrames number)
  | nextFit : Means .placement "next-fit".toList (.placement .nextFit)
  | firstFit : Means .placement "first-fit".toList (.placement .firstFit)
  | fifo : Means .evict "fifo".toList (.replacement .fifo)
  | clock : Means .evict "clock".toList (.replacement .clock)
  | stack {value : List Char} {number : Nat} : Numeral value number → number * 1024 < 2 ^ 64 →
      Means .stack value (.stackLimit (number * 1024))

/-- A token that names an option, with a value that the option does not take. -/
def Refused (key : OptionKey) (token : List Char) : Prop :=
  ∃ value, Gives token key value ∧ ∀ setting, ¬ Means key value setting

/-- Digits are read one by one, and a number that has got too long stays too long. -/
theorem foldlM_push?_eq_some_iff {text : List Char} :
    text.foldlM Decimal.push? 0 = some number ↔
      number = Nat.ofDigits 10 (text.reverse.map Decimal.digit) ∧ number < 2 ^ 64 := by
  induction text using List.reverseRecOn generalizing number with
  | nil =>
      simp only [List.foldlM_nil, pure, List.reverse_nil, List.map_nil, Nat.ofDigits_nil,
        Option.some.injEq]
      omega
  | append_singleton text c ih =>
      rw [List.foldlM_append, List.reverse_concat, List.map_cons, Nat.ofDigits_cons]
      simp only [List.foldlM_cons, List.foldlM_nil, bind_pure]
      constructor
      · intro h
        obtain ⟨before, hbefore, hlast⟩ := Option.bind_eq_some_iff.1 h
        obtain ⟨rfl, -⟩ := ih.1 hbefore
        obtain ⟨hnumber, hlt⟩ := Decimal.push?_eq_some_iff.1 hlast
        exact ⟨hnumber.trans (Nat.add_comm _ _), hlt⟩
      · rintro ⟨hnumber, hlt⟩
        have hbefore := ih.2 ⟨rfl, by omega⟩
        have hlast := Decimal.push?_eq_some_iff.2 ⟨hnumber.trans (Nat.add_comm _ _), hlt⟩
        exact Option.bind_eq_some_iff.2 ⟨_, hbefore, hlast⟩

/-- What is read as a number is a numeral of 64 bits, with nothing behind it. -/
theorem whole_number_iff {text : List Char} :
    Decimal.number.whole text = some number ↔ Numeral text number ∧ number < 2 ^ 64 := by
  have hdigit (c : Char) : Decimal.isDigit c = true ↔ '0' ≤ c ∧ c ≤ '9' := by
    simp only [Decimal.isDigit, Bool.and_eq_true, decide_eq_true_eq]
  rw [Parser.whole_eq_some_iff, Decimal.number, Parser.mapOption_eq_some_iff]
  constructor
  · rintro ⟨digits, hrun, hvalue⟩
    obtain ⟨htext, hne, hdigits⟩ := Parser.run_eq_some hrun
    obtain ⟨hvalue, hlt⟩ := foldlM_push?_eq_some_iff.1 hvalue
    rw [List.append_nil] at htext
    subst htext
    exact ⟨⟨hne, fun c hc => (hdigit c).1 (hdigits c hc), hvalue⟩, hlt⟩
  · rintro ⟨h, hlt⟩
    refine ⟨text, ?_, foldlM_push?_eq_some_iff.2 ⟨h.value, hlt⟩⟩
    have hend : ∀ c ∈ ([] : List Char).head?, Decimal.isDigit c = false := nofun
    have hrun := Parser.run_append h.nonempty (fun c hc => (hdigit c).2 (h.digits c hc)) hend
    rwa [List.append_nil] at hrun

theorem whole_mapOption_number_iff {α : Type} {f : Nat → Option α} {result : α} :
    (Decimal.number.mapOption f).whole value = some result ↔
      ∃ number, (Numeral value number ∧ number < 2 ^ 64) ∧ f number = some result := by
  rw [Parser.whole_eq_some_iff, Parser.mapOption_eq_some_iff]
  simp only [← Parser.whole_eq_some_iff, whole_number_iff]

theorem whole_framesParser_iff : Setting.framesParser.whole value = some number ↔
    Numeral value number ∧ 1 ≤ number ∧ number ≤ 2 ^ 20 := by
  rw [Setting.framesParser, Parser.verify, whole_mapOption_number_iff]
  constructor
  · rintro ⟨count, ⟨hnumeral, -⟩, h⟩
    obtain ⟨hbounds, rfl⟩ : (1 ≤ count ∧ count ≤ frameLimit) ∧ count = number := by simpa using h
    exact ⟨hnumeral, hbounds⟩
  · rintro ⟨hnumeral, hpos, hle⟩
    have hle' : number ≤ frameLimit := hle
    exact ⟨number, ⟨hnumeral, by omega⟩, by simp [hpos, hle']⟩

theorem whole_sizeParser_iff : Setting.sizeParser.whole value = some number ↔
    ∃ count, Numeral value count ∧ count * 1024 < 2 ^ 64 ∧ number = count * 1024 := by
  rw [Setting.sizeParser, whole_mapOption_number_iff]
  constructor
  · rintro ⟨count, ⟨hnumeral, -⟩, h⟩
    obtain ⟨hlt, rfl⟩ : count * kib < 0x10000000000000000 ∧ count * kib = number := by
      simpa using h
    exact ⟨count, hnumeral, hlt, rfl⟩
  · rintro ⟨count, hnumeral, hlt, rfl⟩
    exact ⟨count, ⟨hnumeral, by omega⟩, if_pos hlt⟩

/-- Where the first of two words does not stand in front of the second, a text is accepted as a whole
if it is one of them. The second is never tried on a text that begins with the first. -/
theorem whole_either_iff {α : Type} {first second : List Char} {one other result : α}
    (hapart : first.isPrefixOf second = false) :
    (Parser.either ((Parser.tag first).value one) ((Parser.tag second).value other)).whole value =
        some result ↔
      (value = first ∧ one = result) ∨ (value = second ∧ other = result) := by
  rw [← Parser.whole_value_tag, ← Parser.whole_value_tag, Parser.whole_eq_some_iff, Parser.either,
    Option.or_eq_some_iff, Parser.whole_eq_some_iff, Parser.whole_eq_some_iff]
  refine or_congr_right (and_iff_right_of_imp fun h => ?_)
  obtain ⟨rfl, -⟩ := Parser.whole_value_tag.1 (Parser.whole_eq_some_iff.2 h)
  simp [Parser.value, Parser.mapOption, Parser.tag, hapart]

theorem ofValue?_eq_some_iff :
    Setting.ofValue? key value = some setting ↔ Means key value setting := by
  constructor
  · intro h
    cases key with
    | swap =>
        obtain ⟨hne, rfl⟩ : value ≠ [] ∧ Setting.swapDevice (String.ofList value) = setting := by
          simpa [Setting.ofValue?] using h
        exact .swap hne
    | frames =>
        obtain ⟨number, hwhole, rfl⟩ := Option.map_eq_some_iff.1 h
        obtain ⟨hnumeral, hpos, hle⟩ := whole_framesParser_iff.1 hwhole
        exact .frames hnumeral hpos hle
    | placement =>
        obtain ⟨name, hwhole, rfl⟩ := Option.map_eq_some_iff.1 h
        obtain ⟨rfl, rfl⟩ | ⟨rfl, rfl⟩ := (whole_either_iff (by decide)).1 hwhole
        · exact .nextFit
        · exact .firstFit
    | evict =>
        obtain ⟨name, hwhole, rfl⟩ := Option.map_eq_some_iff.1 h
        obtain ⟨rfl, rfl⟩ | ⟨rfl, rfl⟩ := (whole_either_iff (by decide)).1 hwhole
        · exact .fifo
        · exact .clock
    | stack =>
        obtain ⟨number, hwhole, rfl⟩ := Option.map_eq_some_iff.1 h
        obtain ⟨count, hnumeral, hlt, rfl⟩ := whole_sizeParser_iff.1 hwhole
        exact .stack hnumeral hlt
  · intro h
    cases h with
    | swap hne => simpa [Setting.ofValue?] using hne
    | frames hnumeral hpos hle =>
        rw [Setting.ofValue?, whole_framesParser_iff.2 ⟨hnumeral, hpos, hle⟩]
        rfl
    | nextFit => rfl
    | firstFit => rfl
    | fifo => rfl
    | clock => rfl
    | stack hnumeral hlt =>
        rw [Setting.ofValue?, whole_sizeParser_iff.2 ⟨_, hnumeral, hlt, rfl⟩]
        rfl

theorem split?_append {name : List Char} (hne : name ≠ [])
    (hletters : ∀ c ∈ name, ('a' ≤ c && c ≤ 'z') = true) (value : List Char) :
    Setting.split? (name ++ '=' :: value) = some (String.ofList name, value) := by
  have hequals : ∀ c ∈ ('=' :: value).head?, ('a' ≤ c && c ≤ 'z') = false := by
    rintro _ ⟨⟩
    decide
  have hname : Setting.nameParser (name ++ '=' :: value) = some (name, value) :=
    Parser.endedBy_eq_some_iff.2
      ⟨'=' :: value, (), Parser.run_append hne hletters hequals, Parser.tag_eq_some_iff.2 rfl⟩
  rw [Setting.split?, hname]
  rfl

theorem OptionKey.letters (key : OptionKey) :
    ∀ c ∈ key.name.toList, ('a' ≤ c && c ≤ 'z') = true := by
  have hall : key.name.toList.all (fun c => 'a' ≤ c && c ≤ 'z') = true := by
    cases key <;> decide
  exact List.all_eq_true.1 hall

theorem Gives.split?_eq (h : Gives token key value) :
    Setting.split? token = some (key.name, value) := by
  rw [h, split?_append (by cases key <;> decide) key.letters, String.ofList_toList]

theorem Gives.unique {value' : List Char} (h : Gives token key value)
    (h' : Gives token other value') : key = other ∧ value = value' := by
  have heq : (key.name, value) = (other.name, value') :=
    Option.some.inj (h.split?_eq.symm.trans h'.split?_eq)
  obtain ⟨hname, hvalue⟩ := Prod.mk.inj heq
  refine ⟨?_, hvalue⟩
  cases key <;> cases other <;> first | rfl | exact absurd hname (by decide)

theorem eq_append_of_split? {name : String} (h : Setting.split? token = some (name, value)) :
    token = name.toList ++ '=' :: value := by
  obtain ⟨⟨letters, rest⟩, hname, heq⟩ := Option.map_eq_some_iff.1 h
  cases heq
  obtain ⟨mid, _, hrun, htag⟩ := Parser.endedBy_eq_some_iff.1 hname
  rw [(Parser.run_eq_some hrun).1, Parser.tag_eq_some_iff.1 htag, String.toList_ofList]
  rfl

theorem ofName?_eq_some_iff {name : String} :
    OptionKey.ofName? name = some key ↔ name = key.name := by
  constructor
  · intro h
    have hfound : OptionKey.all.find? (·.name == name) = some key := h
    have hname := List.find?_some hfound
    exact (beq_iff_eq.1 hname).symm
  · rintro rfl
    cases key <;> decide

/-- What a token sets depends on the option that it names and on its value. -/
theorem Gives.ofToken?_eq (h : Gives token key value) :
    Setting.ofToken? token =
      some ((Setting.ofValue? key value).elim (.error (.invalidValue key)) .ok) := by
  rw [Setting.ofToken?, h.split?_eq]
  simp only [bind, Option.bind_some, ofName?_eq_some_iff.2 rfl]
  cases Setting.ofValue? key value <;> rfl

theorem ofToken?_eq_none (h : ∀ key value, ¬ Gives token key value) :
    Setting.ofToken? token = none := by
  rw [Setting.ofToken?]
  cases hsplit : Setting.split? token with
  | none => rfl
  | some parts =>
      obtain ⟨name, value⟩ := parts
      cases hname : OptionKey.ofName? name with
      | none => simp only [bind, Option.bind_some, hname, Option.bind_none]
      | some key =>
          have hgives := eq_append_of_split? hsplit
          rw [ofName?_eq_some_iff.1 hname] at hgives
          exact absurd hgives (h key value)

theorem Refused.ofToken?_eq (h : Refused key token) :
    Setting.ofToken? token = some (.error (.invalidValue key)) := by
  obtain ⟨value, hgives, hnone⟩ := h
  have hvalue : Setting.ofValue? key value = none := by
    rw [Option.eq_none_iff_forall_ne_some]
    exact fun setting hsome => hnone setting (ofValue?_eq_some_iff.1 hsome)
  rw [hgives.ofToken?_eq, hvalue]
  rfl

theorem Means.ofToken?_eq (h : Means key value setting) (hgives : Gives token key value) :
    Setting.ofToken? token = some (.ok setting) := by
  rw [hgives.ofToken?_eq, ofValue?_eq_some_iff.2 h]
  rfl

theorem exists_means (h : Gives token key value) (haccepted : ¬ Refused key token) :
    ∃ setting, Means key value setting := by
  by_contra hnone
  exact haccepted ⟨value, h, fun setting hmeans => hnone ⟨setting, hmeans⟩⟩

end Grammar

section Reading

variable {words : List (List Char)} {options after : BootOptions} {key : OptionKey}
  {token value : List Char} {setting : Setting}

/-- What an option says of its key; a swap device need not be named. -/
def BootOptions.setting? (options : BootOptions) : OptionKey → Option Setting
  | .swap => options.swapDevice.map .swapDevice
  | .frames => some (.userFrames options.userFrames)
  | .placement => some (.placement options.placement)
  | .evict => some (.replacement options.replacement)
  | .stack => some (.stackLimit options.stackLimit)

theorem BootOptions.ext_setting? (h : ∀ key, options.setting? key = after.setting? key) :
    options = after := by
  cases options
  cases after
  obtain ⟨rfl⟩ := h .frames
  obtain ⟨rfl⟩ := h .placement
  obtain ⟨rfl⟩ := h .evict
  obtain ⟨rfl⟩ := h .stack
  obtain rfl := Option.map_injective (fun _ _ => Setting.swapDevice.inj) (h .swap)
  rfl

theorem Means.setting?_apply (h : Means key value setting) (options : BootOptions)
    (other : OptionKey) :
    (options.apply setting).setting? other =
      if other = key then some setting else options.setting? other := by
  cases h <;> cases other <;> rfl

/-- No token names the option. -/
def Unnamed (words : List (List Char)) (key : OptionKey) : Prop :=
  ∀ token ∈ words, ∀ value, ¬ Gives token key value

/-- The last token that names the option, and its value. -/
def LastValue (words : List (List Char)) (key : OptionKey) (value : List Char) : Prop :=
  ∃ before token later, words = before ++ token :: later ∧ Gives token key value ∧
    Unnamed later key

/-- The option is what the last token says that names it, and as it was if there is none. -/
def Settled (start : BootOptions) (words : List (List Char)) (after : BootOptions)
    (key : OptionKey) : Prop :=
  (Unnamed words key ∧ after.setting? key = start.setting? key) ∨
    ∃ value setting, LastValue words key value ∧ Means key value setting ∧
      after.setting? key = some setting

/-- What a line of these words says. -/
inductive Reading (words : List (List Char)) : Except OptionError BootOptions → Prop where
  /-- The leftmost token with a bad value counts. -/
  | refused {before later : List (List Char)} {token : List Char} {key : OptionKey} :
      words = before ++ token :: later → (∀ earlier ∈ before, ∀ key, ¬ Refused key earlier) →
      Refused key token → Reading words (.error (.invalidValue key))
  | accepted {options : BootOptions} : (∀ token ∈ words, ∀ key, ¬ Refused key token) →
      (∀ key, Settled .default words options key) → Reading words (.ok options)

/-- Applies the tokens from left to right. -/
def BootOptions.read (start : BootOptions) (words : List (List Char)) :
    Except OptionError BootOptions :=
  (words.filterMap Setting.ofToken?).foldlM (fun options setting => options.apply <$> setting) start

theorem BootOptions.parse_eq_read (line : String) :
    BootOptions.parse line = BootOptions.default.read (splitBlank line.toList) := rfl

theorem BootOptions.read_cons_foreign (h : ∀ key value, ¬ Gives token key value)
    (start : BootOptions) (words : List (List Char)) :
    start.read (token :: words) = start.read words := by
  rw [read, read, List.filterMap_cons, ofToken?_eq_none h]

theorem BootOptions.read_cons_means (h : Means key value setting) (hgives : Gives token key value)
    (start : BootOptions) (words : List (List Char)) :
    start.read (token :: words) = (start.apply setting).read words := by
  rw [read, List.filterMap_cons, h.ofToken?_eq hgives]
  rfl

theorem BootOptions.read_cons_refused (h : Refused key token) (start : BootOptions)
    (words : List (List Char)) :
    start.read (token :: words) = .error (.invalidValue key) := by
  rw [read, List.filterMap_cons, h.ofToken?_eq]
  rfl

theorem LastValue.cons (h : LastValue words key value) (token : List Char) :
    LastValue (token :: words) key value := by
  obtain ⟨before, last, later, rfl, hlast⟩ := h
  exact ⟨token :: before, last, later, rfl, hlast⟩

/-- Words that are read say last what counts. -/
theorem BootOptions.exists_read (h : ∀ token ∈ words, ∀ key, ¬ Refused key token)
    (start : BootOptions) :
    ∃ after, start.read words = .ok after ∧ ∀ key, Settled start words after key := by
  induction words generalizing start with
  | nil => exact ⟨start, rfl, fun key => .inl ⟨nofun, rfl⟩⟩
  | cons token words ih =>
      obtain ⟨hnow, hlater⟩ := List.forall_mem_cons.1 h
      by_cases hforeign : ∀ key value, ¬ Gives token key value
      · obtain ⟨after, hread, hsettled⟩ := ih hlater start
        refine ⟨after, (read_cons_foreign hforeign start words).trans hread, fun key => ?_⟩
        obtain ⟨hunnamed, hsame⟩ | ⟨value, setting, hlast, hends⟩ := hsettled key
        · exact .inl ⟨List.forall_mem_cons.2 ⟨hforeign key, hunnamed⟩, hsame⟩
        · exact .inr ⟨value, setting, hlast.cons token, hends⟩
      · obtain ⟨named, value, hgives⟩ : ∃ key value, Gives token key value := by
          simpa using hforeign
        obtain ⟨setting, hmeans⟩ := exists_means hgives (hnow named)
        obtain ⟨after, hread, hsettled⟩ := ih hlater (start.apply setting)
        refine ⟨after, (read_cons_means hmeans hgives start words).trans hread, fun key => ?_⟩
        obtain ⟨hunnamed, hsame⟩ | ⟨last, found, hlast, hends⟩ := hsettled key
        · rw [hmeans.setting?_apply] at hsame
          split at hsame
          · subst key
            exact .inr ⟨value, setting, ⟨[], token, words, rfl, hgives, hunnamed⟩, hmeans, hsame⟩
          · rename_i hne
            have hother : ∀ value, ¬ Gives token key value := fun _ h => hne (h.unique hgives).1
            exact .inl ⟨List.forall_mem_cons.2 ⟨hother, hunnamed⟩, hsame⟩
        · exact .inr ⟨last, found, hlast.cons token, hends⟩

/-- Words behind a bad value are not read. -/
theorem BootOptions.read_refused {before later : List (List Char)}
    (h : ∀ earlier ∈ before, ∀ key, ¬ Refused key earlier) (hrefused : Refused key token)
    (start : BootOptions) :
    start.read (before ++ token :: later) = .error (.invalidValue key) := by
  obtain ⟨mid, hmid, -⟩ := exists_read h start
  rw [read] at hmid
  rw [read, List.filterMap_append, List.foldlM_append, hmid]
  exact read_cons_refused hrefused mid later

theorem exists_leftmost_refused (h : ¬ ∀ token ∈ words, ∀ key, ¬ Refused key token) :
    ∃ before token later key, words = before ++ token :: later ∧
      (∀ earlier ∈ before, ∀ key, ¬ Refused key earlier) ∧ Refused key token := by
  induction words with
  | nil => exact absurd nofun h
  | cons token words ih =>
      by_cases hnow : ∀ key, ¬ Refused key token
      · obtain ⟨before, bad, later, key, rfl, hbefore, hbad⟩ :=
          ih fun hlater => h (List.forall_mem_cons.2 ⟨hnow, hlater⟩)
        exact ⟨token :: before, bad, later, key, rfl, List.forall_mem_cons.2 ⟨hnow, hbefore⟩, hbad⟩
      · obtain ⟨key, hrefused⟩ : ∃ key, Refused key token := by simpa using hnow
        exact ⟨[], token, words, key, rfl, nofun, hrefused⟩

theorem LastValue.unique {other : List Char} (h : LastValue words key value)
    (h' : LastValue words key other) : value = other := by
  obtain ⟨before, token, later, rfl, hgives, hunnamed⟩ := h
  obtain ⟨before', token', later', hwords, hgives', hunnamed'⟩ := h'
  obtain ⟨between, -, hlater⟩ | ⟨between, -, hlater⟩ := List.append_eq_append_iff.1 hwords
  · cases between with
    | nil =>
        cases hlater
        exact (hgives.unique hgives').2
    | cons =>
        cases hlater
        exact absurd hgives' (hunnamed token' (by simp) other)
  · cases between with
    | nil =>
        cases hlater
        exact (hgives.unique hgives').2
    | cons =>
        cases hlater
        exact absurd hgives (hunnamed' token (by simp) value)

theorem LastValue.not_unnamed (h : LastValue words key value) : ¬ Unnamed words key := by
  obtain ⟨before, token, later, rfl, hgives, -⟩ := h
  exact fun hunnamed => hunnamed token (by simp) value hgives

theorem Settled.unique {start other : BootOptions} (h : Settled start words after key)
    (h' : Settled start words other key) : after.setting? key = other.setting? key := by
  obtain ⟨hunnamed, hsame⟩ | ⟨value, setting, hlast, hmeans, hset⟩ := h
  · obtain ⟨-, hsame'⟩ | ⟨_, _, hlast', -⟩ := h'
    · rw [hsame, hsame']
    · exact absurd hunnamed hlast'.not_unnamed
  · obtain ⟨hunnamed, -⟩ | ⟨_, _, hlast', hmeans', hset'⟩ := h'
    · exact absurd hunnamed hlast.not_unnamed
    · obtain rfl := hlast.unique hlast'
      rw [hset, hset', ← ofValue?_eq_some_iff.2 hmeans, ofValue?_eq_some_iff.2 hmeans']

theorem reading_iff {result : Except OptionError BootOptions} :
    Reading words result ↔ BootOptions.default.read words = result := by
  constructor
  · intro h
    cases h with
    | refused hwords hbefore hrefused =>
        rw [hwords]
        exact BootOptions.read_refused hbefore hrefused _
    | @accepted options haccepted hsettled =>
        obtain ⟨after, hread, hafter⟩ := BootOptions.exists_read haccepted .default
        rw [hread]
        exact congrArg Except.ok
          (BootOptions.ext_setting? fun key => (hafter key).unique (hsettled key))
  · rintro rfl
    by_cases haccepted : ∀ token ∈ words, ∀ key, ¬ Refused key token
    · obtain ⟨after, hread, hsettled⟩ := BootOptions.exists_read haccepted .default
      rw [hread]
      exact .accepted haccepted hsettled
    · obtain ⟨before, token, later, key, rfl, hbefore, hrefused⟩ :=
        exists_leftmost_refused haccepted
      rw [BootOptions.read_refused hbefore hrefused]
      exact .refused rfl hbefore hrefused

/-- Words that differ in tokens only that name no option. -/
inductive AlikeWords : List (List Char) → List (List Char) → Prop where
  | nil : AlikeWords [] []
  | same {words words' : List (List Char)} (token : List Char) :
      AlikeWords words words' → AlikeWords (token :: words) (token :: words')
  | inserted {words words' : List (List Char)} {token : List Char} :
      (∀ key value, ¬ Gives token key value) → AlikeWords words words' →
      AlikeWords words (token :: words')
  | removed {words words' : List (List Char)} {token : List Char} :
      (∀ key value, ¬ Gives token key value) → AlikeWords words words' →
      AlikeWords (token :: words) words'

theorem AlikeWords.read_eq {words' : List (List Char)} (h : AlikeWords words words')
    (start : BootOptions) : start.read words = start.read words' := by
  induction h generalizing start with
  | nil => rfl
  | @same words words' token _ ih =>
      rw [BootOptions.read, BootOptions.read, List.filterMap_cons, List.filterMap_cons]
      cases hsets : Setting.ofToken? token with
      | none => exact ih start
      | some result =>
          cases result with
          | error error => rfl
          | ok setting => exact ih (start.apply setting)
  | inserted hforeign _ ih => rw [BootOptions.read_cons_foreign hforeign, ih]
  | removed hforeign _ ih => rw [BootOptions.read_cons_foreign hforeign, ih]

/-- The option was not named, or a token gave it a value that it takes. -/
theorem Settled.default_or_means {start : BootOptions} (h : Settled start words after key) :
    after.setting? key = start.setting? key ∨
      ∃ value setting, Means key value setting ∧ after.setting? key = some setting :=
  h.imp (·.2) fun ⟨value, setting, _, hmeans, hset⟩ => ⟨value, setting, hmeans, hset⟩

/-- Options that a machine can be set up with. -/
structure BootOptions.Usable (options : BootOptions) : Prop where
  swapDevice : options.swapDevice ≠ some ""
  frames : 1 ≤ options.userFrames ∧ options.userFrames ≤ 2 ^ 20
  pool : ∃ pool, FramePool.new options.userFrames = .ok pool
  stackLimit : 1024 ∣ options.stackLimit ∧ options.stackLimit < 2 ^ 64

theorem usable_of_settled (h : ∀ key, Settled .default words options key) : options.Usable := by
  have hframes : 1 ≤ options.userFrames ∧ options.userFrames ≤ 2 ^ 20 := by
    obtain hdefault | ⟨value, setting, hmeans, hset⟩ := (h .frames).default_or_means
    · rw [Setting.userFrames.inj (Option.some.inj hdefault)]
      decide
    · cases hset
      cases hmeans with
      | frames _ hpos hle => exact ⟨hpos, hle⟩
  refine ⟨?_, hframes, ⟨_, if_pos hframes.2⟩, ?_⟩
  · intro hempty
    obtain hdefault | ⟨value, setting, hmeans, hset⟩ := (h .swap).default_or_means
    · rw [BootOptions.setting?, hempty] at hdefault
      cases hdefault
    · rw [BootOptions.setting?, hempty] at hset
      cases hset
      generalize hname : "" = name at hmeans
      cases hmeans with
      | swap hne => exact hne (String.ofList_eq_empty_iff.1 hname.symm)
  · obtain hdefault | ⟨value, setting, hmeans, hset⟩ := (h .stack).default_or_means
    · rw [Setting.stackLimit.inj (Option.some.inj hdefault)]
      decide
    · cases hset
      generalize options.stackLimit = bytes at hmeans
      cases hmeans with
      | stack _ hlt => exact ⟨Nat.dvd_mul_left 1024 _, hlt⟩

/-- What a line says is in its words, and of these in the tokens that name an option. -/
structure FollowsGrammar (line : String) : Prop where
  words : ∃! words, Spaced line.toList words
  /-- The leftmost bad value is the error; without one, the last value of each option counts. -/
  reading : ∀ {words : List (List Char)} {result : Except OptionError BootOptions},
    Spaced line.toList words → (BootOptions.parse line = result ↔ Reading words result)
  /-- Neither the tokens of others nor the blanks matter. -/
  alike : ∀ {other : String} {words words' : List (List Char)}, Spaced line.toList words →
    Spaced other.toList words' → AlikeWords words words' →
    BootOptions.parse other = BootOptions.parse line
  usable : ∀ {options : BootOptions}, BootOptions.parse line = .ok options → options.Usable

theorem parse_followsGrammar (line : String) : FollowsGrammar line where
  words := ⟨splitBlank line.toList, spaced_iff.2 rfl, fun _ h => h.splitBlank_eq.symm⟩
  reading h := by
    rw [reading_iff, BootOptions.parse_eq_read, h.splitBlank_eq]
  alike h h' halike := by
    rw [BootOptions.parse_eq_read, BootOptions.parse_eq_read, h.splitBlank_eq, h'.splitBlank_eq,
      halike.read_eq]
  usable h := by
    rw [BootOptions.parse_eq_read, ← reading_iff] at h
    cases h with
    | accepted _ hsettled => exact usable_of_settled hsettled

end Reading
end DemandPaging
