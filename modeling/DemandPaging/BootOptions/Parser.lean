/-!
Parsers of a text. One that accepts what stands in front of a text yields what it makes of it, and
the rest of the text.
-/
namespace DemandPaging

abbrev Parser (α : Type) := List Char → Option (α × List Char)

namespace Parser

variable {α β : Type} {p : Char → Bool} {word text front rest : List Char}

/-- Accepts one word. -/
def tag (word : List Char) : Parser Unit := fun text =>
  if word.isPrefixOf text then some ((), text.drop word.length) else none

/-- Accepts all characters up to the first one without the property, if there are any. -/
def run (p : Char → Bool) : Parser (List Char) := fun text =>
  if text.takeWhile p = [] then none else some (text.takeWhile p, text.dropWhile p)

/-- Makes something else of what `parser` yields; where `f` makes nothing of it, nothing is
accepted. -/
def mapOption (f : α → Option β) (parser : Parser α) : Parser β := fun text => do
  let (found, rest) ← parser text
  let result ← f found
  return (result, rest)

/-- Yields `result` whatever it is that `parser` yields. -/
def value (result : β) (parser : Parser α) : Parser β := parser.mapOption fun _ => some result

def verify (accepts : α → Bool) (parser : Parser α) : Parser α :=
  parser.mapOption fun result => if accepts result then some result else none

/-- Accepts what the first parser accepts, and if that is nothing, what the second does. -/
def either (first second : Parser α) : Parser α := fun text => (first text).or (second text)

/-- Accepts what `parser` accepts and behind it what `last` does, and yields what `parser` makes of
it. -/
def endedBy (parser : Parser α) (last : Parser β) : Parser α := fun text => do
  let (result, rest) ← parser text
  let (_, rest) ← last rest
  return (result, rest)

/-- What a parser makes of a text that it accepts as a whole. -/
def whole (parser : Parser α) (text : List Char) : Option α :=
  match parser text with
  | some (result, []) => some result
  | _ => none

theorem tag_eq_some_iff {found : Unit} :
    tag word text = some (found, rest) ↔ text = word ++ rest := by
  rw [tag]
  split
  · rename_i hfront
    obtain ⟨behind, rfl⟩ := List.isPrefixOf_iff_prefix.1 hfront
    simp
  · rename_i hfront
    refine ⟨nofun, ?_⟩
    rintro rfl
    exact absurd (List.isPrefixOf_iff_prefix.2 (List.prefix_append word rest)) hfront

theorem run_append (hne : front ≠ []) (hfront : ∀ c ∈ front, p c = true)
    (hrest : ∀ c ∈ rest.head?, p c = false) : run p (front ++ rest) = some (front, rest) := by
  have htake : (front ++ rest).takeWhile p = front := by
    rw [List.takeWhile_append_of_pos hfront]
    cases rest with
    | nil => simp
    | cons c rest => simp [hrest c rfl]
  have hdrop : (front ++ rest).dropWhile p = rest := by
    rw [List.dropWhile_append_of_pos hfront]
    cases rest with
    | nil => rfl
    | cons c rest => simp [hrest c rfl]
  rw [run, htake, hdrop, if_neg hne]

theorem run_eq_some (h : run p text = some (front, rest)) :
    text = front ++ rest ∧ front ≠ [] ∧ ∀ c ∈ front, p c = true := by
  rw [run] at h
  split at h
  · cases h
  · rename_i hne
    cases h
    exact ⟨List.takeWhile_append_dropWhile.symm, hne, List.all_eq_true.1 List.all_takeWhile⟩

theorem mapOption_eq_some_iff {f : α → Option β} {parser : Parser α} {result : β} :
    parser.mapOption f text = some (result, rest) ↔
      ∃ found, parser text = some (found, rest) ∧ f found = some result := by
  simp only [mapOption, bind, Option.bind_eq_some_iff, Prod.exists, pure, Option.some.injEq,
    Prod.mk.injEq]
  constructor
  · rintro ⟨found, _, hparser, _, hresult, rfl, rfl⟩
    exact ⟨found, hparser, hresult⟩
  · rintro ⟨found, hparser, hresult⟩
    exact ⟨found, rest, hparser, result, hresult, rfl, rfl⟩

theorem endedBy_eq_some_iff {parser : Parser α} {last : Parser β} {result : α} :
    parser.endedBy last text = some (result, rest) ↔
      ∃ mid found, parser text = some (result, mid) ∧ last mid = some (found, rest) := by
  simp only [endedBy, bind, Option.bind_eq_some_iff, Prod.exists, pure, Option.some.injEq,
    Prod.mk.injEq]
  constructor
  · rintro ⟨_, mid, hparser, found, _, hlast, rfl, rfl⟩
    exact ⟨mid, found, hparser, hlast⟩
  · rintro ⟨mid, found, hparser, hlast⟩
    exact ⟨result, mid, hparser, found, rest, hlast, rfl, rfl⟩

theorem whole_eq_some_iff {parser : Parser α} {result : α} :
    parser.whole text = some result ↔ parser text = some (result, []) := by
  rw [whole]
  split
  · rename_i hparser
    simp [hparser]
  · rename_i hparser
    exact ⟨nofun, fun h => absurd h (hparser result)⟩

/-- A word is accepted as a whole by its own tag alone. -/
theorem whole_value_tag {result found : α} :
    ((tag word).value result).whole text = some found ↔ text = word ∧ result = found := by
  rw [whole_eq_some_iff, value, mapOption_eq_some_iff]
  constructor
  · rintro ⟨_, htag, hresult⟩
    rw [tag_eq_some_iff, List.append_nil] at htag
    exact ⟨htag, Option.some.inj hresult⟩
  · rintro ⟨rfl, rfl⟩
    exact ⟨(), tag_eq_some_iff.2 (List.append_nil text).symm, rfl⟩

end Parser

end DemandPaging
