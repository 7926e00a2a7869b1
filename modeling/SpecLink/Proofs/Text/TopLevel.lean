import SpecLink.Autolink
import SpecLink.Proofs.Text.Blanks

/-!
# The pieces of a text outside parentheses

A separator outside parentheses cuts a text in one way only: the pieces, joined by the separator,
give the text back, they hold no separator outside parentheses, and all but the last close what they
open. Main statement: `splitTopLevel_unique`.
-/
namespace SpecLink.Text

/-- The number of open parentheses behind some characters. -/
def depthBehind (depth : Nat) (cs : List Char) : Nat := cs.foldl depthAfter depth

/-- Wherever the separator stands in the characters, some parenthesis is open. -/
def Encloses (sep : Char) (depth : Nat) (cs : List Char) : Prop :=
  ∀ before after, cs = before ++ sep :: after → depthBehind depth before ≠ 0

/-- Pieces that a separator outside parentheses leaves. -/
structure ArePieces (sep : Char) (pieces : List (List Char)) : Prop where
  nonempty : pieces ≠ []
  enclosed : ∀ piece ∈ pieces, Encloses sep 0 piece
  closed : ∀ piece ∈ pieces.dropLast, depthBehind 0 piece = 0

/-- The texts are the pieces of a text between separators outside parentheses. -/
structure IsSplitting (sep : Char) (s : String) (parts : List String) : Prop where
  pieces : ArePieces sep (parts.map String.toList)
  joined : (String.singleton sep).intercalate parts = s

variable {sep c : Char} {depth : Nat} {cs : List Char} {pieces : List (List Char)}

@[simp] theorem depthBehind_nil : depthBehind depth [] = depth := rfl

@[simp] theorem depthBehind_cons :
    depthBehind depth (c :: cs) = depthBehind (depthAfter depth c) cs := rfl

@[simp] theorem depthBehind_append (before after : List Char) :
    depthBehind depth (before ++ after) = depthBehind (depthBehind depth before) after :=
  List.foldl_append

theorem depthAfter_of_ordinary (ordinary : c ∉ ['(', ')']) : depthAfter depth c = depth := by
  simp only [List.mem_cons, List.not_mem_nil, or_false, not_or] at ordinary
  simp [depthAfter, ordinary]

theorem depthBehind_of_ordinary (depth : Nat) (ordinary : ∀ c ∈ cs, c ∉ ['(', ')']) :
    depthBehind depth cs = depth := by
  induction cs generalizing depth with
  | nil => rfl
  | cons c rest ih =>
    rw [depthBehind_cons, depthAfter_of_ordinary (ordinary c List.mem_cons_self)]
    exact ih depth fun d member => ordinary d (List.mem_cons_of_mem c member)

theorem encloses_nil : Encloses sep depth [] := by
  intro before after empty
  simp at empty

theorem encloses_cons_iff : Encloses sep depth (c :: cs) ↔
    ¬ (c = sep ∧ depth = 0) ∧ Encloses sep (depthAfter depth c) cs := by
  constructor
  · intro enclosed
    constructor
    · rintro ⟨rfl, rfl⟩
      exact enclosed [] cs rfl rfl
    · intro before after split
      exact enclosed (c :: before) after (by rw [split, List.cons_append])
  · rintro ⟨here, later⟩ before after split
    cases before with
    | nil =>
      obtain ⟨rfl, rfl⟩ := List.cons.inj split
      exact fun outside => here ⟨rfl, outside⟩
    | cons d before =>
      obtain ⟨rfl, rfl⟩ := List.cons.inj split
      exact later before after rfl

/-- Behind characters other than the separator, what they leave open counts. -/
theorem encloses_append {sep : Char} {depth : Nat} {before after : List Char}
    (other : sep ∉ before) (enclosed : Encloses sep (depthBehind depth before) after) :
    Encloses sep depth (before ++ after) := by
  induction before generalizing depth with
  | nil => exact enclosed
  | cons c rest ih =>
    obtain ⟨here, later⟩ := List.ne_and_not_mem_of_not_mem_cons other
    exact encloses_cons_iff.2 ⟨fun same => here same.1.symm, ih later enclosed⟩

/-! ## The pieces of the splitter -/

theorem arePieces_cons_iff {first : List Char} {others : List (List Char)} :
    ArePieces sep (first :: others) ↔ Encloses sep 0 first ∧
      (others = [] ∨ depthBehind 0 first = 0 ∧ ArePieces sep others) := by
  constructor
  · rintro ⟨-, enclosed, closed⟩
    refine ⟨enclosed first List.mem_cons_self, ?_⟩
    by_cases last : others = []
    · exact .inl last
    · rw [List.dropLast_cons_of_ne_nil last] at closed
      exact .inr ⟨closed first List.mem_cons_self, last,
        fun piece member => enclosed piece (List.mem_cons_of_mem first member),
        fun piece member => closed piece (List.mem_cons_of_mem first member)⟩
  · rintro ⟨enclosed, rfl | ⟨closed, later⟩⟩
    · exact ⟨List.cons_ne_nil _ _, by simpa using enclosed, by simp⟩
    · refine ⟨List.cons_ne_nil _ _, by simpa using ⟨enclosed, later.enclosed⟩, ?_⟩
      rw [List.dropLast_cons_of_ne_nil later.nonempty]
      simpa using ⟨closed, later.closed⟩

/-- Read inside parentheses, the first piece alone begins inside them. -/
theorem exists_splitOutside (sep : Char) (depth : Nat) (cs : List Char) :
    ∃ first others, splitOutside sep depth cs = first :: others ∧ Encloses sep depth first ∧
      (others = [] ∨ depthBehind depth first = 0 ∧ ArePieces sep others) := by
  induction cs generalizing depth with
  | nil => exact ⟨[], [], rfl, encloses_nil, .inl rfl⟩
  | cons c rest ih =>
    rw [splitOutside]
    split
    next separates =>
      -- The separator ends an empty piece; behind it the text is read afresh.
      obtain ⟨-, outside⟩ := Bool.and_eq_true_iff.1 separates
      obtain ⟨first, others, split, enclosed, later⟩ := ih 0
      rw [split]
      refine ⟨[], first :: others, rfl, encloses_nil, .inr ⟨?_, ?_⟩⟩
      · simpa using outside
      · exact arePieces_cons_iff.2 ⟨enclosed, later⟩
    next kept =>
      obtain ⟨first, others, split, enclosed, later⟩ := ih (depthAfter depth c)
      rw [split]
      refine ⟨c :: first, others, rfl, encloses_cons_iff.2 ⟨?_, enclosed⟩, later⟩
      simpa using kept

theorem arePieces_splitOutside (sep : Char) (cs : List Char) :
    ArePieces sep (splitOutside sep 0 cs) := by
  obtain ⟨first, others, split, enclosed, later⟩ := exists_splitOutside sep 0 cs
  rw [split]
  exact arePieces_cons_iff.2 ⟨enclosed, later⟩

theorem splitOutside_ne_nil (sep : Char) (depth : Nat) (cs : List Char) :
    splitOutside sep depth cs ≠ [] := by
  obtain ⟨first, others, split, -⟩ := exists_splitOutside sep depth cs
  simp [split]

theorem intercalate_splitOutside (sep : Char) (depth : Nat) (cs : List Char) :
    [sep].intercalate (splitOutside sep depth cs) = cs := by
  induction cs generalizing depth with
  | nil => rfl
  | cons c rest ih =>
    rw [splitOutside]
    split
    next separates =>
      have same : c = sep := by simpa using (Bool.and_eq_true_iff.1 separates).1
      obtain ⟨first, others, split⟩ := List.exists_cons_of_ne_nil (splitOutside_ne_nil sep 0 rest)
      rw [split, List.intercalate_cons_cons, ← split, ih, same]
      rfl
    next =>
      have joined := ih (depthAfter depth c)
      cases split : splitOutside sep (depthAfter depth c) rest with
      | nil => exact absurd split (splitOutside_ne_nil sep _ rest)
      | cons first others =>
        rw [split] at joined
        rw [extendFirst, ← joined]
        cases others <;> simp

/-- A separator outside parentheses has a first occurrence, and what stands before it closes what it
opens. -/
theorem exists_split_of_not_encloses {sep : Char} {cs : List Char} (open_ : ¬ Encloses sep 0 cs) :
    ∃ before after, cs = before ++ sep :: after ∧ Encloses sep 0 before ∧
      depthBehind 0 before = 0 := by
  obtain ⟨first, others, split, enclosed, later⟩ := exists_splitOutside sep 0 cs
  have joined := intercalate_splitOutside sep 0 cs
  rw [split] at joined
  cases others with
  | nil =>
    rw [List.intercalate_singleton] at joined
    exact absurd (joined ▸ enclosed) open_
  | cons second others =>
    rw [List.intercalate_cons_cons, List.append_assoc] at joined
    exact ⟨first, _, joined.symm, enclosed, (later.resolve_left (List.cons_ne_nil _ _)).1⟩

/-! ## No other pieces -/

/-- A text without a separator outside parentheses is one piece. -/
theorem splitOutside_of_encloses (enclosed : Encloses sep depth cs) :
    splitOutside sep depth cs = [cs] := by
  induction cs generalizing depth with
  | nil => rfl
  | cons c rest ih =>
    obtain ⟨here, later⟩ := encloses_cons_iff.1 enclosed
    rw [splitOutside, if_neg (by simpa using here), ih later, extendFirst]

/-- Where all parentheses are closed, a separator parts the pieces before it from those behind. -/
theorem splitOutside_append (ordinary : sep ∉ ['(', ')']) {before : List Char}
    (closed : depthBehind depth before = 0) (after : List Char) :
    splitOutside sep depth (before ++ sep :: after) =
      splitOutside sep depth before ++ splitOutside sep 0 after := by
  induction before generalizing depth with
  | nil =>
    have outside : depth = 0 := closed
    simp [splitOutside, outside]
  | cons c rest ih =>
    rw [depthBehind_cons] at closed
    rw [List.cons_append, splitOutside, splitOutside]
    split
    next separates =>
      obtain ⟨same, outside⟩ : c = sep ∧ depth = 0 := by simpa using separates
      rw [same, outside, depthAfter_of_ordinary ordinary] at closed
      rw [ih closed, List.cons_append]
    next =>
      rw [ih closed]
      obtain ⟨first, others, split⟩ :=
        List.exists_cons_of_ne_nil (splitOutside_ne_nil sep (depthAfter depth c) rest)
      rw [split, List.cons_append, extendFirst, extendFirst, List.cons_append]

theorem splitOutside_intercalate (ordinary : sep ∉ ['(', ')']) (arePieces : ArePieces sep pieces) :
    splitOutside sep 0 ([sep].intercalate pieces) = pieces := by
  induction pieces with
  | nil => exact absurd rfl arePieces.nonempty
  | cons first others ih =>
    obtain ⟨enclosed, later⟩ := arePieces_cons_iff.1 arePieces
    have alone := splitOutside_of_encloses enclosed
    cases others with
    | nil => rw [List.intercalate_singleton, alone]
    | cons next others =>
      obtain ⟨closed, later⟩ := later.resolve_left (List.cons_ne_nil next others)
      rw [List.intercalate_cons_cons, List.append_assoc, List.singleton_append,
        splitOutside_append ordinary closed, alone, ih later, List.singleton_append]

/-! ## Pieces without blanks around them -/

theorem ordinary_of_isBlank (blank : isBlank c = true) : c ∉ ['(', ')'] := by
  simp only [List.mem_cons, List.not_mem_nil, or_false, not_or]
  constructor
  · rintro rfl
    exact absurd blank (by decide)
  · rintro rfl
    exact absurd blank (by decide)

/-- A text is its trimmed form with blanks before and behind it. -/
theorem exists_trimChars (cs : List Char) : ∃ front back, cs = front ++ (trimChars cs ++ back) ∧
    (∀ c ∈ front, isBlank c = true) ∧ ∀ c ∈ back, isBlank c = true := by
  refine ⟨cs.takeWhile isBlank, (dropBlanks cs).rtakeWhile isBlank, ?_, ?_, ?_⟩
  · rw [trimChars, dropBlanksEnd_eq, List.rdropWhile_append_rtakeWhile, dropBlanks,
      List.takeWhile_append_dropWhile]
  · exact fun c member => List.mem_takeWhile_imp member
  · exact fun c member => List.mem_rtakeWhile_imp member

theorem length_trim_le (s : String) : (trim s).toList.length ≤ s.toList.length := by
  obtain ⟨front, back, split, -⟩ := exists_trimChars s.toList
  rw [trim, String.toList_ofList]
  conv => rhs; rw [split]
  simp only [List.length_append]
  omega

theorem depthBehind_trimChars (cs : List Char) :
    depthBehind depth (trimChars cs) = depthBehind depth cs := by
  obtain ⟨front, back, split, frontBlank, backBlank⟩ := exists_trimChars cs
  have keepsFront := depthBehind_of_ordinary depth fun c member =>
    ordinary_of_isBlank (frontBlank c member)
  have keepsBack := fun depth => depthBehind_of_ordinary depth fun c member =>
    ordinary_of_isBlank (backBlank c member)
  conv => rhs; rw [split]
  rw [depthBehind_append, depthBehind_append, keepsFront, keepsBack]

theorem Encloses.trimChars (enclosed : Encloses sep depth cs) :
    Encloses sep depth (trimChars cs) := by
  obtain ⟨front, back, split, frontBlank, -⟩ := exists_trimChars cs
  intro before after parts
  have keepsFront := depthBehind_of_ordinary depth fun c member =>
    ordinary_of_isBlank (frontBlank c member)
  have outer := enclosed (front ++ before) (after ++ back) (by rw [split, parts]; simp)
  rwa [depthBehind_append, keepsFront] at outer

/-- To change pieces without a change of what they open and enclose. -/
theorem ArePieces.map {change : List Char → List Char} (arePieces : ArePieces sep pieces)
    (encloses : ∀ piece, Encloses sep 0 piece → Encloses sep 0 (change piece))
    (keeps : ∀ piece, depthBehind 0 (change piece) = depthBehind 0 piece) :
    ArePieces sep (pieces.map change) := by
  refine ⟨by simpa using arePieces.nonempty, ?_, ?_⟩
  · intro piece member
    obtain ⟨whole, listed, rfl⟩ := List.mem_map.1 member
    exact encloses whole (arePieces.enclosed whole listed)
  · intro piece member
    rw [← List.map_dropLast] at member
    obtain ⟨whole, listed, rfl⟩ := List.mem_map.1 member
    rw [keeps]
    exact arePieces.closed whole listed

theorem ArePieces.filter (arePieces : ArePieces sep pieces) (keep : List Char → Bool) :
    pieces.filter keep = [] ∨ ArePieces sep (pieces.filter keep) := by
  induction pieces with
  | nil => exact .inl rfl
  | cons first others ih =>
    obtain ⟨enclosed, later⟩ := arePieces_cons_iff.1 arePieces
    -- What follows the first piece is closed before it, whether or not that piece is kept.
    have rest : others.filter keep = [] ∨
        depthBehind 0 first = 0 ∧ ArePieces sep (others.filter keep) := by
      rcases later with rfl | ⟨closed, later⟩
      · exact .inl rfl
      · exact (ih later).imp_right fun kept => ⟨closed, kept⟩
    cases kept : keep first with
    | true =>
      rw [List.filter_cons_of_pos kept]
      exact .inr (arePieces_cons_iff.2 ⟨enclosed, rest⟩)
    | false =>
      rw [List.filter_cons_of_neg (by simp [kept])]
      exact rest.imp_right And.right

/-- The second character between the pieces may be counted to the pieces. -/
theorem intercalate_two (sep c : Char) (first : List Char) (others : List (List Char)) :
    [sep, c].intercalate (first :: others) =
      [sep].intercalate (first :: others.map (c :: ·)) := by
  induction others generalizing first with
  | nil => rfl
  | cons next others ih =>
    rw [List.intercalate_cons_cons, ih next, List.map_cons, List.intercalate_cons_cons]
    cases others <;> simp

/-- Pieces that are joined with a space behind each separator come back with that space. -/
theorem splitOutside_intercalate_space {first : List Char} {others : List (List Char)}
    (arePieces : ArePieces ',' (first :: others)) :
    splitOutside ',' 0 ([',', ' '].intercalate (first :: others)) =
      first :: others.map (' ' :: ·) := by
  have space : ' ' ∉ ['(', ')'] := by decide
  have spaced : ArePieces ',' (first :: others.map (' ' :: ·)) := by
    obtain ⟨enclosed, later⟩ := arePieces_cons_iff.1 arePieces
    refine arePieces_cons_iff.2 ⟨enclosed, later.imp ?_ ?_⟩
    · rintro rfl
      rfl
    · rintro ⟨closed, later⟩
      refine ⟨closed, later.map (fun piece enclosed => ?_) fun piece => ?_⟩
      · rw [encloses_cons_iff, depthAfter_of_ordinary space]
        exact ⟨by decide, enclosed⟩
      · rw [depthBehind_cons, depthAfter_of_ordinary space]
  rw [intercalate_two, splitOutside_intercalate (by decide) spaced]

/-- The values of a list between commas, as characters. -/
def valueChars (cs : List Char) : List (List Char) :=
  ((splitOutside ',' 0 cs).map trimChars).filter fun piece => !piece.isEmpty

theorem trimChars_cons_of_isBlank (blank : isBlank c = true) (cs : List Char) :
    trimChars (c :: cs) = trimChars cs := by
  rw [trimChars, trimChars, dropBlanks, List.dropWhile_cons_of_pos blank, dropBlanks]

theorem valueChars_intercalate (cs : List Char) :
    valueChars ([',', ' '].intercalate (valueChars cs)) = valueChars cs := by
  have trimmed : ∀ piece ∈ valueChars cs, trimChars piece = piece ∧ piece ≠ [] := by
    intro piece member
    obtain ⟨listed, nonempty⟩ := List.mem_filter.1 member
    obtain ⟨whole, -, rfl⟩ := List.mem_map.1 listed
    exact ⟨trimChars_trimChars whole, by simpa using nonempty⟩
  have arePieces : valueChars cs = [] ∨ ArePieces ',' (valueChars cs) := by
    apply ArePieces.filter
    exact (arePieces_splitOutside ',' cs).map (fun _ => Encloses.trimChars)
      fun _ => depthBehind_trimChars _
  rcases arePieces with none | arePieces
  · rw [none]
    rfl
  · obtain ⟨first, others, values⟩ := List.exists_cons_of_ne_nil arePieces.nonempty
    rw [values] at arePieces trimmed ⊢
    have clean : (others.map (' ' :: ·)).map trimChars = others := by
      rw [List.map_map]
      refine (List.map_congr_left fun piece member => ?_).trans (List.map_id others)
      rw [Function.comp_apply, trimChars_cons_of_isBlank (by decide)]
      exact (trimmed piece (List.mem_cons_of_mem first member)).1
    rw [valueChars, splitOutside_intercalate_space arePieces, List.map_cons, clean,
      (trimmed first List.mem_cons_self).1, List.filter_eq_self]
    intro piece member
    simpa using (trimmed piece member).2

theorem scopeValues_eq (value : String) :
    Element.scopeValues value = (valueChars value.toList).map String.ofList := by
  have trimmed : trim ∘ String.ofList = String.ofList ∘ trimChars := by
    funext piece
    simp [trim]
  have nonempty : (fun s : String => !s.isEmpty) ∘ String.ofList = fun cs => !cs.isEmpty := by
    funext piece
    rw [Function.comp_apply, Bool.eq_iff_iff]
    simp
  rw [Element.scopeValues, splitTopLevel, valueChars, List.map_map, trimmed, ← List.map_map,
    List.filter_map, nonempty]

/-! ## The splitting of a text -/

theorem toList_join (sep : Char) (parts : List String) :
    ((String.singleton sep).intercalate parts).toList =
      [sep].intercalate (parts.map String.toList) := by
  rw [String.toList_intercalate, String.toList_singleton]

/-- Between separators outside parentheses a text has one splitting; where the parentheses are
closed it can be taken apart, and the values of a list come back from their list. -/
theorem splitTopLevel_unique {sep : Char} (ordinary : sep ∉ ['(', ')']) :
    (∀ s parts, IsSplitting sep s parts ↔ parts = splitTopLevel sep s) ∧
    (∀ a b : String, depthBehind 0 a.toList = 0 →
      splitTopLevel sep (a ++ String.singleton sep ++ b) =
        splitTopLevel sep a ++ splitTopLevel sep b) ∧
    ∀ value, Element.scopeValues (", ".intercalate (Element.scopeValues value)) =
      Element.scopeValues value := by
  refine ⟨fun s parts => ⟨fun splitting => ?_, ?_⟩, fun a b closed => ?_, fun value => ?_⟩
  · have back := splitOutside_intercalate ordinary splitting.pieces
    rw [← toList_join, splitting.joined] at back
    rw [splitTopLevel, back, List.map_map]
    simp
  · rintro rfl
    have pieces : (splitTopLevel sep s).map String.toList = splitOutside sep 0 s.toList := by
      rw [splitTopLevel, List.map_map]
      simp [Function.comp_def]
    constructor
    · rw [pieces]
      exact arePieces_splitOutside sep s.toList
    · rw [← String.toList_inj, toList_join, pieces, intercalate_splitOutside]
  · rw [splitTopLevel, String.toList_append, String.toList_append, String.toList_singleton,
      List.append_assoc, List.singleton_append, splitOutside_append ordinary closed,
      List.map_append]
    rfl
  · have comma : ", ".toList = [',', ' '] := by decide
    rw [scopeValues_eq, scopeValues_eq, String.toList_intercalate, List.map_map, comma]
    simp only [Function.comp_def, String.toList_ofList, List.map_id']
    rw [valueChars_intercalate]

/-- Two signatures, an empty value and one that opens more than it closes. -/
theorem splitTopLevel_signatures :
    ',' ∉ ['(', ')'] ∧
    IsSplitting ',' "é(a, b)), (c,),, f(x, y" ["é(a, b))", " (c,)", "", " f(x, y"] ∧
    splitTopLevel ',' ("é(a, b))" ++ String.singleton ',' ++ " (c,),, f(x, y") =
      splitTopLevel ',' "é(a, b))" ++ splitTopLevel ',' " (c,),, f(x, y" ∧
    Element.scopeValues "é(a, b)), (c,),, f(x, y" = ["é(a, b))", "(c,)", "f(x, y"] ∧
    Element.scopeValues "é(a, b)), (c,), f(x, y" = ["é(a, b))", "(c,)", "f(x, y"] := by
  have ordinary : ',' ∉ ['(', ')'] := by decide
  obtain ⟨splitting, append, values⟩ := splitTopLevel_unique ordinary
  have read : Element.scopeValues "é(a, b)), (c,),, f(x, y" = ["é(a, b))", "(c,)", "f(x, y"] := by
    decide +kernel
  have joined : ", ".intercalate ["é(a, b))", "(c,)", "f(x, y"] = "é(a, b)), (c,), f(x, y" := by
    decide +kernel
  refine ⟨ordinary, ?_, ?_, read, ?_⟩
  · exact (splitting _ _).2 (by decide +kernel)
  · exact append _ _ (by decide +kernel)
  · rw [← joined, ← read]
    exact values _

end SpecLink.Text
