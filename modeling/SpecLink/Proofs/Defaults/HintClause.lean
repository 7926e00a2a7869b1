import SpecLink.Proofs.Anchor.Listing
import SpecLink.Proofs.Defaults.Clauses
import SpecLink.Proofs.Hint
import SpecLink.Proofs.Text.Normal

/-!
# Clauses of hints read back

The clause of a hint is the spec, the kind in parentheses and the text as its one term. A slash in
the text makes several terms of it, and a comma outside parentheses several clauses; with neither of
them the clause is read as the rule that the hint stands for. Main statement:
`parseMetadata_metadataClause`.
-/
namespace SpecLink

namespace Defaults

/-- A small ASCII letter, a digit or a hyphen. -/
def isSpecChar (c : Char) : Bool := c.isLower || c.isDigit || c == '-'

/-- A word such as spec ids are: small ASCII letters, digits and hyphens. -/
structure IsSpecName (s : String) : Prop where
  nonempty : s.toList ≠ []
  plain : ∀ c ∈ s.toList, isSpecChar c = true

theorem isSpecName_iff {s : String} :
    IsSpecName s ↔ (!s.toList.isEmpty && s.toList.all isSpecChar) = true := by
  rw [Bool.and_eq_true_iff, Bool.not_eq_true', List.isEmpty_eq_false_iff, List.all_eq_true]
  exact ⟨fun isName => ⟨isName.nonempty, isName.plain⟩, fun check => ⟨check.1, check.2⟩⟩

instance (s : String) : Decidable (IsSpecName s) := decidable_of_iff _ isSpecName_iff.symm

theorem isSpecChar_ascii : ∀ n < 128, isSpecChar (Char.ofNat n) = true →
    isNameChar (Char.ofNat n) = true ∧ Text.isBlank (Char.ofNat n) = false ∧
      Char.ofNat n ∉ ['(', ')', ','] ∧ (Char.ofNat n).toLower = Char.ofNat n := by
  decide +kernel

theorem isSpecChar_cases {c : Char} (plain : isSpecChar c = true) :
    isNameChar c = true ∧ Text.isBlank c = false ∧ c ∉ ['(', ')', ','] ∧ Text.Settled c := by
  have ascii : c.toNat < 128 := by
    simp only [isSpecChar, Bool.or_eq_true, beq_iff_eq] at plain
    rcases plain with (lower | digit) | rfl
    · obtain ⟨-, below⟩ := Bool.and_eq_true_iff.1 lower
      exact Nat.lt_of_le_of_lt (of_decide_eq_true below) (by decide)
    · obtain ⟨-, below⟩ := Bool.and_eq_true_iff.1 digit
      exact Nat.lt_of_le_of_lt (of_decide_eq_true below) (by decide)
    · decide
  have cases := isSpecChar_ascii c.toNat ascii
  rw [Char.ofNat_toNat] at cases
  obtain ⟨isName, nonblank, ordinary, lower⟩ := cases plain
  have settled := Text.settled_ascii c.toNat ascii
  rw [Char.ofNat_toNat, lower] at settled
  exact ⟨isName, nonblank, ordinary, settled⟩

theorem isSpecName_name (kind : DefinitionKind) : IsSpecName kind.name := by
  have check : ∀ kind ∈ DefinitionKind.all, IsSpecName kind.name := by decide +kernel
  exact check kind kind.mem_all

variable {spec : String} {kind : DefinitionKind}

theorem takeName?_append {name : String} (isName : IsSpecName name) (stop : Char)
    (stops : isNameChar stop = false) (rest : List Char) :
    takeName? (name.toList ++ stop :: rest) = some (name, stop :: rest) := by
  have inName : ∀ c ∈ name.toList, isNameChar c = true := fun c member =>
    (isSpecChar_cases (isName.plain c member)).1
  obtain ⟨first, others, letters⟩ := List.exists_cons_of_ne_nil isName.nonempty
  rw [takeName?, List.takeWhile_append_of_pos inName, List.dropWhile_append_of_pos inName,
    List.takeWhile_cons_of_neg (by simp [stops]), List.dropWhile_cons_of_neg (by simp [stops]),
    List.append_nil]
  simp only [letters]
  rw [← letters, String.ofList_toList]

/-- The front of a clause: the spec and the kind in parentheses. -/
def clauseFront (spec : String) (kind : DefinitionKind) : List Char :=
  spec.toList ++ ' ' :: '(' :: (kind.name.toList ++ [')'])

/-- Behind spec and kind a clause goes on with blanks and its terms on one line. -/
theorem parse?_clauseFront (isName : IsSpecName spec) (rest : List Char) :
    Clause.parse? (String.ofList (clauseFront spec kind ++ rest)) =
      (takeBlanks? rest).bind fun terms =>
        if terms.contains '\n' then none else some ⟨spec, kind.name, none, String.ofList terms⟩ := by
  have kindName := takeName?_append (isSpecName_name kind) ')' (by decide) rest
  have inside : Text.dropBlanks (kind.name.toList ++ ')' :: rest) =
      kind.name.toList ++ ')' :: rest := by
    apply Text.dropBlanks_eq_self_iff.2
    intro c first
    rw [List.head?_append_of_ne_nil _ (isSpecName_name kind).nonempty] at first
    exact (isSpecChar_cases ((isSpecName_name kind).plain c (List.mem_of_mem_head? first))).2.1
  have closing : Text.dropBlanks (')' :: rest) = ')' :: rest :=
    Text.dropBlanks_eq_self_iff.2 (by simp; decide)
  have noStatus : splitStatus (')' :: rest) = (none, ')' :: rest) := by
    have unmatched : takeStatus? (')' :: rest) = none := rfl
    simp [splitStatus, closing, unmatched]
  have blanks : takeBlanks? (' ' :: '(' :: (kind.name.toList ++ ')' :: rest)) =
      some ('(' :: (kind.name.toList ++ ')' :: rest)) := by
    rw [takeBlanks?, if_pos (by decide), Text.dropBlanks_eq_self_iff.2 (by simp; decide)]
  have written : (String.ofList (clauseFront spec kind ++ rest)).toList =
      spec.toList ++ ' ' :: '(' :: (kind.name.toList ++ ')' :: rest) := by
    simp [clauseFront]
  simp only [Clause.parse?, written, takeName?_append isName ' ' (by decide), bind,
    Option.bind_some, blanks, inside, kindName, noStatus, closing]

/-- The front of a clause stays when the clause is trimmed. -/
theorem trim_clauseFront (isName : IsSpecName spec) (rest : List Char) :
    Text.trim (String.ofList (clauseFront spec kind ++ rest)) =
      String.ofList (clauseFront spec kind ++ Text.dropBlanksEnd rest) := by
  have front : ∀ c ∈ (clauseFront spec kind).head?, Text.isBlank c = false := by
    intro c first
    rw [clauseFront, List.head?_append_of_ne_nil _ isName.nonempty] at first
    exact (isSpecChar_cases (isName.plain c (List.mem_of_mem_head? first))).2.1
  have back : ∀ c ∈ (clauseFront spec kind).getLast?, Text.isBlank c = false := by
    have concat : clauseFront spec kind =
        (spec.toList ++ ' ' :: '(' :: kind.name.toList) ++ [')'] := by simp [clauseFront]
    rw [concat, List.getLast?_concat]
    simp
    decide
  have nonempty : clauseFront spec kind ≠ [] := by simp [clauseFront]
  rw [Text.trim, String.toList_ofList,
    Text.trimChars_append nonempty (Text.trimChars_eq_self front back)]

theorem lowercase_of_isSpecName (isName : IsSpecName spec) : Text.lowercase spec = spec :=
  Text.lowercase_of_settled fun c member => (isSpecChar_cases (isName.plain c member)).2.2.2

theorem isEmpty_clauseFront (rest : List Char) :
    (String.ofList (clauseFront spec kind ++ rest)).isEmpty = false := by
  rw [Bool.eq_false_iff, ne_eq, String.isEmpty_iff, ← String.toList_inj]
  simp [clauseFront]

theorem trim_of_isSpecName (isName : IsSpecName spec) : Text.trim spec = spec := by
  rw [Text.trim, Text.trimChars_of_nonblank fun c member => ?_, String.ofList_toList]
  exact (isSpecChar_cases (isName.plain c member)).2.1

/-- Terms without a slash are a single one. -/
theorem rules_of_single (isName : IsSpecName spec) {terms : String}
    (single : '/' ∉ terms.toList) (nonblank : (Text.trim terms).isEmpty = false) :
    Clause.rules ⟨spec, kind.name, none, terms⟩ =
      .ok [{ term := Text.trim terms, specId := spec, kind }] := by
  have read : DefinitionKind.read kind.name = .ok kind :=
    DefinitionKind.read_ok_iff.2 (trim_of_isSpecName (isSpecName_name kind)).symm
  have whole : Text.splitAt '/' terms = [terms] := by
    rw [Text.splitAt, List.splitOnP_eq_singleton fun c member => ?_]
    · simp
    · simpa using fun same : c = '/' => single (same ▸ member)
  simp only [Clause.rules, read, whole, lowercase_of_isSpecName isName, List.map_cons, List.map_nil,
    List.filter_cons, nonblank, bind, Except.bind]
  rfl

/-- A clause with one term gives one rule. -/
theorem rulesOfPiece_clauseFront (isName : IsSpecName spec) {c : Char} {cs : List Char}
    (nonblank : Text.isBlank c = false) (oneLine : '\n' ∉ c :: cs) (single : '/' ∉ c :: cs) :
    rulesOfPiece (String.ofList (clauseFront spec kind ++ ' ' :: c :: cs)) =
      .ok [{ term := Text.trim (String.ofList (c :: cs)), specId := spec, kind }] := by
  have cut : Text.dropBlanksEnd (' ' :: c :: cs) = ' ' :: c :: Text.dropBlanksEnd cs := by
    have last : ∀ d ∈ [' ', c].getLast?, Text.isBlank d = false := by simpa
    exact Text.dropBlanksEnd_append last cs
  -- What is left of the term when the clause has been trimmed needs no more trimming.
  have term : Text.trimChars (c :: cs) = c :: Text.dropBlanksEnd cs :=
    Text.trimChars_append (List.cons_ne_nil c []) (Text.trimChars_of_nonblank (by simpa)) cs
  have trimmed : Text.trim (String.ofList (c :: cs)) = String.ofList (c :: Text.dropBlanksEnd cs) := by
    rw [Text.trim, String.toList_ofList, term]
  have within : c :: Text.dropBlanksEnd cs ⊆ c :: cs :=
    List.cons_subset_cons c (List.rdropWhile_prefix Text.isBlank cs).subset
  have blank : takeBlanks? (' ' :: c :: Text.dropBlanksEnd cs) =
      some (c :: Text.dropBlanksEnd cs) := by
    rw [takeBlanks?, if_pos (by decide), Text.dropBlanks_eq_self_iff.2 (by simpa)]
  have clause : Clause.parse? (String.ofList
      (clauseFront spec kind ++ ' ' :: c :: Text.dropBlanksEnd cs)) =
        some ⟨spec, kind.name, none, Text.trim (String.ofList (c :: cs))⟩ := by
    rw [parse?_clauseFront isName, blank, Option.bind_some, if_neg, trimmed]
    simpa only [List.contains_iff_mem] using fun member => oneLine (within member)
  have rules : Clause.rules ⟨spec, kind.name, none, Text.trim (String.ofList (c :: cs))⟩ =
      .ok [{ term := Text.trim (String.ofList (c :: cs)), specId := spec, kind }] := by
    rw [rules_of_single isName, Text.trim_trim]
    · rw [trimmed, String.toList_ofList]
      exact fun member => single (within member)
    · rw [Text.trim_trim, trimmed, Bool.eq_false_iff, ne_eq, String.isEmpty_iff,
        ← String.toList_inj]
      simp
  rw [rulesOfPiece, trim_clauseFront isName, cut, isEmpty_clauseFront, if_neg Bool.false_ne_true,
    clause]
  exact rules

/-- A clause without terms is refused. -/
theorem rulesOfPiece_bare (isName : IsSpecName spec) (kind : DefinitionKind) : ∃ failure,
    rulesOfPiece (String.ofList (clauseFront spec kind ++ [' '])) = .error failure := by
  have bare : Text.dropBlanksEnd [' '] = [] := by decide
  have refused : Clause.parse? (String.ofList (clauseFront spec kind ++ [])) = none :=
    parse?_clauseFront isName []
  rw [rulesOfPiece, trim_clauseFront isName, bare, isEmpty_clauseFront, if_neg Bool.false_ne_true,
    refused]
  exact ⟨_, rfl⟩

theorem depthBehind_clauseFront (isName : IsSpecName spec) (cs : List Char) :
    Text.depthBehind 0 (clauseFront spec kind ++ ' ' :: cs) = Text.depthBehind 0 cs := by
  have ordinary {name : String} (isName : IsSpecName name) (depth : Nat) :
      Text.depthBehind depth name.toList = depth := by
    refine Text.depthBehind_of_ordinary depth fun c member parenthesis => ?_
    exact (isSpecChar_cases (isName.plain c member)).2.2.1 (List.mem_append_left [','] parenthesis)
  simp [clauseFront, ordinary isName, ordinary (isSpecName_name kind), Text.depthAfter]

/-- The front of a clause closes what it opens and holds no comma. -/
theorem encloses_clauseFront (isName : IsSpecName spec) {cs : List Char}
    (enclosed : Text.Encloses ',' 0 cs) :
    Text.Encloses ',' 0 (clauseFront spec kind ++ ' ' :: cs) := by
  have comma {name : String} (isName : IsSpecName name) : ',' ∉ name.toList := fun member =>
    (isSpecChar_cases (isName.plain _ member)).2.2.1 (by decide)
  have concat : clauseFront spec kind ++ ' ' :: cs = (clauseFront spec kind ++ [' ']) ++ cs := by
    simp
  rw [concat]
  apply Text.encloses_append
  · simp [clauseFront, comma isName, comma (isSpecName_name kind)]
  · rw [depthBehind_clauseFront isName]
    exact enclosed

/-- A term without slashes, and without commas outside parentheses, reads back. -/
theorem parseMetadata_of_encloses (isName : IsSpecName spec) {c : Char} {cs : List Char}
    (nonblank : Text.isBlank c = false) (oneLine : '\n' ∉ c :: cs) (single : '/' ∉ c :: cs)
    (enclosed : Text.Encloses ',' 0 (c :: cs)) :
    parseMetadata (String.ofList (clauseFront spec kind ++ ' ' :: c :: cs)) =
      .ok [{ term := Text.trim (String.ofList (c :: cs)), specId := spec, kind }] := by
  have pieces : Text.splitTopLevel ',' (String.ofList (clauseFront spec kind ++ ' ' :: c :: cs)) =
      [String.ofList (clauseFront spec kind ++ ' ' :: c :: cs)] := by
    rw [Text.splitTopLevel, String.toList_ofList,
      Text.splitOutside_of_encloses (encloses_clauseFront isName enclosed)]
    rfl
  rw [parseMetadata_ok_iff, pieces]
  exact ⟨[_], .cons (rulesOfPiece_clauseFront isName nonblank oneLine single) .nil, rfl⟩

/-- The first comma outside parentheses ends the first term. -/
theorem head_of_parseMetadata (isName : IsSpecName spec) {before after : List Char}
    (enclosed : Text.Encloses ',' 0 before) (closed : Text.depthBehind 0 before = 0)
    (front : ∀ c ∈ before.head?, Text.isBlank c = false) (oneLine : '\n' ∉ before)
    (single : '/' ∉ before) {rules : List DefaultRule}
    (read : parseMetadata (String.ofList (clauseFront spec kind ++ ' ' :: (before ++ ',' :: after))) =
      .ok rules) :
    rules.head? = some { term := Text.trim (String.ofList before), specId := spec, kind } := by
  have whole : clauseFront spec kind ++ ' ' :: (before ++ ',' :: after) =
      (clauseFront spec kind ++ ' ' :: before) ++ ',' :: after := by simp
  obtain ⟨parts, made, rfl⟩ := parseMetadata_ok_iff.1 read
  rw [Text.splitTopLevel, String.toList_ofList, whole,
    Text.splitOutside_append (by decide) (by rw [depthBehind_clauseFront isName, closed]),
    Text.splitOutside_of_encloses (encloses_clauseFront isName enclosed), List.singleton_append,
    List.map_cons] at made
  obtain ⟨part, others, first, -, rfl⟩ := List.forall₂_cons_left_iff.1 made
  cases before with
  | nil =>
    obtain ⟨failure, refused⟩ := rulesOfPiece_bare isName kind
    rw [refused] at first
    cases first
  | cons c cs =>
    rw [rulesOfPiece_clauseFront isName (front c rfl) oneLine single] at first
    obtain rfl := Except.ok.inj first
    rfl

theorem metadataClause_eq (h : Hint) : h.metadataClause =
    String.ofList (clauseFront h.spec h.kind ++ ' ' :: h.text.toList) := by
  rw [← String.toList_inj]
  simp [Hint.metadataClause, clauseFront, toString]

/-- A comma outside parentheses would end the term too early. -/
theorem encloses_of_parseMetadata {h : Hint} (isName : IsSpecName h.spec)
    (normal : LinkText.IsNormal h.text.toList) (single : '/' ∉ h.text.toList)
    (read : parseMetadata h.metadataClause = .ok [{ h.rule with scope := none }]) :
    Text.Encloses ',' 0 h.text.toList := by
  by_contra open_
  obtain ⟨before, after, split, enclosed, closed⟩ := Text.exists_split_of_not_encloses open_
  have part : before ⊆ h.text.toList := split ▸ List.subset_append_left before _
  have front : ∀ c ∈ before.head?, Text.isBlank c = false := fun c first =>
    normal.head?_nonblank c (by rw [split, List.head?_append, Option.mem_def.1 first, Option.some_or]; rfl)
  rw [metadataClause_eq, split] at read
  have head := head_of_parseMetadata isName enclosed closed front
    (fun member => normal.newline_not_mem (part member)) (fun member => single (part member)) read
  -- The term read back ends before the comma, so it is shorter than the text.
  have same : h.text = Text.trim (String.ofList before) :=
    congrArg DefaultRule.term (Option.some.inj head)
  have shorter := Text.length_trim_le (String.ofList before)
  have longer := congrArg List.length split
  rw [← same, String.toList_ofList] at shorter
  rw [List.length_append, List.length_cons] at longer
  omega

/-- The clause of a hint reads back exactly if its term holds neither a slash nor a comma outside
parentheses. -/
theorem parseMetadata_ok_rule_iff {h : Hint} (isName : IsSpecName h.spec)
    (normal : LinkText.IsNormal h.text.toList) (nonempty : h.text ≠ "") :
    parseMetadata h.metadataClause = .ok [{ h.rule with scope := none }] ↔
      '/' ∉ h.text.toList ∧ Text.Encloses ',' 0 h.text.toList := by
  constructor
  · intro read
    have single := slash_not_mem_of_parseMetadata read _ (List.mem_singleton_self _)
    exact ⟨single, encloses_of_parseMetadata isName normal single read⟩
  · rintro ⟨single, enclosed⟩
    obtain ⟨c, cs, text⟩ :=
      List.exists_cons_of_ne_nil (l := h.text.toList) (by simpa using nonempty)
    have nonblank : Text.isBlank c = false := normal.head?_nonblank c (by rw [text]; rfl)
    have oneLine := normal.newline_not_mem
    have term : Text.trim h.text = h.text := by
      rw [Text.trim, normal.trimChars_eq, String.ofList_toList]
    rw [metadataClause_eq]
    rw [text] at oneLine single enclosed ⊢
    rw [parseMetadata_of_encloses isName nonblank oneLine single enclosed, ← text,
      String.ofList_toList, term]
    rfl

end Defaults

namespace Hint

open Defaults

/-- For anchors of a store, the clause that a hint offers is read as the rule that it states exactly
if the text holds neither a slash nor a comma outside parentheses. -/
theorem parseMetadata_metadataClause {store : AnchorStore} (inUse : store.InUse)
    {links : List ResolvedLink} (listed : ∀ link ∈ links, link.candidate ∈ store.anchors)
    {alwaysScoped : Bool} {h : Hint} (member : h ∈ simplify links alwaysScoped)
    (nonempty : h.text ≠ "") (isName : IsSpecName h.spec) :
    parseMetadata h.metadataClause = .ok [{ h.rule with scope := none }] ↔
      '/' ∉ h.text.toList ∧ Text.Encloses ',' 0 h.text.toList := by
  obtain ⟨link, inLinks, same⟩ := exists_link_of_simplify member
  have text : link.candidate.text = h.text := congrArg Prod.fst same
  have normal := inUse.isNormal link.candidate (listed link inLinks)
  rw [text] at normal
  exact parseMetadata_ok_rule_iff isName normal nonempty

/-- An anchor for a text in a spec on media types. -/
def mediaAnchor (text : String) : Candidate where
  text
  kind := .dfn
  origin := .external "mimesniff" "mimesniff" none ⟨some "https://mimesniff/#x", none⟩
  scope := ∅
  exported := true
  normative := true

/-- A store with that anchor alone. -/
def mediaStore (text : String) : AnchorStore :=
  ({ source := .ofFiles ∅ } : AnchorStore).add (mediaAnchor text)

/-- The hint for a link to that anchor. -/
def mediaHint (text : String) : Hint where
  text
  kind := .dfn
  spec := "mimesniff"
  url := "https://mimesniff/#x"

theorem inUse_mediaStore (text : String) : (mediaStore text).InUse :=
  .add (.opened (.withSpecs ∅)) (mediaAnchor text)

theorem isSpecName_mimesniff : IsSpecName "mimesniff" := by decide

theorem mediaHint_mem (text : String) :
    mediaHint text ∈ simplify [⟨"https://mimesniff/#x", mediaAnchor text⟩] false := by
  have single : ofLink ⟨"https://mimesniff/#x", mediaAnchor text⟩ =
      [{ mediaHint text with scope := some "/" }] := rfl
  simp [simplify, single, Grouping.groupsBy, Grouping.firstOfEach, dropScope, mediaHint]

/-- A comma between parentheses does no harm. -/
theorem parseMetadata_sniff :
    let h := mediaHint "sniff(type, no-sniff)"
    (mediaStore h.text).InUse ∧ mediaAnchor h.text ∈ (mediaStore h.text).anchors ∧
      h ∈ simplify [⟨h.url, mediaAnchor h.text⟩] false ∧ h.text ≠ "" ∧ IsSpecName h.spec ∧
      parseMetadata "mimesniff (dfn) sniff(type, no-sniff)" =
        .ok [{ term := "sniff(type, no-sniff)", specId := "mimesniff", kind := .dfn }] := by
  intro h
  have inStore : mediaAnchor h.text ∈ (mediaStore h.text).anchors := by decide +kernel
  have nonempty : h.text ≠ "" := by decide
  have clause : h.metadataClause = "mimesniff (dfn) sniff(type, no-sniff)" := by decide +kernel
  have single : '/' ∉ h.text.toList := by decide
  have enclosed : Text.Encloses ',' 0 h.text.toList := by
    have whole : Text.splitOutside ',' 0 h.text.toList = [h.text.toList] := by decide +kernel
    have pieces := Text.arePieces_splitOutside ',' h.text.toList
    rw [whole] at pieces
    exact pieces.enclosed _ (List.mem_singleton_self _)
  refine ⟨inUse_mediaStore _, inStore, mediaHint_mem _, nonempty, isSpecName_mimesniff, ?_⟩
  rw [← clause]
  exact (parseMetadata_metadataClause (inUse_mediaStore _) (by simpa only [List.mem_singleton, forall_eq])
    (mediaHint_mem _) nonempty isSpecName_mimesniff).2 ⟨single, enclosed⟩

/-- A media type is taken for two terms, and a text with a comma for two clauses. -/
theorem misread_media_type :
    parseMetadata (mediaHint "text/html").metadataClause =
      .ok [{ term := "text", specId := "mimesniff", kind := .dfn },
        { term := "html", specId := "mimesniff", kind := .dfn }] ∧
    parseMetadata (mediaHint "type, sniffed").metadataClause =
      .error (.parse (.defaultsClause "sniffed") metadataSource none) ∧
    ¬ ∀ store : AnchorStore, store.InUse → ∀ links : List ResolvedLink,
      (∀ link ∈ links, link.candidate ∈ store.anchors) → ∀ alwaysScoped,
      ∀ h ∈ simplify links alwaysScoped, h.text ≠ "" → IsSpecName h.spec →
        parseMetadata h.metadataClause = .ok [{ h.rule with scope := none }] := by
  have split : parseMetadata (mediaHint "text/html").metadataClause =
      .ok [{ term := "text", specId := "mimesniff", kind := .dfn },
        { term := "html", specId := "mimesniff", kind := .dfn }] := by decide +kernel
  refine ⟨split, by decide +kernel, fun readsBack => ?_⟩
  have inStore : mediaAnchor "text/html" ∈ (mediaStore "text/html").anchors := by decide +kernel
  have whole := readsBack _ (inUse_mediaStore "text/html") _
    (by simpa only [List.mem_singleton, forall_eq]) false _
    (mediaHint_mem "text/html") (by decide) isSpecName_mimesniff
  rw [split] at whole
  exact absurd (congrArg List.length (Except.ok.inj whole)) (by decide)

end Hint

end SpecLink
