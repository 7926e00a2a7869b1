import SpecLink.Proofs.Resolver.Search
import SpecLink.Proofs.Text.Variants

/-!
# Rules under the spellings of a text

Rules stand under normal forms and are looked up by the spellings of a text as they are; candidates
are looked up by the normal forms of the same spellings. The two agree but for a spelling that ends
in a space, which an ending standing alone leaves when it is cut. Main statement:
`consulted_of_spellings`.
-/
namespace SpecLink

namespace Text

/-- The front of a spaced text is spaced but for a space at its end. -/
theorem spaced_front {inside : Bool} {front rest : List Char}
    (single : spaced inside (front ++ rest) = true) :
    spaced inside front = true ∨ (inside = false ∧ front = []) ∨
      ∃ cs, front = cs ++ [' '] ∧ spaced inside cs = true := by
  induction front generalizing inside with
  | nil => cases inside <;> simp [spaced]
  | cons c front ih =>
    rw [List.cons_append, spaced] at single
    cases blank : isBlank c with
    | true =>
      simp only [blank, if_true, Bool.and_eq_true, beq_iff_eq] at single
      obtain ⟨⟨rfl, rfl⟩, later⟩ := single
      rcases ih later with whole | ⟨-, rfl⟩ | ⟨cs, rfl, whole⟩
      · exact .inl (by simp [spaced, blank, whole])
      · exact .inr (.inr ⟨[], rfl, rfl⟩)
      · exact .inr (.inr ⟨' ' :: cs, rfl, by simp [spaced, blank, whole]⟩)
    | false =>
      simp only [blank, Bool.false_eq_true, if_false] at single
      rcases ih single with whole | ⟨open_, -⟩ | ⟨cs, rfl, whole⟩
      · exact .inl (by simp [spaced, blank, whole])
      · cases open_
      · exact .inr (.inr ⟨c :: cs, rfl, by simp [spaced, blank, whole]⟩)

theorem spaced_front_concat {inside : Bool} {front rest : List Char} {c : Char}
    (single : spaced inside (front ++ rest) = true) (nonblank : isBlank c = false) :
    spaced inside (front ++ [c]) = true := by
  induction front generalizing inside with
  | nil => simp [spaced, nonblank]
  | cons d front ih =>
    rw [List.cons_append, spaced] at single ⊢
    cases blank : isBlank d with
    | true =>
      simp only [blank, if_true, Bool.and_eq_true] at single ⊢
      exact ⟨single.1, ih single.2⟩
    | false =>
      simp only [blank, Bool.false_eq_true, if_false] at single ⊢
      exact ih single

theorem wordChars_concat_blank {c : Char} (blank : isBlank c = true) (cs : List Char) :
    wordChars (cs ++ [c]) = wordChars cs := by
  rw [wordChars, List.splitOnP_append_cons cs [] blank, List.filter_append]
  simp [wordChars]

end Text

namespace LinkText

open Text

/-- The front of a text in normal form is in normal form but for a space at its end. -/
theorem IsNormal.front {front rest : List Char} (normal : IsNormal (front ++ rest)) :
    IsNormal front ∨ ∃ cs, front = cs ++ [' '] ∧ IsNormal cs := by
  obtain ⟨single, plain, settled⟩ := normal
  have part {cs : List Char} (within : cs ⊆ front) (single : cs = [] ∨ spaced false cs = true) :
      IsNormal cs :=
    ⟨single, fun c member => plain c (List.mem_append_left rest (within member)),
      fun c member => settled c (List.mem_append_left rest (within member))⟩
  rcases single with empty | single
  · exact .inl (part (List.Subset.refl _) (.inl (List.append_eq_nil_iff.1 empty).1))
  · rcases spaced_front single with whole | ⟨-, empty⟩ | ⟨cs, rfl, whole⟩
    · exact .inl (part (List.Subset.refl _) (.inr whole))
    · exact .inl (part (List.Subset.refl _) (.inl empty))
    · exact .inr ⟨cs, rfl, part (List.subset_append_left _ _) (.inr whole)⟩

theorem IsNormal.front_concat {front rest : List Char} (normal : IsNormal (front ++ rest))
    (nonempty : rest ≠ []) : IsNormal (front ++ ['y']) := by
  obtain ⟨single, plain, settled⟩ := normal
  have single := single.resolve_left fun empty => nonempty (List.append_eq_nil_iff.1 empty).2
  refine ⟨.inr (spaced_front_concat single (by decide)), fun c member => ?_, fun c member => ?_⟩
  · rcases List.mem_append.1 member with member | last
    · exact plain c (List.mem_append_left rest member)
    · exact .inr (List.mem_singleton.1 last ▸ by decide)
  · rcases List.mem_append.1 member with member | last
    · exact settled c (List.mem_append_left rest member)
    · exact List.mem_singleton.1 last ▸ ⟨by decide, by decide, by decide⟩

theorem normalizeChars_concat_space (cs : List Char) :
    normalizeChars (cs ++ [' ']) = normalizeChars cs := by
  rw [normalizeChars, List.map_append, List.map_singleton,
    wordChars_concat_blank (by decide), normalizeChars]

/-- A spelling is in normal form unless cutting an ending has left a space at its end; what stands
before that space is no spelling of the text. -/
theorem normalize_of_mem_variants {text spelling : String} (member : spelling ∈ variants text) :
    normalize spelling = spelling ∨
      spelling = normalize spelling ++ " " ∧ normalize spelling ∉ variants text ∧
      ∃ ending ∈ cutEndings, normalize text = spelling ++ ending := by
  obtain ⟨others, spellings, areSingulars⟩ := variants_eq_cons text
  have normal := isNormal_normalizeChars text.toList
  have chars : normalizeChars text.toList = (normalize text).toList := by
    rw [normalize, String.toList_ofList]
  rw [chars] at normal
  rw [spellings] at member ⊢
  rcases List.mem_cons.1 member with rfl | listed
  · exact .inl (normalize_normalize text)
  -- A letter in the place of the ending stands behind any space; without one a space is laid bare.
  rcases mem_singulars_iff.1 (areSingulars spelling listed) with
    ⟨stem, whole, rfl⟩ | ⟨ending, isEnding, whole⟩
  · left
    rw [whole, String.toList_append] at normal
    have normal := normal.front_concat (by decide)
    rw [normalize, String.toList_append, show "y".toList = ['y'] from rfl,
      normalizeChars_of_isNormal normal]
    simp [String.ofList_append]
  · rw [whole, String.toList_append] at normal
    rcases normal.front with normal | ⟨cs, space, normal⟩
    · left
      rw [normalize, normalizeChars_of_isNormal normal, String.ofList_toList]
    · right
      have front : normalize spelling = String.ofList cs := by
        rw [normalize, space, normalizeChars_concat_space, normalizeChars_of_isNormal normal]
      have spelled : spelling.toList = (String.ofList cs).toList ++ [' '] := by simp [space]
      rw [front]
      refine ⟨String.toList_inj.1 (by simp [space]), ?_, ending, isEnding, whole⟩
      -- It is shorter than the text by a space and an ending, and no ending begins with a space.
      have longer : (normalize text).toList = cs ++ ' ' :: ending.toList := by
        rw [whole, String.toList_append, space, List.append_assoc, List.singleton_append]
      intro again
      rcases List.mem_cons.1 again with same | singular
      · rw [← same, String.toList_ofList] at longer
        simp at longer
      · rcases mem_singulars_iff.1 (areSingulars _ singular) with
          ⟨stem, split, made⟩ | ⟨other, isOther, split⟩
        · have cut : cs = stem.toList ++ ['y'] := by
            rw [← String.toList_ofList (l := cs), ← made, String.toList_append]
            rfl
          rw [split, String.toList_append, cut, List.append_assoc, List.append_cancel_left_eq]
            at longer
          simp at longer
        · rw [split, String.toList_append, String.toList_ofList, List.append_cancel_left_eq]
            at longer
          have begins : ∀ ending ∈ cutEndings, ending.toList.head? ≠ some ' ' := by decide
          exact begins other isOther (by rw [longer]; rfl)

end LinkText

namespace DefaultTable

/-- The rules for the first of some keys that is the normal form of a rule's term, in the order in
which they were added. -/
def firstRules (rules : List DefaultRule) (keys : List String) : List DefaultRule :=
  let found := keys.find? fun key => rules.any fun rule => LinkText.normalize rule.term == key
  rules.filter fun rule => some (LinkText.normalize rule.term) = found

theorem rulesFor_addAll (rules : List DefaultRule) (key : String) :
    (addAll {} rules).rulesFor key =
      rules.filter fun rule => LinkText.normalize rule.term == key := by
  induction rules using List.reverseRecOn with
  | nil => rfl
  | append_singleton earlier last ih =>
    have added : addAll {} (earlier ++ [last]) = (addAll {} earlier).add last :=
      List.foldl_append
    rw [added, List.filter_append, ← ih]
    by_cases here : LinkText.normalize last.term = key
    · simp [add, rulesFor, here]
    · simp [add, rulesFor, here]

theorem consulted_addAll (rules : List DefaultRule) (kind : LinkKind) (text : String) :
    (addAll {} rules).consulted kind text = firstRules rules (textsOf kind text) := by
  have nonempty : (fun key => !((addAll {} rules).rulesFor key).isEmpty) =
      fun key => rules.any fun rule => LinkText.normalize rule.term == key := by
    funext key
    rw [rulesFor_addAll, Bool.eq_iff_iff]
    simp [List.any_eq_true]
  rw [consulted, nonempty, firstRules]
  cases found : (textsOf kind text).find? fun key => rules.any fun rule =>
      LinkText.normalize rule.term == key with
  | none => simp
  | some key => simp [rulesFor_addAll, beq_eq_decide]

/-- A key that is not in normal form has no rules, so it may be left out. -/
theorem firstRules_filter (rules : List DefaultRule) (keys : List String) :
    firstRules rules (keys.filter fun key => LinkText.normalize key = key) =
      firstRules rules keys := by
  have same : (keys.filter fun key => LinkText.normalize key = key).find?
      (fun key => rules.any fun rule => LinkText.normalize rule.term == key) =
      keys.find? fun key => rules.any fun rule => LinkText.normalize rule.term == key := by
    rw [List.find?_filter]
    refine congrArg (List.find? · keys) (funext fun key => ?_)
    rw [Bool.eq_iff_iff]
    simp only [decide_eq_true_eq, List.any_eq_true, beq_iff_eq]
    constructor
    · exact And.right
    · rintro ⟨rule, member, rfl⟩
      exact ⟨LinkText.normalize_normalize _, rule, member, rfl⟩
  rw [firstRules, firstRules, same]

theorem mem_firstRules {rules : List DefaultRule} {keys : List String} {rule : DefaultRule}
    (member : rule ∈ firstRules rules keys) : LinkText.normalize rule.term ∈ keys := by
  obtain ⟨-, found⟩ := List.mem_filter.1 member
  exact List.mem_of_find?_eq_some (of_decide_eq_true found).symm

end DefaultTable

namespace Resolver

/-- Candidates are gathered under the normal forms of the texts. -/
theorem gather_normalize {r : Resolver} (closed : r.definitions.isSealed = true) (kind : LinkKind)
    (texts : List String) :
    (gather kind (texts.map LinkText.normalize)).on r = (gather kind texts).on r := by
  induction texts generalizing r with
  | nil => rfl
  | cons text rest ih =>
    rw [List.map_cons, gather, gather, Action.on_bind, Action.on_bind, candidatesFor_on closed,
      candidatesFor_on closed, LinkText.normalize_normalize]
    cases r.anchors.opening (LinkText.normalize text) with
    | error failure => rfl
    | ok records =>
      simp only [Except.map]
      cases hits r.definitions (r.anchors.opened (LinkText.normalize text)) kind
          (LinkText.normalize text) with
      | nil => exact ih closed
      | cons first others => rfl

end Resolver

open DefaultTable LinkText

/-- For a link that uses other spellings the rules for the first spelling in normal form that has
any are consulted. A spelling that is not in normal form ends in a space; the rules for the text
before that space are not consulted, although candidates are gathered under it. So the rules
consulted are those for the first normal form under which candidates are gathered and that has any,
unless the last word of the text is a bare ending. -/
theorem consulted_of_spellings {kind : LinkKind} (spelled : kind.usesVariants = true)
    (rules : List DefaultRule) (text : String) :
    (addAll {} rules).consulted kind text =
      firstRules rules
        ((variants text).filter fun spelling => LinkText.normalize spelling = spelling) ∧
    (∀ spelling ∈ variants text, LinkText.normalize spelling ≠ spelling →
      spelling = LinkText.normalize spelling ++ " " ∧
        ∀ rule ∈ (addAll {} rules).consulted kind text,
          LinkText.normalize rule.term ≠ LinkText.normalize spelling) ∧
    ((∀ words, ∀ ending ∈ cutEndings, LinkText.normalize text ≠ words ++ " " ++ ending) →
      (addAll {} rules).consulted kind text =
        firstRules rules ((variants text).map LinkText.normalize)) ∧
    ∀ r : Resolver, r.definitions.isSealed = true →
      (Resolver.gather kind (variants text)).on r =
        (Resolver.gather kind ((variants text).map LinkText.normalize)).on r := by
  have texts : textsOf kind text = variants text := if_pos spelled
  have consulted := consulted_addAll rules kind text
  rw [texts] at consulted
  refine ⟨?_, fun spelling member other => ?_, fun noBareEnding => ?_, fun r closed => ?_⟩
  · rw [firstRules_filter, consulted]
  · obtain ⟨space, absent, -⟩ := (normalize_of_mem_variants member).resolve_left other
    refine ⟨space, fun rule isConsulted same => absent ?_⟩
    rw [consulted] at isConsulted
    exact same ▸ mem_firstRules isConsulted
  · have normal : (variants text).map LinkText.normalize = variants text := by
      refine (List.map_congr_left fun spelling member => ?_).trans (List.map_id _)
      by_contra other
      obtain ⟨space, -, ending, isEnding, whole⟩ :=
        (normalize_of_mem_variants member).resolve_left other
      exact noBareEnding (LinkText.normalize spelling) ending isEnding (by rw [whole, ← space])
    rw [normal, consulted]
  · rw [Resolver.gather_normalize closed]

/-- A rule for the term `box`. -/
def boxRule : DefaultRule := { term := "box", specId := "spec-b", kind := .dfn }

/-- The rule is consulted for a genitive, but not for one with a space before its ending. -/
theorem consulted_of_genitive :
    LinkKind.usesVariants .maybe = true ∧ variants "Box 's" = ["box 's", "box ", "box '"] ∧
    (addAll {} [boxRule]).consulted .maybe "Box 's" = [] ∧
    (addAll {} [boxRule]).consulted .maybe "Box's" = [boxRule] := by
  have spelled : LinkKind.usesVariants .maybe = true := rfl
  have spellings : variants "Box 's" = ["box 's", "box ", "box '"] := by decide +kernel
  refine ⟨spelled, spellings, ?_, ?_⟩
  · rw [(consulted_of_spellings spelled [boxRule] "Box 's").1, spellings]
    decide +kernel
  · have noBareEnding : ∀ words, ∀ ending ∈ cutEndings,
        LinkText.normalize "Box's" ≠ words ++ " " ++ ending := by
      intro words ending _ same
      have spaceless : ' ' ∉ (LinkText.normalize "Box's").toList := by decide +kernel
      apply spaceless
      simp [same]
    rw [(consulted_of_spellings spelled [boxRule] "Box's").2.2.1 noBareEnding]
    decide +kernel

/-- The spelling `box ` has the normal form of a rule's term, but its rules are not consulted. -/
theorem overlooked_despite_spelling :
    ¬ ∀ (rules : List DefaultRule) (kind : LinkKind) (text : String), kind.usesVariants = true →
      (addAll {} rules).consulted kind text =
        firstRules rules ((variants text).map LinkText.normalize) := by
  intro all
  have same := all [boxRule] (.exact .dfn) "box s" rfl
  exact absurd same (by decide +kernel)

end SpecLink
