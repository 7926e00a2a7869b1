import SpecLink.Proofs.Resolver.Search

/-!
# Narrower searches

A search for fewer kinds finds the rest of what the wider one finds, if it stops at the same text: it
does so if it goes through the same texts, or if what it wants stands under the literal text. Main
statements: `search_narrow` and `search_literal`.
-/
namespace SpecLink.Resolver

variable {definitions : DefinitionIndex} {store : AnchorStore} {kind narrow : LinkKind}

/-- What a search finds stands under the normal form of one of its texts. -/
theorem exists_text_of_search {texts : List String} {c : Candidate}
    (member : c ∈ search definitions kind store texts) :
    ∃ text ∈ texts, c.text = LinkText.normalize text ∧ kind.accepts c.kind = true := by
  induction texts generalizing store with
  | nil => exact absurd member List.not_mem_nil
  | cons text rest ih =>
    rw [search] at member
    split at member
    · obtain ⟨other, listed, found⟩ := ih member
      exact ⟨other, List.mem_cons_of_mem text listed, found⟩
    · have fits := (List.mem_filter.1 member).2
      rw [Bool.and_eq_true, beq_iff_eq] at fits
      exact ⟨text, List.mem_cons_self, fits⟩

theorem hits_narrow (narrower : ∀ d, narrow.accepts d = true → kind.accepts d = true)
    (key : String) : hits definitions store narrow key =
      (hits definitions store kind key).filter fun c => narrow.accepts c.kind := by
  rw [hits, hits, List.filter_filter]
  refine List.filter_congr fun c _ => ?_
  cases accepted : narrow.accepts c.kind with
  | false => rw [Bool.and_false, Bool.false_and]
  | true => rw [narrower c.kind accepted, Bool.true_and]

theorem search_of_hits {text : String} {c : Candidate}
    (hit : c ∈ hits definitions (store.opened (LinkText.normalize text)) kind
      (LinkText.normalize text)) (rest : List String) :
    search definitions kind store (text :: rest) =
      hits definitions (store.opened (LinkText.normalize text)) kind (LinkText.normalize text) := by
  rw [search]
  split
  next none =>
    rw [none] at hit
    exact absurd hit List.not_mem_nil
  next => rfl

theorem search_of_no_hits {text : String}
    (none : hits definitions (store.opened (LinkText.normalize text)) kind
      (LinkText.normalize text) = []) (rest : List String) :
    search definitions kind store (text :: rest) =
      search definitions kind (store.opened (LinkText.normalize text)) rest := by
  rw [search, none]

theorem hits_narrow_eq_nil (narrower : ∀ d, narrow.accepts d = true → kind.accepts d = true)
    {key : String} (none : hits definitions store kind key = []) :
    hits definitions store narrow key = [] := by
  rw [hits_narrow narrower, none]
  rfl

theorem mem_hits_narrow (narrower : ∀ d, narrow.accepts d = true → kind.accepts d = true)
    {key : String} {c : Candidate} (hit : c ∈ hits definitions store kind key)
    (accepted : narrow.accepts c.kind = true) : c ∈ hits definitions store narrow key := by
  rw [hits_narrow narrower]
  exact List.mem_filter.2 ⟨hit, accepted⟩

/-- A search for fewer kinds stops at the same text, if there is something for it. -/
theorem search_narrow (narrower : ∀ d, narrow.accepts d = true → kind.accepts d = true)
    {texts : List String} {c : Candidate} (member : c ∈ search definitions kind store texts)
    (accepted : narrow.accepts c.kind = true) : search definitions narrow store texts =
      (search definitions kind store texts).filter fun c => narrow.accepts c.kind := by
  induction texts generalizing store with
  | nil => rfl
  | cons text rest ih =>
    by_cases none : hits definitions (store.opened (LinkText.normalize text)) kind
        (LinkText.normalize text) = []
    · rw [search_of_no_hits none] at member ⊢
      rw [search_of_no_hits (hits_narrow_eq_nil narrower none)]
      exact ih member
    · obtain ⟨d, hit⟩ := List.exists_mem_of_ne_nil _ none
      rw [search_of_hits hit] at member ⊢
      rw [search_of_hits (mem_hits_narrow narrower member accepted), hits_narrow narrower]

section Literal

variable {text : String} {rest : List String} {c : Candidate}

/-- What is found under the literal text is found at the first step. -/
theorem mem_hits_of_literal
    (apart : ∀ other ∈ rest, LinkText.normalize other ≠ LinkText.normalize text)
    (member : c ∈ search definitions kind store (text :: rest))
    (literal : c.text = LinkText.normalize text) :
    c ∈ hits definitions (store.opened (LinkText.normalize text)) kind
      (LinkText.normalize text) := by
  by_cases none : hits definitions (store.opened (LinkText.normalize text)) kind
      (LinkText.normalize text) = []
  · rw [search_of_no_hits none] at member
    obtain ⟨other, listed, same, -⟩ := exists_text_of_search member
    exact absurd (same.symm.trans literal) (apart other listed)
  · obtain ⟨d, hit⟩ := List.exists_mem_of_ne_nil _ none
    rwa [search_of_hits hit] at member

/-- A search for fewer kinds that finds something under the literal text needs no other spelling. -/
theorem search_literal (narrower : ∀ d, narrow.accepts d = true → kind.accepts d = true)
    (apart : ∀ other ∈ rest, LinkText.normalize other ≠ LinkText.normalize text)
    (member : c ∈ search definitions kind store (text :: rest))
    (literal : c.text = LinkText.normalize text) (accepted : narrow.accepts c.kind = true)
    (others : List String) : search definitions narrow store (text :: others) =
      (search definitions kind store (text :: rest)).filter fun c => narrow.accepts c.kind := by
  have hit := mem_hits_of_literal apart member literal
  rw [search_of_hits hit, search_of_hits (mem_hits_narrow narrower hit accepted),
    hits_narrow narrower]

/-- A search for fewer kinds under the literal text alone finds nothing, if candidates under another
text were found. -/
theorem search_eq_nil (narrower : ∀ d, narrow.accepts d = true → kind.accepts d = true)
    (member : c ∈ search definitions kind store (text :: rest))
    (other : c.text ≠ LinkText.normalize text) : search definitions narrow store [text] = [] := by
  by_cases none : hits definitions (store.opened (LinkText.normalize text)) kind
      (LinkText.normalize text) = []
  · rw [search_of_no_hits (hits_narrow_eq_nil narrower none)]
    rfl
  · obtain ⟨d, hit⟩ := List.exists_mem_of_ne_nil _ none
    rw [search_of_hits hit, hits, List.mem_filter, Bool.and_eq_true, beq_iff_eq] at member
    exact absurd member.2.1 other

end Literal

end SpecLink.Resolver
