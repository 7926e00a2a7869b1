import SpecLink.Proofs.Selection.Winner

/-!
# Narrower queries

A query that asks for more than another leaves some of the links of the other. If only one of the
finalists of the other is among them, it is the only finalist, and it is chosen without a warning.
Main statements: `passing_of_narrowed` and `finalists_of_narrowed`.
-/
namespace SpecLink.Selection

variable {p : LinkPolicy} {q narrow : LinkQuery}

theorem mem_of_mem_finalists {links : List ResolvedLink} {link : ResolvedLink} (member : link ∈ finalists links) :
    link ∈ links := by
  rw [finalists] at member
  split at member
  · exact (List.mem_filter.1 member).1
  · exact member

/-- Links that pass go to candidates that were found and are eligible. -/
theorem mem_passing {found : List Candidate} {link : ResolvedLink}
    (member : link ∈ passing p q found) :
    link.candidate ∈ found ∧ p.Eligible q found link.candidate := by
  have listed := List.mem_map_of_mem (f := ResolvedLink.candidate) member
  rw [map_candidate_passing, List.mem_filter, decide_eq_true_eq] at listed
  exact listed

theorem exists_passing {found : List Candidate} {c : Candidate}
    (member : c ∈ found) (eligible : p.Eligible q found c) :
    ∃ link ∈ passing p q found, link.candidate = c := by
  have listed : c ∈ (passing p q found).map ResolvedLink.candidate := by
    rw [map_candidate_passing, List.mem_filter, decide_eq_true_eq]
    exact ⟨member, eligible⟩
  exact List.mem_map.1 listed

/-- A query at the same status leaves the links that fit, if it finds eligible what fits and is
eligible for the other. -/
theorem passing_of_narrowed {found : List Candidate} {among fits : Candidate → Bool}
    (status : narrow.status = q.status)
    (exact : ∀ c ∈ found, (among c = true ∧ p.Eligible narrow (found.filter among) c) ↔
      (fits c = true ∧ p.Eligible q found c)) :
    passing p narrow (found.filter among) =
      (passing p q found).filter fun link => fits link.candidate := by
  have passed : (found.filter among).filter (p.passes narrow (found.filter among)) =
      (found.filter (p.passes q found)).filter fits := by
    rw [List.filter_filter, List.filter_filter]
    refine List.filter_congr fun c member => ?_
    rw [Bool.eq_iff_iff, Bool.and_eq_true, Bool.and_eq_true, LinkPolicy.passes_iff,
      LinkPolicy.passes_iff, and_comm, exact c member]
  have fitting : (fun link : ResolvedLink => fits link.candidate) = fits ∘ ResolvedLink.candidate := rfl
  rw [passing, passing, passed, status]
  -- A link fits exactly if the candidate that it is made of does.
  induction found.filter (p.passes q found) with
  | nil => rfl
  | cons c rest ih =>
    cases fit : fits c with
    | true =>
      rw [List.filter_cons_of_pos fit]
      cases url : p.urlFor q.status c with
      | none => simpa [LinkPolicy.link?, url] using ih
      | some text => simpa [LinkPolicy.link?, url, fit] using ih
    | false =>
      rw [List.filter_cons_of_neg (by rw [fit]; decide)]
      cases url : p.urlFor q.status c with
      | none => simpa [LinkPolicy.link?, url] using ih
      | some text => simpa [LinkPolicy.link?, url, fit] using ih

/-- Where one finalist fits, it is the only finalist among the links that fit. -/
theorem finalists_of_narrowed {links : List ResolvedLink} {fits : ResolvedLink → Bool}
    {link : ResolvedLink} (single : (finalists links).filter fits = [link]) :
    finalists (links.filter fits) = [link] := by
  have member : link ∈ (finalists links).filter fits := single ▸ List.mem_singleton_self link
  obtain ⟨final, fit⟩ := List.mem_filter.1 member
  by_cases shared : shareShortname links = true
  · rw [finalists, if_pos shared] at single final
    obtain ⟨listed, level⟩ := List.mem_filter.1 final
    rw [beq_iff_eq] at level
    have narrower : shareShortname (links.filter fits) = true := by
      rw [shareShortname_iff] at shared ⊢
      intro c inC d inD
      obtain ⟨r, inR, rfl⟩ := List.mem_map.1 inC
      obtain ⟨s, inS, rfl⟩ := List.mem_map.1 inD
      exact shared _ (List.mem_map_of_mem (List.mem_filter.1 inR).1) _
        (List.mem_map_of_mem (List.mem_filter.1 inS).1)
    -- The greatest level of all is also the greatest of those that fit.
    have greatest : SpecLevel.greatest ((links.filter fits).map levelOf) =
        SpecLevel.greatest (links.map levelOf) := by
      have here : levelOf link ∈ (links.filter fits).map levelOf :=
        List.mem_map_of_mem (List.mem_filter.2 ⟨listed, fit⟩)
      rw [← level, eq_comm, SpecLevel.eq_greatest_iff here]
      intro other inOther
      obtain ⟨r, inR, rfl⟩ := List.mem_map.1 inOther
      rw [level]
      exact SpecLevel.rank_le_greatest (List.mem_map_of_mem (List.mem_filter.1 inR).1)
    rw [finalists, if_pos narrower, greatest, List.filter_filter, ← single, List.filter_filter]
    refine List.filter_congr fun r _ => ?_
    rw [Bool.and_comm]
  · rw [finalists, if_neg shared] at single
    rw [single]
    have level : levelOf link = SpecLevel.greatest [levelOf link] :=
      (List.mem_singleton.1 (SpecLevel.greatest_mem (List.cons_ne_nil (levelOf link) []))).symm
    have alone : shareShortname [link] = true := rfl
    rw [finalists, if_pos alone]
    exact List.filter_cons_of_pos (beq_iff_eq.2 level)

/-- Without definitions of the document the finalists decide. -/
theorem choose_of_foreign {links : List ResolvedLink}
    (foreign : ∀ link ∈ links, link.candidate.isLocal = false) :
    choose q links = chooseExternal q links := by
  have none : links.filter (fun link => link.candidate.isLocal) = [] := by
    refine List.filter_eq_nil_iff.2 fun link member own => ?_
    rw [foreign link member] at own
    cases own
  rw [choose, none]

theorem choose_of_single {links : List ResolvedLink} {link : ResolvedLink}
    (foreign : ∀ link ∈ links, link.candidate.isLocal = false)
    (single : finalists links = [link]) (kind : q.kind ≠ .propdesc) :
    choose q links = some ⟨link, none⟩ := by
  rw [choose_of_foreign foreign, chooseExternal, single, favourite, if_neg (mt beq_iff_eq.1 kind)]
  rfl

theorem choose_of_several {links : List ResolvedLink}
    (foreign : ∀ link ∈ links, link.candidate.isLocal = false)
    (several : 1 < (finalists links).length) : ∃ link ∈ finalists links,
      choose q links = some ⟨link, some (Hint.ambiguityMessage q.text q.kind q.scope link.url
        (Hint.simplify (finalists links) false))⟩ := by
  have some : (finalists links).map ResolvedLink.candidate ≠ [] := by
    intro none
    rw [List.map_eq_nil_iff.1 none] at several
    cases several
  have inside := winnerIndex_lt q some
  rw [List.length_map] at inside
  refine ⟨_, List.getElem_mem inside, ?_⟩
  simp only [choose_of_foreign foreign, chooseExternal, favourite_eq_getElem?,
    List.getElem?_eq_getElem inside, Option.map_some, if_neg (Nat.not_le.2 several)]

end SpecLink.Selection
