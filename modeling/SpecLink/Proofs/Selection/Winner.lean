import Mathlib.Data.List.Find
import SpecLink.Proofs.Level
import SpecLink.Proofs.Selection.Eligibility

/-!
# The winner of a selection

Which of several links is chosen, said of their candidates: the first definition of the document or,
without one, an anchor at a known place among the contenders. Main statements: `choose_local` and
`choose_external`; a place is never outside its list (`winnerIndex_lt`).
-/
namespace SpecLink.Selection

/-- The anchors among which the order decides: if all share a short name, those of the greatest
level, else all of them. -/
def contenders (anchors : List Candidate) : List Candidate :=
  if ∀ c ∈ anchors, ∀ d ∈ anchors, c.shortname? = d.shortname? then
    anchors.filter fun c =>
      decide (∀ d ∈ anchors, SpecLevel.rank d.level? ≤ SpecLevel.rank c.level?)
  else anchors

/-- The place of the winner: that of the first property if properties or descriptors are sought and
there is one, else the front. -/
def winnerIndex (q : LinkQuery) (anchors : List Candidate) : Nat :=
  if q.kind = .propdesc then (anchors.findIdx? fun c => c.kind == .property).getD 0 else 0

theorem shareShortname_iff (links : List ResolvedLink) :
    shareShortname links = true ↔
      ∀ c ∈ links.map ResolvedLink.candidate, ∀ d ∈ links.map ResolvedLink.candidate,
        c.shortname? = d.shortname? := by
  cases links with
  | nil => simp [shareShortname]
  | cons first rest =>
    simp only [shareShortname, shortnameOf, List.all_eq_true, beq_iff_eq, List.forall_mem_map]
    constructor
    · intro same
      -- Each is compared with the first only.
      have asFirst (r : ResolvedLink) (member : r ∈ first :: rest) :
          r.candidate.shortname? = first.candidate.shortname? := by
        rcases List.mem_cons.1 member with rfl | member
        · rfl
        · exact same r member
      exact fun r hr s hs => (asFirst r hr).trans (asFirst s hs).symm
    · exact fun same r member =>
        same r (List.mem_cons_of_mem first member) first List.mem_cons_self

theorem map_candidate_finalists (links : List ResolvedLink) :
    (finalists links).map ResolvedLink.candidate =
      contenders (links.map ResolvedLink.candidate) := by
  by_cases shared : shareShortname links = true
  · rw [finalists, if_pos shared, contenders, if_pos ((shareShortname_iff links).1 shared),
      List.filter_map]
    congr 1
    -- A link has the greatest level exactly if none of the others ranks above it.
    refine List.filter_congr fun r member => ?_
    have level : levelOf r ∈ links.map levelOf := List.mem_map_of_mem member
    rw [Function.comp_apply, Bool.eq_iff_iff, beq_iff_eq, decide_eq_true_eq,
      SpecLevel.eq_greatest_iff level, List.forall_mem_map, List.forall_mem_map]
    rfl
  · rw [finalists, if_neg shared, contenders, if_neg (mt (shareShortname_iff links).2 shared)]

/-- Levels rule out some anchors, but never all of them. -/
theorem contenders_ne_nil {anchors : List Candidate} (nonempty : anchors ≠ []) :
    contenders anchors ≠ [] := by
  rw [contenders]
  split
  · -- An anchor of the greatest level is among the contenders.
    have levels : anchors.map Candidate.level? ≠ [] := mt List.map_eq_nil_iff.1 nonempty
    obtain ⟨top, member, level⟩ := List.mem_map.1 (SpecLevel.greatest_mem levels)
    refine List.ne_nil_of_mem (a := top) (List.mem_filter.2 ⟨member, decide_eq_true ?_⟩)
    intro d present
    rw [level]
    exact SpecLevel.rank_le_greatest (List.mem_map_of_mem present)
  · exact nonempty

theorem mem_of_mem_contenders {anchors : List Candidate} {c : Candidate}
    (member : c ∈ contenders anchors) : c ∈ anchors := by
  rw [contenders] at member
  split at member
  · exact (List.mem_filter.1 member).1
  · exact member

theorem winnerIndex_lt (q : LinkQuery) {anchors : List Candidate} (nonempty : anchors ≠ []) :
    winnerIndex q anchors < anchors.length := by
  have front : 0 < anchors.length := List.length_pos_iff.2 nonempty
  rw [winnerIndex]
  split
  · cases found : anchors.findIdx? fun c => c.kind == .property with
    | none => exact front
    | some i =>
      obtain ⟨inside, -⟩ := List.findIdx?_eq_some_iff_getElem.1 found
      exact inside
  · exact front

theorem favourite_eq_getElem? (q : LinkQuery) (links : List ResolvedLink) :
    favourite q links = links[winnerIndex q (links.map ResolvedLink.candidate)]? := by
  rw [favourite, winnerIndex]
  by_cases sought : q.kind = .propdesc
  -- Only here the kinds of the candidates count.
  · rw [if_pos (beq_iff_eq.2 sought), if_pos sought, List.findIdx?_map,
      List.find?_eq_bind_findIdx?_getElem?]
    cases found : links.findIdx? ((fun c => c.kind == .property) ∘ ResolvedLink.candidate) with
    | none =>
      have none : links.findIdx? (fun r => r.candidate.kind == .property) = none := found
      simp [none, List.head?_eq_getElem?]
    | some i =>
      obtain ⟨inside, -⟩ := List.findIdx?_eq_some_iff_getElem.1 found
      have first : links.findIdx? (fun r => r.candidate.kind == .property) = some i := found
      simp [first, inside]
  · rw [if_neg (mt beq_iff_eq.1 sought), if_neg sought, List.head?_eq_getElem?]

theorem choose_local {q : LinkQuery} {links : List ResolvedLink} {first : ResolvedLink}
    {others : List ResolvedLink}
    (own : links.filter (fun r => r.candidate.isLocal) = first :: others) :
    ∃ warning, choose q links = some ⟨first, warning⟩ := by
  rw [choose, own]
  exact ⟨_, rfl⟩

/-- Among links to anchors the one at the winner's place is chosen. -/
theorem choose_external {q : LinkQuery} {links : List ResolvedLink}
    (foreign : links.filter (fun r => r.candidate.isLocal) = []) :
    (choose q links).map (fun choice => choice.link.candidate) =
      (contenders (links.map ResolvedLink.candidate))[winnerIndex q
        (contenders (links.map ResolvedLink.candidate))]? := by
  rw [choose, foreign, ← map_candidate_finalists, List.getElem?_map, ← favourite_eq_getElem?]
  simp only [chooseExternal]
  cases favourite q (finalists links) <;> rfl

/-- A selection never ends without a choice once the filters left something. -/
theorem choose_isSome (q : LinkQuery) {links : List ResolvedLink} (nonempty : links ≠ []) :
    (choose q links).isSome = true := by
  cases own : links.filter (fun r => r.candidate.isLocal) with
  | cons first others =>
    obtain ⟨warning, chosen⟩ := choose_local (q := q) own
    rw [chosen]
    rfl
  | nil =>
    have left : contenders (links.map ResolvedLink.candidate) ≠ [] :=
      contenders_ne_nil (mt List.map_eq_nil_iff.1 nonempty)
    have inside := winnerIndex_lt q left
    rw [← Option.isSome_map (f := fun choice => choice.link.candidate), choose_external own,
      isSome_getElem?]
    exact inside

section Select

variable {p : LinkPolicy} {q : LinkQuery} {found : List Candidate} {choice : Choice}

theorem select_ok_iff : select p q found = .ok choice ↔
    passing p q found ≠ [] ∧ choose q (passing p q found) = some choice := by
  rw [select, bind_ok_iff]
  simp only [survivors_ok_iff]
  constructor
  · rintro ⟨links, ⟨rfl, left⟩, chosen⟩
    cases made : choose q (passing p q found) with
    | none =>
      rw [made] at chosen
      cases chosen
    | some other =>
      rw [made] at chosen
      cases chosen
      exact ⟨left, rfl⟩
  · rintro ⟨left, chosen⟩
    exact ⟨_, ⟨rfl, left⟩, by rw [chosen]; rfl⟩

theorem exists_select_iff :
    (∃ choice, select p q found = .ok choice) ↔ ∃ c ∈ found, p.Eligible q found c := by
  rw [← passing_ne_nil_iff]
  constructor
  · rintro ⟨choice, selected⟩
    exact (select_ok_iff.1 selected).1
  · intro left
    obtain ⟨choice, chosen⟩ := Option.isSome_iff_exists.1 (choose_isSome q left)
    exact ⟨choice, select_ok_iff.2 ⟨left, chosen⟩⟩

/-- The first definition of the document that has the scope is chosen. -/
theorem link_of_select_local {c : Candidate} (selected : select p q found = .ok choice)
    (own : found.find? (fun c => c.isLocal && decide (q.WantsScope c)) = some c) :
    choice.link.candidate = c ∧
      ∃ id line, c.origin = .document id line ∧ choice.link.url = "#" ++ id := by
  obtain ⟨left, chosen⟩ := select_ok_iff.1 selected
  have moved : ((passing p q found).filter fun r => r.candidate.isLocal).map
      ResolvedLink.candidate =
        ((passing p q found).map ResolvedLink.candidate).filter Candidate.isLocal := by
    rw [List.filter_map]
    rfl
  -- The links to the document that pass are those to its definitions with the scope, in order.
  have front : (((passing p q found).filter fun r => r.candidate.isLocal).map
      ResolvedLink.candidate).head? = some c := by
    rw [moved, map_candidate_passing, List.filter_filter, List.head?_filter, ← own]
    refine List.find?_congr fun d _ => ?_
    cases isLocal : d.isLocal with
    | false => rfl
    | true => simp [LinkPolicy.eligible_iff_of_isLocal isLocal]
  cases locals : (passing p q found).filter fun r => r.candidate.isLocal with
  | nil =>
    rw [locals] at front
    cases front
  | cons first others =>
    rw [locals] at front
    obtain rfl : first.candidate = c := Option.some.inj front
    obtain ⟨warning, taken⟩ := choose_local (q := q) locals
    obtain rfl : choice = ⟨first, warning⟩ := Option.some.inj (chosen.symm.trans taken)
    obtain ⟨member, isLocal⟩ := List.mem_filter.1 (locals ▸ List.mem_cons_self : first ∈ _)
    have url := url_of_mem_passing member
    refine ⟨rfl, ?_⟩
    cases origin : first.candidate.origin with
    | external => simp [Candidate.isLocal, origin] at isLocal
    | document id line =>
      simp only [LinkPolicy.urlFor, origin, Option.some.injEq] at url
      exact ⟨id, line, rfl, url.symm⟩

/-- Without a definition of the document that has the scope, the winner among the eligible anchors
is chosen. -/
theorem candidate_of_select_external (selected : select p q found = .ok choice)
    (foreign : ∀ c ∈ found, c.isLocal = true → ¬ q.WantsScope c) :
    ∃ inside : winnerIndex q (contenders (found.filter fun c => decide (p.Eligible q found c))) <
        (contenders (found.filter fun c => decide (p.Eligible q found c))).length,
      choice.link.candidate =
        (contenders (found.filter fun c => decide (p.Eligible q found c)))[winnerIndex q
          (contenders (found.filter fun c => decide (p.Eligible q found c)))] := by
  obtain ⟨left, chosen⟩ := select_ok_iff.1 selected
  -- Were a link to the document among those that pass, its definition would have the scope.
  have none : (passing p q found).filter (fun r => r.candidate.isLocal) = [] := by
    refine List.filter_eq_nil_iff.2 fun r member own => ?_
    have listed : r.candidate ∈ (passing p q found).map ResolvedLink.candidate :=
      List.mem_map_of_mem member
    rw [map_candidate_passing, List.mem_filter, decide_eq_true_eq] at listed
    exact foreign r.candidate listed.1 own ((LinkPolicy.eligible_iff_of_isLocal own).1 listed.2)
  have placed := choose_external (q := q) none
  rw [chosen, Option.map_some, map_candidate_passing] at placed
  obtain ⟨inside, same⟩ := List.getElem?_eq_some_iff.1 placed.symm
  exact ⟨inside, same.symm⟩

theorem eligible_of_select (selected : select p q found = .ok choice) :
    choice.link.candidate ∈ found ∧ p.Eligible q found choice.link.candidate := by
  by_cases foreign : ∀ c ∈ found, c.isLocal = true → ¬ q.WantsScope c
  -- The winner is a contender, and contenders are eligible.
  · obtain ⟨inside, same⟩ := candidate_of_select_external selected foreign
    have member := mem_of_mem_contenders (same ▸ List.getElem_mem inside)
    rw [List.mem_filter, decide_eq_true_eq] at member
    exact member
  -- A definition of the document is eligible by its scope alone.
  · push Not at foreign
    obtain ⟨d, member, isLocal, scope⟩ := foreign
    have any : (found.find? (fun c => c.isLocal && decide (q.WantsScope c))).isSome = true :=
      List.find?_isSome.2 ⟨d, member, by simp [isLocal, scope]⟩
    obtain ⟨c, own⟩ := Option.isSome_iff_exists.1 any
    have fits := List.find?_some own
    rw [Bool.and_eq_true, decide_eq_true_eq] at fits
    obtain ⟨rfl, -⟩ := link_of_select_local selected own
    exact ⟨List.mem_of_find?_eq_some own, (LinkPolicy.eligible_iff_of_isLocal fits.1).2 fits.2⟩

end Select

end SpecLink.Selection
