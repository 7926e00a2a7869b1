import Mathlib.Data.List.Basic
import SpecLink.Defaults.Rule
import SpecLink.Hint
import SpecLink.Proofs.Grouping

/-!
# What a hint selects

A hint is offered if no other has its line. It then selects one link among those that the warning is
about: no other goes to the same text, kind and spec. Main statement: `exists_link_of_offered`.
-/
namespace SpecLink

namespace Hint

/-- The hints whose lines the warning offers: those that share their line with no other. -/
def offered (hints : List Hint) : List Hint :=
  ((Grouping.groupsBy blockLine hints).filter fun group => group.length == 1).flatten

/-- The rule that the line of a hint states. -/
def rule (h : Hint) : DefaultRule where
  term := h.text
  specId := h.spec
  kind := h.kind
  scope := h.scope

/-- What the hints for a link are grouped by. -/
def groupOf (link : ResolvedLink) : String × DefinitionKind × String :=
  (link.candidate.text, link.candidate.kind, link.candidate.specLabel)

theorem scopesOf_ne_nil (c : Candidate) : scopesOf c ≠ [] := by
  rw [scopesOf]
  cases members : c.scope.members with
  | nil => simp [SortedSet.isEmpty, members]
  | cons first rest => simp [SortedSet.isEmpty, members]

theorem mem_scopesOf_of_mem {c : Candidate} {value : String} (member : value ∈ c.scope) :
    value ∈ scopesOf c := by
  have listed : value ∈ c.scope.members := member
  rw [scopesOf, if_neg]
  · exact listed
  · rw [SortedSet.isEmpty, List.isEmpty_iff]
    exact List.ne_nil_of_mem listed

theorem mem_ofLink_iff {link : ResolvedLink} {h : Hint} : h ∈ ofLink link ↔
    ∃ value ∈ scopesOf link.candidate, h =
      { text := link.candidate.text, kind := link.candidate.kind, spec := link.candidate.specLabel,
        scope := some value, url := link.url } := by
  simp only [ofLink, List.mem_map, eq_comm]

theorem group_of_mem_ofLink {link : ResolvedLink} {h : Hint} (member : h ∈ ofLink link) :
    h.group = groupOf link := by
  obtain ⟨value, -, rfl⟩ := mem_ofLink_iff.1 member
  rfl

theorem url_of_mem_ofLink {link : ResolvedLink} {h : Hint} (member : h ∈ ofLink link) :
    h.url = link.url := by
  obtain ⟨value, -, rfl⟩ := mem_ofLink_iff.1 member
  rfl

/-- The hints of a group are those of the links of that group. -/
theorem filter_flatMap_ofLink (links : List ResolvedLink) (key : String × DefinitionKind × String) :
    (links.flatMap ofLink).filter (fun h => h.group = key) =
      (links.filter fun link => groupOf link = key).flatMap ofLink := by
  induction links with
  | nil => rfl
  | cons link rest ih =>
    rw [List.flatMap_cons, List.filter_append, ih]
    by_cases here : groupOf link = key
    · have all : (ofLink link).filter (fun h => h.group = key) = ofLink link := by
        refine List.filter_eq_self.2 fun h member => ?_
        rw [decide_eq_true_eq, group_of_mem_ofLink member, here]
      rw [all, List.filter_cons_of_pos (by simpa using here), List.flatMap_cons]
    · have none : (ofLink link).filter (fun h => h.group = key) = [] := by
        refine List.filter_eq_nil_iff.2 fun h member => ?_
        rw [decide_eq_true_eq, group_of_mem_ofLink member]
        exact here
      rw [none, List.filter_cons_of_neg (by simpa using here), List.nil_append]

/-- Items that all have a hit give at least as many hits as there are items. -/
theorem length_le_countP_flatMap {α β : Type} (f : α → List β) (hit : β → Bool) {items : List α}
    (each : ∀ a ∈ items, ∃ b ∈ f a, hit b = true) :
    items.length ≤ (items.flatMap f).countP hit := by
  induction items with
  | nil => exact Nat.zero_le _
  | cons a rest ih =>
    obtain ⟨b, member, isHit⟩ := each a List.mem_cons_self
    have here : 0 < (f a).countP hit := List.countP_pos_iff.2 ⟨b, member, isHit⟩
    have there := ih fun other inRest => each other (List.mem_cons_of_mem a inRest)
    rw [List.flatMap_cons, List.countP_append, List.length_cons]
    omega

theorem offered_eq (hints : List Hint) : offered hints =
    hints.filter fun h => hints.countP (fun other => other.blockLine = h.blockLine) = 1 :=
  Grouping.flatten_single_groupsBy blockLine hints

/-- No other hint has the line of one that is offered. -/
theorem countP_of_offered {hints : List Hint} {h : Hint} (member : h ∈ offered hints) :
    h ∈ hints ∧ hints.countP (fun other => other.blockLine = h.blockLine) = 1 := by
  rw [offered_eq] at member
  obtain ⟨listed, single⟩ := List.mem_filter.1 member
  exact ⟨listed, of_decide_eq_true single⟩

theorem dropScope_cases (hints : List Hint) :
    (∃ h, hints = [h] ∧ dropScope hints = [{ h with scope := none }]) ∨ dropScope hints = hints := by
  match hints with
  | [] => exact .inr rfl
  | [h] => exact .inl ⟨h, rfl, rfl⟩
  | _ :: _ :: _ => exact .inr rfl

/-- A hint stands for a group, which has the hints of all links with its text, kind and spec. -/
theorem exists_group_of_mem_simplify {links : List ResolvedLink} {h : Hint}
    (member : h ∈ simplify links false) :
    ∃ group ∈ Grouping.groupsBy Hint.group (links.flatMap ofLink), h ∈ dropScope group ∧
      group = (links.filter fun link => groupOf link = h.group).flatMap ofLink := by
  simp only [simplify, Bool.false_eq_true, if_false, List.mem_flatten, List.mem_map] at member
  obtain ⟨_, ⟨group, listed, rfl⟩, inside⟩ := member
  refine ⟨group, listed, inside, ?_⟩
  obtain ⟨origin, inGroup, same⟩ : ∃ origin ∈ group, origin.group = h.group := by
    rcases dropScope_cases group with ⟨only, rfl, dropped⟩ | kept
    · rw [dropped, List.mem_singleton] at inside
      exact ⟨only, List.mem_singleton_self only, inside ▸ rfl⟩
    · exact ⟨h, kept ▸ inside, rfl⟩
  rw [← filter_flatMap_ofLink, ← same]
  exact Grouping.eq_filter_of_mem_groupsBy listed inGroup

/-- A hint comes of a link with its text, kind, spec and URL. -/
theorem exists_link_of_mem_simplify {links : List ResolvedLink} {h : Hint}
    (member : h ∈ simplify links false) :
    ∃ link ∈ links, groupOf link = h.group ∧ link.url = h.url := by
  obtain ⟨group, -, inside, same⟩ := exists_group_of_mem_simplify member
  obtain ⟨origin, inGroup, url⟩ : ∃ origin ∈ group, origin.url = h.url := by
    rcases dropScope_cases group with ⟨only, rfl, dropped⟩ | kept
    · rw [dropped, List.mem_singleton] at inside
      exact ⟨only, List.mem_singleton_self only, inside ▸ rfl⟩
    · exact ⟨h, kept ▸ inside, rfl⟩
  rw [same] at inGroup
  obtain ⟨link, inLinks, made⟩ := List.mem_flatMap.1 inGroup
  obtain ⟨listed, sameGroup⟩ := List.mem_filter.1 inLinks
  exact ⟨link, listed, of_decide_eq_true sameGroup, (url_of_mem_ofLink made).symm.trans url⟩

/-- A hint comes of a link with its text, kind and spec, also when every scope is written. -/
theorem exists_link_of_simplify {links : List ResolvedLink} {alwaysScoped : Bool} {h : Hint}
    (member : h ∈ simplify links alwaysScoped) : ∃ link ∈ links, groupOf link = h.group := by
  cases alwaysScoped with
  | false =>
    obtain ⟨link, listed, same, -⟩ := exists_link_of_mem_simplify member
    exact ⟨link, listed, same⟩
  | true =>
    obtain ⟨group, listed, inGroup⟩ := List.mem_flatten.1 member
    obtain ⟨link, inLinks, made⟩ :=
      List.mem_flatMap.1 (Grouping.mem_of_mem_groupsBy listed inGroup)
    exact ⟨link, inLinks, (group_of_mem_ofLink made).symm⟩

/-- An offered hint selects one link: it is the only one with the text, kind and spec of the hint,
as long as all links are for the scope that the hint names. -/
theorem exists_link_of_offered {links : List ResolvedLink} {h : Hint}
    (member : h ∈ offered (simplify links false))
    (shared : ∀ value, h.scope = some value → ∀ link ∈ links, value ∈ scopesOf link.candidate) :
    ∃ link, links.filter (fun link => groupOf link = h.group) = [link] ∧ link.url = h.url := by
  obtain ⟨simplified, alone⟩ := countP_of_offered member
  obtain ⟨link, listed, sameGroup, url⟩ := exists_link_of_mem_simplify simplified
  suffices short : (links.filter fun link => groupOf link = h.group).length ≤ 1 by
    have inGroup : link ∈ links.filter fun link => groupOf link = h.group :=
      List.mem_filter.2 ⟨listed, decide_eq_true sameGroup⟩
    have some := List.length_pos_of_mem inGroup
    obtain ⟨only, single⟩ := List.length_eq_one_iff.1 (Nat.le_antisymm short some)
    rw [single, List.mem_singleton] at inGroup
    exact ⟨only, single, inGroup ▸ url⟩
  obtain ⟨group, listed, inside, same⟩ := exists_group_of_mem_simplify simplified
  -- The group contributes its hints, of which every link has at least one with the line.
  have part : List.Sublist (dropScope group) (simplify links false) := by
    simp only [simplify, Bool.false_eq_true, if_false]
    exact List.sublist_flatten_of_mem (List.mem_map_of_mem listed)
  have few := part.countP_le (p := fun other => decide (other.blockLine = h.blockLine))
  rw [alone] at few
  rcases dropScope_cases group with ⟨origin, single, -⟩ | kept
  · -- Each link of the group has a hint, and there is only one.
    have some : ∀ link ∈ links.filter (fun link => groupOf link = h.group),
        ∃ hint ∈ ofLink link, true = true := by
      intro link _
      obtain ⟨value, listed⟩ := List.exists_mem_of_ne_nil _ (scopesOf_ne_nil link.candidate)
      exact ⟨_, mem_ofLink_iff.2 ⟨value, listed, rfl⟩, rfl⟩
    have each := length_le_countP_flatMap ofLink (fun _ => true) some
    rw [← same, single] at each
    exact each
  · rw [kept] at inside few
    rw [same] at inside
    obtain ⟨link, -, made⟩ := List.mem_flatMap.1 inside
    obtain ⟨value, -, hint⟩ := mem_ofLink_iff.1 made
    have named : h.scope = some value := by rw [hint]
    -- Each link of the group has a hint for the scope, hence one with the line.
    have lined : ∀ other ∈ links.filter (fun link => groupOf link = h.group),
        ∃ hint ∈ ofLink other, decide (hint.blockLine = h.blockLine) = true := by
      intro other inOther
      obtain ⟨inLinks, sameGroup⟩ := List.mem_filter.1 inOther
      have parts := of_decide_eq_true sameGroup
      refine ⟨_, mem_ofLink_iff.2 ⟨value, shared value named other inLinks, rfl⟩, ?_⟩
      simp only [groupOf, Hint.group, Prod.mk.injEq] at parts
      simp only [decide_eq_true_eq, blockLine, named, parts.1, parts.2.1, parts.2.2]
    have each := length_le_countP_flatMap ofLink _ lined
    rw [← same] at each
    exact Nat.le_trans each few

end Hint

end SpecLink
