import SpecLink.Proofs.Hint

/-!
# What a warning about an ambiguous link shows

Hints list the links that they are about (`Lists`): every link has an entry for each term that its
candidate is for, and there are no other entries. A warning shows each hint that it gets once
(`Shows`): with its line and clause, or with its URL under the line that it shares. Main statement:
`each_listed_and_shown_once`.
-/
namespace SpecLink

namespace Hint

open Grouping

/-- What is listed for a link: an entry for each term that its candidate is for, and one for a slash
if there is none. -/
def entriesOf (link : ResolvedLink) : List Hint :=
  (if link.candidate.scope = ∅ then ["/"] else link.candidate.scope.members).map fun value => {
    text := link.candidate.text
    kind := link.candidate.kind
    spec := link.candidate.specLabel
    scope := some value
    url := link.url }

/-- The hints list some links. Each text, kind and spec stands where it first appears, with the
entries of its links in their order. -/
structure Lists (links : List ResolvedLink) (hints : List Hint) : Prop where
  within : ∀ key, hints.filter (fun h => h.group = key) =
    (links.filter fun link => groupOf link = key).flatMap entriesOf
  between : hints.Pairwise fun h later =>
    firstAt groupOf links h.group ≤ firstAt groupOf links later.group

/-- Some hints are shown on their own, because no other has their line, and the rest under the lines
that they share, each line with all hints that have it. -/
structure Shows (hints alone : List Hint) (shared : List (String × List Hint)) : Prop where
  once : (alone ++ shared.flatMap Prod.snd).Perm hints
  single : alone = hints.filter fun h => hints.countP (fun other => other.blockLine = h.blockLine) = 1
  several : ∀ part ∈ shared, 2 ≤ part.2.length ∧ part.2 = hints.filter fun h => h.blockLine = part.1
  ordered : shared.Pairwise fun part later =>
    firstAt blockLine hints part.1 < firstAt blockLine hints later.1

/-- How hints with lines of their own are shown: all lines, then all clauses. -/
def offerLines (alone : List Hint) : List String :=
  if alone = [] then [] else
    ["To auto-select one of the following refs, " ++
      "insert one of these lines into a <pre class=link-defaults> block:"] ++
    alone.map blockLine ++
    ["or add one of these clauses to the 'Link Defaults' metadata:"] ++
    alone.map metadataClause

/-- How hints that share lines are shown: each line, and below it the URLs. -/
def sharedLines (shared : List (String × List Hint)) : List String :=
  if shared = [] then [] else
    ["The following refs show up multiple times in their spec, " ++
      "in a way that can't be told apart. " ++
      "Either create a manual link, or ask the spec maintainer to add disambiguating attributes " ++
      "(usually a for='' attribute to all of them)."] ++
    shared.flatMap fun part => part.1 :: part.2.map fun h => "  " ++ h.url

/-- The warning that shows hints on their own and under the lines that they share. -/
def warning (text : String) (kind : LinkKind) (scope : SortedSet) (chosenUrl : String)
    (alone : List Hint) (shared : List (String × List Hint)) : String :=
  "Multiple possible '" ++ text ++ "' " ++ kind.name ++ " refs" ++
    (if scope = ∅ then "" else " for '" ++ ", ".intercalate scope.members ++ "'") ++ "." ++
    indentedLines
      (["Arbitrarily chose " ++ chosenUrl] ++ offerLines alone ++ sharedLines shared)

/-! The hints for some links. -/

section Listing

variable {links : List ResolvedLink} {hints others : List Hint}

theorem ofLink_eq (link : ResolvedLink) : ofLink link = entriesOf link := by
  rw [ofLink, entriesOf, scopesOf]
  by_cases none : link.candidate.scope = ∅
  · rw [if_pos (SortedSet.isEmpty_iff.2 none), if_pos none]
  · rw [if_neg (mt SortedSet.isEmpty_iff.1 none), if_neg none]

theorem flatMap_entriesOf (links : List ResolvedLink) :
    links.flatMap entriesOf = links.flatMap ofLink :=
  List.flatMap_congr fun link _ => (ofLink_eq link).symm

theorem ofLink_ne_nil (link : ResolvedLink) : ofLink link ≠ [] :=
  mt List.map_eq_nil_iff.1 (scopesOf_ne_nil link.candidate)

theorem simplify_true (links : List ResolvedLink) :
    simplify links true = (groupsBy Hint.group (links.flatMap ofLink)).flatten := rfl

theorem lists_simplify (links : List ResolvedLink) : Lists links (simplify links true) := by
  constructor
  · intro key
    rw [simplify_true, filter_flatten_groupsBy, filter_flatMap_ofLink, flatMap_entriesOf]
  · -- Every link has an entry, so groups first appear among entries as they do among links.
    have order := firstAt_flatMap_le_iff ofLink_ne_nil (fun _ _ => group_of_mem_ofLink) links
    exact (pairwise_flatten_groupsBy Hint.group (links.flatMap ofLink)).imp (order _ _).1

/-- Only links are listed. -/
theorem Lists.exists_link (lists : Lists links hints) {h : Hint} (listed : h ∈ hints) :
    ∃ link ∈ links, groupOf link = h.group := by
  have inGroup : h ∈ hints.filter fun other => other.group = h.group :=
    List.mem_filter.2 ⟨listed, decide_eq_true rfl⟩
  rw [lists.within] at inGroup
  obtain ⟨link, kept, -⟩ := List.mem_flatMap.1 inGroup
  obtain ⟨member, same⟩ := List.mem_filter.1 kept
  exact ⟨link, member, of_decide_eq_true same⟩

/-- Links are listed in one way only. -/
theorem Lists.unique (lists : Lists links hints) (lists' : Lists links others) : hints = others :=
  eq_of_filter_eq (fun _ listed _ _ same => firstAt_inj (lists.exists_link listed) same)
    lists.between lists'.between fun key => (lists.within key).trans (lists'.within key).symm

/-- No entry is left out, and there is none besides. -/
theorem Lists.perm (lists : Lists links hints) : hints.Perm (links.flatMap entriesOf) := by
  have same (key) : hints.filter (fun h => h.group = key) =
      (links.flatMap entriesOf).filter fun h => h.group = key := by
    rw [lists.within, flatMap_entriesOf, flatMap_entriesOf, filter_flatMap_ofLink]
  exact perm_of_filter_eq same

/-- The list can be made entry by entry, each put behind its group. -/
theorem simplify_eq_foldl (links : List ResolvedLink) :
    simplify links true = ((links.flatMap entriesOf).foldl (place Hint.group) []).flatten := by
  rw [simplify_true, flatMap_entriesOf]
  exact congrArg List.flatten (foldl_place [] (links.flatMap ofLink)).symm

/-- If scopes are written only where they are needed, the hints are the same but for those that are
alone in their groups. -/
theorem simplify_false (links : List ResolvedLink) :
    simplify links false = (simplify links true).map fun h =>
      if (simplify links true).countP (fun other => other.group = h.group) = 1
      then { h with scope := none } else h := by
  have written (group) (listed : group ∈ groupsBy Hint.group (links.flatMap ofLink)) :
      dropScope group = group.map fun h =>
        if (simplify links true).countP (fun other => other.group = h.group) = 1
        then { h with scope := none } else h := by
    -- All hints of a text, kind and spec are in one group, so counting them gives its length.
    have count (h) (member : h ∈ group) :
        (simplify links true).countP (fun other => other.group = h.group) = group.length := by
      rw [List.countP_eq_length_filter, simplify_true, filter_flatten_groupsBy,
        ← eq_filter_of_mem_groupsBy listed member]
    match group, count with
    | [], _ => rfl
    | [h], count =>
      have one : (simplify links true).countP (fun other => other.group = h.group) = 1 :=
        count h (List.mem_singleton_self h)
      rw [List.map_singleton, if_pos one]
      rfl
    | h :: next :: rest, count =>
      refine (List.map_id _).symm.trans (List.map_congr_left fun other member => ?_)
      rw [count other member, if_neg (by simp)]
      rfl
  have parts : simplify links false =
      ((groupsBy Hint.group (links.flatMap ofLink)).map dropScope).flatten := rfl
  rw [parts, List.map_congr_left written, ← List.map_flatten, ← simplify_true]

end Listing

/-! The warning. -/

/-- The lines that several hints have, each with these hints. -/
def sharedParts (hints : List Hint) : List (String × List Hint) :=
  ((groupsBy blockLine hints).filter fun group => group.length > 1).map fun group =>
    ((group.head?.map blockLine).getD "", group)

theorem indentedLines_append (lines others : List String) :
    indentedLines (lines ++ others) = indentedLines lines ++ indentedLines others := by
  rw [indentedLines, List.map_append, String.join_append, indentedLines, indentedLines]

theorem indentedLines_singleton (line : String) : indentedLines [line] = "\n" ++ line := by
  rw [indentedLines, List.map_singleton, String.join_cons]
  exact String.append_empty

theorem selectable_eq (hints : List Hint) : selectable hints = indentedLines (offerLines hints) := by
  cases hints with
  | nil => rfl
  | cons h rest =>
    have lines : "\nTo auto-select one of the following refs, " =
        "\n" ++ "To auto-select one of the following refs, " := by decide
    have clauses : "\nor add one of these clauses to the 'Link Defaults' metadata:" =
        "\n" ++ "or add one of these clauses to the 'Link Defaults' metadata:" := by decide
    rw [selectable, offerLines, if_neg (by simp), if_neg (by simp), lines, clauses]
    simp only [indentedLines_append, indentedLines_singleton, String.append_assoc]

/-- A group is shown under the line of its first hint. -/
theorem indistinct_eq (hints : List Hint) :
    indistinct ((groupsBy blockLine hints).filter fun group => group.length > 1) =
      indentedLines (sharedLines (sharedParts hints)) := by
  have lines : ((groupsBy blockLine hints).filter fun group => group.length > 1).flatMap
      (fun group => (group.head?.map blockLine).toList ++ group.map fun h => "  " ++ h.url) =
        (sharedParts hints).flatMap fun part => part.1 :: part.2.map fun h => "  " ++ h.url := by
    rw [sharedParts, List.flatMap_map]
    -- No group is empty, so each has a first hint to take the line from.
    refine List.flatMap_congr fun group kept => ?_
    obtain ⟨h, rest, rfl⟩ :=
      List.exists_cons_of_ne_nil (ne_nil_of_mem_groupsBy (List.mem_filter.1 kept).1)
    rfl
  rw [indistinct, lines, sharedLines]
  cases groups : (groupsBy blockLine hints).filter fun group => group.length > 1 with
  | nil =>
    have none : sharedParts hints = [] := by rw [sharedParts, groups, List.map_nil]
    rw [none]
    rfl
  | cons group rest =>
    have some : sharedParts hints ≠ [] := by rw [sharedParts, groups]; exact List.cons_ne_nil _ _
    have notice : "\nThe following refs show up multiple times in their spec, " =
        "\n" ++ "The following refs show up multiple times in their spec, " := by decide
    rw [if_neg (by simp), if_neg some, notice]
    simp only [indentedLines_append, indentedLines_singleton, String.append_assoc]

theorem ambiguityMessage_eq (text : String) (kind : LinkKind) (scope : SortedSet)
    (chosenUrl : String) (hints : List Hint) :
    ambiguityMessage text kind scope chosenUrl hints =
      warning text kind scope chosenUrl (offered hints) (sharedParts hints) := by
  have alone : ((groupsBy blockLine hints).filter fun group => group.length == 1).flatten =
      offered hints := rfl
  have chosen : ".\nArbitrarily chose " = "." ++ "\n" ++ "Arbitrarily chose " := by decide
  unfold ambiguityMessage warning
  simp only [alone, selectable_eq, indistinct_eq, SortedSet.isEmpty_iff, SortedSet.join, chosen,
    toString, indentedLines_append, indentedLines_singleton, String.append_assoc]

/-- A group is listed with a line that one of its hints has. -/
theorem exists_line {hints group : List Hint} (listed : group ∈ groupsBy blockLine hints) :
    ∃ h ∈ group, (group.head?.map blockLine).getD "" = h.blockLine := by
  obtain ⟨h, rest, rfl⟩ := List.exists_cons_of_ne_nil (ne_nil_of_mem_groupsBy listed)
  exact ⟨h, List.mem_cons_self, rfl⟩

theorem shows_offered (hints : List Hint) : Shows hints (offered hints) (sharedParts hints) := by
  constructor
  · -- Every group has one hint or several.
    have several : (groupsBy blockLine hints).filter (fun group => group.length > 1) =
        (groupsBy blockLine hints).filter fun group => !(group.length == 1) := by
      refine List.filter_congr fun group listed => ?_
      have some := List.length_pos_of_ne_nil (ne_nil_of_mem_groupsBy listed)
      rw [Bool.eq_iff_iff]
      simp only [decide_eq_true_eq, Bool.not_eq_true', beq_eq_false_iff_ne]
      omega
    have groups : (sharedParts hints).flatMap Prod.snd =
        ((groupsBy blockLine hints).filter fun group => group.length > 1).flatten := by
      rw [sharedParts, List.flatMap_map, List.flatMap_id']
    rw [groups, several, offered, ← List.flatten_append]
    exact (List.filter_append_perm _ _).flatten.trans (flatten_groupsBy_perm blockLine hints)
  · exact offered_eq hints
  · -- A group has all hints with the key of one of its hints, which is the line.
    intro part shared
    obtain ⟨group, kept, rfl⟩ := List.mem_map.1 shared
    obtain ⟨listed, long⟩ := List.mem_filter.1 kept
    obtain ⟨h, member, line⟩ := exists_line listed
    refine ⟨of_decide_eq_true long, ?_⟩
    simp only [line]
    exact eq_filter_of_mem_groupsBy listed member
  · refine List.pairwise_map.2 (((pairwise_groupsBy blockLine hints).imp_of_mem ?_).filter _)
    intro group later listed listed' before
    obtain ⟨h, member, line⟩ := exists_line listed
    obtain ⟨other, member', line'⟩ := exists_line listed'
    rw [line, line']
    exact before h member other member'

/-- The hints for links are the list of the links, with one entry for each term that a candidate is
for; it is also what comes of putting entry by entry behind its group. If scopes are written only
where they are needed, the list is the same but for entries that are alone in their groups and have
none. A warning shows each hint once: its line and its clause if no other hint has the line, and its
URL below the line if others have it. -/
theorem each_listed_and_shown_once (links : List ResolvedLink) (hints : List Hint) (text : String)
    (kind : LinkKind) (scope : SortedSet) (chosenUrl : String) :
    (hints = simplify links true ↔ Lists links hints) ∧
    (simplify links true).Perm (links.flatMap entriesOf) ∧
    simplify links true = ((links.flatMap entriesOf).foldl (place Hint.group) []).flatten ∧
    simplify links false = ((simplify links true).map fun h =>
      if (simplify links true).countP (fun other => other.group = h.group) = 1
      then { h with scope := none } else h) ∧
    ∃ alone shared, Shows hints alone shared ∧
      ambiguityMessage text kind scope chosenUrl hints =
        warning text kind scope chosenUrl alone shared := by
  have lists := lists_simplify links
  refine ⟨⟨?_, fun other => other.unique lists⟩, lists.perm, simplify_eq_foldl links,
    simplify_false links, offered hints, sharedParts hints, shows_offered hints, ?_⟩
  · rintro rfl
    exact lists
  · exact ambiguityMessage_eq text kind scope chosenUrl hints

/-- Links that take turns are put together, and the link that is alone in its group needs no scope. -/
example :
    let link (spec scope url : String) : ResolvedLink := ⟨url, {
      text := "auto", kind := .value, origin := .external spec spec none {},
      scope := if scope = "" then ∅ else (∅ : SortedSet).insert scope, exported := true,
      normative := true }⟩
    (simplify [link "css-a" "width" "#w", link "css-b" "" "#auto", link "css-a" "" "#a"] false).map
      blockLine = [
        "spec:css-a; type:value; for:width; text:auto",
        "spec:css-a; type:value; for:/; text:auto",
        "spec:css-b; type:value; text:auto"] := by
  decide +kernel

end Hint

end SpecLink
