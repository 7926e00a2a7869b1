import SpecLink.Proofs.Resolver.Usages

/-!
# What becomes of a citation

The reference lists go by the names that entries are listed under. So of several entries with one
name, up to case, they have the one that was cited first, whatever its key; and an entry that was
cited is listed itself unless one with another key was cited under its name before. The bibliography
may change between the calls. Main statement: `listed_of_cited`.
-/
namespace SpecLink.Resolver

/-- What may happen to a resolver: it takes a call, or gets another bibliography or other messages. -/
inductive Step where
  | call (c : Call)
  | biblio (store : BiblioStore)
  | messages (log : MessageLog)

def Step.after (r : Resolver) : Step → Resolver
  | .call c => c.after r
  | .biblio store => { r with biblio := store }
  | .messages log => { r with messages := log }

/-- What a step uses. Only calls use anything. -/
def Step.uses (r : Resolver) : Step → List Use
  | .call c => c.uses r
  | .biblio _ => []
  | .messages _ => []

/-- The resolver after some steps, the first one first. -/
def walk (steps : List Step) (r : Resolver) : Resolver := steps.foldl Step.after r

/-- What is cited in some steps, in this order. -/
def citationsAlong (r : Resolver) : List Step → List Citation
  | [] => []
  | step :: rest => Use.citations (step.uses r) ++ citationsAlong (step.after r) rest

section Walks

variable {r : Resolver}

theorem usages_step (r : Resolver) (step : Step) :
    (step.after r).usages = (step.uses r).foldl Usages.record r.usages := by
  cases step with
  | call c => exact usages_after r c
  | biblio biblio => rfl
  | messages messages => rfl

/-- The usages are always what some uses come to, and of these the citations are known. -/
theorem sums_walk {uses : List Use} (sums : r.usages.Sums uses) (steps : List Step) :
    ∃ all, (walk steps r).usages.Sums all ∧
      Use.citations all = Use.citations uses ++ citationsAlong r steps := by
  induction steps generalizing r uses with
  | nil => exact ⟨uses, sums, (List.append_nil _).symm⟩
  | cons step rest ih =>
    have next := sums.foldl (step.uses r)
    rw [← usages_step] at next
    obtain ⟨all, later, same⟩ := ih next
    refine ⟨all, later, same.trans ?_⟩
    rw [citationsAlong, Use.citations, List.filterMap_append, List.append_assoc]
    rfl

theorem citationsAlong_append (r : Resolver) (steps more : List Step) :
    citationsAlong r (steps ++ more) = citationsAlong r steps ++ citationsAlong (walk steps r) more := by
  induction steps generalizing r with
  | nil => rfl
  | cons step rest ih =>
    rw [List.cons_append, citationsAlong, citationsAlong, ih, List.append_assoc]
    rfl

/-- A citation that is answered with an entry cites this entry. -/
theorem citations_cite {request : BiblioRequest} {e : BiblioEntry}
    (answered : ((cite request).on r).1 = .ok (some e)) :
    Use.citations ((Call.cite request).uses r) = [⟨e, request.normative⟩] := by
  rw [cite_on] at answered
  obtain ⟨⟨_, remark⟩, looked, rfl⟩ := (map_ok_iff _ _ _).1 answered
  rw [Call.uses, entryGiven?, looked]
  rfl

end Walks

/-- Whatever happens before and after a citation that is answered with an entry, exactly one entry
goes by its name in the lists at the end: the first one that was cited under it. So an entry with the
same key is listed unless one with another key was cited under the name before. -/
theorem listed_of_cited (anchors : AnchorStore) (biblio : BiblioStore) (config : Config)
    (metadata : Metadata) (before later : List Step) {request : BiblioRequest} {e : BiblioEntry}
    (answered : ((cite request).on
      (walk before (ofStores anchors biblio config metadata))).1 = .ok (some e)) :
    let r := ofStores anchors biblio config metadata
    let u := (walk (before ++ .call (.cite request) :: later) r).usages
    let listed := u.normativeEntries ++ u.informativeEntries
    let earlier := citationsAlong r before
    let name := Text.lowercase e.displayKey
    listed.filter (fun d => Text.lowercase d.displayKey == name) =
      [(Citation.firstNamed? earlier name).getD e] ∧
    ((∀ c ∈ earlier, c.name = name → c.entry.key = e.key) → ∃ d ∈ listed, d.key = e.key) := by
  intro r u listed earlier name
  have unused : r.usages.Sums [] := by
    rw [usages_ofStores]
    exact Usages.sums_empty
  obtain ⟨all, sums, cited⟩ := sums_walk unused (before ++ .call (.cite request) :: later)
  rw [citationsAlong_append, citationsAlong, Step.uses, citations_cite answered] at cited
  have first : Citation.firstNamed? (Use.citations all) name =
      some ((Citation.firstNamed? earlier name).getD e) := by
    have own (more : List Citation) :
        Citation.firstNamed? (⟨e, request.normative⟩ :: more) name = some e := by
      simp [Citation.firstNamed?, Citation.name, name]
    rw [cited, Use.citations, List.filterMap_nil, List.nil_append, List.singleton_append,
      Citation.firstNamed?_append, own]
    cases Citation.firstNamed? earlier name with
    | some other => rfl
    | none => rfl
  have only := sums.filter_entries first
  refine ⟨only, fun same => ?_⟩
  have member : (Citation.firstNamed? earlier name).getD e ∈ listed :=
    (List.mem_filter.1 (only ▸ List.mem_cons_self)).1
  refine ⟨_, member, ?_⟩
  cases found : Citation.firstNamed? earlier name with
  | none => rfl
  | some other =>
    -- Whoever was first goes by the name, and so has the key.
    obtain ⟨c, sought, rfl⟩ := Option.map_eq_some_iff.1 found
    have named := List.find?_some sought
    exact same c (List.mem_of_find?_eq_some sought) (beq_iff_eq.1 named)

/-- A bibliography of two entries that are listed under one name. -/
def livingBiblio : BiblioStore :=
  ((BiblioStore.ofSource (.ofFiles ∅)).addEntry
    { key := "dom", title := "DOM" }).addEntry
    { key := "dom-ls", title := "DOM Living Standard", preferredAlias := some "DOM" }

/-- A resolver over a bibliography alone. -/
def overBiblio (biblio : BiblioStore) : Resolver :=
  ofStores { source := .ofFiles ∅ } biblio { version := 1, dataDir := "" } {}

/-- The keys of the entries that are listed in the end. -/
def listedKeys (r : Resolver) : List String :=
  (r.usages.normativeEntries ++ r.usages.informativeEntries).map BiblioEntry.key

/-- An entry that another one with its name is cited behind is listed. -/
theorem listed_of_living :
    let r := overBiblio livingBiblio
    let u := (walk [.biblio livingBiblio, .call (.cite { key := "DOM-LS" }),
      .call (.cite { key := "dom", normative := true })] r).usages
    ∃ d ∈ u.normativeEntries ++ u.informativeEntries, d.key = "dom-ls" := by
  intro r u
  have asked : ((cite { key := "DOM-LS" }).on (walk [.biblio livingBiblio] r)).1.map
      (Option.map BiblioEntry.key) = .ok (some "dom-ls") := by decide +kernel
  obtain ⟨entry, answered, same⟩ := (map_ok_iff _ _ _).1 asked
  obtain ⟨e, rfl, key⟩ := Option.map_eq_some_iff.1 same
  obtain ⟨-, kept⟩ := listed_of_cited _ livingBiblio _ {} [.biblio livingBiblio]
    [.call (.cite { key := "dom", normative := true })] answered
  -- Nothing was cited before.
  obtain ⟨d, listed, own⟩ := kept fun c member => absurd member List.not_mem_nil
  exact ⟨d, listed, own.trans key⟩

/-- An entry that is cited behind another one with its name is not listed. -/
theorem listedKeys_of_living :
    let cited := [.call (.cite { key := "dom" }), .call (.cite { key := "dom-ls" })]
    let r := walk [.call (.cite { key := "dom" })] (overBiblio livingBiblio)
    ((cite { key := "dom-ls" }).on r).1.map (Option.map BiblioEntry.key) = .ok (some "dom-ls") ∧
    (walk cited (overBiblio livingBiblio)).listedKeys = ["dom"] := by
  decide +kernel

end SpecLink.Resolver
