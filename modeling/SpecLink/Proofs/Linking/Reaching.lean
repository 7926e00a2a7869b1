import SpecLink.Proofs.Linking.Collecting
import SpecLink.Proofs.Linking.Passes
import SpecLink.Proofs.Text.Variants

/-!
# Links to what a document defines

An element that defines a term under some text is reached by a link that asks for the same kind,
text and terms. The two sides read their terms alike but for one: a definition may be for `/`, while
a link that asks for `/` asks for nothing, so a definition that is for `/` alone is out of reach.
Main statement: `href_of_collected`.
-/
namespace SpecLink

namespace Element

/-- The texts by which an element makes its term known, as they are written. -/
def Declares (el : Element) (text : String) : Prop :=
  text ∈ Text.splitAt '|' el.linkText ∨
    ∃ texts, el.attr? "data-local-lt" = some texts ∧ text ∈ Text.splitAt '|' texts

/-- The second element, which has no target yet, links to what the first one defines by one of its
texts. -/
structure LinkedBy (el : Element) (text : String) (link : Element) : Prop where
  unlinked : link.isLinked = false
  kind : link.attr? "data-link-type" = some ((el.attr? "data-dfn-type").getD "dfn")
  text : link.attr? "data-lt" = some text
  scope : link.attr? "data-link-for" = el.attr? "data-dfn-for"
  status : ∃ status, link.readAttr "data-link-status" Status.read = .ok status

theorem trim_of_mem_scopeAttr {el : Element} {name value : String}
    (member : value ∈ el.scopeAttr name) : Text.trim value = value ∧ value ≠ "" := by
  rw [scopeAttr, SortedSet.mem_ofList] at member
  obtain ⟨listed, proper⟩ := List.mem_filter.1 member
  obtain ⟨raw, -, rfl⟩ := List.mem_map.1 listed
  refine ⟨Text.trim_trim raw, ?_⟩
  rintro empty
  rw [empty] at proper
  cases proper

/-- The parts of a definition are read from the attributes of its element. -/
theorem definition?_ok_iff {el : Element} {d : Definition} (declared : el.definition? = .ok (some d)) :
    (∃ kind, el.readAttr "data-dfn-type" DefinitionKind.read = .ok kind ∧ d.kind = kind.getD .dfn) ∧
      d.texts = el.linkText ∧ d.localTexts = el.attr? "data-local-lt" ∧
      d.scope = el.scopeAttr "data-dfn-for" := by
  rw [definition?] at declared
  split at declared
  · cases declared
  · obtain ⟨kind, read, declared⟩ := (bind_ok_iff _ _ _).1 declared
    split at declared
    · cases declared
    · obtain rfl := Option.some.inj (Except.ok.inj declared)
      exact ⟨⟨kind, read, rfl⟩, rfl, rfl, rfl⟩

theorem attr?_linkTo (el : Element) (url : String) : (el.linkTo url).attr? "href" = some url := by
  have written : (el.setAttr "href" url).attr? "href" = some url :=
    SortedMap.get?_insert_self _ _ _
  rw [linkTo, promote]
  split
  · exact written
  · exact written

end Element

theorem DefinitionKind.name_of_ofName? {s : String} {kind : DefinitionKind}
    (named : ofName? s = some kind) : kind.name = s := by
  rw [ofName?] at named
  have fits := List.find?_some named
  exact beq_iff_eq.1 fits

theorem DefinitionKind.ofName?_of_read {word : String} {kind : DefinitionKind}
    (read : DefinitionKind.read word = .ok kind) : ofName? (Text.trim word) = some kind := by
  simp only [DefinitionKind.read] at read
  split at read
  next other named => rw [named, Except.ok.inj read]
  next => cases read

/-- No shorthand of links is the word for a kind of definition. -/
theorem LinkKind.ofName?_of_ofName? {s : String} {kind : DefinitionKind}
    (named : DefinitionKind.ofName? s = some kind) : LinkKind.ofName? s = some (.exact kind) := by
  have apart : ∀ k ∈ LinkKind.shorthands, ∀ d ∈ DefinitionKind.all, k.name ≠ d.name := by
    decide +kernel
  have plain : LinkKind.shorthands.find? (fun k => k.name == s) = none := by
    apply List.find?_eq_none.2
    intro k member same
    have name := DefinitionKind.name_of_ofName? named
    exact apart k member kind kind.mem_all ((beq_iff_eq.1 same).trans name.symm)
  rw [LinkKind.ofName?, plain, named]
  rfl

/-- The word for a kind of definition asks for that kind in a link. -/
theorem LinkKind.read_of_read {word : String} {kind : DefinitionKind}
    (read : DefinitionKind.read word = .ok kind) : LinkKind.read word = .ok (.exact kind) := by
  simp only [LinkKind.read, LinkKind.ofName?_of_ofName? (DefinitionKind.ofName?_of_read read)]

/-- A link asks for all that it names but the slash. -/
theorem LinkRequest.mem_cleanScope_iff {request : LinkRequest}
    (clean : ∀ value ∈ request.scope, Text.trim value = value ∧ value ≠ "") {value : String} :
    value ∈ request.cleanScope ↔ value ∈ request.scope ∧ value ≠ "/" := by
  rw [cleanScope, SortedSet.mem_ofList, List.mem_filter, List.mem_map]
  constructor
  · rintro ⟨⟨raw, member, rfl⟩, proper⟩
    rw [Bool.and_eq_true, bne_iff_ne] at proper
    rw [(clean raw member).1] at proper ⊢
    exact ⟨member, proper.2⟩
  · rintro ⟨member, notSlash⟩
    refine ⟨⟨value, member, (clean value member).1⟩, ?_⟩
    rw [Bool.and_eq_true, bne_iff_ne, Bool.not_eq_true', Bool.eq_false_iff, ne_eq,
      String.isEmpty_iff]
    exact ⟨(clean value member).2, notSlash⟩

theorem SortedSet.exists_mem {s : SortedSet} (some : s ≠ ∅) : ∃ x, x ∈ s := by
  cases members : s.members with
  | nil => exact absurd (SortedSet.isEmpty_iff.1 (by rw [SortedSet.isEmpty, members]; rfl)) some
  | cons x rest =>
    have member : x ∈ s.members := members ▸ List.mem_cons_self
    exact ⟨x, member⟩

theorem Definition.subset_expandScope (scope : SortedSet) {term : String} (member : term ∈ scope) :
    term ∈ Definition.expandScope scope := by
  rw [Definition.expandScope]
  induction scope.members.filterMap Definition.descriptorOf? generalizing scope with
  | nil => exact member
  | cons descriptor rest ih => exact ih (scope.insert descriptor) (SortedSet.mem_insert.2 (.inr member))

namespace Element

/-- The word for the kind of what an element defines. -/
theorem read_kindWord {el : Element} {d : Definition} (declared : el.definition? = .ok (some d)) :
    DefinitionKind.read ((el.attr? "data-dfn-type").getD "dfn") = .ok d.kind := by
  obtain ⟨⟨kind, read, same⟩, -⟩ := definition?_ok_iff declared
  rw [readAttr] at read
  cases written : el.attr? "data-dfn-type" with
  | none =>
    simp only [written] at read
    obtain rfl := Except.ok.inj read
    rw [same]
    decide +kernel
  | some word =>
    simp only [written] at read
    cases known : DefinitionKind.read word with
    | error failure =>
      rw [known] at read
      cases read
    | ok word =>
      rw [known] at read
      obtain rfl := Except.ok.inj read
      rw [Option.getD_some, known, same]
      rfl

/-- The link asks for the kind and the terms of the definition. -/
theorem LinkedBy.linkRequest {el link : Element} {text : String} {d : Definition}
    (linked : el.LinkedBy text link) (declared : el.definition? = .ok (some d)) :
    ∃ request, link.linkRequest = .ok request ∧ request.kind = .exact d.kind ∧
      request.text = text ∧ request.scope = d.scope := by
  obtain ⟨status, readable⟩ := linked.status
  obtain ⟨-, -, -, scope⟩ := definition?_ok_iff declared
  have kind : link.readAttr "data-link-type" LinkKind.read = .ok (some (.exact d.kind)) := by
    simp only [readAttr, linked.kind, LinkKind.read_of_read (read_kindWord declared)]
    rfl
  rw [Element.linkRequest, kind, readable]
  refine ⟨_, rfl, rfl, ?_, ?_⟩
  · simp only [linkText, linked.text, Option.getD_some]
  · simp only [scopeAttr, linked.scope, scope]

end Element

namespace Resolver

/-- A link to a term that resolves gets its target. -/
theorem linkElement_of_resolve {el : Element} {kind : DefinitionKind} {word : String}
    (asked : el.attr? "data-link-type" = some word) (read : DefinitionKind.read word = .ok kind)
    {request : LinkRequest} (made : el.linkRequest = .ok request) {r : Resolver}
    {link : ResolvedLink} (answered : ((resolve request).on r).1 = .ok link) :
    ((linkElement el).on r).1 = .ok (el.linkTo link.url, .term) := by
  have known := DefinitionKind.ofName?_of_read read
  have notEntry : word ≠ "biblio" := by
    rintro rfl
    have unknown : DefinitionKind.ofName? (Text.trim "biblio") = none := by decide +kernel
    rw [unknown] at known
    cases known
  have notSection : word ≠ "section" := by
    rintro rfl
    have unknown : DefinitionKind.ofName? (Text.trim "section") = none := by decide +kernel
    rw [unknown] at known
    cases known
  have term : (linkTerm el).on r = (.ok (el.linkTo link.url, .term), ((resolve request).on r).2) := by
    simp only [linkTerm, made, Action.on_bind, Action.on_attempt, answered, Action.on_pure]
  rw [linkElement, asked]
  split
  next same => exact absurd (Option.some.inj same) notEntry
  next same => exact absurd (Option.some.inj same) notSection
  next =>
    rw [Action.on_bind, term]
    rfl

end Resolver

namespace Definition

/-- The definition is for the slash and for nothing else. -/
def ForSlash (d : Definition) : Prop := d.scope ≠ ∅ ∧ ∀ term ∈ d.scope, term = "/"

theorem scope_of_mem_candidates {d : Definition} {c : Candidate} (member : c ∈ d.candidates) :
    c.kind = d.kind ∧ c.scope = expandScope d.scope := by
  rcases List.mem_append.1 member with member | member <;>
  · obtain ⟨text, -, rfl⟩ := List.mem_map.1 member
    exact ⟨rfl, rfl⟩

theorem ForSlash.expandScope_eq {d : Definition} (forSlash : d.ForSlash) :
    expandScope d.scope = d.scope := by
  have none : d.scope.members.filterMap descriptorOf? = [] := by
    rw [List.filterMap_eq_nil_iff]
    intro term member
    rw [forSlash.2 term member]
    decide +kernel
  rw [expandScope, none]
  rfl

theorem mem_splitTexts {texts text : String} (piece : text ∈ Text.splitAt '|' texts)
    (nonblank : Text.isBlankText text = false) : LinkText.normalize text ∈ splitTexts texts := by
  refine List.mem_filter.2 ⟨List.mem_map_of_mem piece, ?_⟩
  rw [Bool.not_eq_true', Bool.eq_false_iff, ne_eq, String.isEmpty_iff]
  exact LinkText.normalize_ne_empty nonblank

/-- A definition has a candidate under each text that its element declares. -/
theorem exists_candidate_of_declares {el : Element} {d : Definition}
    (declared : el.definition? = .ok (some d)) {text : String} (declares : el.Declares text)
    (nonblank : Text.isBlankText text = false) :
    ∃ c ∈ d.candidates, c.text = LinkText.normalize text := by
  obtain ⟨-, texts, localTexts, -⟩ := Element.definition?_ok_iff declared
  rcases declares with piece | ⟨written, given, piece⟩
  · have listed : LinkText.normalize text ∈ d.publicTexts := by
      rw [publicTexts, texts]
      exact mem_splitTexts piece nonblank
    exact ⟨_, List.mem_append_left _ (List.mem_map_of_mem listed), rfl⟩
  · have listed : LinkText.normalize text ∈ d.privateTexts := by
      rw [privateTexts, localTexts, given]
      exact mem_splitTexts piece nonblank
    exact ⟨_, List.mem_append_right _ (List.mem_map_of_mem listed), rfl⟩

end Definition

/-- A link that asks for the terms of a definition wants it, unless that is for the slash alone. -/
theorem LinkQuery.wantsScope_of_same {q : LinkQuery} {request : LinkRequest} {d : Definition}
    {c : Candidate} (scope : q.scope = request.cleanScope) (same : request.scope = d.scope)
    (clean : ∀ value ∈ request.scope, Text.trim value = value ∧ value ≠ "")
    (proper : ¬ d.ForSlash) (expanded : c.scope = Definition.expandScope d.scope) :
    q.WantsScope c := by
  rw [LinkQuery.WantsScope, scope, expanded]
  split
  next empty =>
    -- All that the definition is for was dropped, which only the slash would be.
    have unscoped : d.scope = ∅ := by
      by_contra nonempty
      refine proper ⟨nonempty, fun term member => ?_⟩
      by_contra notSlash
      have kept := (LinkRequest.mem_cleanScope_iff clean).2 ⟨same ▸ member, notSlash⟩
      rw [empty] at kept
      exact SortedSet.not_mem_empty term kept
    rw [unscoped]
    rfl
  next =>
    intro term member
    have asked := ((LinkRequest.mem_cleanScope_iff clean).1 member).1
    exact Definition.subset_expandScope d.scope (same ▸ asked)

/-- No link wants what is for the slash alone. -/
theorem LinkQuery.not_wantsScope_of_forSlash {q : LinkQuery} {request : LinkRequest}
    {d : Definition} {c : Candidate} (scope : q.scope = request.cleanScope)
    (forSlash : d.ForSlash) (expanded : c.scope = Definition.expandScope d.scope) :
    ¬ q.WantsScope c := by
  rw [LinkQuery.WantsScope, scope, expanded, forSlash.expandScope_eq]
  split
  next => exact forSlash.1
  next nonempty =>
    intro wants
    obtain ⟨term, member⟩ := SortedSet.exists_mem nonempty
    have notSlash : term ≠ "/" := by
      rw [LinkRequest.cleanScope, SortedSet.mem_ofList, List.mem_filter, Bool.and_eq_true,
        bne_iff_ne] at member
      exact member.2.2
    exact notSlash (forSlash.2 term (wants term member))

namespace Resolver

/-- What a pass over links leaves as it is. -/
structure Serves (r s : Resolver) : Prop where
  begun : s.phase ≠ .collecting
  definitions : s.definitions = r.definitions
  defaults : s.defaults = r.defaults
  reads : Reads r.anchors.source r.biblio.source s

theorem stable_serves (r : Resolver) : Stable (Serves r) := by
  intro s t change serves
  have reads := stable_reads change serves.reads
  cases change with
  | begin => exact { serves with begun := nofun, reads := reads }
  | opened | readInto | lookup | noted => exact { serves with reads := reads }

variable {metadata : Metadata} {r s : Resolver}

/-- A link to a text and kind that a definition claims goes to a definition. -/
theorem exists_link_of_claimed (consistent : Consistent metadata s) (begun : s.phase ≠ .collecting)
    (noDefaults : s.defaults = {}) (anchorsLoad : AnchorStore.ShardsLoad s.anchors.source)
    (entriesLoad : BiblioStore.ShardsLoad s.biblio.source) {request : LinkRequest} {c : Candidate}
    (claimed : DefinitionIndex.Claimed c s.definitions) (kind : request.kind = .exact c.kind)
    (text : LinkText.normalize request.text = c.text)
    (wanted : (request.query s.defaultStatus).WantsScope c)
    (ordinary : (request.query s.defaultStatus).isCustomProperty = false) :
    ∃ link, ((resolve request).on s).1 = .ok link ∧
      ∃ d ∈ s.definitions.candidates, d.text = c.text ∧ d.kind = c.kind ∧
        ∃ id line, d.origin = .document id line ∧ link.url = "#" ++ id := by
  obtain ⟨other, indexed, sameText, sameKind, sameScope⟩ := claimed
  have query := queryOf_of_defaults_empty noDefaults request
  have normal : LinkText.normalize (request.query s.defaultStatus).text =
      (request.query s.defaultStatus).text := LinkText.normalize_normalize request.text
  obtain ⟨others, first, -⟩ := LinkQuery.texts_eq_cons normal
  have accepted : (request.query s.defaultStatus).kind.accepts other.kind = true := by
    rw [LinkRequest.query, kind, sameKind]
    exact beq_self_eq_true c.kind
  have found : other ∈ s.found (request.query s.defaultStatus) :=
    mem_found_of_mem_definitions indexed first
      (normal.trans (text.trans sameText.symm)) accepted
  have wantsOther : (request.query s.defaultStatus).WantsScope other := by
    rw [LinkQuery.WantsScope, sameScope]
    exact wanted
  rw [← query] at found wantsOther ordinary
  obtain ⟨link, answered, listed, member, id, line, origin, url⟩ :=
    resolve_of_indexed consistent begun anchorsLoad entriesLoad ordinary indexed found wantsOther
  obtain ⟨key, under⟩ := exists_text_of_found s (s.queryOf request)
  have sameKey : link.candidate.text = other.text :=
    (under _ member).1.trans (under other found).1.symm
  have asked : (s.queryOf request).kind = .exact c.kind := by rw [query]; exact kind
  have accepts := (under _ member).2
  rw [asked, LinkKind.accepts, beq_iff_eq] at accepts
  exact ⟨link, answered, link.candidate, listed, sameKey.trans sameText, accepts.symm, id, line,
    origin, url⟩

/-- Once all elements are collected, a link to a text that one of them declares goes to a definition
of the document, whatever the links before it were, unless what is declared is for the slash alone.
Such a definition is never linked to. -/
theorem href_of_collected (reached : Reachable metadata r) (collecting : r.phase = .collecting)
    (noValues : metadata.linkDefaults = []) (noLines : metadata.linkDefaultLines = [])
    (anchorsLoad : AnchorStore.ShardsLoad r.anchors.source)
    (entriesLoad : BiblioStore.ShardsLoad r.biblio.source) (before after : List Element)
    {el : Element} {d : Definition} (declared : el.definition? = .ok (some d)) {n : Nat}
    (added : ((define d).on ((collect before).on r).2).1 = .ok n) :
    let done := ((collect (before ++ el :: after)).on r).2.finish
    (¬ d.ForSlash → ∀ text link, el.Declares text → Text.isBlankText text = false →
      ¬ ((d.kind = .property ∨ d.kind = .descriptor) ∧
        Text.startsWith "--" (LinkText.normalize text) = true) →
      el.LinkedBy text link → ∀ first rest report,
      (linkElements first done).1.outcome = .ok report →
      ∃ c ∈ done.definitions.candidates, c.text = LinkText.normalize text ∧ c.kind = d.kind ∧
        ∃ id line, c.origin = .document id line ∧
        ∃ linked, (linkElements (first ++ link :: rest) done).1.elements[first.length]? =
          some linked ∧ linked.attr? "href" = some ("#" ++ id)) ∧
    (d.ForSlash → ∀ calls request link, ((resolve request).on (run calls done)).1 = .ok link →
      link.candidate ∉ d.candidates) := by
  intro done
  have collects : Collects metadata r := ⟨reached, collecting⟩
  obtain ⟨-, collected⟩ := failsOnly_collect (before ++ el :: after) r collects
  have doneReached : Reachable metadata done := collected.reached.call .finish
  have noDefaults : done.defaults = {} := doneReached.defaults_eq_empty noValues noLines
  have begun : done.phase ≠ .collecting := by
    simp only [done, finish, collected.phase]
    decide
  constructor
  · intro proper text link declares nonblank ordinary linkedBy first rest report ended
    -- The links before it leave the definitions, the rules and the data as they are.
    have reads : Reads r.anchors.source r.biblio.source done :=
      (preserves_reads_collect (before ++ el :: after) r ⟨rfl, rfl⟩).run [.finish]
    have serves : Serves done (linkElements first done).2 :=
      Stable.linkElements (stable_serves done) first ⟨begun, rfl, rfl, ⟨rfl, rfl⟩⟩
    have consistent : Consistent metadata (linkElements first done).2 :=
      Stable.linkElements stable_consistent first doneReached.consistent
    obtain ⟨c, member, under⟩ := Definition.exists_candidate_of_declares declared declares nonblank
    obtain ⟨kind, expanded⟩ := Definition.scope_of_mem_candidates member
    have claimed : DefinitionIndex.Claimed c (linkElements first done).2.definitions := by
      rw [serves.definitions]
      have indexed := claimed_of_collect collects before after declared added c member
      simp only [done, finish, collected.phase]
      exact indexed
    obtain ⟨request, made, asked, sought, same⟩ := linkedBy.linkRequest declared
    have clean : ∀ value ∈ request.scope, Text.trim value = value ∧ value ≠ "" := by
      intro value listed
      obtain ⟨-, -, -, scope⟩ := Element.definition?_ok_iff declared
      rw [same, scope] at listed
      exact Element.trim_of_mem_scopeAttr listed
    have notCustom (status : Status) : (request.query status).isCustomProperty = false := by
      rw [Bool.eq_false_iff, ne_eq, isCustomProperty_iff]
      simp only [LinkRequest.query, asked, sought, LinkKind.exact.injEq, reduceCtorEq, false_or]
      exact ordinary
    obtain ⟨answer, answered, target, indexed, sameText, sameKind, id, line, origin, url⟩ :=
      exists_link_of_claimed consistent serves.begun (serves.defaults.trans noDefaults)
        (serves.reads.anchors.trans reads.anchors ▸ anchorsLoad)
        (serves.reads.biblio.trans reads.biblio ▸ entriesLoad) claimed (by rw [asked, kind])
        (by rw [sought, under])
        (LinkQuery.wantsScope_of_same rfl same clean proper expanded) (notCustom _)
    obtain ⟨others, elements⟩ := linkElements_cons rest linkedBy.unlinked
      (linkElement_of_resolve linkedBy.kind (Element.read_kindWord declared) made answered)
    obtain ⟨length, split⟩ := linkElements_append (link :: rest) ended
    refine ⟨target, serves.definitions ▸ indexed, sameText.trans under, sameKind.trans kind, id,
      line, origin, link.linkTo answer.url, ?_, ?_⟩
    · rw [split, elements, ← length, List.getElem?_append_right (Nat.le_refl _), Nat.sub_self]
      rfl
    · rw [Element.attr?_linkTo, url]
  · intro forSlash calls request link answered member
    have later := doneReached.run calls
    have none := later.defaults_eq_empty noValues noLines
    obtain ⟨-, wanted, -⟩ := eligible_of_resolve later.consistent.isSealed answered
    rw [queryOf_of_defaults_empty none] at wanted
    exact LinkQuery.not_wantsScope_of_forSlash rfl forSlash
      (Definition.scope_of_mem_candidates member).2 wanted

/-- An element that defines the value `auto` for a term. -/
def autoFor (term : String) : Element where
  tag := "dfn"
  attributes := .ofList [("data-dfn-for", term), ("data-dfn-type", "value"), ("id", "auto")]
  text := "auto"

/-- A link to the value `auto` for a term. -/
def linkToAutoFor (term : String) : Element where
  tag := "a"
  attributes := .ofList
    [("data-link-for", term), ("data-link-type", "value"), ("data-lt", "auto")]

/-- The resolver of a document without data. -/
def bare : Resolver :=
  ofStores { source := .ofFiles ∅ } { source := .ofFiles ∅ } { version := 1, dataDir := "" } {}

/-- A link to a value goes to the definition for the same term. -/
theorem href_of_auto :
    let d : Definition :=
      { id := "auto", kind := .value, texts := "auto", scope := .ofList ["width"] }
    (autoFor "width").definition? = .ok (some d) ∧ ¬ d.ForSlash ∧
    ((define d).on ((collect []).on bare).2).1 = .ok 1 ∧
    (autoFor "width").Declares "auto" ∧
    (autoFor "width").LinkedBy "auto" (linkToAutoFor "width") ∧
    ∃ id linked,
      (linkElements ([] ++ [linkToAutoFor "width"])
        ((collect ([] ++ [autoFor "width"])).on bare).2.finish).1.elements[0]? = some linked ∧
      linked.attr? "href" = some ("#" ++ id) := by
  intro d
  have declared : (autoFor "width").definition? = .ok (some d) := by decide +kernel
  have proper : ¬ d.ForSlash := fun forSlash =>
    absurd (forSlash.2 "width" (by decide +kernel)) (by decide)
  have added : ((define d).on ((collect []).on bare).2).1 = .ok 1 := by decide +kernel
  have declares : (autoFor "width").Declares "auto" := .inl (by decide +kernel)
  have linkedBy : (autoFor "width").LinkedBy "auto" (linkToAutoFor "width") :=
    { unlinked := by decide +kernel
      kind := by decide +kernel
      text := by decide +kernel
      scope := by decide +kernel
      status := ⟨none, by decide +kernel⟩ }
  have reads := reads_ofStores { source := .ofFiles ∅ } { source := .ofFiles ∅ }
    { version := 1, dataDir := "" } {}
  have fresh := fresh_ofStores { source := .ofFiles ∅ } { source := .ofFiles ∅ }
    { version := 1, dataDir := "" } {}
  have reached : Reachable {} bare := .ofStores _ _ _
  obtain ⟨linkable, -⟩ := href_of_collected reached fresh.phase rfl rfl
    (reads.anchors ▸ AnchorStore.shardsLoad_ofFiles_empty)
    (reads.biblio ▸ BiblioStore.shardsLoad_ofFiles_empty) [] [] declared added
  obtain ⟨c, -, -, -, id, -, -, linked, found, href⟩ := linkable proper "auto"
    (linkToAutoFor "width") declares (by decide +kernel) (by decide +kernel) linkedBy [] [] _ rfl
  exact ⟨declared, proper, added, declares, linkedBy, id, linked, found, href⟩

/-- What is defined for the slash is collected, and a link to it stays without a target. -/
theorem unlinked_despite_slash :
    ((collect [autoFor "/"]).on bare).1 = .ok 1 ∧
    (autoFor "/").Declares "auto" ∧ (autoFor "/").LinkedBy "auto" (linkToAutoFor "/") ∧
    (linkElements [linkToAutoFor "/"] ((collect [autoFor "/"]).on bare).2.finish).1.elements.map
      (·.attr? "href") = [none] := by
  refine ⟨by decide +kernel, .inl (by decide +kernel), ?_, by decide +kernel⟩
  exact
    { unlinked := by decide +kernel
      kind := by decide +kernel
      text := by decide +kernel
      scope := by decide +kernel
      status := ⟨none, by decide +kernel⟩ }

end Resolver

end SpecLink
