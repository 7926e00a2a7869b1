import Mathlib.Algebra.Order.BigOperators.Group.List
import Mathlib.Algebra.Order.Group.Nat
import SpecLink.Proofs.Resolver.Contract
import SpecLink.Proofs.Text.Blanks

/-!
# Specs that links do not go to

A project lists specs that links never go to, and a document never links to its own published copy.
The listed names and the document's short name are put into lowercase, while the database is taken
as it is: such a name keeps links away from what bears it exactly if it is lowercase. Only a request
that names no spec is kept away from the document's own short name in any spelling. Main statement:
`neverLinks_iff`.
-/
namespace SpecLink

namespace AnchorStore

/-- No anchor with the short name is exported, and none will be. -/
structure Withholds (name : String) (store : AnchorStore) : Prop where
  ownShortname : store.ownShortname = some name
  notExported : ∀ c ∈ store.anchors, c.shortname? = some name → c.exported = false

theorem exported_withhold {name : String} {c : Candidate}
    (own : (withhold name c).shortname? = some name) : (withhold name c).exported = false := by
  rw [withhold] at own ⊢
  split
  next => rfl
  next foreign =>
    rw [if_neg foreign] at own
    exact absurd (beq_iff_eq.2 own) foreign

theorem withholds_suppress (store : AnchorStore) (shortname : String)
    (named : Text.trim shortname ≠ "") :
    (store.suppress shortname).Withholds (Text.trim shortname) := by
  have proper : ¬ (Text.trim shortname).isEmpty = true := mt String.isEmpty_iff.1 named
  simp only [suppress, if_neg proper]
  constructor
  · rfl
  · intro c member own
    obtain ⟨raw, -, rfl⟩ := List.mem_map.1 member
    exact exported_withhold own

theorem Withholds.opened {name : String} {store : AnchorStore} (withholds : store.Withholds name)
    (key : String) : (store.opened key).Withholds name := by
  constructor
  · rw [opened_ownShortname]
    exact withholds.ownShortname
  · intro c member own
    rw [opened_anchors] at member
    rcases List.mem_append.1 member with present | added
    · exact withholds.notExported c present own
    · obtain ⟨candidates, -, raw, -, rfl⟩ := exists_of_mem_incoming added
      simp only [filed, withholds.ownShortname] at own ⊢
      exact exported_withhold own

theorem Withholds.readInto {name : String} {store : AnchorStore} (withholds : store.Withholds name)
    (spec : String) : (store.readInto spec).Withholds name := by
  rw [readInto_eq]
  exact ⟨withholds.ownShortname, withholds.notExported⟩

end AnchorStore

namespace Resolver

/-- The listed specs are ignored, and the anchors of the document's own spec are withheld. -/
structure Guarded (config : Config) (metadata : Metadata) (r : Resolver) : Prop where
  ignored : ∀ name ∈ config.ignoredSpecs, Text.lowercase name ∈ r.ignoredSpecs
  withholds : Text.trim metadata.shortname ≠ "" →
    r.anchors.Withholds (Text.trim metadata.shortname)

variable {config : Config} {metadata : Metadata}

theorem guarded_ofStores (anchors : AnchorStore) (biblio : BiblioStore) (config : Config)
    (metadata : Metadata) : Guarded config metadata (ofStores anchors biblio config metadata) := by
  apply holds_ofStores
  · constructor
    · intro name listed
      exact List.mem_map_of_mem listed
    · intro named
      simp only [start]
      exact anchors.withholds_suppress metadata.shortname named
  · intro r rules guarded
    exact { guarded with }
  · intro r specs _ guarded
    constructor
    · intro name listed
      exact List.mem_append_left _ (guarded.ignored name listed)
    · rw [addIgnored]
      exact guarded.withholds
  · intro r failure guarded
    exact { guarded with }

theorem stable_guarded : Stable (Guarded config metadata) := by
  intro r s change guarded
  cases change with
  | begin | noted | lookup => exact { guarded with }
  | opened key =>
    exact { guarded with withholds := fun named => (guarded.withholds named).opened key }
  | readInto spec =>
    exact { guarded with withholds := fun named => (guarded.withholds named).readInto spec }

theorem guarded_run (anchors : AnchorStore) (biblio : BiblioStore) (config : Config)
    (metadata : Metadata) (calls : List Call) :
    Guarded config metadata (run calls (ofStores anchors biblio config metadata)) :=
  stable_guarded.run (fun _ _ _ guarded => { guarded with }) calls
    (guarded_ofStores anchors biblio config metadata)

theorem exported_of_mem_found {r : Resolver} {name : String} (withholds : r.anchors.Withholds name)
    (own : ∀ c ∈ r.definitions.candidates, c.isLocal = true) {q : LinkQuery} {c : Candidate}
    (member : c ∈ r.found q) (named : c.shortname? = some name) : c.exported = false := by
  rcases search_cases (fun store key (h : store.Withholds name) => h.opened key) r.definitions
    q.kind withholds q.texts with empty | ⟨store, key, kept, same⟩
  · rw [found, empty] at member
    exact absurd member List.not_mem_nil
  · rw [found, same, hits] at member
    rcases List.mem_append.1 (List.mem_filter.1 member).1 with defined | anchor
    · -- A definition of the document has no short name.
      have isLocal := own c defined
      cases origin : c.origin with
      | document id line => simp [Candidate.shortname?, origin] at named
      | external => simp [Candidate.isLocal, origin] at isLocal
    · exact kept.notExported c anchor named

/-- No link of the document goes to a candidate of the given sort, whatever the database holds and
whatever is defined and looked up. -/
def NeverLinks (config : Config) (metadata : Metadata) (sort : Candidate → Prop) : Prop :=
  ∀ (anchors : AnchorStore) (biblio : BiblioStore) (calls : List Call) (request : LinkRequest)
    (link : ResolvedLink),
    ((resolve request).on (run calls (ofStores anchors biblio config metadata))).1 = .ok link →
    ¬ sort link.candidate

theorem origin_of_specId?_eq_some {c : Candidate} {name : String} (named : c.specId? = some name) :
    ∃ shortname level urls, c.origin = .external name shortname level urls := by
  cases origin : c.origin with
  | document id line => simp [Candidate.specId?, origin] at named
  | external specId shortname level urls =>
    obtain rfl : specId = name := by simpa [Candidate.specId?, origin] using named
    exact ⟨shortname, level, urls, rfl⟩

theorem origin_of_shortname?_eq_some {c : Candidate} {name : String}
    (named : c.shortname? = some name) :
    ∃ specId level urls, c.origin = .external specId name level urls := by
  cases origin : c.origin with
  | document id line => simp [Candidate.shortname?, origin] at named
  | external specId shortname level urls =>
    obtain rfl : shortname = name := by simpa [Candidate.shortname?, origin] using named
    exact ⟨specId, level, urls, rfl⟩

theorem neverLinks_ignored {name : String} (listed : name ∈ config.ignoredSpecs) :
    NeverLinks config metadata fun c => c.specId? = some (Text.lowercase name) := by
  intro anchors biblio calls request link answered named
  have guarded := guarded_run anchors biblio config metadata calls
  have reached := reachable_run anchors biblio config metadata calls
  obtain ⟨-, -, permits⟩ := eligible_of_resolve reached.consistent.isSealed answered
  obtain ⟨shortname, level, urls, origin⟩ := origin_of_specId?_eq_some named
  simp only [origin] at permits
  exact permits.notIgnored (guarded.ignored name listed)

theorem neverLinks_own (named : Text.lowercase (Text.trim metadata.shortname) ≠ "") :
    NeverLinks config metadata fun c =>
      c.shortname? = some (Text.lowercase (Text.trim metadata.shortname)) := by
  intro anchors biblio calls request link answered own
  have reached := reachable_run anchors biblio config metadata calls
  obtain ⟨-, -, permits⟩ := eligible_of_resolve reached.consistent.isSealed answered
  obtain ⟨specId, level, urls, origin⟩ := origin_of_shortname?_eq_some own
  simp only [origin] at permits
  -- The resolver goes by the lowercase of its document's short name.
  have name : (run calls (ofStores anchors biblio config metadata)).policy.shortname =
      Text.lowercase (Text.trim metadata.shortname) := reached.consistent.shortname
  have notOwn := permits.notOwn
  rw [name] at notOwn
  exact notOwn named rfl

/-- A request that names no spec never leads to the document's own short name. -/
theorem shortname?_ne_of_unnamed (anchors : AnchorStore) (biblio : BiblioStore) (calls : List Call)
    (named : Text.trim metadata.shortname ≠ "") {request : LinkRequest} {link : ResolvedLink}
    (unnamed : ((run calls (ofStores anchors biblio config metadata)).queryOf request).spec = none)
    (answered : ((resolve request).on
      (run calls (ofStores anchors biblio config metadata))).1 = .ok link) :
    link.candidate.shortname? ≠ some (Text.trim metadata.shortname) := by
  intro own
  have guarded := guarded_run anchors biblio config metadata calls
  have reached := reachable_run anchors biblio config metadata calls
  obtain ⟨member, -, permits⟩ := eligible_of_resolve reached.consistent.isSealed answered
  have hidden := exported_of_mem_found (guarded.withholds named) reached.consistent.own member own
  obtain ⟨specId, level, urls, origin⟩ := origin_of_shortname?_eq_some own
  simp only [origin] at permits
  have wanted := permits.wanted
  rw [LinkQuery.WantsAnchor, unnamed] at wanted
  rw [wanted] at hidden
  cases hidden

theorem lowercase_of_ignoredOfRecord {line : Option Nat} {record : InfoRecord}
    {part : Defaults.IgnoredSpecs} (read : Defaults.ignoredOfRecord line record = .ok part) :
    ∀ name ∈ part.ignored, Text.lowercase name = name := by
  simp only [Defaults.ignoredOfRecord] at read
  split at read
  · cases read
  · split at read
    · obtain rfl := Except.ok.inj read
      intro name member
      obtain ⟨raw, -, rfl⟩ := List.mem_map.1 member
      exact Text.lowercase_lowercase raw
    · obtain rfl := Except.ok.inj read
      exact fun name member => absurd member List.not_mem_nil
    · cases read

theorem mem_ignored_foldl (parts : List Defaults.IgnoredSpecs) (specs : Defaults.IgnoredSpecs)
    {name : String} (member : name ∈ (parts.foldl Defaults.IgnoredSpecs.append specs).ignored) :
    name ∈ specs.ignored ∨ ∃ part ∈ parts, name ∈ part.ignored := by
  induction parts generalizing specs with
  | nil => exact .inl member
  | cons first rest ih =>
    rcases ih (specs.append first) member with here | ⟨part, listed, there⟩
    · rcases List.mem_append.1 here with before | here
      · exact .inl before
      · exact .inr ⟨first, List.mem_cons_self, here⟩
    · exact .inr ⟨part, List.mem_cons_of_mem first listed, there⟩

/-- A block names its ignored specs in lowercase. -/
theorem lowercase_of_parseIgnoredSpecs {lines : List String} {line : Option Nat}
    {specs : Defaults.IgnoredSpecs} (parsed : Defaults.parseIgnoredSpecs lines line = .ok specs) :
    ∀ name ∈ specs.ignored, Text.lowercase name = name := by
  intro name member
  rw [Defaults.parseIgnoredSpecs, bind_ok_iff] at parsed
  obtain ⟨records, -, parsed⟩ := parsed
  obtain ⟨parts, read, folded⟩ := (bind_ok_iff _ _ _).1 parsed
  obtain rfl := Except.ok.inj folded
  rcases mem_ignored_foldl parts {} member with none | ⟨part, listed, member⟩
  · exact absurd none List.not_mem_nil
  · obtain ⟨record, -, read⟩ := exists_of_mem_mapM read part listed
    exact lowercase_of_ignoredOfRecord read name member

theorem lowercase_of_mem_ignoredSpecs {anchors : AnchorStore} {biblio : BiblioStore} :
    ∀ name ∈ (ofStores anchors biblio config metadata).ignoredSpecs, Text.lowercase name = name := by
  apply @holds_ofStores fun r => ∀ name ∈ r.ignoredSpecs, Text.lowercase name = name
  · intro name listed
    obtain ⟨raw, -, rfl⟩ := List.mem_map.1 listed
    exact Text.lowercase_lowercase raw
  · exact fun r rules lower => lower
  · intro r specs parsed lower name listed
    rcases List.mem_append.1 listed with before | added
    · exact lower name before
    · exact lowercase_of_parseIgnoredSpecs parsed name added
  · exact fun r failure lower => lower

/-- An anchor for the value `t`. -/
def loneAnchor (specId shortname : String) (exported : Bool) : Candidate where
  text := "t"
  kind := .value
  origin := .external specId shortname none ⟨some "/", none⟩
  scope := ∅
  exported
  normative := true

/-- A database with one anchor. -/
def loneStore (specId shortname : String) : AnchorStore where
  source := .ofFiles ∅
  anchors := [loneAnchor specId shortname true]

theorem suppress_loneStore (specId shortname own : String) : ∃ exported,
    ((loneStore specId shortname).suppress own).anchors =
      [loneAnchor specId shortname exported] := by
  rw [AnchorStore.suppress]
  split
  · exact ⟨true, rfl⟩
  · simp only [loneStore, List.map_cons, List.map_nil, AnchorStore.withhold]
    split
    · exact ⟨false, rfl⟩
    · exact ⟨true, rfl⟩

/-- A request for the value `t` of a spec. -/
def loneRequest (spec : String) : LinkRequest where
  kind := .exact .value
  text := "t"
  spec := some spec
  status := some .current

/-- Where it is all that there is, an anchor is found by a request that names its spec or its short
name in lowercase, unless it is kept from links. -/
theorem resolve_loneRequest {r : Resolver} (begun : r.phase ≠ .collecting)
    (definitions : r.definitions = { isSealed := true })
    (reads : Reads (.ofFiles ∅) (.ofFiles ∅) r) {specId shortname spec : String} {exported : Bool}
    (only : r.anchors.anchors = [loneAnchor specId shortname exported])
    (asked : Text.lowercase (Text.trim spec) = specId ∨ Text.lowercase (Text.trim spec) = shortname)
    (notIgnored : specId ∉ r.ignoredSpecs) (notOwn : shortname ≠ r.shortname) :
    ∃ link, ((resolve (loneRequest spec)).on r).1 = .ok link ∧
      link.candidate.specId? = some specId ∧ link.candidate.shortname? = some shortname := by
  have normal : LinkText.normalize "t" = "t" := by decide +kernel
  have query : r.queryOf (loneRequest spec) =
      ⟨.exact .value, "t", some (Text.lowercase (Text.trim spec)), .current, ∅⟩ := by
    simp only [queryOf, LinkQuery.ofRequest, LinkRequest.query, loneRequest, normal]
    rfl
  have found : r.found (r.queryOf (loneRequest spec)) =
      [loneAnchor specId shortname exported] := by
    have here : hits r.definitions (r.anchors.opened "t") (.exact .value) "t" =
        [loneAnchor specId shortname exported] := by
      rw [hits, definitions, AnchorStore.opened_anchors,
        AnchorStore.incoming_of_source_empty reads.anchors, only]
      rfl
    have texts : LinkQuery.texts ⟨.exact .value, "t", some (Text.lowercase (Text.trim spec)),
        .current, ∅⟩ = ["t"] := rfl
    rw [query, Resolver.found, texts]
    simp only [search, normal, here]
  have eligible : r.policy.Eligible (r.queryOf (loneRequest spec))
      (r.found (r.queryOf (loneRequest spec))) (loneAnchor specId shortname exported) := by
    rw [query]
    refine ⟨rfl, asked, notIgnored, fun _ => notOwn, fun unnamed => ?_, .inl fun missing => ?_⟩
    · cases unnamed
    · cases missing
  have loads : AnchorStore.ShardsLoad r.anchors.source :=
    reads.anchors ▸ AnchorStore.shardsLoad_ofFiles_empty
  have entriesLoad : BiblioStore.ShardsLoad r.biblio.source :=
    reads.biblio ▸ BiblioStore.shardsLoad_ofFiles_empty
  have closed : r.definitions.isSealed = true := by rw [definitions]
  obtain ⟨link, answered⟩ := exists_link_of_eligible begun closed loads entriesLoad
    (by rw [query]; rfl) (by rw [found]; exact List.mem_singleton_self _) eligible
  -- There is nothing else to link to.
  obtain ⟨member, -⟩ := eligible_of_resolve (fun _ => closed) answered
  rw [found] at member
  refine ⟨link, answered, ?_⟩
  rw [List.mem_singleton.1 member]
  exact ⟨rfl, rfl⟩

/-- A database does not keep its one anchor from links whose spec is not ignored and whose short
name is not the document's in lowercase. -/
theorem resolve_loneStore {specId shortname spec : String}
    (asked : Text.lowercase (Text.trim spec) = specId ∨ Text.lowercase (Text.trim spec) = shortname)
    (notIgnored : specId ∉
      (ofStores { source := .ofFiles ∅ } { source := .ofFiles ∅ } config metadata).ignoredSpecs)
    (notOwn : shortname ≠ Text.lowercase (Text.trim metadata.shortname)) :
    ∃ link, ((resolve (loneRequest spec)).on (run [.finish]
        (ofStores (loneStore specId shortname) { source := .ofFiles ∅ } config metadata))).1 =
          .ok link ∧
      link.candidate.specId? = some specId ∧ link.candidate.shortname? = some shortname := by
  have fresh := fresh_ofStores { source := .ofFiles ∅ } { source := .ofFiles ∅ } config metadata
  have same : (loneStore specId shortname).specs =
      ({ source := .ofFiles ∅ } : AnchorStore).specs := rfl
  have moved := ofStores_anchors (loneStore specId shortname) same
    { source := .ofFiles ∅ } config metadata
  have reads := (reads_ofStores (loneStore specId shortname) { source := .ofFiles ∅ } config
    metadata).run [.finish]
  obtain ⟨exported, only⟩ := suppress_loneStore specId shortname metadata.shortname
  have made : run [.finish] (ofStores (loneStore specId shortname) { source := .ofFiles ∅ } config
      metadata) = { ofStores { source := .ofFiles ∅ } { source := .ofFiles ∅ } config metadata with
        anchors := (loneStore specId shortname).suppress metadata.shortname
        phase := .complete, definitions := { isSealed := true } } := by
    simp only [run, List.foldl_cons, List.foldl_nil, Call.after, finish, moved, fresh.phase,
      fresh.definitions, DefinitionIndex.finish]
  rw [made] at reads ⊢
  refine resolve_loneRequest (by simp) rfl reads only asked notIgnored ?_
  rw [fresh.shortname]
  exact notOwn

/-- Some name in lowercase is not in a list. -/
theorem exists_lowercase_not_mem (names : List String) :
    ∃ name, Text.lowercase (Text.trim name) = name ∧ name ∉ names := by
  obtain ⟨n, long⟩ : ∃ n, ∀ name ∈ names, name.length < n := by
    refine ⟨(names.map String.length).sum + 1, fun name listed => ?_⟩
    have bound := List.le_sum_of_mem (List.mem_map_of_mem (f := String.length) listed)
    omega
  have plain (c : Char) (member : c ∈ List.replicate n 'a') : c = 'a' :=
    List.eq_of_mem_replicate member
  have trimmed : Text.trim (String.ofList (List.replicate n 'a')) =
      String.ofList (List.replicate n 'a') := by
    rw [Text.trim, String.toList_ofList, Text.trimChars_of_nonblank]
    intro c member
    rw [plain c member]
    decide
  refine ⟨String.ofList (List.replicate n 'a'), ?_, fun listed => ?_⟩
  · rw [trimmed, Text.lowercase_of_settled]
    intro c member
    rw [String.toList_ofList] at member
    rw [plain c member]
    exact ⟨by decide, by decide, by decide⟩
  · have shorter := long _ listed
    simp at shorter

/-- Links are kept from a listed spec exactly if it is listed in lowercase, and from the document's
own short name exactly if that is lowercase. Whatever its spelling, the own short name is kept from
requests that name no spec. -/
theorem neverLinks_iff (config : Config) (metadata : Metadata) :
    (∀ name ∈ config.ignoredSpecs,
      NeverLinks config metadata (fun c => c.specId? = some name) ↔ Text.lowercase name = name) ∧
    (Text.trim metadata.shortname ≠ "" →
      (NeverLinks config metadata (fun c => c.shortname? = some (Text.trim metadata.shortname)) ↔
        Text.lowercase (Text.trim metadata.shortname) = Text.trim metadata.shortname) ∧
      ∀ (anchors : AnchorStore) (biblio : BiblioStore) (calls : List Call) (request : LinkRequest)
        (link : ResolvedLink),
        let r := run calls (ofStores anchors biblio config metadata)
        (r.queryOf request).spec = none → ((resolve request).on r).1 = .ok link →
          link.candidate.shortname? ≠ some (Text.trim metadata.shortname)) := by
  refine ⟨fun name listed => ?_, fun named => ⟨?_, ?_⟩⟩
  · constructor
    · intro never
      by_contra capital
      -- What is not lowercase is not ignored, and an anchor with a short name to ask for is found.
      have notIgnored : name ∉ (ofStores { source := .ofFiles ∅ } { source := .ofFiles ∅ } config
          metadata).ignoredSpecs :=
        fun ignored => capital (lowercase_of_mem_ignoredSpecs name ignored)
      obtain ⟨shortname, lower, foreign⟩ :=
        exists_lowercase_not_mem [Text.lowercase (Text.trim metadata.shortname)]
      obtain ⟨link, answered, specId, -⟩ := resolve_loneStore (.inr lower) notIgnored
        (List.ne_of_not_mem_cons foreign)
      exact never _ _ _ _ link answered specId
    · intro lower
      have never : NeverLinks config metadata fun c => c.specId? = some (Text.lowercase name) :=
        neverLinks_ignored listed
      rwa [lower] at never
  · constructor
    · intro never
      by_contra capital
      -- The short name is compared with its lowercase, and the anchor found by another spec.
      obtain ⟨specId, lower, notIgnored⟩ := exists_lowercase_not_mem
        (ofStores { source := .ofFiles ∅ } { source := .ofFiles ∅ } config metadata).ignoredSpecs
      obtain ⟨link, answered, -, shortname⟩ := resolve_loneStore (.inl lower) notIgnored
        (Ne.symm capital)
      exact never _ _ _ _ link answered shortname
    · intro lower
      have never : NeverLinks config metadata fun c =>
          c.shortname? = some (Text.lowercase (Text.trim metadata.shortname)) :=
        neverLinks_own (by rwa [lower])
      rwa [lower] at never
  · intro anchors biblio calls request link r unnamed answered
    exact shortname?_ne_of_unnamed anchors biblio calls named unnamed answered

/-- A spec that is listed in lowercase is kept from links. -/
theorem neverLinks_foo : Text.lowercase "css-foo" = "css-foo" ∧
    NeverLinks { version := 1, dataDir := "", ignoredSpecs := ["css-foo"] } {}
      (fun c => c.specId? = some "css-foo") := by
  have lower : Text.lowercase "css-foo" = "css-foo" := by decide +kernel
  have iff := (neverLinks_iff { version := 1, dataDir := "", ignoredSpecs := ["css-foo"] } {}).1
  exact ⟨lower, (iff "css-foo" (List.mem_singleton_self _)).2 lower⟩

/-- A spec that is listed with capitals is not kept from links, though listed as the database has
it, nor is a short name with capitals from requests for its spec. -/
theorem linked_despite_capitals :
    (∃ link, ((resolve (loneRequest "foo")).on (run [.finish] (ofStores (loneStore "CSS-Foo" "foo")
        { source := .ofFiles ∅ } { version := 1, dataDir := "", ignoredSpecs := ["CSS-Foo"] }
        {}))).1 = .ok link ∧ link.candidate.specId? = some "CSS-Foo") ∧
    ∃ link, ((resolve (loneRequest "foo-1")).on (run [.finish] (ofStores (loneStore "foo-1" "Foo")
      { source := .ofFiles ∅ } { version := 1, dataDir := "" } { shortname := "Foo" }))).1 =
        .ok link ∧ link.candidate.shortname? = some "Foo" := by
  constructor
  · exact ⟨⟨"/", loneAnchor "CSS-Foo" "foo" true⟩, by decide +kernel, rfl⟩
  · exact ⟨⟨"/", loneAnchor "foo-1" "Foo" false⟩, by decide +kernel, rfl⟩

end Resolver

end SpecLink
