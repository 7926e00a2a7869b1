import SpecLink.Proofs.Hint
import SpecLink.Proofs.Resolver.Narrowing
import SpecLink.Proofs.Resolver.Reports
import SpecLink.Proofs.Resolver.Rules
import SpecLink.Proofs.Selection.Narrowing

/-!
# The advice of ambiguity warnings

A link that several anchors satisfy is answered with one of them and a warning, which offers lines
for a block of link defaults. A line makes the request narrower: by its kind, and by its spec if the
request names none. It leads to the anchor that it names if the narrower request still searches under
the text of that anchor and meets no other anchor; for a singular that is no `dfn` it never leads
anywhere. Main statement: `resolve_of_advice`.
-/
namespace SpecLink

/-- What the line of a hint makes of a query. -/
def Hint.narrow (h : Hint) (q : LinkQuery) : LinkQuery :=
  { q with kind := .exact h.kind, spec := some (q.spec.getD h.spec) }

/-- Only kinds with spellings accept prose terms. -/
theorem LinkKind.usesVariants_of_accepts {kind : LinkKind} (accepted : kind.accepts .dfn = true) :
    kind.usesVariants = true := by
  cases kind with
  | exact kind => rw [usesVariants, beq_iff_eq.1 accepted]; rfl
  | maybe => rfl
  | propdesc | functionish | idl | idlName | elementSub | codelike => cases accepted

/-- A query for a property or descriptor that is found is no custom property in the narrower query
either. -/
theorem Hint.isCustomProperty_narrow {h : Hint} {q : LinkQuery}
    (accepted : q.kind.accepts h.kind = true) (ordinary : q.isCustomProperty = false) :
    (h.narrow q).isCustomProperty = false := by
  rw [Bool.eq_false_iff, ne_eq, Resolver.isCustomProperty_iff] at ordinary ⊢
  rintro ⟨sought, hyphens⟩
  refine ordinary ⟨?_, hyphens⟩
  have kind : h.kind = .property ∨ h.kind = .descriptor := by
    simpa [narrow] using sought
  -- Of the kinds that a query may ask for, only these accept properties or descriptors.
  cases asked : q.kind with
  | exact kind =>
    rw [asked, LinkKind.accepts, beq_iff_eq] at accepted
    subst accepted
    simpa using kind
  | propdesc => exact .inl rfl
  | functionish | idl | idlName | elementSub | maybe | codelike =>
    rw [asked] at accepted
    rcases kind with same | same
    · rw [same] at accepted
      cases accepted
    · rw [same] at accepted
      cases accepted

theorem Candidate.specId?_eq_some_specLabel {c : Candidate} (external : c.isLocal = false) :
    c.specId? = some c.specLabel := by
  rw [isLocal] at external
  rw [specLabel, specId?]
  cases origin : c.origin with
  | document =>
    rw [origin] at external
    cases external
  | external => rfl

namespace LinkPolicy

variable {p : LinkPolicy} {q : LinkQuery} {h : Hint} {c : Candidate}

/-- A query that names its spec asks nothing of the other candidates. -/
theorem eligible_narrow_iff (found other : List Candidate) :
    p.Eligible (h.narrow q) found c ↔ p.Eligible (h.narrow q) other c := by
  rw [Eligible, Eligible]
  cases c.origin with
  | document => exact Iff.rfl
  | external specId shortname level urls =>
    refine and_congr_right fun _ => ?_
    constructor
    · intro permitted
      exact { permitted with notReplaced := fun unnamed => by cases unnamed }
    · intro permitted
      exact { permitted with notReplaced := fun unnamed => by cases unnamed }

theorem eligible_narrow {found : List Candidate} (eligible : p.Eligible q found c)
    (spec : c.specId? = some h.spec) : p.Eligible (h.narrow q) found c := by
  refine ⟨eligible.1, ?_⟩
  have permitted := eligible.2
  cases origin : c.origin with
  | document => trivial
  | external specId shortname level urls =>
    rw [origin] at permitted
    simp only at permitted ⊢
    obtain rfl : specId = h.spec := by simpa [Candidate.specId?, origin] using spec
    have wanted : (h.narrow q).WantsAnchor h.spec shortname c.exported := by
      have before := permitted.wanted
      simp only [LinkQuery.WantsAnchor, Hint.narrow] at before ⊢
      -- A spec that the query names itself takes precedence over that of the hint.
      cases named : q.spec with
      | none => exact .inl rfl
      | some spec =>
        rw [named] at before
        exact before
    exact { permitted with wanted := wanted, notReplaced := fun unnamed => by cases unnamed }

end LinkPolicy

namespace Resolver

open Selection

variable {metadata : Metadata} {r : Resolver} {request : LinkRequest} {links : List ResolvedLink}
  {h : Hint}

/-- The links between which a request is decided. -/
def finalLinks (r : Resolver) (request : LinkRequest) : List ResolvedLink :=
  finalists (passing r.policy (r.queryOf request) (r.found (r.queryOf request)))

/-- A request is torn between links to anchors: nothing else passes the filters, and nothing decides
between them. -/
structure Torn (r : Resolver) (request : LinkRequest) (links : List ResolvedLink) : Prop where
  reported : request.allowError = true
  ordinary : (r.queryOf request).isCustomProperty = false
  foreign : ∀ link ∈ passing r.policy (r.queryOf request) (r.found (r.queryOf request)),
    link.candidate.isLocal = false
  finalists : r.finalLinks request = links
  several : 1 < links.length

/-- The request is answered with one of several links, and with a warning about all of them. -/
def Warns (r : Resolver) (request : LinkRequest) (links : List ResolvedLink) : Prop :=
  ∃ link ∈ links, ((resolve request).on r).1 = .ok link ∧
    ((resolve request).on r).2.messages = r.messages.report
      ⟨.warning, Hint.ambiguityMessage (r.queryOf request).text (r.queryOf request).kind
        (r.queryOf request).scope link.url (Hint.simplify links false), request.line⟩

/-- The request is answered with a link, and nothing is reported. -/
def Answers (r : Resolver) (request : LinkRequest) (link : ResolvedLink) : Prop :=
  ((resolve request).on r).1 = .ok link ∧ ((resolve request).on r).2.messages = r.messages

/-- The rule of a hint searches where the hint comes from, and meets nothing else there. -/
structure Selects (r : Resolver) (request : LinkRequest) (h : Hint) : Prop where
  /-- Of all kinds only `dfn` is sought under other texts than the literal one. -/
  text : h.text = (r.queryOf request).text ∨ h.kind = .dfn
  scope : ∀ value, h.scope = some value → value ∈ (r.queryOf request).scope
  /-- To name the spec lets nothing in but anchors of that spec that were eligible before. -/
  alone : ∀ c ∈ r.found (r.queryOf request), c.kind = h.kind →
    r.policy.Eligible (h.narrow (r.queryOf request)) (r.found (r.queryOf request)) c →
      r.policy.Eligible (r.queryOf request) (r.found (r.queryOf request)) c ∧
        c.specId? = some h.spec

/-- A resolver that can read its data and has left the first phase. -/
structure Ready (r : Resolver) : Prop where
  begun : r.phase ≠ .collecting
  isSealed : r.definitions.isSealed = true
  anchorsLoad : AnchorStore.ShardsLoad r.anchors.source
  entriesLoad : BiblioStore.ShardsLoad r.biblio.source

theorem resolve_of_choice (ready : Ready r) (ordinary : (r.queryOf request).isCustomProperty = false)
    {choice : Choice} (nonempty : passing r.policy (r.queryOf request) (r.found (r.queryOf request)) ≠ [])
    (chosen : choose (r.queryOf request) (passing r.policy (r.queryOf request)
      (r.found (r.queryOf request))) = some choice) :
    ((resolve request).on r).1 = .ok choice.link ∧
      ((resolve request).on r).2.messages = logOf r.messages request choice := by
  have selected := select_ok_iff.2 ⟨nonempty, chosen⟩
  constructor
  · rw [resolve_eq_outcome ready.begun ready.isSealed ready.anchorsLoad ready.entriesLoad]
    exact outcome_ok_iff.2 ⟨ordinary, choice, selected, rfl⟩
  · exact messages_of_resolve ready.begun ready.isSealed ready.anchorsLoad ordinary selected

theorem Torn.nonempty (torn : r.Torn request links) :
    passing r.policy (r.queryOf request) (r.found (r.queryOf request)) ≠ [] := by
  intro none
  have few := torn.several
  rw [← torn.finalists, finalLinks, none] at few
  exact absurd few (by decide)

theorem Torn.warns (ready : Ready r) (torn : r.Torn request links) : r.Warns request links := by
  have several := torn.several
  rw [← torn.finalists] at several
  obtain ⟨link, member, chosen⟩ := choose_of_several (q := r.queryOf request) torn.foreign several
  obtain ⟨answered, logged⟩ := resolve_of_choice ready torn.ordinary torn.nonempty chosen
  rw [← finalLinks, torn.finalists] at member logged
  refine ⟨link, member, answered, ?_⟩
  rw [logged, logOf]
  exact if_pos torn.reported

/-- A request that is answered with an anchor and with any report is torn. -/
theorem torn_of_warned (ready : Ready r) {link : ResolvedLink}
    (answered : ((resolve request).on r).1 = .ok link) (external : link.candidate.isLocal = false)
    (warned : ((resolve request).on r).2.messages ≠ r.messages) :
    r.Torn request (r.finalLinks request) := by
  obtain ⟨ordinary, choice, selected, rfl⟩ :=
    outcome_ok_iff.1 (outcome_of_resolve (fun _ => ready.isSealed) answered)
  obtain ⟨-, chosen⟩ := select_ok_iff.1 selected
  rw [messages_of_resolve ready.begun ready.isSealed ready.anchorsLoad ordinary selected, logOf]
    at warned
  cases own : (passing r.policy (r.queryOf request) (r.found (r.queryOf request))).filter
      fun link => link.candidate.isLocal with
  | cons first others =>
    -- The first definition of the document would have been chosen.
    obtain ⟨warning, taken⟩ := choose_local (q := r.queryOf request) own
    obtain rfl : choice = ⟨first, warning⟩ := Option.some.inj (chosen.symm.trans taken)
    have isLocal := (List.mem_filter.1 (own ▸ List.mem_cons_self : first ∈ _)).2
    rw [external] at isLocal
    cases isLocal
  | nil =>
    rw [choose, own] at chosen
    obtain ⟨favoured, -, rfl⟩ := Option.map_eq_some_iff.1 chosen
    refine
      { reported := ?_, ordinary := ordinary, foreign := ?_, finalists := rfl, several := ?_ }
    · by_contra silent
      refine warned ?_
      split
      · exact if_neg silent
      · rfl
    · intro other member
      exact Bool.eq_false_iff.2 (List.filter_eq_nil_iff.1 own other member)
    · -- A lone finalist would have come without a warning.
      by_contra few
      have short : (finalists (passing r.policy (r.queryOf request)
          (r.found (r.queryOf request)))).length ≤ 1 := Nat.not_lt.1 few
      refine warned ?_
      simp only [if_pos short]

theorem normalize_queryOf_text (noDefaults : r.defaults = {}) (request : LinkRequest) :
    LinkText.normalize (r.queryOf request).text = (r.queryOf request).text := by
  rw [queryOf_of_defaults_empty noDefaults]
  exact LinkText.normalize_normalize _

/-- The narrower query of a hint finds what the wider one found of its kind. -/
theorem found_narrow {q : LinkQuery} (normal : LinkText.normalize q.text = q.text) {c : Candidate}
    (member : c ∈ r.found q) (kind : c.kind = h.kind) (text : c.text = h.text)
    (literal : h.text = q.text ∨ h.kind = .dfn) :
    r.found (h.narrow q) = (r.found q).filter fun d => h.kind == d.kind := by
  have accepted : q.kind.accepts h.kind = true := by
    obtain ⟨key, under⟩ := exists_text_of_found r q
    rw [← kind]
    exact (under c member).2
  have narrower (d : DefinitionKind) (same : (LinkKind.exact h.kind).accepts d = true) :
      q.kind.accepts d = true := by
    rw [← beq_iff_eq.1 same]
    exact accepted
  have wanted : (LinkKind.exact h.kind).accepts c.kind = true := beq_iff_eq.2 kind.symm
  rcases literal with literal | prose
  · -- Both queries stop at the literal text, which no singular comes back to.
    obtain ⟨rest, texts, singulars⟩ := LinkQuery.texts_eq_cons normal
    obtain ⟨others, fewer, -⟩ := LinkQuery.texts_eq_cons (q := h.narrow q) normal
    have normalChars : LinkText.IsNormal q.text.toList := by
      rw [← normal, LinkText.normalize, String.toList_ofList]
      exact LinkText.isNormal_normalizeChars _
    rw [Resolver.found, texts] at member
    rw [Resolver.found, fewer, Resolver.found, texts]
    refine search_literal narrower (fun other listed => ?_) member ?_ wanted others
    · rw [normal]
      exact LinkText.normalize_ne_of_mem_singulars normalChars (singulars other listed)
    · rw [normal, text, literal]
  · -- A prose term is sought under the same texts.
    have texts : (h.narrow q).texts = q.texts := by
      rw [prose] at accepted
      rw [LinkQuery.texts, LinkQuery.texts, LinkKind.usesVariants_of_accepts accepted, if_pos rfl,
        if_pos]
      · rfl
      · rw [Hint.narrow, prose]
        rfl
    rw [Resolver.found, texts]
    exact search_narrow narrower member wanted

/-- What the narrower query lets pass are the links of the hint's text, kind and spec. -/
theorem passing_narrow (torn : r.Torn request links) (selects : r.Selects request h)
    (normal : LinkText.normalize (r.queryOf request).text = (r.queryOf request).text)
    {c : Candidate} (member : c ∈ r.found (r.queryOf request)) (kind : c.kind = h.kind)
    (text : c.text = h.text) :
    passing r.policy (h.narrow (r.queryOf request)) (r.found (h.narrow (r.queryOf request))) =
      (passing r.policy (r.queryOf request) (r.found (r.queryOf request))).filter
        fun link => Hint.groupOf link = h.group := by
  rw [found_narrow normal member kind text selects.text]
  refine @passing_of_narrowed _ _ _ _ _ (fun d => decide ((d.text, d.kind, d.specLabel) = h.group))
    rfl fun d found => ?_
  obtain ⟨key, under⟩ := exists_text_of_found r (r.queryOf request)
  simp only [beq_iff_eq, decide_eq_true_eq, Hint.group, Prod.mk.injEq]
  constructor
  · -- All that was found stands under one text, that of the hint.
    rintro ⟨same, eligible⟩
    obtain ⟨before, spec⟩ := selects.alone d found same.symm
      ((LinkPolicy.eligible_narrow_iff _ _).1 eligible)
    refine ⟨⟨?_, same.symm, ?_⟩, before⟩
    · rw [← text, (under d found).1, (under c member).1]
    · rw [Candidate.specLabel, spec]
      rfl
  · rintro ⟨⟨-, same, label⟩, eligible⟩
    -- What is eligible is an anchor, which has the spec that it is labelled with.
    obtain ⟨link, passed, rfl⟩ := exists_passing found eligible
    have spec : link.candidate.specId? = some h.spec := by
      rw [Candidate.specId?_eq_some_specLabel (torn.foreign link passed), label]
    exact ⟨same.symm, (LinkPolicy.eligible_narrow_iff _ _).2
      (LinkPolicy.eligible_narrow eligible spec)⟩

/-- The resolver with the rule of a hint as its only one. -/
def advised (r : Resolver) (h : Hint) : Resolver :=
  { r with defaults := DefaultTable.addAll {} [h.rule] }

@[simp] theorem policy_advised (r : Resolver) (h : Hint) : (r.advised h).policy = r.policy := rfl

@[simp] theorem found_advised (r : Resolver) (h : Hint) (q : LinkQuery) :
    (r.advised h).found q = r.found q := rfl

theorem Ready.advised (ready : Ready r) : Ready (r.advised h) := { ready with }

theorem Torn.advised (noDefaults : r.defaults = {}) (torn : r.Torn request links)
    (without : ¬ r.Consults request h.rule) : (r.advised h).Torn request links := by
  have query : (r.advised h).queryOf request = r.queryOf request :=
    queryOf_of_not_consults noDefaults without
  obtain ⟨reported, ordinary, foreign, finalists, several⟩ := torn
  rw [finalLinks] at finalists
  rw [← query] at ordinary foreign finalists
  exact ⟨reported, ordinary, foreign, finalists, several⟩

theorem Torn.mem_found (torn : r.Torn request links) {link : ResolvedLink} (member : link ∈ links) :
    link.candidate ∈ r.found (r.queryOf request) ∧
      r.policy.Eligible (r.queryOf request) (r.found (r.queryOf request)) link.candidate := by
  rw [← torn.finalists] at member
  exact mem_passing (mem_of_mem_finalists member)

theorem Torn.accepts (torn : r.Torn request links) {link : ResolvedLink} (member : link ∈ links)
    (kind : link.candidate.kind = h.kind) : (r.queryOf request).kind.accepts h.kind = true := by
  obtain ⟨key, under⟩ := exists_text_of_found r (r.queryOf request)
  rw [← kind]
  exact (under _ (torn.mem_found member).1).2

/-- For a singular that is no prose term the advice leads nowhere: the kind of the rule takes the
other spellings from the request. -/
theorem advised_of_singular (ready : Ready r) (noDefaults : r.defaults = {})
    (torn : r.Torn request links) {link : ResolvedLink} (member : link ∈ links)
    (group : Hint.groupOf link = h.group) (consults : r.Consults request h.rule)
    (kind : h.kind ≠ .dfn) (text : h.text ≠ (r.queryOf request).text) :
    ((resolve request).on (r.advised h)).1 =
      .error (.notFound (.exact h.kind) (r.queryOf request).text .text) := by
  simp only [Hint.groupOf, Hint.group, Prod.mk.injEq] at group
  have normal := normalize_queryOf_text noDefaults request
  obtain ⟨rest, texts, -⟩ := LinkQuery.texts_eq_cons normal
  have query : (r.advised h).queryOf request =
      (r.queryOf request).refine request.status r.defaultStatus h.rule :=
    queryOf_of_consults noDefaults consults
  have accepted := torn.accepts member group.2.1
  have alone : ((r.advised h).queryOf request).texts = [(r.queryOf request).text] := by
    rw [query, LinkQuery.texts, if_neg]
    · rfl
    · simpa [LinkQuery.refine, LinkKind.usesVariants, Hint.rule] using kind
  -- The literal text has nothing to offer, or the search would not have come to the singular.
  have nothing : (r.advised h).found ((r.advised h).queryOf request) = [] := by
    have listed := (torn.mem_found member).1
    rw [Resolver.found, texts] at listed
    rw [Resolver.found, alone, query]
    refine search_eq_nil (fun d same => ?_) listed ?_
    · rw [← beq_iff_eq.1 same]
      exact accepted
    · rw [normal, group.1]
      exact text
  have ordinary : ((r.advised h).queryOf request).isCustomProperty = false := by
    rw [query]
    exact Hint.isCustomProperty_narrow accepted torn.ordinary
  have later := ready.advised (h := h)
  rw [resolve_eq_outcome later.begun later.isSealed later.anchorsLoad later.entriesLoad, outcome,
    ordinary, nothing, verdict, query]
  rfl

/-- The advice works where the rule is found, searches under the text of the hint and meets nothing
else. -/
theorem advised_answers (ready : Ready r) (noDefaults : r.defaults = {})
    (torn : r.Torn request links) (offered : h ∈ Hint.offered (Hint.simplify links false))
    (lower : Text.lowercase h.spec = h.spec) (consults : r.Consults request h.rule)
    (selects : r.Selects request h) :
    ∃ link ∈ links, Hint.groupOf link = h.group ∧ link.url = h.url ∧
      (r.advised h).Answers request link := by
  have shared (value : String) (named : h.scope = some value) (link : ResolvedLink)
      (member : link ∈ links) : value ∈ Hint.scopesOf link.candidate := by
    have asked := selects.scope value named
    have wanted := (torn.mem_found member).2.1
    rw [LinkQuery.WantsScope, if_neg] at wanted
    · exact Hint.mem_scopesOf_of_mem (wanted value asked)
    · intro empty
      rw [empty] at asked
      exact SortedSet.not_mem_empty value asked
  obtain ⟨link, single, url⟩ := Hint.exists_link_of_offered offered shared
  have inGroup : link ∈ links.filter fun link => Hint.groupOf link = h.group :=
    single ▸ List.mem_singleton_self link
  obtain ⟨member, sameGroup⟩ := List.mem_filter.1 inGroup
  have group := of_decide_eq_true sameGroup
  have parts := group
  simp only [Hint.groupOf, Hint.group, Prod.mk.injEq] at parts
  have query : (r.advised h).queryOf request = h.narrow (r.queryOf request) :=
    (queryOf_of_consults noDefaults consults).trans (refine_eq noDefaults lower rfl selects.scope)
  have ordinary : ((r.advised h).queryOf request).isCustomProperty = false := by
    rw [query]
    exact Hint.isCustomProperty_narrow (torn.accepts member parts.2.1) torn.ordinary
  -- Of all that pass, the narrower query lets pass the links of the group.
  have passed : passing (r.advised h).policy ((r.advised h).queryOf request)
      ((r.advised h).found ((r.advised h).queryOf request)) =
        (passing r.policy (r.queryOf request) (r.found (r.queryOf request))).filter
          fun link => Hint.groupOf link = h.group := by
    rw [query, policy_advised, found_advised]
    exact passing_narrow torn selects (normalize_queryOf_text noDefaults request) (torn.mem_found member).1
      parts.2.1 parts.1
  have foreign : ∀ link ∈ passing (r.advised h).policy ((r.advised h).queryOf request)
      ((r.advised h).found ((r.advised h).queryOf request)), link.candidate.isLocal = false := by
    intro other inPassing
    rw [passed] at inPassing
    exact torn.foreign other (List.mem_filter.1 inPassing).1
  have final : finalists (passing (r.advised h).policy ((r.advised h).queryOf request)
      ((r.advised h).found ((r.advised h).queryOf request))) = [link] := by
    rw [passed]
    rw [← torn.finalists] at single
    exact finalists_of_narrowed single
  have some : passing (r.advised h).policy ((r.advised h).queryOf request)
      ((r.advised h).found ((r.advised h).queryOf request)) ≠ [] :=
    List.ne_nil_of_mem (mem_of_mem_finalists (final ▸ List.mem_singleton_self link))
  have kind : ((r.advised h).queryOf request).kind = .exact h.kind := congrArg LinkQuery.kind query
  have notShorthand : ((r.advised h).queryOf request).kind ≠ .propdesc := by simp [kind]
  have chosen := choose_of_single foreign final notShorthand
  obtain ⟨answered, logged⟩ := resolve_of_choice ready.advised ordinary some chosen
  exact ⟨link, member, group, url, answered, logged⟩

/-- A request that is answered with an anchor and a report is one that several anchors satisfy, and
the report is the warning about them. With the line of an offered hint as the only link default of
the document this becomes of the request: if the rule of the line is not found for it, the same
warning; if it is found for a singular that is no prose term, nothing; if it is found, searches under
the text of the hint and lets no other anchor in, the link of the hint, without a warning. -/
theorem resolve_of_advice (anchors : AnchorStore) (biblio : BiblioStore) (config : Config)
    (metadata : Metadata) (noValues : metadata.linkDefaults = [])
    (noLines : metadata.linkDefaultLines = []) (anchorsLoad : AnchorStore.ShardsLoad anchors.source)
    (entriesLoad : BiblioStore.ShardsLoad biblio.source) (calls : List Call) {r : Resolver}
    (ran : run calls (ofStores anchors biblio config metadata) = r) (begun : r.phase ≠ .collecting)
    {request : LinkRequest} {link : ResolvedLink}
    (answered : ((resolve request).on r).1 = .ok link) (external : link.candidate.isLocal = false)
    (warned : ((resolve request).on r).2.messages ≠ r.messages) :
    r.Warns request (r.finalLinks request) ∧
    ∀ h ∈ Hint.offered (Hint.simplify (r.finalLinks request) false),
      Defaults.parseBlock [h.blockLine] none = .ok [h.rule] →
      (r.phase = .complete → run calls (ofStores anchors biblio config
        { metadata with linkDefaultLines := [h.blockLine] }) = r.advised h) ∧
      (¬ r.Consults request h.rule → (r.advised h).Warns request (r.finalLinks request)) ∧
      (r.Consults request h.rule →
        (h.kind ≠ .dfn → h.text ≠ (r.queryOf request).text →
          ((resolve request).on (r.advised h)).1 =
            .error (.notFound (.exact h.kind) (r.queryOf request).text .text)) ∧
        (r.Selects request h → ∃ link ∈ r.finalLinks request,
          Hint.groupOf link = h.group ∧ link.url = h.url ∧ (r.advised h).Answers request link)) := by
  subst ran
  have reached : Reachable metadata (run calls (ofStores anchors biblio config metadata)) :=
    reachable_run anchors biblio config metadata calls
  have noDefaults := reached.defaults_eq_empty noValues noLines
  have reads : Reads anchors.source biblio.source
      (run calls (ofStores anchors biblio config metadata)) :=
    (reads_ofStores anchors biblio config metadata).run calls
  have ready : Ready (run calls (ofStores anchors biblio config metadata)) :=
    ⟨begun, reached.consistent.isSealed begun, reads.anchors ▸ anchorsLoad,
      reads.biblio ▸ entriesLoad⟩
  have torn := torn_of_warned ready answered external warned
  refine ⟨torn.warns ready, fun h offered parsed => ⟨?_, ?_, ?_⟩⟩
  · intro complete
    refine run_of_block anchors biblio config noValues noLines parsed calls ?_
    rw [complete]
    nofun
  · intro without
    exact (torn.advised noDefaults without).warns ready.advised
  · intro consults
    have lower : Text.lowercase h.spec = h.spec :=
      Defaults.lowercase_specId_of_parseBlock parsed h.rule (List.mem_singleton_self h.rule)
    constructor
    · intro kind text
      obtain ⟨link, member, group, -⟩ :=
        Hint.exists_link_of_mem_simplify (Hint.countP_of_offered offered).1
      exact advised_of_singular ready noDefaults torn member group consults kind text
    · intro selects
      exact advised_answers ready noDefaults torn offered lower consults selects

/-- An anchor for the value `box` in a spec. -/
def boxAnchor (specId : String) : Candidate where
  text := "box"
  kind := .value
  origin := .external specId specId none ⟨some ("/" ++ specId), none⟩
  scope := ∅
  exported := true
  normative := true

/-- Two specs that define the value `box`. -/
def boxes : AnchorStore :=
  AnchorStore.addAll { source := .ofFiles ∅ } [boxAnchor "spec-a", boxAnchor "spec-b"]

/-- The hint for the second of them. -/
def boxHint : Hint where
  text := "box"
  kind := .value
  spec := "spec-b"
  url := "/spec-b"

/-- The resolver of a document over both specs. -/
def overBoxes (metadata : Metadata) : Resolver :=
  run [.finish]
    (ofStores boxes { source := .ofFiles ∅ } { version := 1, dataDir := "" } metadata)

/-- The advice for the text `box` leads to the second of two specs. -/
theorem advised_box :
    let r := overBoxes {}
    let request : LinkRequest := { kind := .maybe, text := "box" }
    ((resolve request).on r).1 = .ok ⟨"/spec-a", boxAnchor "spec-a"⟩ ∧
    ((resolve request).on r).2.messages ≠ r.messages ∧
    boxHint ∈ Hint.offered (Hint.simplify (r.finalLinks request) false) ∧
    Defaults.parseBlock [boxHint.blockLine] none = .ok [boxHint.rule] ∧
    r.Consults request boxHint.rule ∧ r.Selects request boxHint ∧
    ∃ link, link.url = "/spec-b" ∧
      (overBoxes { linkDefaultLines := [boxHint.blockLine] }).Answers request link := by
  intro r request
  have answered : ((resolve request).on r).1 = .ok ⟨"/spec-a", boxAnchor "spec-a"⟩ := by
    decide +kernel
  have warned : ((resolve request).on r).2.messages ≠ r.messages := by decide +kernel
  have offered : boxHint ∈ Hint.offered (Hint.simplify (r.finalLinks request) false) := by
    decide +kernel
  have parsed : Defaults.parseBlock [boxHint.blockLine] none = .ok [boxHint.rule] := by
    decide +kernel
  have consults : r.Consults request boxHint.rule :=
    { leftOpen := .inl (by decide +kernel)
      spelled := by decide +kernel
      suits := by decide +kernel }
  have selects : r.Selects request boxHint :=
    { text := .inl (by decide +kernel)
      scope := nofun
      alone := by decide +kernel }
  have source : boxes.source = .ofFiles ∅ := rfl
  have complete : r.phase = .complete := by decide +kernel
  obtain ⟨-, advice⟩ := resolve_of_advice boxes { source := .ofFiles ∅ }
    { version := 1, dataDir := "" } {} rfl rfl (source ▸ AnchorStore.shardsLoad_ofFiles_empty)
    BiblioStore.shardsLoad_ofFiles_empty [.finish] (r := r) rfl (by rw [complete]; nofun) answered
    rfl warned
  obtain ⟨same, -, works⟩ := advice boxHint offered parsed
  obtain ⟨link, -, -, url, answers⟩ := (works consults).2 selects
  have advised : overBoxes { linkDefaultLines := [boxHint.blockLine] } = r.advised boxHint :=
    same complete
  exact ⟨answered, warned, offered, parsed, consults, selects, link, url, advised ▸ answers⟩

/-- The advice for the text `boxes` leaves the link without a target. -/
theorem misled_by_plural :
    let r := overBoxes {}
    let request : LinkRequest := { kind := .maybe, text := "boxes" }
    r.Warns request (r.finalLinks request) ∧
    boxHint ∈ Hint.offered (Hint.simplify (r.finalLinks request) false) ∧
    Defaults.parseBlock [boxHint.blockLine] none = .ok [boxHint.rule] ∧
    ((resolve request).on (overBoxes { linkDefaultLines := [boxHint.blockLine] })).1 =
      .error (.notFound (.exact .value) "boxes" .text) := by
  intro r request
  refine ⟨?_, by decide +kernel, by decide +kernel, by decide +kernel⟩
  exact ⟨⟨"/spec-a", boxAnchor "spec-a"⟩, by decide +kernel, by decide +kernel, by decide +kernel⟩

end Resolver

end SpecLink
