import Mathlib.Data.List.Nodup
import SpecLink.Proofs.Insertion
import SpecLink.Proofs.Text.Normal

/-!
# The claims in an index

What holds of an index after any insertions into a new one, those that fail among them: its candidates
stay as they are, each stands under a text of its own, and no two have one claim. Main statements:
`candidates_of_insertions`, and `refused_of_claimed` by which no definition takes over the claim of
another one.
-/
namespace SpecLink

namespace Definition

variable {d : Definition} {c : Candidate}

/-- All texts of a definition, the public ones first. -/
def linkTexts (d : Definition) : List String := d.publicTexts ++ d.privateTexts

theorem map_claim_candidates (d : Definition) : d.candidates.map Candidate.claim =
    d.linkTexts.map fun text => (text, d.kind, expandScope d.scope) := by
  simp [candidates, linkTexts, candidate, Candidate.claim, Function.comp_def]

theorem exists_candidate {text : String} (declared : text ∈ d.linkTexts) :
    ∃ c ∈ d.candidates, c.claim = (text, d.kind, expandScope d.scope) := by
  have listed : (text, d.kind, expandScope d.scope) ∈ d.candidates.map Candidate.claim := by
    rw [map_claim_candidates]
    exact List.mem_map_of_mem (f := fun text => (text, d.kind, expandScope d.scope)) declared
  exact List.mem_map.1 listed

theorem claim_of_mem_candidates (member : c ∈ d.candidates) :
    c.text ∈ d.linkTexts ∧ c.claim = (c.text, d.kind, expandScope d.scope) := by
  have listed := List.mem_map_of_mem (f := Candidate.claim) member
  rw [map_claim_candidates] at listed
  obtain ⟨text, declared, same⟩ := List.mem_map.1 listed
  obtain rfl : text = c.text := congrArg Prod.fst same
  exact ⟨declared, same.symm⟩

theorem normalize_of_mem_splitTexts {texts text : String} (piece : text ∈ splitTexts texts) :
    LinkText.normalize text = text ∧ text ≠ "" := by
  obtain ⟨listed, nonempty⟩ := List.mem_filter.1 piece
  obtain ⟨written, -, rfl⟩ := List.mem_map.1 listed
  refine ⟨LinkText.normalize_normalize written, fun empty => ?_⟩
  simp [empty] at nonempty

theorem normalize_of_mem_linkTexts {text : String} (declared : text ∈ d.linkTexts) :
    LinkText.normalize text = text ∧ text ≠ "" := by
  rcases List.mem_append.1 declared with listed | listed
  · exact normalize_of_mem_splitTexts listed
  · rw [privateTexts] at listed
    cases given : d.localTexts with
    | none => simp [given] at listed
    | some texts => exact normalize_of_mem_splitTexts (by simpa [given] using listed)

end Definition

namespace DefinitionIndex

/-- An index after insertions, whether they answer or fail. -/
def insertAll (index : DefinitionIndex) (ds : List Definition) : DefinitionIndex :=
  ds.foldl (fun index d => ((insert d).on index).2) index

/-- A new index after insertions. -/
def inserted (ds : List Definition) : DefinitionIndex := insertAll {} ds

variable {index : DefinitionIndex} {d : Definition} {c other : Candidate}

theorem insertAll_append (index : DefinitionIndex) (ds more : List Definition) :
    index.insertAll (ds ++ more) = (index.insertAll ds).insertAll more :=
  List.foldl_append

/-- An open index stays open, and the additions of a definition come behind what it has. -/
theorem insert_snd (opened : index.isSealed = false) (d : Definition) :
    ((insert d).on index).2.isSealed = false ∧
      ((insert d).on index).2.candidates = index.candidates ++ index.additions d := by
  rw [insert_on opened]
  cases index.failure? d with
  | some failure => exact ⟨opened, rfl⟩
  | none => exact ⟨opened, rfl⟩

/-- What holds of an index that is open to insertions. -/
structure Tidy (index : DefinitionIndex) : Prop where
  opened : index.isSealed = false
  own : ∀ c ∈ index.candidates, c.isLocal = true
  normal : ∀ c ∈ index.candidates, LinkText.normalize c.text = c.text ∧ c.text ≠ ""
  distinct : index.candidates.Pairwise fun a b => a.claim ≠ b.claim

theorem tidy_empty : Tidy {} where
  opened := rfl
  own := fun _ member => absurd member List.not_mem_nil
  normal := fun _ member => absurd member List.not_mem_nil
  distinct := .nil

theorem Tidy.insert (tidy : Tidy index) (d : Definition) : Tidy ((insert d).on index).2 := by
  obtain ⟨opened, candidates⟩ := insert_snd tidy.opened d
  -- Whatever is new is a candidate of the definition.
  have added : ∀ c ∈ index.additions d, c ∈ d.candidates := fun c member =>
    (additions_sublist index d).subset member
  refine ⟨opened, ?_, ?_, ?_⟩
  · rw [candidates]
    intro c member
    rcases List.mem_append.1 member with before | last
    · exact tidy.own c before
    · exact isLocal_of_mem_candidates (added c last)
  · rw [candidates]
    intro c member
    rcases List.mem_append.1 member with before | last
    · exact tidy.normal c before
    · exact Definition.normalize_of_mem_linkTexts
        (Definition.claim_of_mem_candidates (added c last)).1
  · rw [candidates]
    exact pairwise_append_additions tidy.distinct d

theorem Tidy.insertAll (tidy : Tidy index) (ds : List Definition) : Tidy (index.insertAll ds) := by
  induction ds generalizing index with
  | nil => exact tidy
  | cons d rest ih => exact ih (tidy.insert d)

theorem tidy_inserted (ds : List Definition) : Tidy (inserted ds) := tidy_empty.insertAll ds

theorem prefix_insertAll (opened : index.isSealed = false) (ds : List Definition) :
    index.candidates <+: (index.insertAll ds).candidates := by
  induction ds generalizing index with
  | nil => exact List.prefix_rfl
  | cons d rest ih =>
    obtain ⟨stillOpen, candidates⟩ := insert_snd opened d
    exact (candidates ▸ List.prefix_append _ _).trans (ih stillOpen)

/-- Two candidates of an index with distinct claims are one if they have one claim. -/
theorem Tidy.eq_of_claim (tidy : Tidy index) (listed : c ∈ index.candidates)
    (indexed : other ∈ index.candidates) (same : c.claim = other.claim) : c = other :=
  List.inj_on_of_nodup_map (List.pairwise_map.2 tidy.distinct) listed indexed same

theorem containsText_iff {text : String} : index.containsText text = true ↔
    ∃ c ∈ index.candidates, c.text = LinkText.normalize text := by
  simp [containsText]

theorem find_finish (index : DefinitionIndex) (kind : LinkKind) (text : String) :
    index.finish.find kind text = .ok (index.candidates.filter fun c =>
      c.text == LinkText.normalize text && kind.accepts c.kind) := rfl

/-- After any insertions, those that fail among them: what is indexed is a definition of the
document under a text in normal form that is not empty, and is found under that text. Whatever is
inserted then, it stays where it is, and what is new are candidates of the definition, in their order,
behind it. No two candidates under one text have one kind and scope. The index has a text exactly if
some candidate has its normal form. Once it is sealed, the candidates under a text that satisfy a kind
of link are found, each where it was inserted, and nothing else. -/
theorem candidates_of_insertions (ds : List Definition) :
    let index := inserted ds
    (∀ c ∈ index.candidates,
      c.isLocal = true ∧ LinkText.normalize c.text = c.text ∧ c.text ≠ "" ∧
        ∀ kind : LinkKind, kind.accepts c.kind = true →
          ∃ found, index.finish.find kind c.text = .ok found ∧ c ∈ found) ∧
    (∀ more, index.candidates <+: (inserted (ds ++ more)).candidates) ∧
    (∀ d, ∃ added, added.Sublist d.candidates ∧
      (inserted (ds ++ [d])).candidates = index.candidates ++ added) ∧
    (index.candidates.Pairwise fun a b => a.text = b.text → ¬ (a.kind = b.kind ∧ a.scope = b.scope)) ∧
    (∀ text, index.containsText text = true ↔
      ∃ c ∈ index.candidates, c.text = LinkText.normalize text) ∧
    ∀ kind text, ∃ found, index.finish.find kind text = .ok found ∧
      found.Sublist index.candidates ∧
      ∀ c, c ∈ found ↔ c ∈ index.candidates ∧ c.text = LinkText.normalize text ∧
        kind.accepts c.kind = true := by
  intro index
  have tidy : Tidy index := tidy_inserted ds
  refine ⟨fun c member => ?_, fun more => ?_, fun d => ?_, ?_, fun text => containsText_iff,
    fun kind text => ?_⟩
  · obtain ⟨normal, nonempty⟩ := tidy.normal c member
    refine ⟨tidy.own c member, normal, nonempty, fun kind accepted => ?_⟩
    exact ⟨_, find_finish index kind c.text, List.mem_filter.2 ⟨member, by simp [normal, accepted]⟩⟩
  · rw [inserted, insertAll_append]
    exact prefix_insertAll tidy.opened more
  · refine ⟨index.additions d, additions_sublist index d, ?_⟩
    rw [inserted, insertAll_append]
    exact (insert_snd tidy.opened d).2
  · refine tidy.distinct.imp fun different text ⟨kind, scope⟩ => different ?_
    rw [Candidate.claim, Candidate.claim, text, kind, scope]
  · refine ⟨_, find_finish index kind text, List.filter_sublist, fun c => ?_⟩
    rw [List.mem_filter, Bool.and_eq_true, beq_iff_eq]

/-- A definition whose texts agree is taken exactly if whatever has one of its claims has its id. -/
theorem failure?_eq_none_iff (agree : d.conflict? = none) : index.failure? d = none ↔
    ∀ c ∈ d.candidates, ∀ other ∈ index.candidates, other.claim = c.claim →
      hasId d.id other = true := by
  simp only [failure?, agree, List.findSome?_eq_none_iff, refusal?_eq_none_iff]

theorem exists_holder_of_failure? (agree : d.conflict? = none) {failure : Failure}
    (failed : index.failure? d = some failure) :
    ∃ c ∈ d.candidates, ∃ holder ∈ index.candidates, holder.claim = c.claim ∧
      hasId d.id holder = false ∧
      failure = .duplicateDefinition c.kind c.text c.scope holder.site d.site := by
  rcases failure?_cases failed with
    ⟨text, conflict, -⟩ | ⟨front, c, back, holder, -, split, -, indexed, claim, foreign, same, -⟩
  · rw [agree] at conflict
    cases conflict
  · have member : c ∈ d.candidates := by
      rw [split]
      exact List.mem_append_right front List.mem_cons_self
    exact ⟨c, member, holder, indexed, claim, foreign, same⟩

/-- A definition whose texts agree is refused exactly if a claim of it is with another id. -/
theorem exists_failure_iff (opened : index.isSealed = false) (agree : d.conflict? = none) :
    (∃ failure, ((insert d).on index).1 = .error failure) ↔
      ∃ text ∈ d.linkTexts, ∃ holder ∈ index.candidates,
        holder.claim = (text, d.kind, Definition.expandScope d.scope) ∧
          hasId d.id holder = false := by
  simp only [insert_error_iff opened]
  constructor
  · rintro ⟨failure, failed⟩
    obtain ⟨c, member, holder, indexed, same, foreign, -⟩ := exists_holder_of_failure? agree failed
    obtain ⟨declared, claim⟩ := Definition.claim_of_mem_candidates member
    exact ⟨c.text, declared, holder, indexed, same.trans claim, foreign⟩
  · rintro ⟨text, declared, holder, indexed, same, foreign⟩
    obtain ⟨c, member, claim⟩ := Definition.exists_candidate declared
    refine Option.ne_none_iff_exists'.1 fun accepted => ?_
    have held := (failure?_eq_none_iff agree).1 accepted c member holder indexed
      (same.trans claim.symm)
    rw [foreign] at held
    cases held

theorem conflict?_of_accepted (accepted : index.failure? d = none) : d.conflict? = none := by
  cases conflict : d.conflict? with
  | none => rfl
  | some text => simp [failure?, conflict] at accepted

/-- After an insertion that succeeds, whatever has a claim of the definition has its id. -/
theorem hasId_of_accepted (opened : index.isSealed = false) (accepted : index.failure? d = none)
    (member : c ∈ d.candidates) (indexed : other ∈ ((insert d).on index).2.candidates)
    (same : other.claim = c.claim) : hasId d.id other = true := by
  rw [(insert_snd opened d).2] at indexed
  rcases List.mem_append.1 indexed with before | added
  · exact (failure?_eq_none_iff (conflict?_of_accepted accepted)).1 accepted c member other before same
  · exact Definition.hasId_of_mem_candidates ((additions_sublist index d).subset added)

theorem hasId_iff {id : String} : hasId id c = true ↔ ∃ line, c.origin = .document id line := by
  cases origin : c.origin with
  | document other line => simp [hasId, origin]
  | external => simp [hasId, origin]

/-- What a definition has claimed in an insertion that succeeded stays with its id, whatever is
inserted then. -/
theorem hasId_of_claimed {before : List Definition} (between : List Definition) {n : Nat}
    (succeeded : ((insert d).on (inserted before)).1 = .ok n) (member : c ∈ d.candidates) :
    let index := inserted (before ++ d :: between)
    (∃ holder ∈ index.candidates, holder.claim = c.claim) ∧
      ∀ holder ∈ index.candidates, holder.claim = c.claim → hasId d.id holder = true := by
  intro index
  have tidy : Tidy index := tidy_inserted _
  have opened : (inserted before).isSealed = false := (tidy_inserted before).opened
  have stillOpen := (insert_snd opened d).1
  have later : index = insertAll ((insert d).on (inserted before)).2 between :=
    insertAll_append {} before (d :: between)
  have accepted : (inserted before).failure? d = none := (insert_ok_iff opened d).1 ⟨n, succeeded⟩
  -- The claim has a holder right after the insertion, and no other one can come.
  obtain ⟨first, indexed, claim⟩ := claimed_iff.1 (claimed_of_insert succeeded c member)
  have kept : first ∈ index.candidates := by
    rw [later]
    exact (prefix_insertAll stillOpen between).subset indexed
  refine ⟨⟨first, kept, claim⟩, fun holder listed same => ?_⟩
  obtain rfl := tidy.eq_of_claim listed kept (same.trans claim.symm)
  exact hasId_of_accepted opened accepted member indexed same

/-- After any insertions, a definition that repeats what another id claimed in an insertion that
succeeded is refused, and the failure names both sites. An id that repeats its own claim is not
refused for it: it is refused exactly if one of its other claims is with another id. -/
theorem refused_of_claimed {before : List Definition} (between : List Definition)
    {e d : Definition} {n : Nat} {text : String}
    (succeeded : ((insert e).on (inserted before)).1 = .ok n)
    (agree : d.conflict? = none) (declared : text ∈ e.linkTexts) (repeated : text ∈ d.linkTexts)
    (kind : d.kind = e.kind)
    (scope : Definition.expandScope d.scope = Definition.expandScope e.scope) :
    let index := inserted (before ++ e :: between)
    (d.id ≠ e.id → ∃ c ∈ d.candidates, ∃ holder ∈ index.candidates, holder.claim = c.claim ∧
      hasId d.id holder = false ∧ ((insert d).on index).1 =
        .error (.duplicateDefinition c.kind c.text c.scope holder.site d.site)) ∧
    (d.id = e.id → ((∃ failure, ((insert d).on index).1 = .error failure) ↔
      ∃ other ∈ d.linkTexts, other ≠ text ∧ ∃ holder ∈ index.candidates,
        holder.claim = (other, d.kind, Definition.expandScope d.scope) ∧
          hasId d.id holder = false)) := by
  intro index
  have opened : index.isSealed = false := (tidy_inserted _).opened
  obtain ⟨c, member, claim⟩ := Definition.exists_candidate declared
  obtain ⟨⟨first, indexed, same⟩, owned⟩ := hasId_of_claimed between succeeded member
  rw [claim, ← kind, ← scope] at same owned
  rw [exists_failure_iff opened agree]
  refine ⟨fun apart => ?_, fun alike => ⟨?_, ?_⟩⟩
  · -- The holder has the other id; an earlier text of the definition may be refused before.
    have foreign : hasId d.id first = false := by
      obtain ⟨line, origin⟩ := hasId_iff.1 (owned first indexed same)
      simpa [hasId, origin] using Ne.symm apart
    obtain ⟨failure, failed⟩ := (exists_failure_iff opened agree).2
      ⟨text, repeated, first, indexed, same, foreign⟩
    obtain ⟨disputed, among, holder, inIndex, clash, other, rfl⟩ :=
      exists_holder_of_failure? agree ((insert_error_iff opened d).1 failed)
    exact ⟨disputed, among, holder, inIndex, clash, other, failed⟩
  · rintro ⟨other, declaredHere, holder, inIndex, clash, foreign⟩
    refine ⟨other, declaredHere, ?_, holder, inIndex, clash, foreign⟩
    -- The repeated claim itself is with the id of the definition.
    rintro rfl
    have held := owned holder inIndex clash
    rw [← alike, foreign] at held
    cases held
  · rintro ⟨other, declaredHere, -, rest⟩
    exact ⟨other, declaredHere, rest⟩

/-- A box does not take the text of the crate, whatever failed between the two. -/
theorem refused_of_box :
    let crate : Definition := { id := "crate", texts := "crate|box" }
    let box : Definition := { id := "box", texts := "Boxes|Box" }
    let index := inserted [crate, { id := "again", texts := "Crate" }]
    ((insert crate).on (inserted [])).1 = .ok 2 ∧ box.conflict? = none ∧
      ∃ c ∈ box.candidates, ∃ holder ∈ index.candidates, holder.claim = c.claim ∧
        hasId "box" holder = false ∧ ((insert box).on index).1 =
          .error (.duplicateDefinition c.kind c.text c.scope holder.site "#box") := by
  intro crate box index
  have succeeded : ((insert crate).on (inserted [])).1 = .ok 2 := by decide +kernel
  have agree : box.conflict? = none := by decide +kernel
  have held : "box" ∈ crate.linkTexts := by decide +kernel
  have refused := refused_of_claimed [{ id := "again", texts := "Crate" }] succeeded agree held
    (by decide +kernel) rfl rfl
  exact ⟨succeeded, agree, refused.1 (by decide)⟩

/-- Two elements with one id may claim one text: the second adds nothing and is not refused. -/
theorem claimed_twice :
    ((insert { id := "box", texts := "box", line := some 1 }).on (inserted [])).1 = .ok 1 ∧
    ((insert { id := "box", texts := "Box", line := some 9 }).on
      (inserted [{ id := "box", texts := "box", line := some 1 }])).1 = .ok 0 := by
  constructor <;> decide +kernel

end DefinitionIndex

end SpecLink
