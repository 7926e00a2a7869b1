import SpecLink.Proofs.Linking.StandIns
import SpecLink.Proofs.Resolver.Reports

/-!
# What a lookup of the bibliography comes to

A request that does not take obsolete entries as they are follows the entry of its key one step, to
the entry directly under the key of its successor, and no further. What it comes to decides about the
report: there is one if nothing is returned and one if a successor is, and a request that is quiet or
ends in a failure makes none. Main statement: `messages_of_lookUpBiblio`.
-/
namespace SpecLink

namespace BiblioStore

open SpecLink.Action

/-- The entry is under the key, or the key has none and stands for one under which the entry is. -/
inductive Leads (store : BiblioStore) (key : String) (e : BiblioEntry) : Prop
  | entry (found : store.entryFor? key = some e)
  | name {target : String} (absent : store.entryFor? key = none)
    (named : store.aliasTarget? key = some target)
    (found : (store.opened key).entryFor? target = some e)

/-- The key of the request finds an obsolete entry that is not wanted as it is, and the key of its
successor leads to the other entry. -/
def Replaces (store : BiblioStore) (request : BiblioRequest) (obsolete e : BiblioEntry) : Prop :=
  request.allowObsolete = false ∧ ∃ next mid,
    (findKey request.lookupKey).on store = (.ok (.found obsolete), mid) ∧
    obsolete.supersededBy = some next ∧ mid.Leads next e

/-- The key of the request finds the entry and it is taken as it is, or what it finds is replaced by
the entry. -/
inductive Merits (store : BiblioStore) (request : BiblioRequest) (e : BiblioEntry) : Prop
  | own {mid : BiblioStore}
    (found : (findKey request.lookupKey).on store = (.ok (.found e), mid))
    (taken : request.allowObsolete = true ∨ e.supersededBy = none)
  | replacement {obsolete : BiblioEntry} (replaces : store.Replaces request obsolete e)

/-- What a request comes to. Each answer has one reason. -/
inductive Comes (store : BiblioStore) (request : BiblioRequest) : BiblioAnswer → Prop
  | own {e : BiblioEntry} {mid : BiblioStore}
    (found : (findKey request.lookupKey).on store = (.ok (.found e), mid))
    (taken : request.allowObsolete = true ∨ e.supersededBy = none) : Comes store request (.found e)
  | replaced {obsolete e : BiblioEntry} (replaces : store.Replaces request obsolete e) :
    Comes store request (.succeeded obsolete e)
  | stranded {obsolete : BiblioEntry} {next : String} (stranded : store.Stranded request) :
    Comes store request (.noSuccessor obsolete next)
  | refused {versions : List String} {mid : BiblioStore}
    (refused : (findKey request.lookupKey).on store = (.ok (.wrongVersion versions), mid)) :
    Comes store request (.wrongVersion versions)
  | missed {mid : BiblioStore}
    (missed : (findKey request.lookupKey).on store = (.ok .missing, mid)) :
    Comes store request .missing

section Answers

variable {store after : BiblioStore} {key : String} {request : BiblioRequest}
  {answer : BiblioAnswer}

/-- A search under a key that answers does so with what the key leads to. -/
theorem findDirect_eq_some_iff {found : Option BiblioEntry}
    (ran : (findDirect key).on store = (.ok found, after)) (e : BiblioEntry) :
    found = some e ↔ store.Leads key e := by
  obtain ⟨first, mid, looked, ran⟩ := on_bind_ok_iff.1 ran
  obtain ⟨same, rfl⟩ := findExact_ok looked
  cases first with
  | some own =>
    obtain ⟨rfl, -⟩ := on_pure_ok_iff.1 ran
    constructor
    · intro found
      exact .entry (same.symm.trans found)
    · rintro (found | ⟨absent, -, -⟩)
      · exact same.trans found
      · cases same.trans absent
  | none =>
    -- The key has no entry, so what counts is the key that it stands for.
    obtain ⟨opened, _, got, ran⟩ := on_bind_ok_iff.1 ran
    obtain ⟨read, rfl⟩ := Prod.mk.inj got
    obtain rfl : store.opened key = opened := Except.ok.inj read
    have names : (store.opened key).aliasTarget? key = store.aliasTarget? key := by
      rw [aliasTarget?, aliasTarget?, opened_aliases]
    rw [names] at ran
    cases named : store.aliasTarget? key with
    | none =>
      rw [named] at ran
      obtain ⟨rfl, -⟩ := on_pure_ok_iff.1 ran
      constructor
      · intro found
        cases found
      · rintro (found | ⟨-, other, -⟩)
        · cases same.trans found
        · cases named.symm.trans other
    | some target =>
      rw [named] at ran
      obtain ⟨rfl, -⟩ := findExact_ok ran
      constructor
      · intro found
        exact .name same.symm named found
      · rintro (found | ⟨-, other, found⟩)
        · cases same.trans found
        · obtain rfl := Option.some.inj (named.symm.trans other)
          exact found

/-- What a lookup answers has its reason in the store that it met. -/
theorem comes_of_find
    (ran : (find request.lookupKey request.allowObsolete).on store = (.ok answer, after)) :
    store.Comes request answer := by
  rcases find_cases ran with ⟨e, mid, found, wanted, followed⟩ | ⟨found, taken⟩
  · rcases follow_cases followed with
      ⟨single, rfl⟩ | ⟨next, superseded, ⟨successor, looked, rfl⟩ | ⟨looked, rfl⟩⟩
    · exact .own found (.inr single)
    · have leads := (findDirect_eq_some_iff looked successor).1 rfl
      exact .replaced ⟨wanted, next, mid, found, superseded, leads⟩
    · exact .stranded ⟨wanted, e, next, mid, found, superseded, congrArg Prod.fst looked⟩
  · rcases findKey_cases found with ⟨e, rfl⟩ | ⟨versions, rfl⟩ | rfl
    · exact .own found (.inl (taken.resolve_right (Option.some_ne_none e)))
    · exact .refused found
    · exact .missed found

theorem eq_of_findKey {e other : BiblioEntry} {mid third : BiblioStore}
    (first : (findKey key).on store = (.ok (.found e), mid))
    (second : (findKey key).on store = (.ok (.found other), third)) : e = other ∧ mid = third := by
  obtain ⟨same, rfl⟩ := Prod.mk.inj (first.symm.trans second)
  exact ⟨BiblioAnswer.found.inj (Except.ok.inj same), rfl⟩

/-- An entry that is taken as it is replaces none. -/
theorem not_replaces_of_own {e other : BiblioEntry} {mid : BiblioStore}
    (found : (findKey request.lookupKey).on store = (.ok (.found e), mid))
    (taken : request.allowObsolete = true ∨ e.supersededBy = none) :
    ¬∃ obsolete, store.Replaces request obsolete other := by
  rintro ⟨obsolete, wanted, next, third, again, superseded, -⟩
  obtain ⟨rfl, -⟩ := eq_of_findKey found again
  rcases taken with taken | taken
  · cases wanted.symm.trans taken
  · cases superseded.symm.trans taken

/-- What a key without an entry gets replaces none. -/
theorem not_replaces_of_unfound {e : BiblioEntry} {mid : BiblioStore}
    (ran : (findKey request.lookupKey).on store = (.ok answer, mid))
    (unfound : answer.genuine? = none) : ¬∃ obsolete, store.Replaces request obsolete e := by
  rintro ⟨obsolete, -, next, third, again, -, -⟩
  obtain ⟨same, -⟩ := Prod.mk.inj (ran.symm.trans again)
  obtain rfl := Except.ok.inj same
  cases unfound

theorem Leads.unique {e other : BiblioEntry} (first : store.Leads key e)
    (second : store.Leads key other) : e = other := by
  cases first with
  | entry found =>
    cases second with
    | entry again => exact Option.some.inj (found.symm.trans again)
    | name absent => cases found.symm.trans absent
  | name absent named found =>
    cases second with
    | entry again => cases absent.symm.trans again
    | name _ again same =>
      obtain rfl := Option.some.inj (named.symm.trans again)
      exact Option.some.inj (found.symm.trans same)

theorem Replaces.unique {obsolete e another other : BiblioEntry}
    (first : store.Replaces request obsolete e) (second : store.Replaces request another other) :
    e = other := by
  obtain ⟨-, next, mid, found, superseded, leads⟩ := first
  obtain ⟨-, next', mid', found', superseded', leads'⟩ := second
  obtain ⟨rfl, rfl⟩ := eq_of_findKey found found'
  obtain rfl := Option.some.inj (superseded.symm.trans superseded')
  exact leads.unique leads'

/-- A stranded key merits no entry. -/
theorem Stranded.not_merits (stranded : store.Stranded request) (e : BiblioEntry) :
    ¬store.Merits request e := by
  obtain ⟨wanted, obsolete, next, mid, found, superseded, vain⟩ := stranded
  rintro (⟨again, taken⟩ | ⟨-, next', mid', again, superseded', leads⟩)
  · obtain ⟨rfl, -⟩ := eq_of_findKey found again
    rcases taken with taken | taken
    · cases wanted.symm.trans taken
    · cases superseded.symm.trans taken
  · obtain ⟨rfl, rfl⟩ := eq_of_findKey found again
    obtain rfl := Option.some.inj (superseded.symm.trans superseded')
    cases (findDirect_eq_some_iff (Prod.ext vain rfl) e).2 leads

theorem generated_standIn (store : BiblioStore) (key : String) (status : Status) :
    (store.standIn key status).generated = true := by
  simp only [standIn]
  split <;> rfl

/-- What a request merits is what it gets. -/
theorem Comes.deliver_eq (comes : store.Comes request answer) (after : BiblioStore)
    (status : Status) {e : BiblioEntry} (merits : store.Merits request e) :
    after.deliver request status answer = some e := by
  cases comes with
  | own found taken =>
    rcases merits with ⟨again, -⟩ | replaces
    · obtain ⟨rfl, -⟩ := eq_of_findKey found again
      rfl
    · exact absurd ⟨_, replaces⟩ (not_replaces_of_own found taken)
  | replaced replaces =>
    rcases merits with ⟨again, taken⟩ | others
    · exact absurd ⟨_, replaces⟩ (not_replaces_of_own again taken)
    · rw [replaces.unique others]
      rfl
  | stranded stranded => exact absurd merits (stranded.not_merits e)
  | refused ran | missed ran =>
    rcases merits with ⟨found, -⟩ | replaces
    · cases ran.symm.trans found
    · exact absurd ⟨_, replaces⟩ (not_replaces_of_unfound ran rfl)

/-- Of a request that gets an entry something is said exactly if that replaces an obsolete one. -/
theorem Comes.remark (comes : store.Comes request answer) (after : BiblioStore) {status : Status}
    {e : BiblioEntry} (given : after.deliver request status answer = some e) :
    ((∃ obsolete, store.Replaces request obsolete e) →
      ∃ d, after.remark request answer = some d ∧ d.severity = .linkError) ∧
    ((¬∃ obsolete, store.Replaces request obsolete e) → after.remark request answer = none) := by
  cases comes with
  | own found taken =>
    exact ⟨fun replaces => absurd replaces (not_replaces_of_own found taken), fun _ => rfl⟩
  | replaced replaces =>
    obtain rfl := Option.some.inj given
    exact ⟨fun _ => ⟨_, rfl, rfl⟩, fun none => absurd ⟨_, replaces⟩ none⟩
  | stranded => cases given
  | refused ran | missed ran =>
    -- A stand-in is returned without a word.
    have standIn : request.standIn = true := by
      cases standIn : request.standIn with
      | true => rfl
      | false => simp [deliver, standIn] at given
    constructor
    · intro replaces
      exact absurd replaces (not_replaces_of_unfound ran rfl)
    · intro _
      rw [BiblioStore.remark, if_pos standIn]

/-- Without obsolete entries, what is returned is a stand-in, has no successor, or is one. -/
theorem Comes.sort (comes : store.Comes request answer) (after : BiblioStore) {status : Status}
    {e : BiblioEntry} (given : after.deliver request status answer = some e)
    (wanted : request.allowObsolete = false) : e.generated = true ∨ e.supersededBy = none ∨
      ∃ obsolete, store.Replaces request obsolete e := by
  cases comes with
  | own found taken =>
    obtain rfl := Option.some.inj given
    rcases taken with taken | single
    · cases wanted.symm.trans taken
    · exact .inr (.inl single)
  | replaced replaces =>
    obtain rfl := Option.some.inj given
    exact .inr (.inr ⟨_, replaces⟩)
  | stranded => cases given
  | refused | missed =>
    -- Only a stand-in is left.
    simp only [deliver] at given
    split at given
    · obtain rfl := Option.some.inj given
      exact .inl (generated_standIn _ _ _)
    · cases given

end Answers

/-- The answer to a request, and what is said of it, have a reason. -/
theorem comes_of_lookup {store : BiblioStore} {request : BiblioRequest} {status : Status}
    {entry : Option BiblioEntry} {remark : Option Diagnostic}
    (answered : ((lookup request status).on store).1 = .ok (entry, remark)) :
    ∃ answer after, store.Comes request answer ∧
      entry = deliver after request (request.status.getD status) answer ∧
      remark = if request.quiet then none else BiblioStore.remark after request answer := by
  obtain ⟨answer, after, ran, rest⟩ := on_bind_ok_iff.1 (Prod.ext answered rfl)
  obtain ⟨same, -⟩ := on_pure_ok_iff.1 rest
  obtain ⟨rfl, rfl⟩ := Prod.mk.inj same
  exact ⟨answer, after, comes_of_find ran, rfl, rfl⟩

end BiblioStore

namespace Resolver

theorem lookUpBiblio_ok {r s : Resolver} {request : BiblioRequest} {entry : Option BiblioEntry}
    (ran : (lookUpBiblio request).on r = (.ok entry, s)) : ∃ remark,
      ((BiblioStore.lookup request r.defaultStatus).on r.biblio).1 = .ok (entry, remark) ∧
      s.messages = remarked r.messages (.ok (entry, remark)) := by
  rw [lookUpBiblio_on] at ran
  obtain ⟨mapped, rfl⟩ := Prod.mk.inj ran
  obtain ⟨⟨_, remark⟩, answered, rfl⟩ := (map_ok_iff _ _ _).1 mapped
  exact ⟨remark, answered, by rw [answered]⟩

/-- A lookup that answers gets the entry that it merits, if any. If it fails or is asked to be quiet
it reports nothing. Any other makes exactly one report if it gets nothing, an error, and exactly one
if it gets the successor of an obsolete entry, a link error; otherwise it makes none. Unless obsolete
entries are taken as they are, what it gets is a stand-in, or has no successor, or is what the key of
the successor of the entry leads to, be that obsolete in turn. -/
theorem messages_of_lookUpBiblio (r : Resolver) (request : BiblioRequest) :
    (∀ failure s, (lookUpBiblio request).on r = (.error failure, s) → s.messages = r.messages) ∧
    ∀ entry s, (lookUpBiblio request).on r = (.ok entry, s) →
      (∀ e, r.biblio.Merits request e → entry = some e) ∧
      (request.quiet = true → s.messages = r.messages) ∧
      (request.quiet = false →
        (entry = none → ∃ d, d.severity.IsError ∧ s.messages = r.messages.report d) ∧
        ∀ e, entry = some e →
          ((∃ obsolete, r.biblio.Replaces request obsolete e) →
            ∃ d, d.severity = .linkError ∧ s.messages = r.messages.report d) ∧
          ((¬∃ obsolete, r.biblio.Replaces request obsolete e) → s.messages = r.messages)) ∧
      ∀ e, entry = some e → request.allowObsolete = false → e.generated = true ∨
        e.supersededBy = none ∨ ∃ obsolete, r.biblio.Replaces request obsolete e := by
  constructor
  · intro failure s ran
    rw [lookUpBiblio_on] at ran
    obtain ⟨failed, rfl⟩ := Prod.mk.inj ran
    rw [map_error_iff] at failed
    simp only [failed, remarked]
  · intro entry s ran
    obtain ⟨_, answered, logged⟩ := lookUpBiblio_ok ran
    obtain ⟨answer, after, comes, rfl, rfl⟩ := BiblioStore.comes_of_lookup answered
    rw [logged]
    refine ⟨fun e merits => comes.deliver_eq after _ merits, fun quiet => ?_,
      fun loud => ⟨fun none => ?_, fun e given => ?_⟩,
      fun e given wanted => comes.sort after given wanted⟩
    · simp only [quiet, if_true, remarked]
    · obtain ⟨d, said, error⟩ := BiblioStore.exists_remark_of_deliver_eq_none none
      refine ⟨d, error, ?_⟩
      simp only [loud, Bool.false_eq_true, if_false, said, remarked]
    · obtain ⟨succession, other⟩ := comes.remark after given
      simp only [loud, Bool.false_eq_true, if_false]
      constructor
      · intro replaces
        obtain ⟨d, said, error⟩ := succession replaces
        exact ⟨d, error, by rw [said, remarked]⟩
      · intro none
        rw [other none]
        rfl

/-- A bibliography of three entries, each made obsolete by the next one, and the last by the first. -/
def circlingStore : BiblioStore :=
  [("a", "b"), ("b", "c"), ("c", "a")].foldl (fun store link => store.addEntry
    { key := link.1, title := link.1, supersededBy := some link.2 }) (.ofSource (.ofFiles ∅))

/-- On a circle the next entry is returned with one report, though it is obsolete itself, and the
entry of the key without a word if obsolete entries are taken. -/
theorem messages_of_circling :
    let r : Resolver := { anchors := { source := .ofFiles ∅ }, biblio := circlingStore }
    let asked (allowObsolete : Bool) := (lookUpBiblio { key := "b", allowObsolete }).on r
    ((asked false).1.map (Option.map BiblioEntry.key) = .ok (some "c") ∧
      ∃ d, d.severity = .linkError ∧ (asked false).2.messages = r.messages.report d) ∧
    (asked true).1.map (Option.map BiblioEntry.key) = .ok (some "b") ∧
      (asked true).2.messages = r.messages := by
  intro r asked
  constructor
  · have next : (asked false).1.map (Option.map fun e => (e.key, e.generated, e.supersededBy)) =
        .ok (some ("c", false, some "a")) := by decide +kernel
    obtain ⟨entry, answered, same⟩ := (map_ok_iff _ _ _).1 next
    obtain ⟨e, rfl, fields⟩ := Option.map_eq_some_iff.1 same
    simp only [Prod.mk.injEq] at fields
    obtain ⟨-, runs⟩ := messages_of_lookUpBiblio r { key := "b", allowObsolete := false }
    obtain ⟨-, -, reports, sort⟩ := runs _ _ (Prod.ext answered rfl)
    refine ⟨by rw [answered]; simp [Except.map, fields.1], ?_⟩
    apply ((reports rfl).2 e rfl).1
    -- The entry is no stand-in and has a successor, so it is one.
    rcases sort e rfl rfl with generated | single | replaces
    · cases fields.2.1.symm.trans generated
    · cases fields.2.2.symm.trans single
    · exact replaces
  · have whole : (asked true).1.map (Option.map BiblioEntry.key) = .ok (some "b") := by
      decide +kernel
    obtain ⟨entry, answered, same⟩ := (map_ok_iff _ _ _).1 whole
    obtain ⟨e, rfl, -⟩ := Option.map_eq_some_iff.1 same
    obtain ⟨-, runs⟩ := messages_of_lookUpBiblio r { key := "b", allowObsolete := true }
    obtain ⟨-, -, reports, -⟩ := runs _ _ (Prod.ext answered rfl)
    refine ⟨whole, ((reports rfl).2 e rfl).2 ?_⟩
    rintro ⟨obsolete, wanted, -⟩
    cases wanted

end Resolver

end SpecLink
