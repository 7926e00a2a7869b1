import SpecLink.Defaults.Block
import SpecLink.Proofs.Defaults.Records
import SpecLink.Proofs.Linking.Reaching
import SpecLink.Proofs.Persistence

/-!
# The rules of a block

A block of link defaults is accepted exactly if its lines make a tree and each record names one
spec, one kind and one text; of several statuses only the first is read. Main statement:
`parseBlock_ok_iff`.
-/
namespace SpecLink.Defaults

theorem mapM_ok_iff {ε α β : Type} {f : α → Except ε β} {items : List α} {results : List β} :
    items.mapM f = .ok results ↔ List.Forall₂ (fun a b => f a = .ok b) items results := by
  induction items generalizing results with
  | nil => cases results <;> simp [pure, Except.pure]
  | cons first rest ih =>
    simp only [List.mapM_cons, bind_ok_iff, pure, Except.pure, Except.ok.injEq,
      List.forall₂_cons_left_iff]
    constructor
    · rintro ⟨b, here, others, there, rfl⟩
      exact ⟨b, others, here, ih.1 there, rfl⟩
    · rintro ⟨b, others, here, there, rfl⟩
      exact ⟨b, here, others, ih.2 there, rfl⟩

/-- The first of the values, if there is one, is the word for the status. -/
def IsFirstStatus (values : List String) (status : Option Status) : Prop :=
  match values with
  | [] => status = none
  | first :: _ => ∃ word, Status.read? first = some word ∧ status = some word

/-- The record names one spec, one kind and one text, and the rules are those that it stands for:
one for each scope, or a single one without a scope. -/
def Gives (record : InfoRecord) (rules : List DefaultRule) : Prop :=
  ∃ spec type term kind status,
    record.get? "spec" = some [spec] ∧ record.get? "type" = some [type] ∧
    record.get? "text" = some [term] ∧ kind.name = Text.trim type ∧
    IsFirstStatus (record.valuesOf "status") status ∧
    rules = (if record.valuesOf "for" = [] then [none] else (record.valuesOf "for").map some).map
      fun scope => { term, kind, status, scope, specId := Text.lowercase spec }

theorem only_ok_iff {record : InfoRecord} {key value : String} {line : Option Nat} :
    only record key line = .ok value ↔ record.get? key = some [value] := by
  rw [only, InfoRecord.valuesOf]
  cases held : record.get? key with
  | none => simp
  | some values => rcases values with - | ⟨first, - | ⟨second, rest⟩⟩ <;> simp

theorem DefinitionKind.read_ok_iff {s : String} {kind : DefinitionKind} :
    DefinitionKind.read s = .ok kind ↔ kind.name = Text.trim s := by
  constructor
  · intro read
    exact DefinitionKind.name_of_ofName? (DefinitionKind.ofName?_of_read read)
  · intro name
    rw [DefinitionKind.read, ← name, DefinitionKind.ofName?_name]

theorem Status.read_ok_iff {s : String} {status : Status} :
    Status.read s = .ok status ↔ Status.read? s = some status := by
  rw [Status.read]
  cases Status.read? s <;> simp

theorem firstStatus_ok_iff {values : List String} {status : Option Status} :
    firstStatus values = .ok status ↔ IsFirstStatus values status := by
  cases values with
  | nil => simp [firstStatus, IsFirstStatus, eq_comm]
  | cons first rest =>
    simp only [firstStatus, map_ok_iff, Status.read_ok_iff]
    simp only [IsFirstStatus, eq_comm]

theorem rulesOfRecord_ok_iff {line : Option Nat} {record : InfoRecord} {rules : List DefaultRule} :
    rulesOfRecord line record = .ok rules ↔ Gives record rules := by
  simp only [rulesOfRecord, bind_ok_iff, only_ok_iff, DefinitionKind.read_ok_iff,
    firstStatus_ok_iff, pure, Except.pure, Except.ok.injEq, scopesOf, List.isEmpty_iff]
  -- The kind is read before the spec; the order shows in the failures alone.
  constructor
  · rintro ⟨type, oneType, kind, named, spec, oneSpec, term, oneText, status, isFirst, rfl⟩
    exact ⟨spec, type, term, kind, status, oneSpec, oneType, oneText, named, isFirst, rfl⟩
  · rintro ⟨spec, type, term, kind, status, oneSpec, oneType, oneText, named, isFirst, rfl⟩
    exact ⟨type, oneType, kind, named, spec, oneSpec, term, oneText, status, isFirst, rfl⟩

/-- A block is accepted exactly if it is a tree of records that each stand for rules; it gives their
rules in order. -/
theorem parseBlock_ok_iff {lines : List String} {firstLine : Option Nat}
    {rules : List DefaultRule} : parseBlock lines firstLine = .ok rules ↔
      ∃ records parts, InfoTree.parse lines firstLine = .ok records ∧
        List.Forall₂ Gives records parts ∧ rules = parts.flatten := by
  simp only [parseBlock, bind_ok_iff, mapM_ok_iff, rulesOfRecord_ok_iff, pure, Except.pure,
    Except.ok.injEq]
  constructor
  · rintro ⟨records, parsed, parts, gives, rfl⟩
    exact ⟨records, parts, parsed, gives, rfl⟩
  · rintro ⟨records, parts, parsed, gives, rfl⟩
    exact ⟨records, parsed, parts, gives, rfl⟩

/-- The record names one spec, one kind and one text, and at most one status. -/
structure IsLinkDefault (record : InfoRecord) : Prop where
  spec : ∃ spec, record.get? "spec" = some [spec]
  type : ∃ type kind, record.get? "type" = some [type] ∧
    DefinitionKind.name kind = Text.trim type
  text : ∃ text, record.get? "text" = some [text]
  status : ∀ values, record.get? "status" = some values →
    ∃ word, values = [word] ∧ (Status.read? word).isSome = true

/-- A line that names a status below one that names another is accepted, and its own status does not
count. -/
theorem accepted_with_statuses :
    let lines := ["spec: css-values-4; type: value; status: current",
      "    text: auto; status: snapshot"]
    parseBlock lines none = .ok [⟨"auto", "css-values-4", .value, some .current, none⟩] ∧
    ¬ ((∃ rules, parseBlock lines none = .ok rules) ↔
      ∃ records, InfoTree.parse lines none = .ok records ∧
        ∀ record ∈ records, IsLinkDefault record) := by
  intro lines
  have accepted : parseBlock lines none =
      .ok [⟨"auto", "css-values-4", .value, some .current, none⟩] := by decide +kernel
  have read : InfoTree.parse lines none = .ok [.ofList [("spec", ["css-values-4"]),
      ("status", ["current", "snapshot"]), ("text", ["auto"]), ("type", ["value"])]] := by
    decide +kernel
  refine ⟨accepted, fun equivalent => ?_⟩
  obtain ⟨records, parsed, all⟩ := equivalent.1 ⟨_, accepted⟩
  obtain rfl := Except.ok.inj (read.symm.trans parsed)
  obtain ⟨word, one, -⟩ :=
    (all _ List.mem_cons_self).status ["current", "snapshot"] (by decide +kernel)
  simp at one

end SpecLink.Defaults
