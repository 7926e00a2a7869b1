import SpecLink.Project
import SpecLink.Proofs.Action
import SpecLink.Proofs.FileTree
import SpecLink.Proofs.Json.Records
import SpecLink.Proofs.Json.Texts
import SpecLink.Proofs.Text.Blanks

/-!
# Data read back

Levels are read back from their text, all data that is kept or exchanged from the values it is
written as, and the configuration of a project from its file. Main statements: `parse?_display`,
`loadConfig_of_saveConfig` and `readsBack_persisted`.
-/
namespace SpecLink

open Json

theorem Text.isBlank_of_isDigit {c : Char} (digit : c.isDigit = true) : isBlank c = false := by
  have check : ∀ n < 58, 48 ≤ n → isBlank (Char.ofNat n) = false := by decide +kernel
  obtain ⟨low, high⟩ := Char.isDigit_iff_toNat.1 digit
  rw [← Char.ofNat_toNat c]
  exact check c.toNat (Nat.lt_succ_of_le high) low

namespace SpecLevel

theorem toList_display (level : SpecLevel) :
    level.display.toList =
      ['.'].intercalate (level.parts.map fun n => Nat.toDigits 10 n.toNat) := by
  rw [display, String.toList_intercalate, List.map_map]
  exact congrArg _ (List.map_congr_left fun n _ => Nat.toList_repr)

theorem display_ne_empty (level : SpecLevel) : level.display ≠ "" := by
  intro empty
  have written := level.toList_display
  obtain ⟨first, rest, digits⟩ :=
    List.exists_cons_of_ne_nil (Nat.toDigits_ne_nil (n := level.major.toNat) (b := 10))
  rw [empty, parts, List.map_cons, digits, List.intercalate_cons_cons_left] at written
  cases written

theorem isBlank_of_mem_display {level : SpecLevel} {c : Char} (member : c ∈ level.display.toList) :
    Text.isBlank c = false := by
  rw [toList_display] at member
  generalize level.parts = words at member
  have digit {n : UInt32} (member : c ∈ Nat.toDigits 10 n.toNat) : Text.isBlank c = false :=
    Text.isBlank_of_isDigit (Text.isDigit_of_mem_toDigits member)
  induction words with
  | nil => cases member
  | cons n rest ih =>
    cases rest with
    | nil => exact digit (by simpa using member)
    | cons next rest =>
      simp only [List.map_cons, List.intercalate_cons_cons, List.mem_append,
        List.mem_singleton] at member ih
      rcases member with (first | rfl) | later
      · exact digit first
      · decide
      · exact ih later

/-- A level comes back from its text, whatever words it consists of. -/
theorem parse?_display (level : SpecLevel) : parse? level.display = some level := by
  have noPoint : ∀ digits ∈ level.parts.map fun n => Nat.toDigits 10 n.toNat, '.' ∉ digits := by
    intro digits member point
    obtain ⟨n, -, rfl⟩ := List.mem_map.1 member
    exact absurd (Text.isDigit_of_mem_toDigits point) (by decide)
  have trimmed : Text.trim level.display = level.display := by
    rw [Text.trim, Text.trimChars_of_nonblank fun _ => isBlank_of_mem_display,
      String.ofList_toList]
  have pieces : Text.splitAt '.' level.display = level.parts.map Text.showWord := by
    rw [Text.splitAt, ← List.splitOn_eq_splitOnP, toList_display,
      List.splitOn_intercalate '.' noPoint (by simp [parts]), List.map_map]
    rfl
  have nonempty : level.display.isEmpty = false :=
    String.isEmpty_eq_false_iff.2 level.display_ne_empty
  have words : (level.parts.map Text.showWord).mapM Text.readWord? = some level.parts :=
    Json.mapM_of_reads Text.readWord?_showWord level.parts
  simp only [parse?, trimmed, nonempty, pieces, words]
  rfl

theorem ofJson?_toJson (level : SpecLevel) : ofJson? level.toJson = some level :=
  parse?_display level

@[simp] theorem nullable?_option (level : Option SpecLevel) :
    (option toJson level).nullable? ofJson? = some level :=
  Json.nullable?_option ofJson?_toJson (fun _ => nofun) level

@[simp] theorem isReadable_toJson (level : SpecLevel) (room : Nat) :
    level.toJson.isReadable room = true :=
  isReadable_text level.display room

end SpecLevel

@[simp] theorem Status.ofName?_name (status : Status) : ofName? status.name = some status := by
  cases status <;> rfl

@[simp] theorem Severity.ofName?_name (severity : Severity) :
    ofName? severity.name = some severity := by
  cases severity <;> rfl

@[simp] theorem AbortLevel.ofName?_name (level : AbortLevel) : ofName? level.name = some level := by
  cases level <;> rfl

@[simp] theorem DefinitionKind.ofName?_name (kind : DefinitionKind) :
    ofName? kind.name = some kind := by
  cases kind <;> rfl

@[simp] theorem Status.nullable?_option (status : Option Status) :
    (option (fun s => text s.name) status).nullable? (name? ofName?) = some status :=
  have reads (s : Status) : (text s.name).name? ofName? = some s := ofName?_name s
  Json.nullable?_option reads (fun _ => nofun) status

theorem Config.ofJson?_toJson (c : Config) : ofJson? c.toJson = some c := by
  have pair (p : String × String) :
      (Json.array [text p.1, text p.2]).pair? text? text? = some p := rfl
  refine (bind_slots?_record rfl (by simp)).trans ?_
  dsimp only [List.map]
  simp [list?_list pair]

theorem Metadata.ofJson?_toJson (m : Metadata) : ofJson? m.toJson = some m := by
  refine (bind_slots?_record rfl (by simp)).trans ?_
  dsimp only [List.map]
  simp

theorem Element.ofJson?_toJson (el : Element) : ofJson? el.toJson = some el := by
  have attributes := map?_record text?_text el.attributes
  refine (bind_slots?_record rfl (by simp)).trans ?_
  dsimp only [List.map]
  simp [attributes]

theorem Document.ofJson?_toJson (d : Document) : ofJson? d.toJson = some d := by
  have elements := list?_list Element.ofJson?_toJson
  refine (bind_slots?_record rfl (by simp)).trans ?_
  dsimp only [List.map]
  simp [elements, Metadata.ofJson?_toJson]

@[simp] theorem AnchorUrls.ofJson?_toJson (urls : AnchorUrls) :
    ofJson? urls.toJson = some urls := by
  refine (bind_slots?_record rfl (by simp)).trans ?_
  dsimp only [List.map]
  simp

namespace Origin

theorem isReadable_toJson (origin : Origin) (room : Nat) :
    origin.toJson.isReadable (room + 2) = true := by
  cases origin with
  | document id line => exact isReadable_record (by simp [isReadable_option])
  | external specId shortname level urls =>
    have urls : urls.toJson.isReadable (room + 1) = true :=
      isReadable_record (by simp [isReadable_option])
    exact isReadable_record (by simp [isReadable_option, urls])

/-- Either form of an origin is read back where two more containers may be opened. -/
theorem ofJson?_toJson (origin : Origin) {depth : Nat} (shallow : depth ≤ 125) :
    ofJson? depth origin.toJson = some origin := by
  rw [ofJson?, if_neg (not_refused origin.isReadable_toJson shallow)]
  cases origin with
  | document id line =>
    have form : formOf? (document id line).toJson = some "local" := rfl
    rw [form, Option.bind_eq_bind, Option.bind_some, if_pos (by decide)]
    refine (bind_slots?_record rfl (by simp)).trans ?_
    dsimp only [List.map]
    simp
  | external specId shortname level urls =>
    have form : formOf? (external specId shortname level urls).toJson = some "external" := rfl
    rw [form, Option.bind_eq_bind, Option.bind_some, if_neg (by decide), if_pos (by decide)]
    refine (bind_slots?_record rfl (by simp)).trans ?_
    dsimp only [List.map]
    simp

end Origin

theorem Candidate.ofJson?_toJson (c : Candidate) {depth : Nat} (shallow : depth ≤ 124) :
    ofJson? depth c.toJson = some c := by
  have origin := c.origin.ofJson?_toJson (Nat.add_le_add_right shallow 1)
  refine (bind_slots?_record rfl (by simp)).trans ?_
  dsimp only [List.map]
  simp [origin]

theorem ResolvedLink.ofJson?_toJson (r : ResolvedLink) : ofJson? r.toJson = some r := by
  have candidate := r.candidate.ofJson?_toJson (by decide : 1 ≤ 124)
  refine (bind_slots?_record rfl (by simp)).trans ?_
  dsimp only [List.map]
  simp [candidate]

theorem SpecInfo.ofJson?_toJson (spec : SpecInfo) : ofJson? spec.toJson = some spec := by
  refine (bind_slots?_record rfl (by simp)).trans ?_
  dsimp only [List.map]
  simp

theorem BiblioEntry.ofJson?_toJson (e : BiblioEntry) : ofJson? e.toJson = some e := by
  refine (bind_slots?_record rfl (by simp)).trans ?_
  dsimp only [List.map]
  simp

theorem DefaultRule.ofJson?_toJson (r : DefaultRule) : ofJson? r.toJson = some r := by
  refine (bind_slots?_record rfl (by simp)).trans ?_
  dsimp only [List.map]
  simp

theorem AnchorRecord.ofJson?_toJson (r : AnchorRecord) : ofJson? r.toJson = some r := by
  refine (bind_slots?_record rfl (by simp)).trans ?_
  dsimp only [List.map]
  simp

theorem Diagnostic.ofJson?_toJson (d : Diagnostic) : ofJson? d.toJson = some d := by
  refine (bind_slots?_record rfl (by simp)).trans ?_
  dsimp only [List.map]
  simp

theorem Heading.ofJson?_toJson (h : Heading) : ofJson? h.toJson = some h := by
  refine (bind_slots?_record rfl (by simp)).trans ?_
  dsimp only [List.map]
  simp

namespace HeadingEntry

theorem isReadable_toJson (entry : HeadingEntry) (room : Nat) :
    entry.toJson.isReadable (room + 2) = true := by
  have heading (h : Heading) : h.toJson.isReadable (room + 1) = true :=
    isReadable_record (by simp [isReadable_option])
  cases entry with
  | pages keys => exact isReadable_list fun key => isReadable_text key (room + 1)
  | statuses current snapshot => exact isReadable_record (by simp [isReadable_option, heading])

/-- Pages are told from headings by their form alone, which no heading shares. -/
theorem ofJson?_toJson (entry : HeadingEntry) {depth : Nat} (shallow : depth ≤ 125) :
    ofJson? depth entry.toJson = some entry := by
  rw [ofJson?.eq_def, if_neg (not_refused entry.isReadable_toJson shallow)]
  cases entry with
  | pages keys =>
    change (do return HeadingEntry.pages (← (list text keys).texts?)) = _
    simp
  | statuses current snapshot =>
    have heading := nullable?_option Heading.ofJson?_toJson fun _ => nofun
    refine (bind_slots?_record rfl (by simp)).trans ?_
    dsimp only [List.map]
    simp [heading]

end HeadingEntry

theorem Config.wellFormed_toJson (c : Config) : c.toJson.WellFormed := by
  have text (s : String) : (Json.text s).WellFormed := .string (some s)
  have pair (p : String × String) : (Json.array [.text p.1, .text p.2]).WellFormed :=
    .array (by simp [text])
  refine wellFormed_record ?_
  simp [text, wellFormed_nat, wellFormed_list text, wellFormed_list pair, WellFormed.bool]

/-- A configuration comes back from the text of its file. -/
theorem Config.parse?_writePretty (c : Config) :
    (Json.parse? c.toJson.writePretty).bind ofJson? = some c := by
  rw [Json.parse?_writePretty c.wellFormed_toJson]
  exact c.ofJson?_toJson

namespace Project

variable {tree saved : FileTree} {root : String} {config : Config}

theorem change_ok {fault : ConfigFault} {step : FileTree → Option FileTree}
    (changed : (change fault step).on tree = (.ok (), saved)) : step tree = some saved := by
  obtain ⟨_, _, same, changed⟩ := Action.on_bind_ok_iff.1 changed
  cases same
  split at changed
  next after stepped => exact stepped.trans (congrArg some (Prod.mk.inj changed).2)
  next => cases changed

/-- A configuration that was saved is found again. -/
theorem loadConfig_of_saveConfig (done : (saveConfig root config).on tree = (.ok (), saved))
    (dataHome : String) : loadConfig saved dataHome root = .ok config := by
  obtain ⟨_, made, -, done⟩ := Action.on_bind_ok_iff.1 done
  obtain ⟨_, drafted, wrote, moved⟩ := Action.on_bind_ok_iff.1 done
  -- What is moved into place is what was written to the draft.
  have read := (FileTree.readText_of_moveFile? (change_ok moved)).trans
    (FileTree.readText_of_writeText? (change_ok wrote))
  simp [loadConfig, FileTree.holds_of_readText read, read, Config.parse?_writePretty]

end Project

/-- All kept and exchanged data is read back from the values it is written as: levels from their
text, sets from arrays, origins by the form they name and entries of headings by their shape. A
saved configuration is the one that is loaded. -/
theorem readsBack_persisted :
    (∀ level : SpecLevel, SpecLevel.parse? level.display = some level) ∧
    ReadsBack SpecLevel.toJson SpecLevel.ofJson? ∧
    ReadsBack Config.toJson Config.ofJson? ∧
    ReadsBack Metadata.toJson Metadata.ofJson? ∧
    ReadsBack Element.toJson Element.ofJson? ∧
    ReadsBack Document.toJson Document.ofJson? ∧
    ReadsBack ResolvedLink.toJson ResolvedLink.ofJson? ∧
    ReadsBack SpecInfo.toJson SpecInfo.ofJson? ∧
    ReadsBack BiblioEntry.toJson BiblioEntry.ofJson? ∧
    ReadsBack DefaultRule.toJson DefaultRule.ofJson? ∧
    ReadsBack AnchorRecord.toJson AnchorRecord.ofJson? ∧
    ReadsBack Diagnostic.toJson Diagnostic.ofJson? ∧
    (∀ depth ≤ 124, ReadsBack Candidate.toJson (Candidate.ofJson? depth)) ∧
    (∀ depth ≤ 125, ReadsBack HeadingEntry.toJson (HeadingEntry.ofJson? depth)) ∧
    ∀ (tree saved : FileTree) (root dataHome : String) (config : Config),
      (Project.saveConfig root config).on tree = (.ok (), saved) →
        Project.loadConfig saved dataHome root = .ok config :=
  ⟨SpecLevel.parse?_display, SpecLevel.ofJson?_toJson, Config.ofJson?_toJson,
    Metadata.ofJson?_toJson, Element.ofJson?_toJson, Document.ofJson?_toJson,
    ResolvedLink.ofJson?_toJson, SpecInfo.ofJson?_toJson, BiblioEntry.ofJson?_toJson,
    DefaultRule.ofJson?_toJson, AnchorRecord.ofJson?_toJson, Diagnostic.ofJson?_toJson,
    fun _ shallow c => c.ofJson?_toJson shallow,
    fun _ shallow entry => entry.ofJson?_toJson shallow,
    fun _ _ _ dataHome _ done => Project.loadConfig_of_saveConfig done dataHome⟩

/-- A new project's configuration is saved below a directory that is made for it, and found there;
the largest level and a list of pages are read back inside a container. -/
theorem readsBack_initial :
    let c : Candidate := {
      text := "box", kind := .dfn, scope := .ofList ["grid", "flex"], exported := true,
      normative := false, origin := .external "css" "css" (some ⟨4294967295, [0]⟩) {} }
    ((Project.saveConfig "site" (.initial "/data")).on {}).1 = .ok () ∧
    Project.loadConfig ((Project.saveConfig "site" (.initial "/data")).on {}).2 "/other" "site" =
      .ok (.initial "/data") ∧
    Candidate.ofJson? 1 c.toJson = some c ∧
    HeadingEntry.ofJson? 1 (HeadingEntry.pages ["/a#b"]).toJson = some (.pages ["/a#b"]) := by
  have stored : ((Project.saveConfig "site" (.initial "/data")).on {}).1 = .ok () := by
    decide +kernel
  have outcome (result : Except Failure Unit × FileTree) (ok : result.1 = .ok ()) :
      result = (.ok (), result.2) := Prod.ext ok rfl
  obtain ⟨-, -, -, -, -, -, -, -, -, -, -, -, candidate, entry, loaded⟩ := readsBack_persisted
  exact ⟨stored, loaded {} _ "site" "/other" (.initial "/data") (outcome _ stored),
    candidate 1 (by decide) _, entry 1 (by decide) _⟩

end SpecLink
