import SpecLink.Messages
import SpecLink.Proofs.Grouping
import SpecLink.Proofs.Text.Decimal

/-!
# What is shown of the reports

Reports are told apart by their severity and their wording, and the wording is the text with the line
before it. So one text at two lines is shown twice, and a text that begins like a line counts as the
rest of it at that line. Main statement: `news_of_reports`.
-/
namespace SpecLink

namespace Diagnostic

/-- The report names no line, and its text is that of the other one with its line before it. -/
def Mimics (d e : Diagnostic) : Prop :=
  d.line = none ∧ ∃ n : UInt32, e.line = some n ∧ d.text = "LINE " ++ n.toNat.repr ++ ": " ++ e.text

variable {d e : Diagnostic}

theorem toList_wording_of_line {n : UInt32} (line : d.line = some n) :
    d.wording.toList = "LINE ".toList ++ (Nat.toDigits 10 n.toNat ++ ':' :: ' ' :: d.text.toList) := by
  simp [wording, line, toString]

theorem wording_of_no_line (line : d.line = none) : d.wording = d.text := by
  simp [wording, line]

/-- Two reports read alike if they say the same of the same line, or if one mimics the other. -/
theorem wording_eq_iff :
    d.wording = e.wording ↔ (d.text = e.text ∧ d.line = e.line) ∨ d.Mimics e ∨ e.Mimics d := by
  -- A line on one side only has to be matched by the text of the other side.
  have mixed {d e : Diagnostic} {n : UInt32} (here : d.line = none) (there : e.line = some n) :
      d.wording = e.wording ↔ d.Mimics e := by
    have marked : e.wording = "LINE " ++ n.toNat.repr ++ ": " ++ e.text := by
      simp [wording, there, toString]
    simp [wording_of_no_line here, marked, Mimics, here, there]
  cases here : d.line with
  | none =>
    cases there : e.line with
    | none => simp [wording_of_no_line, here, there, Mimics]
    | some m =>
      rw [mixed here there]
      simp [Mimics, here, there]
  | some n =>
    cases there : e.line with
    | none =>
      rw [eq_comm, mixed there here]
      simp [Mimics, here, there]
    | some m =>
      simp only [Mimics, here, there, reduceCtorEq, false_and, or_false, Option.some.injEq]
      constructor
      · intro same
        have chars := congrArg String.toList same
        rw [toList_wording_of_line here, toList_wording_of_line there] at chars
        obtain ⟨numbers, texts⟩ :=
          Text.toDigits_append_inj (by decide) (List.append_cancel_left chars)
        exact ⟨String.toList_inj.1 (List.cons.inj texts).2, UInt32.toNat_inj.1 numbers⟩
      · rintro ⟨texts, rfl⟩
        simp [wording, here, there, texts]

theorem key_eq_iff : d.key = e.key ↔ d.severity = e.severity ∧ d.wording = e.wording := by
  constructor
  · intro same
    -- The names of severities begin with different letters.
    have initial (s t : Severity) (like : s.name.toList.head? = t.name.toList.head?) : s = t := by
      cases s <;> cases t <;> first | rfl | exact absurd like (by decide)
    have head (d : Diagnostic) : d.key.toList.head? = d.severity.name.toList.head? := by
      cases named : d.severity <;> simp [key, named, Severity.name]
    have severities := initial _ _ ((head d).symm.trans (same ▸ head e))
    refine ⟨severities, ?_⟩
    rw [key, key, severities] at same
    exact (String.append_right_inj _).1 same
  · rintro ⟨severities, wordings⟩
    rw [key, key, severities, wordings]

end Diagnostic

namespace MessageLog

open Diagnostic

variable {log : MessageLog} {d : Diagnostic}

theorem isNews_iff : log.isNews d = true ↔ ∀ e ∈ log.diagnostics, e.key ≠ d.key := by
  have shown : (∃ e ∈ log.diagnostics, e.key = d.key) ↔ ∃ e ∈ log.reports, e.key = d.key :=
    Grouping.exists_firstOfEach_iff
  simp only [isNews, List.all_eq_true, bne_iff_ne, ne_eq]
  simpa using not_congr shown.symm

/-- A further report is shown behind the others if it is news, and not at all otherwise. -/
theorem diagnostics_report (log : MessageLog) (d : Diagnostic) :
    (log.report d).diagnostics =
      if log.isNews d then log.diagnostics ++ [d] else log.diagnostics := by
  have news : log.isNews d = true ↔ ¬∃ e ∈ log.reports, e.key = d.key := by simp [isNews]
  simp only [diagnostics, report, Grouping.firstOfEach_concat]
  by_cases seen : ∃ e ∈ log.reports, e.key = d.key
  · rw [if_pos seen, if_neg (mt news.1 (not_not_intro seen))]
  · rw [if_neg seen, if_pos (news.2 seen)]

/-- A report counts for giving up whether or not it is shown: one of its severity has been shown. -/
theorem shouldAbort_report (log : MessageLog) (d : Diagnostic) :
    (log.report d).shouldAbort = (log.shouldAbort || log.abortLevel.triggers d.severity) := by
  have level : (log.report d).abortLevel = log.abortLevel := rfl
  rw [shouldAbort, shouldAbort, diagnostics_report, level]
  split
  next => simp
  next old =>
    obtain ⟨e, shown, same⟩ : ∃ e ∈ log.diagnostics, e.key = d.key := by
      simpa using mt isNews_iff.2 old
    have severities := (key_eq_iff.1 same).1
    cases severe : log.abortLevel.triggers d.severity with
    | false => simp
    | true =>
      have given : log.diagnostics.any (fun e => log.abortLevel.triggers e.severity) = true :=
        List.any_eq_true.2 ⟨e, shown, by rw [severities, severe]⟩
      rw [given, Bool.or_true]

theorem shouldAbort_foldl (reports : List Diagnostic) (log : MessageLog) :
    (reports.foldl report log).shouldAbort =
      (log.shouldAbort || reports.any fun d => log.abortLevel.triggers d.severity) := by
  induction reports generalizing log with
  | nil => simp
  | cons d rest ih =>
    have level : (log.report d).abortLevel = log.abortLevel := rfl
    rw [List.foldl_cons, ih, shouldAbort_report, level, List.any_cons, Bool.or_assoc]

/-- After any reports, a further one is shown unless one of its severity has been shown with the same
text and line, or with a text that reads like the line and text of the other. The build is given up
as soon as any report, shown or not, is severe enough. -/
theorem news_of_reports (level : AbortLevel) (reports : List Diagnostic) (d : Diagnostic) :
    let log := reports.foldl report { abortLevel := level }
    (log.isNews d = true ↔ ∀ e ∈ log.diagnostics, e.severity = d.severity →
      ¬(e.text = d.text ∧ e.line = d.line) ∧ ¬e.Mimics d ∧ ¬d.Mimics e) ∧
    (log.report d).diagnostics =
      (if log.isNews d then log.diagnostics ++ [d] else log.diagnostics) ∧
    (log.shouldAbort = true ↔ ∃ e ∈ reports, level.triggers e.severity = true) := by
  intro log
  refine ⟨?_, diagnostics_report log d, ?_⟩
  · simp only [isNews_iff, ne_eq, key_eq_iff, wording_eq_iff, not_and, not_or]
  · have silent : ({ abortLevel := level } : MessageLog).shouldAbort = false := rfl
    rw [shouldAbort_foldl, silent, Bool.false_or, List.any_eq_true]

/-- A text that has been shown is shown again at another line, and one that has not been shown is not
shown if it reads like a line and a text that have. -/
theorem shown_by_line :
    let log := [⟨.warning, "foo", some 1⟩].foldl report { abortLevel := .nothing }
    let later : Diagnostic := ⟨.warning, "foo", some 2⟩
    let literal : Diagnostic := ⟨.warning, "LINE 1: foo", none⟩
    (log.isNews later = true ∧
      ∃ e ∈ log.diagnostics, e.severity = later.severity ∧ e.text = later.text) ∧
    (log.isNews literal = false ∧
      ¬∃ e ∈ log.diagnostics, e.severity = literal.severity ∧ e.text = literal.text) := by
  decide

end MessageLog

end SpecLink
