import Statechart.Proofs.Command.Play
import Statechart.Proofs.Diagram.Opening
import Statechart.Proofs.Json.ReadBack

namespace Statechart

-- What a command line comes to on a machine that hands it a text.
def outcomeOn (machine : Machine) (text : String) (environment : Option String) (words : List String) : Outcome :=
  ((runCommandLine environment words : StateM Machine Outcome).run { machine with input := text.toUTF8 }).1

-- What a check says about the notice, read back from what it prints.
def Outcome.reported (o : Outcome) : Option Json :=
  (Json.parse o.output).toOption.bind (·.get? "notice")

-- Why a text has no model: it is no document, or not one of an array.
inductive Refused (text : String) : Failure → Prop where
  | syntaxError (reason : Json.SyntaxError) (h : Json.parse text = .error reason) : Refused text (.syntaxError reason)
  | model (payload : Json) (h : Json.parse text = .ok payload) (hne : ∀ entries, payload ≠ .array entries) :
      Refused text (.model ⟨payload.kind⟩)

theorem tellItems_cases (text : String) :
    (∃ failure, Refused text failure ∧ tellItems text = (.error failure, [])) ∨
      ∃ entries, Json.parse text = .ok (.array entries) ∧
        (tellItems text).1 = .ok ((entries.filter Json.isObject).map Payload.item) := by
  unfold tellItems parseJson
  cases hparse : Json.parse text with
  | error reason => exact .inl ⟨_, .syntaxError reason hparse, rfl⟩
  | ok payload =>
      cases payload with
      | array entries => exact .inr ⟨entries, rfl, rfl⟩
      | _ => exact .inl ⟨_, .model _ hparse (by simp), rfl⟩

theorem Health.parse_report (h : Health) : Json.parse (h.toJson.compact ++ "\n") = .ok h.toJson := by
  have hkeys : (Table.keys h.toJson.members).Nodup := by
    simp [toJson, Json.members, Table.keys]
  have hflags : (["hasInitial", "hasInvalidName", "hasMultipleInitialTransitions", "hasDuplicate",
      "hasTransitionFromInitial"] : List String).Nodup := by decide
  have hread : Json.Readable Json.depthLimit h.toJson := by
    unfold toJson at hkeys ⊢
    cases h.firstViolation <;>
      exact ⟨hkeys, ⟨hflags, trivial, trivial, trivial, trivial, trivial, trivial⟩, trivial, trivial⟩
  exact Json.parse_compact hread (by simp [Json.isSpace])

theorem Health.get?_notice (h : Health) :
    h.toJson.get? "notice" = some (h.firstViolation.elim .null fun notice => .string notice.label) := by
  unfold toJson
  cases h.firstViolation <;> rfl

theorem Notice.label_injective {m n : Notice} (h : m.label = n.label) : m = n := by
  revert h
  cases m <;> cases n <;> simp [label]

theorem outcomeOn_check (machine : Machine) (text : String) (environment : Option String) :
    outcomeOn machine text environment ["check"] =
      .ofAnswer (.choose environment false)
        (((tellItems text).1.mapError Failure.inCheck).map fun items => (Health.ofItems items).toJson.compact ++ "\n",
          (tellItems text).2) := by
  have hparse : Options.parse ["check"] = some { command := .check } := by decide
  have htext : ({ machine with input := text.toUTF8 } : Machine).payload none = .ok text := decodeText_toUTF8 text
  have hrun := run_runCommandLine environment hparse { machine with input := text.toUTF8 }
  have hplay := Session.play_check { command := .check } [] _ htext
  exact (congrArg Prod.fst hrun).trans (congrArg (fun run => Outcome.ofAnswer _ run.1) hplay)

theorem outcomeOn_generate (machine : Machine) (text : String) (environment : Option String) :
    outcomeOn machine text environment ["generate"] =
      .ofAnswer (.choose environment false)
        (((tellItems text).1.map fun items => (Diagram.ofItems .standard items).render ++ "\n").mapError .request,
          (tellItems text).2 ++ match (tellItems text).1 with
            | .ok items => (Diagram.ofItems .standard items).told
            | .error _ => []) := by
  have hparse : Options.parse ["generate"] = some {} := by decide
  have htext : ({ machine with input := text.toUTF8 } : Machine).payload none = .ok text := decodeText_toUTF8 text
  have hrun := run_runCommandLine environment hparse { machine with input := text.toUTF8 }
  have hplay := Session.play_generate {} [] _ rfl rfl rfl rfl htext
  have hcommand := Session.play_request (Session.generate {}) [] { machine with input := text.toUTF8 }
  rw [hplay] at hcommand
  exact (congrArg Prod.fst hrun).trans (congrArg (fun run => Outcome.ofAnswer _ run.1) hcommand)

-- A check and a diagram of one text are refused together and with the same words. Where they are
-- not, the check names the notice that is all there is to the document, and names none just when
-- the document is no notice's.
theorem check_agrees_with_generate (machine : Machine) (text : String) (environment : Option String) :
    let checked := outcomeOn machine text environment ["check"]
    let generated := outcomeOn machine text environment ["generate"]
    let document (notice : Notice) := Diagram.header Style.defaultFont ++ notice.note ++ "@enduml" ++ "\n"
    (∃ failure, Refused text failure ∧ generated = checked ∧
        checked = ⟨1, "", Event.report (.choose environment false) [.failed failure.message] ++
          failure.message ++ "\n"⟩) ∨
      ((∃ entries, Json.parse text = .ok (.array entries)) ∧ checked.status = 0 ∧ generated.status = 0 ∧
        (∀ notice, checked.reported = some (.string notice.label) ↔ generated.output = document notice) ∧
        (checked.reported = some .null ↔ ∀ notice, generated.output ≠ document notice)) := by
  intro checked generated document
  have hchecked : checked = _ := outcomeOn_check machine text environment
  have hgenerated : generated = _ := outcomeOn_generate machine text environment
  rcases tellItems_cases text with ⟨failure, hrefused, htold⟩ | ⟨entries, hparse, hitems⟩
  · -- the two failures are of different kinds, but their words are the same
    rw [htold] at hchecked hgenerated
    simp only [Except.mapError, Except.map, Outcome.ofAnswer, Failure.message_inCheck] at hchecked
    exact .inl ⟨failure, hrefused, hgenerated.trans hchecked.symm, hchecked⟩
  · rw [hitems] at hchecked hgenerated
    generalize (entries.filter Json.isObject).map Payload.item = items at hchecked hgenerated
    have hreported : checked.reported =
        some ((Health.ofItems items).firstViolation.elim .null fun notice => .string notice.label) := by
      rw [Outcome.reported, hchecked]
      simp only [Outcome.ofAnswer, Except.mapError, Except.map, Health.parse_report]
      exact Health.get?_notice _
    have houtput (notice : Notice) :
        generated.output = document notice ↔ (Health.ofItems items).firstViolation = some notice := by
      rw [← Diagram.render_eq_notice_iff .standard, hgenerated]
      exact String.append_left_inj "\n"
    refine .inr ⟨⟨entries, hparse⟩, by rw [hchecked]; rfl, by rw [hgenerated]; rfl, ?_, ?_⟩
    · intro notice
      rw [hreported, houtput]
      cases (Health.ofItems items).firstViolation with
      | none => simp
      | some found =>
          constructor
          · intro heq
            have hlabel := Json.string.inj (Option.some.inj heq)
            exact congrArg some (Notice.label_injective hlabel)
          · intro heq
            rw [Option.some.inj heq]
            rfl
    · simp only [ne_eq, houtput, hreported]
      cases (Health.ofItems items).firstViolation with
      | none => simp
      | some found => simp

end Statechart
