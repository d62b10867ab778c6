import Statechart.Command.Run

namespace Statechart

-- A run on a machine as a value: its answer, what it has told, and the machine it leaves behind.
def Attempt.play {ε α : Type} (session : Attempt ε (StateM Machine) α) (events : List Event) (machine : Machine) :
    (Except ε α × List Event) × Machine :=
  (session.run.run events).run machine

namespace Session

variable {ε α β : Type}

@[simp] theorem play_pure (a : α) (events : List Event) (machine : Machine) :
    (pure a : Attempt ε (StateM Machine) α).play events machine = ((.ok a, events), machine) := rfl

theorem play_bind (session : Attempt ε (StateM Machine) α) (next : α → Attempt ε (StateM Machine) β)
    (events : List Event) (machine : Machine) :
    (session >>= next).play events machine =
      match session.play events machine with
      | ((.ok a, told), left) => (next a).play told left
      | ((.error failure, told), left) => ((.error failure, told), left) := by
  rcases hplay : session.play events machine with ⟨⟨answer, told⟩, left⟩
  unfold Attempt.play at hplay ⊢
  simp only [ExceptT.run_bind, StateT.run_bind, hplay]
  cases answer <;> rfl

@[simp] theorem play_tell (event : Event) (events : List Event) (machine : Machine) :
    (tell event : Attempt ε (StateM Machine) Unit).play events machine = ((.ok (), events ++ [event]), machine) := rfl

@[simp] theorem play_settle (answer : Except ε α) (events : List Event) (machine : Machine) :
    (settle answer : Attempt ε (StateM Machine) α).play events machine = ((answer, events), machine) := by
  cases answer <;> rfl

theorem play_lift (answer : StateM Machine α) (events : List Event) (machine : Machine) :
    (liftM answer : Attempt ε (StateM Machine) α).play events machine =
      ((.ok (answer.run machine).1, events), (answer.run machine).2) := rfl

-- A request that a command makes has the effect that it has by itself.
theorem play_request (session : Session (StateM Machine) α) (events : List Event) (machine : Machine) :
    (liftM session : CommandRun (StateM Machine) α).play events machine =
      (((session.play events machine).1.1.mapError .request, (session.play events machine).1.2),
        (session.play events machine).2) := rfl

theorem play_ask (fail : FileError → ε) (answer : StateM Machine (Except FileError α))
    (events : List Event) (machine : Machine) :
    (ask fail answer : Attempt ε (StateM Machine) α).play events machine =
      (((answer.run machine).1.mapError fail, events), (answer.run machine).2) := by
  rw [ask, play_bind, play_lift]
  cases (answer.run machine).1 <;> rfl

theorem play_askText (fail : FileError → ε) (answer : StateM Machine (Except FileError ByteArray))
    (events : List Event) (machine : Machine) :
    (askText fail answer : Attempt ε (StateM Machine) String).play events machine =
      ((((answer.run machine).1.bind decodeText).mapError fail, events), (answer.run machine).2) := by
  rw [askText, play_bind, play_ask]
  cases (answer.run machine).1 with
  | ok bytes => exact play_settle _ _ _
  | error e => rfl

theorem play_forM_tell (entries : List α) (event : α → Event) (events : List Event) (machine : Machine) :
    (entries.forM fun entry => (tell (event entry) : Attempt ε (StateM Machine) Unit)).play events machine =
      ((.ok (), events ++ entries.map event), machine) := by
  induction entries generalizing events with
  | nil => simp [List.forM]
  | cons entry rest ih =>
      rw [List.forM, play_bind, play_tell]
      exact (ih _).trans (by rw [List.map_cons, List.append_assoc]; rfl)

end Session

theorem decodeText_toUTF8 (text : String) : decodeText text.toUTF8 = .ok text := by
  rw [String.toUTF8_eq_toByteArray, decodeText, String.fromUTF8?, dif_pos text.isValidUTF8]
  rfl

-- The text of a payload, be it from outside or from a file.
def Machine.payload (machine : Machine) (input : Option String) : Except FileError String :=
  if input = none ∨ input = some "-" then decodeText machine.input
  else (machine.read (input.getD "")).bind decodeText

-- The items that a payload's text holds, and what is told while they are read.
def tellItems (text : String) : Except Failure (List Item) × List Event :=
  match parseJson text with
  | .error failure => (.error failure, [])
  | .ok payload =>
      (readItems payload, (Payload.skipped payload).map fun (index, kind) => .skippedEntry index kind)

-- What a failure is to a check, which finds by itself that a text is no document.
def Failure.inCheck : Failure → CommandFailure
  | .syntaxError reason => .syntaxError reason
  | failure => .request failure

theorem Failure.message_inCheck (failure : Failure) : failure.inCheck.message = failure.message := by
  cases failure <;> rfl

-- What is told about a diagram when it is printed.
def Diagram.told (d : Diagram) : List Event :=
  d.notice?.toList.map .rejected ++ [.generated d.render.utf8ByteSize]

namespace Session

theorem play_payloadText (o : Options) (events : List Event) (machine : Machine) :
    (payloadText o : Session (StateM Machine) String).play events machine =
      (((machine.payload o.input).mapError .channel, events), machine) := by
  unfold payloadText
  split
  · rename_i hinput
    rw [Machine.payload, if_pos (.inl hinput)]
    exact play_askText _ _ _ _
  · rename_i hinput
    rw [Machine.payload, if_pos (.inr hinput)]
    exact play_askText _ _ _ _
  · rename_i path hpath hinput
    have hfile : ¬(o.input = none ∨ o.input = some "-") := by
      rw [hinput]
      simpa using hpath
    rw [Machine.payload, if_neg hfile, hinput]
    exact play_askText _ _ _ _

theorem play_payloadText_of_ok (o : Options) (events : List Event) (machine : Machine) {text : String}
    (htext : machine.payload o.input = .ok text) :
    (payloadText o : Session (StateM Machine) String).play events machine = ((.ok text, events), machine) := by
  rw [play_payloadText, htext]
  rfl

theorem play_readPayload (payload : Json) (events : List Event) (machine : Machine) :
    (readPayload payload : Session (StateM Machine) (List Item)).play events machine =
      ((readItems payload, events ++ (Payload.skipped payload).map fun (index, kind) => .skippedEntry index kind),
        machine) := by
  rw [readPayload, play_bind, play_forM_tell]
  exact play_settle _ _ _

theorem play_drawnItems (o : Options) (events : List Event) (machine : Machine) {text : String}
    (htext : machine.payload o.input = .ok text) :
    (drawnItems o : Session (StateM Machine) (List Item)).play events machine =
      (((tellItems text).1, events ++ (tellItems text).2), machine) := by
  rw [drawnItems, play_bind, play_payloadText_of_ok o events machine htext]
  simp only [play_bind, play_settle, tellItems]
  cases parseJson text with
  | error failure => simp
  | ok payload => exact play_readPayload payload events machine

-- Once there is a document, a reading fails for nothing that a check finds by itself.
theorem play_request_readPayload (payload : Json) (events : List Event) (machine : Machine) :
    (liftM (readPayload payload : Session (StateM Machine) _) : CommandRun (StateM Machine) _).play events machine =
      let ((answer, told), left) := (readPayload payload : Session (StateM Machine) _).play events machine
      ((answer.mapError Failure.inCheck, told), left) := by
  have hitems : (readItems payload).mapError CommandFailure.request = (readItems payload).mapError Failure.inCheck := by
    unfold readItems
    cases Payload.read payload <;> rfl
  rw [play_request, play_readPayload, hitems]

-- A check and a diagram read a payload in two ways, with failures of two kinds. They come to the same items and
-- tell the same, and what is a failure to one of them is the like failure to the other.
theorem play_checkedItems (o : Options) (events : List Event) (machine : Machine) :
    (checkedItems o : CommandRun (StateM Machine) (List Item)).play events machine =
      let ((answer, told), left) := (drawnItems o : Session (StateM Machine) (List Item)).play events machine
      ((answer.mapError Failure.inCheck, told), left) := by
  rw [checkedItems, drawnItems, play_bind, play_bind, play_request, play_payloadText]
  cases machine.payload o.input with
  | error e => rfl
  | ok text =>
      show (settle ((Json.parse text).mapError .syntaxError) >>= fun payload =>
          liftM (readPayload payload : Session (StateM Machine) _) : CommandRun (StateM Machine) _).play events machine =
        let ((answer, told), left) :=
          (settle (parseJson text) >>= readPayload : Session (StateM Machine) _).play events machine
        ((answer.mapError Failure.inCheck, told), left)
      rw [play_bind, play_bind, play_settle, play_settle, parseJson]
      cases Json.parse text with
      | error reason => rfl
      | ok payload => exact play_request_readPayload payload events machine

theorem play_siteStyle (o : Options) (events : List Event) (machine : Machine) (hconfig : o.config = none) :
    (siteStyle o : Session (StateM Machine) Style).play events machine =
      ((((o.restyle .empty).validate.mapError .style).map fun _ => o.restyle .empty, events), machine) := by
  simp only [siteStyle, hconfig, play_bind, play_pure, play_settle]
  cases (o.restyle .empty).validate <;> rfl

theorem play_check (o : Options) (events : List Event) (machine : Machine) {text : String}
    (htext : machine.payload o.input = .ok text) :
    (check o : CommandRun (StateM Machine) String).play events machine =
      ((((tellItems text).1.mapError Failure.inCheck).map fun items => printJson o (Health.ofItems items).toJson,
        events ++ (tellItems text).2), machine) := by
  rw [check, play_bind, play_checkedItems, play_drawnItems o events machine htext]
  cases (tellItems text).1 <;> rfl

theorem play_siteStyle_plain (o : Options) (events : List Event) (machine : Machine)
    (hcolor : o.color = none) (hfont : o.font = none) (hconfig : o.config = none) :
    (siteStyle o : Session (StateM Machine) Style).play events machine = ((.ok .empty, events), machine) := by
  have hstyle : o.restyle .empty = .empty := by simp only [Options.restyle, hcolor, hfont]
  rw [play_siteStyle o events machine hconfig, hstyle]
  rfl

theorem withSite_empty : Style.standard.withSite .empty = .standard := rfl

-- With no option that asks for a style or a file, a diagram is printed in the standard style.
theorem play_generate (o : Options) (events : List Event) (machine : Machine) {text : String}
    (hcolor : o.color = none) (hfont : o.font = none) (hconfig : o.config = none) (hout : o.out = none)
    (htext : machine.payload o.input = .ok text) :
    (generate o : Session (StateM Machine) String).play events machine =
      (((tellItems text).1.map fun items => (Diagram.ofItems .standard items).render ++ "\n",
        events ++ (tellItems text).2 ++ match (tellItems text).1 with
          | .ok items => (Diagram.ofItems .standard items).told
          | .error _ => []), machine) := by
  rw [generate, play_bind, play_siteStyle_plain o events machine hcolor hfont hconfig]
  simp only [play_bind, play_drawnItems o events machine htext]
  cases (tellItems text).1 with
  | error failure => simp [Except.map]
  | ok items =>
      rw [withSite_empty, hout]
      simp only [Diagram.told]
      cases (Diagram.ofItems .standard items).notice? with
      | none =>
          simp only [play_bind, play_tell, play_pure, Option.toList, List.map_nil, List.nil_append, Except.map]
      | some notice =>
          simp only [play_bind, play_tell, play_pure, Option.toList, List.map_cons, List.map_nil,
            List.append_assoc, Except.map]

end Session

-- What a run comes to, once its events are reported.
def Outcome.ofAnswer (threshold : Threshold) : Except CommandFailure String × List Event → Outcome
  | (.ok output, events) => ⟨0, output, Event.report threshold events⟩
  | (.error failure, events) =>
      ⟨1, "", Event.report threshold (events ++ [.failed failure.message]) ++ failure.message ++ "\n"⟩

theorem run_runCommandLine (environment : Option String) {words : List String} {o : Options}
    (h : Options.parse words = some o) (machine : Machine) :
    (runCommandLine environment words : StateM Machine Outcome).run machine =
      let (answer, left) := (Session.ofOptions o : CommandRun (StateM Machine) String).play [] machine
      (Outcome.ofAnswer (Threshold.choose environment o.verbose) answer, left) := by
  rcases hplay : (Session.ofOptions o : CommandRun (StateM Machine) String).play [] machine
    with ⟨⟨answer, told⟩, left⟩
  unfold runCommandLine
  rw [h]
  unfold Attempt.play at hplay
  simp only [StateT.run_bind, hplay]
  cases answer <;> rfl

end Statechart
