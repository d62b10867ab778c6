import Statechart.Proofs.Command.Grammar
import Statechart.Proofs.Command.Play
import Statechart.Proofs.Files.Paths

namespace Statechart

namespace Session

variable {ε α β : Type} {session : Attempt ε (StateM Machine) α} {next : α → Attempt ε (StateM Machine) β}
  {effect : β → Machine → Machine → Prop}

-- A session that does nothing to the machine, whatever it comes to.
def Quiet (session : Attempt ε (StateM Machine) α) : Prop :=
  ∀ events machine, (session.play events machine).2 = machine

-- A session that has an effect when it has an answer, and does nothing to the machine when it fails.
def Atomic (session : Attempt ε (StateM Machine) α) (effect : α → Machine → Machine → Prop) : Prop :=
  ∀ events machine, match session.play events machine with
    | ((.ok a, _), left) => effect a machine left
    | ((.error _, _), left) => left = machine

theorem quiet_pure (a : α) : Quiet (pure a : Attempt ε (StateM Machine) α) := fun _ _ => rfl

theorem quiet_throw (failure : ε) : Quiet (throw failure : Attempt ε (StateM Machine) α) := fun _ _ => rfl

theorem quiet_tell (event : Event) : Quiet (tell event : Attempt ε (StateM Machine) Unit) := fun _ _ => rfl

theorem quiet_settle (answer : Except ε α) : Quiet (settle answer : Attempt ε (StateM Machine) α) := by
  intro events machine
  rw [play_settle]

theorem Quiet.bind (h : Quiet session) (hnext : ∀ a, Quiet (next a)) : Quiet (session >>= next) := by
  intro events machine
  have hsession := h events machine
  rw [play_bind]
  rcases hplay : session.play events machine with ⟨⟨answer, told⟩, left⟩
  rw [hplay] at hsession
  cases answer with
  | error failure => exact hsession
  | ok a => exact (hnext a told left).trans hsession

theorem Quiet.foldlM {γ : Type} {step : α → γ → Attempt ε (StateM Machine) α} (h : ∀ a c, Quiet (step a c)) (a : α)
    (cs : List γ) : Quiet (cs.foldlM step a) := by
  induction cs generalizing a with
  | nil => exact quiet_pure a
  | cons c rest ih => exact (h a c).bind ih

theorem Quiet.atomic (h : Quiet session) : Atomic session fun _ before after => after = before := by
  intro events machine
  have hsession := h events machine
  split <;> simp_all

-- What comes before the last step of a session may fail, but has to be quiet.
theorem Quiet.bind_atomic (h : Quiet session) (hnext : ∀ a, Atomic (next a) effect) :
    Atomic (session >>= next) effect := by
  intro events machine
  have hsession := h events machine
  rw [play_bind]
  rcases hplay : session.play events machine with ⟨⟨answer, told⟩, left⟩
  rw [hplay] at hsession
  obtain rfl : left = machine := hsession
  cases answer with
  | error failure => rfl
  | ok a => exact hnext a told left

-- A request has its effect within a command, too.
theorem Quiet.request {session : Session (StateM Machine) α} (h : Quiet session) :
    Quiet (liftM session : CommandRun (StateM Machine) α) := h

theorem Atomic.request {session : Session (StateM Machine) β} (h : Atomic session effect) :
    Atomic (liftM session : CommandRun (StateM Machine) β) effect := by
  intro events machine
  have hsession := h events machine
  rw [play_request]
  rcases hplay : session.play events machine with ⟨⟨answer, told⟩, left⟩
  rw [hplay] at hsession
  cases answer <;> exact hsession

-- Whatever is asked of a machine, it stays as it is unless it is to write.
theorem quiet_readText (fail : FileError → ε) (path : String) :
    Quiet (askText fail (Host.read path) : Attempt ε (StateM Machine) String) := by
  intro events machine
  rw [play_askText]
  rfl

theorem quiet_list (fail : FileError → ε) (path : String) :
    Quiet (ask fail (Host.list path) : Attempt ε (StateM Machine) _) := by
  intro events machine
  rw [play_ask]
  rfl

theorem quiet_drawnItems (o : Options) : Quiet (drawnItems o : Session (StateM Machine) (List Item)) := by
  refine Quiet.bind (fun events machine => by rw [play_payloadText]) fun text => ?_
  exact (quiet_settle _).bind fun payload => fun events machine => by rw [play_readPayload]

theorem quiet_checkedItems (o : Options) : Quiet (checkedItems o : CommandRun (StateM Machine) (List Item)) := by
  intro events machine
  rw [play_checkedItems]
  exact quiet_drawnItems o events machine

theorem quiet_siteStyle (o : Options) : Quiet (siteStyle o : Session (StateM Machine) Style) := by
  have hrest (site : Style) : Quiet (do
      settle ((o.restyle site).validate.mapError .style)
      return o.restyle site : Session (StateM Machine) Style) :=
    (quiet_settle _).bind fun _ => quiet_pure _
  unfold siteStyle
  cases o.config with
  | none => exact (quiet_pure _).bind hrest
  | some path => exact (quiet_readText _ path).bind fun _ => (quiet_settle _).bind hrest

theorem quiet_check (o : Options) : Quiet (check o : CommandRun (StateM Machine) String) :=
  (quiet_checkedItems o).bind fun _ => quiet_pure _

theorem quiet_addTask (root : String) (merged : Json.Members) (task : String) :
    Quiet (Tasks.addTask root merged task : Session (StateM Machine) Json.Members) := by
  refine Quiet.bind ((quiet_list _ _).bind fun _ => quiet_pure _) fun found => ?_
  split
  · exact (((quiet_readText _ _).bind fun _ => quiet_settle _).bind fun _ => quiet_pure _)
  · exact (quiet_tell _).bind fun _ => quiet_pure _

theorem quiet_tasks (root : String) : Quiet (Tasks.merge root : Session (StateM Machine) Json) := by
  refine Quiet.bind ((quiet_list _ _).bind fun _ => quiet_pure _) fun names => ?_
  exact (Quiet.foldlM (quiet_addTask _) _ _).bind fun _ => quiet_pure _

theorem quiet_merge (o : Options) : Quiet (merge o : CommandRun (StateM Machine) String) := by
  unfold merge
  cases o.input with
  | none => exact quiet_throw _
  | some directory => exact (quiet_tasks directory).request.bind fun _ => quiet_pure _

theorem run_write (path text : String) (machine : Machine) :
    (Host.write path text : StateM Machine (Except FileError Unit)).run machine =
      match machine.write path text.toUTF8 with
      | .ok left => (.ok (), left)
      | .error e => (.error e, machine) := by
  unfold Host.write
  simp only [instHostStateMMachine, StateT.run_bind, StateT.run_get, pure_bind]
  cases machine.write path text.toUTF8 <;> rfl

-- What a run does that has an answer: with a file to write it prints nothing and writes a document there,
-- without one it leaves the machine as it is.
def Delivers (target : Option String) (output : String) (before after : Machine) : Prop :=
  match target with
  | none => after = before
  | some path => output = "" ∧ ∃ document : String, before.write path document.toUTF8 = .ok after

theorem atomic_deliver (out : Option String) (document : String) :
    Atomic (match out with
      | none | some "-" => return document ++ "\n"
      | some path => do
          ask .channel (Host.write path document)
          return "" : Session (StateM Machine) String)
      (Delivers (out.filter (· ≠ "-"))) := by
  split
  · exact (quiet_pure _).atomic
  · exact (quiet_pure _).atomic
  · rename_i path hpath
    have hfile : (some path).filter (· ≠ "-") = some path := by simpa using hpath
    intro events machine
    rw [hfile, play_bind, play_ask, run_write]
    cases hwrite : machine.write path document.toUTF8 with
    | error e => rfl
    | ok left => exact ⟨rfl, document, hwrite⟩

theorem atomic_generate (o : Options) :
    Atomic (generate o : Session (StateM Machine) String) (Delivers (o.out.filter (· ≠ "-"))) := by
  refine (quiet_siteStyle o).bind_atomic fun style => (quiet_drawnItems o).bind_atomic fun items => ?_
  have hdeliver (document : String) :=
    (quiet_tell (.generated document.utf8ByteSize)).bind_atomic fun _ => atomic_deliver o.out document
  dsimp only
  cases (Diagram.ofItems (Style.standard.withSite style) items).notice? with
  | none => exact hdeliver _
  | some notice => exact (quiet_tell _).bind_atomic fun _ => hdeliver _

end Session

-- The file that a request writes.
def Options.target? (o : Options) : Option String :=
  if o.command = .generate then o.out.filter (· ≠ "-") else none

theorem Session.atomic_ofOptions (o : Options) :
    Atomic (ofOptions o : CommandRun (StateM Machine) String) (Delivers o.target?) := by
  unfold ofOptions Options.target?
  cases o.command with
  | generate => exact (atomic_generate o).request
  | check => exact (quiet_check o).atomic
  | merge => exact (quiet_merge o).atomic

theorem run_runCommandLine_none (environment : Option String) {words : List String} (h : Options.parse words = none)
    (machine : Machine) :
    (runCommandLine environment words : StateM Machine Outcome).run machine = (⟨2, "", usage ++ "\n"⟩, machine) := by
  unfold runCommandLine
  rw [h]
  rfl

-- A merge on a command line has a directory, and that is what is merged.
theorem exists_directory_of_parse {words : List String} {o : Options} (h : Options.parse words = some o)
    (hmerge : o.command = .merge) :
    ∃ directory, o.input = some directory ∧ directory ≠ "-" ∧
      Session.ofOptions o = (do
        let merged ← (Tasks.merge directory : Session (StateM Machine) Json)
        return Session.printJson o merged : CommandRun (StateM Machine) String) := by
  have hcomplete := (Option.filter_eq_some_iff.mp h).2
  rw [Options.isComplete, hmerge] at hcomplete
  cases hinput : o.input with
  | none => simp [hinput] at hcomplete
  | some directory =>
      refine ⟨directory, rfl, by simpa [hinput] using hcomplete, ?_⟩
      rw [Session.ofOptions, hmerge]
      simp only [Session.merge, hinput]

-- The run of what a command line asks for has no need to tell how it is used.
theorem play_ofOptions_ne_usage {words : List String} {o : Options} (h : Options.parse words = some o)
    (events : List Event) (machine : Machine) :
    ((Session.ofOptions o : CommandRun (StateM Machine) String).play events machine).1.1 ≠ .error .usage := by
  cases hcommand : o.command with
  | generate =>
      rw [Session.ofOptions, hcommand, Session.play_request]
      cases ((Session.generate o).play events machine).1.1 <;> simp [Except.mapError]
  | check =>
      rw [Session.ofOptions, hcommand, Session.check, Session.play_bind, Session.play_checkedItems]
      rcases (Session.drawnItems o).play events machine with ⟨⟨answer, told⟩, left⟩
      cases answer with
      | ok items => simp [Except.mapError]
      | error failure => cases failure <;> simp [Except.mapError, Failure.inCheck]
  | merge =>
      obtain ⟨directory, -, -, hmerge⟩ := exists_directory_of_parse h hcommand
      rw [hmerge, Session.play_bind, Session.play_request]
      cases ((Tasks.merge directory).play events machine).1.1 <;> simp [Except.mapError]

-- A command line that is refused prints how it is used, on any machine; any other ends well or fails, and it never
-- fails for the way it is used. A run that does not end well prints nothing and leaves the machine as it was. One
-- that does leaves it so, too, but for the file that a diagram is written to: that file is there, all else is as it
-- was, and nothing is printed.
theorem runCommandLine_atomic (environment : Option String) (words : List String) (machine : Machine) :
    let run := (runCommandLine environment words : StateM Machine Outcome).run machine
    let outcome := run.1
    let left := run.2
    (outcome.status = 2 ↔ Options.parse words = none) ∧
      (Options.parse words = none → ∀ other,
        (runCommandLine environment words : StateM Machine Outcome).run other = (⟨2, "", usage ++ "\n"⟩, other)) ∧
      (outcome.status ≠ 0 → outcome.output = "" ∧ left = machine) ∧
      ∀ o, Options.parse words = some o →
        (outcome.status = 0 ∨ outcome.status = 1) ∧
        (o.command = .merge → ∃ directory, o.input = some directory ∧ directory ≠ "-" ∧
          Session.ofOptions o = (do
            let merged ← (Tasks.merge directory : Session (StateM Machine) Json)
            return Session.printJson o merged : CommandRun (StateM Machine) String)) ∧
        (∀ other, ((Session.ofOptions o : CommandRun (StateM Machine) String).play [] other).1.1 ≠ .error .usage) ∧
        (outcome.status = 0 → o.target? = none → left = machine) ∧
        ∀ path, outcome.status = 0 → o.target? = some path →
          outcome.output = "" ∧ ∃ place, ∃ document : String,
            left.locate path = .ok place ∧ left.root.look place = some (.file document.toUTF8) ∧
            (∀ other, other ≠ place → left.root.look other = machine.root.look other) ∧
            left.cwd = machine.cwd ∧ left.input = machine.input := by
  intro run outcome left
  cases hparse : Options.parse words with
  | none =>
      have hrun : run = _ := run_runCommandLine_none environment hparse machine
      have hrefused (other : Machine) := run_runCommandLine_none environment hparse other
      simp only [outcome, left, hrun]
      exact ⟨by simp, fun _ => hrefused, fun _ => ⟨trivial, trivial⟩, by simp⟩
  | some o =>
      have hrun : run = _ := run_runCommandLine environment hparse machine
      have hatomic := Session.atomic_ofOptions o [] machine
      rcases hplay : (Session.ofOptions o : CommandRun (StateM Machine) String).play [] machine
        with ⟨⟨answer, told⟩, after⟩
      rw [hplay] at hrun hatomic
      have hdirectory := exists_directory_of_parse hparse
      have husage := play_ofOptions_ne_usage hparse []
      cases answer with
      | error failure =>
          have hafter : after = machine := hatomic
          simp only [outcome, left, hrun, Outcome.ofAnswer, hafter]
          refine ⟨by simp, by simp, fun _ => ⟨trivial, trivial⟩, ?_⟩
          rintro _ ⟨rfl⟩
          exact ⟨.inr trivial, hdirectory, husage, by simp, by simp⟩
      | ok output =>
          simp only [outcome, left, hrun, Outcome.ofAnswer]
          refine ⟨by simp, by simp, by simp, ?_⟩
          rintro _ ⟨rfl⟩
          refine ⟨.inl trivial, hdirectory, husage, fun _ hnone => ?_, fun path _ hpath => ?_⟩
          · simpa only [Session.Delivers, hnone] using hatomic
          · simp only [Session.Delivers, hpath] at hatomic
            obtain ⟨hempty, document, hwrite⟩ := hatomic
            obtain ⟨place, hplace⟩ := Machine.write_ok hwrite
            exact ⟨hempty, place, document, hplace⟩

end Statechart
