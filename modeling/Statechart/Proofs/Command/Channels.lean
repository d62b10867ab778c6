import Statechart.Proofs.Command.Atomic
import Statechart.Proofs.Command.Styling
import Statechart.Proofs.Command.Unseen

namespace Statechart

namespace Machine

-- The items that a request is about, and what is told while they are read.
def model (machine : Machine) (input : Option String) : Except Failure (List Item) × List Event :=
  match machine.payload input with
  | .error e => (.error (.channel e), [])
  | .ok text => tellItems text

-- The style of a request: its own settings over those of the site that it names.
def styled (machine : Machine) (o : Options) : Except Failure Style :=
  (machine.site o.config).bind fun site =>
    ((o.restyle site).validate.mapError .style).map fun _ => o.restyle site

-- The diagram that a request asks for, before it goes anywhere. It takes a style first and then a model.
def drawn (machine : Machine) (o : Options) : Except Failure Diagram × List Event :=
  match machine.styled o, machine.model o.input with
  | .error failure, _ => (.error failure, [])
  | .ok _, (.error failure, told) => (.error failure, told)
  | .ok style, (.ok items, told) =>
      let diagram := Diagram.ofItems (Style.standard.withSite style) items
      (.ok diagram, told ++ diagram.told)

end Machine

namespace Session

-- Where a document goes.
def deliver (out : Option String) (document : String) : Session (StateM Machine) String :=
  match out with
  | none | some "-" => return document ++ "\n"
  | some path => do
      ask .channel (Host.write path document)
      return ""

variable (o : Options) (events : List Event) (machine : Machine)

theorem play_drawnItems_model :
    (drawnItems o : Session (StateM Machine) (List Item)).play events machine =
      (((machine.model o.input).1, events ++ (machine.model o.input).2), machine) := by
  cases htext : machine.payload o.input with
  | error e =>
      rw [drawnItems, play_bind, play_payloadText, Machine.model, htext]
      simp [Except.mapError]
  | ok text => rw [play_drawnItems o events machine htext, Machine.model, htext]

theorem play_check_model :
    (check o : CommandRun (StateM Machine) String).play events machine =
      ((((machine.model o.input).1.mapError Failure.inCheck).map fun items => printJson o (Health.ofItems items).toJson,
        events ++ (machine.model o.input).2), machine) := by
  rw [check, play_bind, play_checkedItems, play_drawnItems_model]
  cases (machine.model o.input).1 <;> rfl

theorem play_generate_drawn :
    (generate o : Session (StateM Machine) String).play events machine =
      match machine.drawn o with
      | (.error failure, told) => ((.error failure, events ++ told), machine)
      | (.ok diagram, told) => (deliver o.out diagram.render).play (events ++ told) machine := by
  have hstyle : (siteStyle o : Session (StateM Machine) Style).play events machine =
      ((machine.styled o, events), machine) := play_siteStyle_site o events machine
  rw [generate, play_bind, hstyle, Machine.drawn]
  cases machine.styled o with
  | error failure => simp
  | ok style =>
      simp only [play_bind, play_drawnItems_model]
      rcases machine.model o.input with ⟨answer, told⟩
      cases answer with
      | error failure => rfl
      | ok items =>
          dsimp only
          generalize Diagram.ofItems (Style.standard.withSite style) items = diagram
          unfold Diagram.told
          cases diagram.notice? with
          | none =>
              simp only [play_bind, play_tell, Option.toList, List.map_nil, List.nil_append, List.append_assoc]
              rfl
          | some notice =>
              simp only [play_bind, play_tell, Option.toList, List.map_cons, List.map_nil, List.append_assoc]
              rfl

theorem play_deliver_print {out : Option String} (hout : out = none ∨ out = some "-") (document : String) :
    (deliver out document).play events machine = ((.ok (document ++ "\n"), events), machine) := by
  rcases hout with rfl | rfl <;> rfl

theorem play_deliver_file {path : String} (hpath : path ≠ "-") (document : String) :
    (deliver (some path) document).play events machine =
      match machine.write path document.toUTF8 with
      | .ok left => ((.ok "", events), left)
      | .error e => ((.error (.channel e), events), machine) := by
  have hdeliver : deliver (some path) document = ask .channel (Host.write path document) >>= fun _ => pure "" := by
    unfold deliver
    split <;> simp_all
  rw [hdeliver, play_bind, play_ask, run_write]
  cases machine.write path document.toUTF8 <;> rfl

end Session

namespace Machine

variable {machine left : Machine} {path : String} {content : ByteArray}

-- Whether a file can be written does not depend on what is written.
def Writable (machine : Machine) (path : String) : Prop :=
  ∃ content left, machine.write path content = .ok left

theorem Writable.exists_write (h : machine.Writable path) (content : ByteArray) :
    ∃ left, machine.write path content = .ok left := by
  obtain ⟨old, left, hwrite⟩ := h
  rw [write_eq] at hwrite ⊢
  cases hplace : machine.destination path with
  | error e =>
      rw [hplace] at hwrite
      cases hwrite
  | ok place => exact ⟨_, rfl⟩

theorem write_withInput (machine : Machine) (path : String) (content input : ByteArray) :
    { machine with input }.write path content = (machine.write path content).map fun left => { left with input } := by
  rw [write_eq, write_eq, destination_withInput]
  cases machine.destination path <;> rfl

theorem read_of_write (h : machine.write path content = .ok left) : left.read path = .ok content := by
  obtain ⟨place, hlocate, hlook, -⟩ := write_ok h
  rw [read_eq, hlocate]
  simp only [Except.bind, hlook]

theorem site_withInput (machine : Machine) (input : ByteArray) (config : Option String) :
    { machine with input }.site config = machine.site config := by
  cases config <;> rfl

theorem model_withInput {input : Option String} (hinput : input = none ∨ input = some "-") (hpath : path ≠ "-")
    (hread : machine.read path = .ok content) :
    { machine with input := content }.model input = machine.model (some path) := by
  have hpayload : { machine with input := content }.payload input = machine.payload (some path) := by
    rw [payload, if_pos hinput, payload, if_neg (by simpa using hpath), Option.getD_some, hread]
    rfl
  rw [model, hpayload, model]

end Machine

namespace Session

-- A document goes to the same place whatever comes in from outside.
theorem play_deliver_withInput (out : Option String) (document : String) (events : List Event) (machine : Machine)
    (input : ByteArray) :
    (deliver out document).play events { machine with input } =
      let (answer, left) := (deliver out document).play events machine
      (answer, { left with input }) := by
  by_cases hout : out = none ∨ out = some "-"
  · rw [play_deliver_print _ _ hout, play_deliver_print _ _ hout]
  · obtain ⟨path, rfl⟩ := Option.ne_none_iff_exists'.mp (not_or.mp hout).1
    have hpath : path ≠ "-" := fun heq => hout (.inr (congrArg some heq))
    rw [play_deliver_file _ _ hpath, play_deliver_file _ _ hpath, Machine.write_withInput]
    cases machine.write path document.toUTF8 <;> rfl

-- The same bytes have the same answer and the same effect, be they from outside or from a file.
theorem play_ofOptions_file {o : Options} (hcommand : o.command ≠ .merge) (hinput : o.input = none ∨ o.input = some "-")
    {machine : Machine} {path : String} {bytes : ByteArray} (hpath : path ≠ "-")
    (hread : machine.read path = .ok bytes) :
    (ofOptions { o with input := some path } : CommandRun (StateM Machine) String).play [] machine =
      let (answer, left) := (ofOptions o : CommandRun (StateM Machine) String).play [] { machine with input := bytes }
      (answer, { left with input := machine.input }) := by
  have hmodel : { machine with input := bytes }.model o.input = machine.model (some path) :=
    Machine.model_withInput hinput hpath hread
  obtain ⟨command, input, pretty, verbose, color, font, config, out⟩ := o
  cases command with
  | merge => exact absurd rfl hcommand
  | check =>
      simp only [ofOptions, play_check_model, hmodel]
      rfl
  | generate =>
      have hdrawn :
          { machine with input := bytes }.drawn ⟨.generate, input, pretty, verbose, color, font, config, out⟩ =
            machine.drawn ⟨.generate, some path, pretty, verbose, color, font, config, out⟩ := by
        simp only [Machine.drawn, Machine.styled, Machine.site_withInput, hmodel]
        rfl
      simp only [ofOptions, play_request, play_generate_drawn, hdrawn]
      rcases machine.drawn ⟨.generate, some path, pretty, verbose, color, font, config, out⟩ with ⟨answer, told⟩
      cases answer with
      | error failure => rfl
      | ok diagram =>
          have hdeliver : (deliver out diagram.render).play ([] ++ told) machine = _ :=
            play_deliver_withInput out diagram.render ([] ++ told) { machine with input := bytes } machine.input
          dsimp only
          rw [hdeliver]

end Session

-- A run of a command line on a machine: what it leaves to the shell, and the machine that it leaves.
def runOn (machine : Machine) (environment : Option String) (words : List String) : Outcome × Machine :=
  (runCommandLine environment words : StateM Machine Outcome).run machine

-- Runs that differ in what they tell, if at all.
structure SameResult (run other : Outcome × Machine) : Prop where
  status : run.1.status = other.1.status
  output : run.1.output = other.1.output
  machine : run.2 = other.2

-- A threshold only decides what is told.
theorem SameResult.of_answer (threshold other : Threshold) (answer : Except CommandFailure String × List Event)
    (left : Machine) : SameResult (Outcome.ofAnswer threshold answer, left) (Outcome.ofAnswer other answer, left) := by
  obtain ⟨answer, told⟩ := answer
  cases answer <;> exact ⟨rfl, rfl, rfl⟩

section Runs

variable {machine : Machine} {environment : Option String} {words others : List String} {o : Options}

theorem runOn_of_parse (h : Options.parse words = some o) :
    runOn machine environment words =
      let (answer, left) := (Session.ofOptions o : CommandRun (StateM Machine) String).play [] machine
      (Outcome.ofAnswer (Threshold.choose environment o.verbose) answer, left) :=
  run_runCommandLine environment h machine

theorem runOn_of_none (h : Options.parse words = none) :
    runOn machine environment words = (⟨2, "", usage ++ "\n"⟩, machine) :=
  run_runCommandLine_none environment h machine

variable {view : Options → Options}

theorem parse_cases_of_view (h : (Options.parse others).map view = (Options.parse words).map view) :
    Options.parse others = none ∧ Options.parse words = none ∨
      ∃ other o, Options.parse others = some other ∧ Options.parse words = some o ∧ view other = view o := by
  cases hwords : Options.parse words with
  | none => exact .inl ⟨by simpa [hwords] using h, rfl⟩
  | some o =>
      rw [hwords] at h
      obtain ⟨other, hother, hlike⟩ := Option.map_eq_some_iff.mp h
      exact .inr ⟨other, o, hother, rfl, hlike⟩

-- Where a view shows all that a session is about, lines that it shows alike have the same result.
theorem sameResult_of_view (h : (Options.parse others).map view = (Options.parse words).map view)
    (hsession : ∀ o, (Session.ofOptions (view o) : CommandRun (StateM Machine) String) = Session.ofOptions o)
    (other : Option String) :
    SameResult (runOn machine other others) (runOn machine environment words) := by
  rcases parse_cases_of_view h with ⟨hothers, hwords⟩ | ⟨different, o, hothers, hwords, hlike⟩
  · rw [runOn_of_none hothers, runOn_of_none hwords]
    exact ⟨rfl, rfl, rfl⟩
  · rw [runOn_of_parse hothers, runOn_of_parse hwords, ← hsession different, hlike, hsession]
    exact .of_answer _ _ _ _

-- A view may do so for some commands only. If it shows what decides the threshold, too, the runs are the same.
theorem runOn_eq_of_view (about : Command → Prop) (h : (Options.parse others).map view = (Options.parse words).map view)
    (hcommand : ∀ o, (view o).command = o.command) (hverbose : ∀ o, (view o).verbose = o.verbose)
    (hsession : ∀ o : Options, about o.command →
      (Session.ofOptions (view o) : CommandRun (StateM Machine) String) = Session.ofOptions o)
    (ho : Options.parse words = some o ∨ Options.parse others = some o) (habout : about o.command) :
    runOn machine environment others = runOn machine environment words := by
  rcases parse_cases_of_view h with ⟨hothers, hwords⟩ | ⟨different, same, hothers, hwords, hlike⟩
  · rw [runOn_of_none hothers, runOn_of_none hwords]
  · have hequal : different.command = same.command := by rw [← hcommand, hlike, hcommand]
    have hsame : about same.command := by
      rcases ho with ho | ho
      · obtain rfl := Option.some.inj (hwords.symm.trans ho)
        exact habout
      · obtain rfl := Option.some.inj (hothers.symm.trans ho)
        exact hequal ▸ habout
    have hthreshold : different.verbose = same.verbose := by rw [← hverbose, hlike, hverbose]
    rw [runOn_of_parse hothers, runOn_of_parse hwords, ← hsession different (hequal ▸ hsame), hlike,
      hsession same hsame, hthreshold]

theorem runOn_file {filed : List String} {path : String} {bytes : ByteArray} (hwords : Options.parse words = some o)
    (hcommand : o.command ≠ .merge) (hinput : o.input = none ∨ o.input = some "-")
    (hfiled : Options.parse filed = some { o with input := some path }) (hpath : path ≠ "-")
    (hread : machine.read path = .ok bytes) :
    let piped := runOn { machine with input := bytes } environment words
    runOn machine environment filed = (piped.1, { piped.2 with input := machine.input }) := by
  intro piped
  have hpiped : piped = _ := runOn_of_parse hwords
  rw [hpiped, runOn_of_parse hfiled, Session.play_ofOptions_file hcommand hinput hpath hread]

-- What is written to a file is what would be printed, but for the line feed behind it.
theorem runOn_out {filed : List String} {path : String} (hwords : Options.parse words = some o)
    (hcommand : o.command = .generate) (hout : o.out = none ∨ o.out = some "-")
    (hfiled : Options.parse filed = some { o with out := some path }) (hpath : path ≠ "-")
    (hwritable : machine.Writable path) :
    let printed := runOn machine environment words
    let written := runOn machine environment filed
    written.1.status = printed.1.status ∧ written.1.diagnostics = printed.1.diagnostics ∧
      written.1.output = "" ∧ printed.2 = machine ∧
      (printed.1.status ≠ 0 → printed.1.output = "" ∧ written.2 = machine) ∧
      (printed.1.status = 0 → ∃ document, printed.1.output = document ++ "\n" ∧
        machine.write path document.toUTF8 = .ok written.2 ∧ written.2.read path = .ok document.toUTF8) := by
  intro printed written
  have hprinted : printed = _ := runOn_of_parse hwords
  have hwritten : written = _ := runOn_of_parse hfiled
  obtain ⟨command, input, pretty, verbose, color, font, config, out⟩ := o
  obtain rfl : command = .generate := hcommand
  -- where a diagram goes has no part in how it is drawn
  have hdrawn : machine.drawn ⟨.generate, input, pretty, verbose, color, font, config, some path⟩ =
      machine.drawn ⟨.generate, input, pretty, verbose, color, font, config, out⟩ := rfl
  simp only [Session.ofOptions, Session.play_request, Session.play_generate_drawn, hdrawn] at hprinted hwritten
  rcases hanswer : machine.drawn ⟨.generate, input, pretty, verbose, color, font, config, out⟩ with ⟨answer, told⟩
  cases answer with
  | error failure =>
      simp only [hanswer] at hprinted hwritten
      rw [hprinted, hwritten]
      exact ⟨rfl, rfl, rfl, rfl, fun _ => ⟨rfl, rfl⟩, fun h => absurd h (by simp [Outcome.ofAnswer, Except.mapError])⟩
  | ok diagram =>
      obtain ⟨left, hleft⟩ := hwritable.exists_write diagram.render.toUTF8
      simp only [hanswer, Session.play_deliver_print _ _ hout] at hprinted
      simp only [hanswer, Session.play_deliver_file _ _ hpath, hleft] at hwritten
      rw [hprinted, hwritten]
      exact ⟨rfl, rfl, rfl, rfl, fun h => absurd rfl h,
        fun _ => ⟨diagram.render, rfl, hleft, Machine.read_of_write hleft⟩⟩

end Runs

-- A payload may come from outside or from a file, and a document may be printed or go to a file: what a run comes to
-- is the same. How much is told changes nothing else, and a setting or a layout that a command has no use for changes
-- nothing at all.
theorem runOn_transparent (machine : Machine) (environment : Option String) :
    (∀ words filed o path bytes, Options.parse words = some o → o.command ≠ .merge →
        (o.input = none ∨ o.input = some "-") → Options.parse filed = some { o with input := some path } →
        path ≠ "-" → machine.read path = .ok bytes →
        let piped := runOn { machine with input := bytes } environment words
        runOn machine environment filed = (piped.1, { piped.2 with input := machine.input })) ∧
      (∀ words filed o path, Options.parse words = some o → o.command = .generate →
        (o.out = none ∨ o.out = some "-") → Options.parse filed = some { o with out := some path } →
        path ≠ "-" → machine.Writable path →
        let printed := runOn machine environment words
        let written := runOn machine environment filed
        written.1.status = printed.1.status ∧ written.1.diagnostics = printed.1.diagnostics ∧
          written.1.output = "" ∧ printed.2 = machine ∧
          (printed.1.status ≠ 0 → printed.1.output = "" ∧ written.2 = machine) ∧
          (printed.1.status = 0 → ∃ document, printed.1.output = document ++ "\n" ∧
            machine.write path document.toUTF8 = .ok written.2 ∧ written.2.read path = .ok document.toUTF8)) ∧
      (∀ words other, SameResult (runOn machine environment words) (runOn machine other words)) ∧
      ∀ arguments front back, Argument.AllWritten arguments front →
        let plain := runOn machine environment (front ++ back)
        (∀ flag ∈ ["-v", "--verbose"], ∀ other, SameResult (runOn machine other (front ++ flag :: back)) plain) ∧
        (∀ setting value pair o, Argument.Written (.setting setting value) pair →
          (Options.parse (front ++ back) = some o ∨ Options.parse (front ++ (pair ++ back)) = some o) →
          o.command ≠ .generate → runOn machine environment (front ++ (pair ++ back)) = plain) ∧
        ∀ o, (Options.parse (front ++ back) = some o ∨ Options.parse (front ++ "--pretty" :: back) = some o) →
          o.command = .generate → runOn machine environment (front ++ "--pretty" :: back) = plain := by
  refine ⟨fun words filed o path bytes => runOn_file, fun words filed o path => runOn_out, ?_, ?_⟩
  · intro words other
    exact sameResult_of_view rfl Options.ofOptions_without_verbosity environment
  · intro arguments front back hfront plain
    refine ⟨?_, ?_, ?_⟩
    · intro flag hflag other
      have hverbose : Argument.Written .verbose [flag] := by
        simp only [List.mem_cons, List.not_mem_nil, or_false] at hflag
        rcases hflag with rfl | rfl
        · exact .verboseShort
        · exact .verbose
      have hparse := (Options.isView_without .verbosity).map_parse Options.unseen_verbose hfront hverbose back
      exact sameResult_of_view hparse Options.ofOptions_without_verbosity other
    · intro setting value pair o hpair ho hcommand
      have hparse :=
        (Options.isView_without .settings).map_parse (Options.unseen_setting setting value) hfront hpair back
      exact runOn_eq_of_view (· ≠ .generate) hparse (fun _ => rfl) (fun _ => rfl)
        (fun _ => Options.ofOptions_without_settings) ho hcommand
    · intro o ho hcommand
      have hparse := (Options.isView_without .layout).map_parse Options.unseen_pretty hfront .pretty back
      exact runOn_eq_of_view (· = .generate) hparse (fun _ => rfl) (fun _ => rfl)
        (fun _ => Options.ofOptions_without_layout) ho hcommand

-- A machine with a payload in a file; its one entry is no record.
def desk : Machine :=
  ⟨.directory [("m.json", .file "[7]".toUTF8)], [], .empty⟩

theorem runOn_transparent_desk :
    let checked := runOn desk none ["check", "m.json"]
    let drawn := runOn desk none ["m.json"]
    let filed := runOn desk none ["--out", "d.puml", "m.json"]
    let told := runOn desk (some "trace") ["-v", "m.json"]
    desk.read "m.json" = .ok "[7]".toUTF8 ∧ checked.1.status = 0 ∧
      checked.1 = (runOn { desk with input := "[7]".toUTF8 } none ["check"]).1 ∧
      runOn desk none ["check", "--config", "missing.json", "m.json"] = checked ∧
      desk.Writable "d.puml" ∧
      (∃ document, drawn.1.output = document ++ "\n" ∧ filed.2.read "d.puml" = .ok document.toUTF8) ∧
      SameResult told drawn ∧ told.1.diagnostics ≠ drawn.1.diagnostics ∧
      runOn desk none ["--pretty", "m.json"] = drawn := by
  intro checked drawn filed told
  have hread : desk.read "m.json" = .ok "[7]".toUTF8 := rfl
  have hwritable : desk.Writable "d.puml" := ⟨.empty, _, rfl⟩
  have hcheck : Argument.AllWritten [.command .check] ["check"] := .cons .check .nil
  obtain ⟨hfile, hout, -, hinsert⟩ := runOn_transparent desk none
  obtain ⟨-, -, -, -, -, hwritten⟩ :=
    hout ["m.json"] ["--out", "d.puml", "m.json"] _ "d.puml" rfl rfl (.inl rfl) rfl (by decide) hwritable
  obtain ⟨document, hprinted, -, hfiled⟩ := hwritten (by decide +kernel)
  obtain ⟨-, hsetting, -⟩ := hinsert _ _ ["m.json"] hcheck
  obtain ⟨hverbose, -, hpretty⟩ := hinsert _ _ ["m.json"] .nil
  refine ⟨hread, by decide +kernel, ?_, ?_, hwritable, ⟨document, hprinted, hfiled⟩, hverbose "-v" (by decide) _,
    by decide +kernel, hpretty _ (.inl rfl) rfl⟩
  · have hsame : checked = _ := hfile ["check"] _ _ "m.json" _ rfl (by decide) (.inl rfl) rfl (by decide) hread
    rw [hsame]
  · exact hsetting .config "missing.json" _ _ (.config _) (.inl rfl) (by decide)

end Statechart
