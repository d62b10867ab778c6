import Statechart.Command.Run
import Statechart.Proofs.Command.Grammar

namespace Statechart.Options

-- Options of which something is left out are a view of them if it takes no part in how they are read: an argument
-- is taken, and options are complete, with it or without.
structure IsView (view : Options → Options) : Prop where
  map_take? (o : Options) (argument : Argument) : ((view o).take? argument).map view = (o.take? argument).map view
  isComplete_eq (o : Options) : (view o).isComplete = o.isComplete

-- An argument that adds nothing to what a view shows.
def Unseen (view : Options → Options) (argument : Argument) : Prop :=
  ∀ o : Options, (o.take? argument).map view = some (view o)

-- What a session may have no use for: how much is told, the settings, the layout of a JSON text.
inductive Part where
  | verbosity
  | settings
  | layout

def without (part : Part) (o : Options) : Options :=
  match part with
  | .verbosity => { o with verbose := false }
  | .settings => { o with color := none, font := none, config := none, out := none }
  | .layout => { o with pretty := false }

theorem isView_without (part : Part) : IsView (without part) := by
  refine ⟨fun o argument => ?_, fun o => by cases part <;> rfl⟩
  cases argument with
  | path path =>
      obtain ⟨command, input⟩ := o
      cases part <;> cases input <;> rfl
  | setting setting value => cases part <;> cases setting <;> rfl
  | _ => cases part <;> rfl

theorem unseen_verbose : Unseen (without .verbosity) .verbose := fun _ => rfl

theorem unseen_setting (setting : Setting) (value : String) : Unseen (without .settings) (.setting setting value) := by
  intro o
  cases setting <;> rfl

theorem unseen_pretty : Unseen (without .layout) .pretty := fun _ => rfl

section View

variable {view : Options → Options} {o other : Options}

-- Options that look alike are taken on alike.
theorem IsView.map_take?_congr (hview : IsView view) (h : view o = view other) (argument : Argument) :
    (o.take? argument).map view = (other.take? argument).map view := by
  rw [← hview.map_take? o, h, hview.map_take?]

theorem map_bind_congr {next : Options → Option Options}
    (hnext : ∀ o other, view o = view other → (next o).map view = (next other).map view)
    {first second : Option Options} (h : first.map view = second.map view) :
    (first.bind next).map view = (second.bind next).map view := by
  cases first with
  | none =>
      obtain rfl : second = none := by simpa [eq_comm] using h
      rfl
  | some o =>
      obtain ⟨other, rfl, hother⟩ := Option.map_eq_some_iff.mp h.symm
      exact hnext o other hother.symm

-- Options that look alike look alike after any words, or none of them are left.
theorem IsView.map_readWords (hview : IsView view) (h : view o = view other) (words : List String) :
    (readWords o words).map view = (readWords other words).map view := by
  by_cases hline : ∃ line : Line, line.Written words
  · obtain ⟨⟨arguments, behind⟩, front, back, hfront, hback, rfl⟩ := hline
    dsimp only at hfront hback
    induction hfront generalizing o other with
    | nil =>
        rw [List.nil_append, readWords_ending hback, readWords_ending hback]
        cases behind with
        | none => exact congrArg some h
        | some path => exact hview.map_take?_congr h (.path path)
    | @cons argument arguments words rest hwritten hrest ih =>
        rw [List.append_assoc, readWords_written hwritten, readWords_written hwritten]
        exact map_bind_congr (fun _ _ => ih) (hview.map_take?_congr h argument)
  · have hnone (o : Options) : readWords o words = none := by
      rw [Option.eq_none_iff_forall_ne_some]
      exact fun read hread => hline (exists_written_of_readWords hread)
    rw [hnone, hnone]

-- An argument that is not seen may stand at any place where one is due.
theorem IsView.map_parse (hview : IsView view) {argument : Argument} (hunseen : Unseen view argument)
    {arguments : List Argument} {front words : List String} (hfront : Argument.AllWritten arguments front)
    (hwords : argument.Written words) (back : List String) :
    (parse (front ++ (words ++ back))).map view = (parse (front ++ back)).map view := by
  have hread : (readWords {} (front ++ (words ++ back))).map view = (readWords {} (front ++ back)).map view := by
    rw [readWords_allWritten hfront, readWords_allWritten hfront]
    cases arguments.foldlM take? {} with
    | none => rfl
    | some o =>
        obtain ⟨next, hnext, hlike⟩ := Option.map_eq_some_iff.mp (hunseen o)
        rw [Option.bind_some, Option.bind_some, readWords_written hwords, hnext]
        exact hview.map_readWords hlike back
  have hfilter (read : Option Options) : (read.filter isComplete).map view = (read.map view).filter isComplete := by
    cases read with
    | none => rfl
    | some o => simp [Option.filter, hview.isComplete_eq, apply_ite]
  rw [parse, parse, hfilter, hfilter, hread]

end View

variable {m : Type → Type} [Monad m] [Host m]

theorem ofOptions_without_verbosity (o : Options) :
    (Session.ofOptions (without .verbosity o) : CommandRun m String) = Session.ofOptions o := by
  obtain ⟨command⟩ := o
  cases command <;> rfl

theorem ofOptions_without_settings {o : Options} (h : o.command ≠ .generate) :
    (Session.ofOptions (without .settings o) : CommandRun m String) = Session.ofOptions o := by
  obtain ⟨command⟩ := o
  cases command with
  | generate => exact absurd rfl h
  | _ => rfl

theorem ofOptions_without_layout {o : Options} (h : o.command = .generate) :
    (Session.ofOptions (without .layout o) : CommandRun m String) = Session.ofOptions o := by
  obtain ⟨command⟩ := o
  obtain rfl : command = .generate := h
  rfl

end Statechart.Options
