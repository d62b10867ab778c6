import Mathlib.Data.List.Induction
import Statechart.Command.Options

namespace Statechart

-- What a command line says before the separator, one thing at a time.
inductive Argument where
  | command (command : Command)
  | pretty
  | verbose
  | setting (setting : Setting) (value : String)
  | path (path : String)
deriving DecidableEq

namespace Argument

-- How an argument is written. A setting takes any word behind it as its value. A path is a lone dash,
-- or a word that is no command and has no dash in front.
inductive Written : Argument → List String → Prop
  | generate : Written (.command .generate) ["generate"]
  | check : Written (.command .check) ["check"]
  | merge : Written (.command .merge) ["merge"]
  | pretty : Written .pretty ["--pretty"]
  | verbose : Written .verbose ["--verbose"]
  | verboseShort : Written .verbose ["-v"]
  | color (value : String) : Written (.setting .color value) ["--color", value]
  | font (value : String) : Written (.setting .font value) ["--font", value]
  | config (value : String) : Written (.setting .config value) ["--config", value]
  | out (value : String) : Written (.setting .out value) ["--out", value]
  | dash : Written (.path "-") ["-"]
  | path (path : String) (hcommand : path ∉ ["generate", "check", "merge"]) (hdash : path.toList.head? ≠ some '-') :
      Written (.path path) [path]

inductive AllWritten : List Argument → List String → Prop
  | nil : AllWritten [] []
  | cons {argument : Argument} {arguments : List Argument} {words rest : List String}
      (h : argument.Written words) (hrest : AllWritten arguments rest) :
      AllWritten (argument :: arguments) (words ++ rest)

def command? : Argument → Option Command
  | .command wanted => some wanted
  | _ => none

def path? : Argument → Option String
  | .path place => some place
  | _ => none

def value? (wanted : Setting) : Argument → Option String
  | .setting found value => if found = wanted then some value else none
  | _ => none

end Argument

-- A command line: its arguments, and the path behind the separator.
structure Line where
  arguments : List Argument := []
  behind : Option String := none

namespace Line

-- The end of a command line. The separator may stand there without a path.
inductive Ending : Option String → List String → Prop
  | nothing : Ending none []
  | separator : Ending none ["--"]
  | path (path : String) : Ending (some path) ["--", path]

def Written (line : Line) (words : List String) : Prop :=
  ∃ front back, Argument.AllWritten line.arguments front ∧ Ending line.behind back ∧ words = front ++ back

theorem Written.cons {line : Line} {argument : Argument} {words rest : List String} (hrest : line.Written rest)
    (h : argument.Written words) : Written ⟨argument :: line.arguments, line.behind⟩ (words ++ rest) := by
  obtain ⟨front, back, hfront, hback, rfl⟩ := hrest
  exact ⟨words ++ front, back, .cons h hfront, hback, (List.append_assoc _ _ _).symm⟩

def commands (line : Line) : List Command :=
  line.arguments.filterMap Argument.command?

def paths (line : Line) : List String :=
  line.arguments.filterMap Argument.path? ++ line.behind.toList

def values (line : Line) (setting : Setting) : List String :=
  line.arguments.filterMap (Argument.value? setting)

-- There is at most one path, and one that is a directory if the last command is to merge.
structure Allowed (line : Line) : Prop where
  path : line.paths.length ≤ 1
  directory : line.commands.getLast? = some .merge → ∃ directory ∈ line.paths, directory ≠ "-"

-- What a command line asks for: of commands and of values for one setting it is the last that counts.
def options (line : Line) : Options where
  command := line.commands.getLast?.getD .generate
  input := line.paths.head?
  pretty := decide (.pretty ∈ line.arguments)
  verbose := decide (.verbose ∈ line.arguments)
  color := (line.values .color).getLast?
  font := (line.values .font).getLast?
  config := (line.values .config).getLast?
  out := (line.values .out).getLast?

end Line

namespace Word

theorem ofText_path {path : String} (hcommand : path ∉ ["generate", "check", "merge"])
    (hdash : path.toList.head? ≠ some '-') : ofText path = .path path := by
  have hknown : ∀ entry ∈ known, entry.1 ∈ ["generate", "check", "merge"] ∨ entry.1.toList.head? = some '-' := by
    decide
  have hlookup : known.lookup path = none := by
    refine List.lookup_eq_none_iff.mpr fun entry hm => bne_iff_ne.mpr ?_
    rintro rfl
    exact (hknown entry hm).elim hcommand hdash
  rw [ofText, hlookup]
  exact if_neg hdash

-- A word has a meaning of its own, or it is a path by the way it is written, or it has none.
theorem ofText_cases (text : String) :
    (text, ofText text) ∈ known ∨ ofText text = .unknown ∨
      ofText text = .path text ∧ text ∉ ["generate", "check", "merge"] ∧ text.toList.head? ≠ some '-' := by
  rw [ofText]
  cases hlookup : known.lookup text with
  | some word =>
      obtain ⟨before, after, hknown, -⟩ := List.lookup_eq_some_iff.mp hlookup
      exact .inl (by simp [hknown])
  | none =>
      have hcommand : text ∉ ["generate", "check", "merge"] := by
        intro hm
        simp only [List.mem_cons, List.not_mem_nil, or_false] at hm
        rcases hm with rfl | rfl | rfl <;> simp [known] at hlookup
      by_cases hdash : text.toList.head? = some '-'
      · exact .inr (.inl (if_pos hdash))
      · exact .inr (.inr ⟨if_neg hdash, hcommand, hdash⟩)

-- What a word stands for is written with it, a setting with any value behind it.
theorem written_of_ofText (text : String) :
    match ofText text with
    | .command wanted => Argument.Written (.command wanted) [text]
    | .pretty => Argument.Written .pretty [text]
    | .verbose => Argument.Written .verbose [text]
    | .setting wanted => ∀ value, Argument.Written (.setting wanted value) [text, value]
    | .separator => text = "--"
    | .path place => Argument.Written (.path place) [text]
    | .unknown => True := by
  rcases ofText_cases text with hknown | hunknown | ⟨hpath, hcommand, hdash⟩
  · generalize ofText text = word at hknown
    simp only [known, List.mem_cons, Prod.mk.injEq, List.not_mem_nil, or_false] at hknown
    rcases hknown with ⟨rfl, rfl⟩ | ⟨rfl, rfl⟩ | ⟨rfl, rfl⟩ | ⟨rfl, rfl⟩ | ⟨rfl, rfl⟩ | ⟨rfl, rfl⟩ | ⟨rfl, rfl⟩ |
      ⟨rfl, rfl⟩ | ⟨rfl, rfl⟩ | ⟨rfl, rfl⟩ | ⟨rfl, rfl⟩ | ⟨rfl, rfl⟩
    · exact .generate
    · exact .check
    · exact .merge
    · exact .pretty
    · exact .verbose
    · exact .verboseShort
    · exact .color
    · exact .font
    · exact .config
    · exact .out
    · rfl
    · exact .dash
  · rw [hunknown]
    trivial
  · rw [hpath]
    exact .path text hcommand hdash

end Word

namespace Options

-- The options after one more argument. A second path is refused.
def take? (o : Options) : Argument → Option Options
  | .command command => some { o with command }
  | .pretty => some { o with pretty := true }
  | .verbose => some { o with verbose := true }
  | .setting setting value => some (o.apply setting value)
  | .path path => o.withInput? path

theorem readWords_written {argument : Argument} {words : List String} (h : argument.Written words) (o : Options)
    (rest : List String) : readWords o (words ++ rest) = (o.take? argument).bind (readWords · rest) := by
  cases h with
  | path path hcommand hdash =>
      rw [List.singleton_append, readWords.eq_def]
      simp only [Word.ofText_path hcommand hdash, take?]
      cases o.withInput? path <;> rfl
  | dash =>
      rw [List.singleton_append, readWords.eq_def]
      have hword : Word.ofText "-" = .path "-" := by decide
      simp only [hword, take?]
      cases o.withInput? "-" <;> rfl
  | _ => rfl

theorem readWords_allWritten {arguments : List Argument} {words : List String}
    (h : Argument.AllWritten arguments words) (o : Options) (rest : List String) :
    readWords o (words ++ rest) = (arguments.foldlM take? o).bind (readWords · rest) := by
  induction h generalizing o with
  | nil => rfl
  | @cons argument arguments words others h hrest ih =>
      rw [List.append_assoc, readWords_written h, List.foldlM_cons]
      simp only [ih]
      exact (Option.bind_assoc _ _ _).symm

theorem readWords_ending {behind : Option String} {words : List String} (h : Line.Ending behind words) (o : Options) :
    readWords o words = behind.elim (some o) o.withInput? := by
  cases h <;> rfl

-- Words that are read are those of a line: what has been read of them is its first argument, and the rest is
-- a line again.
theorem exists_written_of_readWords {o read : Options} {words : List String} (h : readWords o words = some read) :
    ∃ line : Line, line.Written words := by
  have hnothing : Line.Written {} [] := ⟨[], [], .nil, .nothing, rfl⟩
  fun_induction readWords o words with
  | case1 => exact ⟨_, hnothing⟩
  | case2 o word rest wanted hword ih | case3 o word rest hword ih | case4 o word rest hword ih =>
      have hwritten := Word.written_of_ofText word
      simp only [hword] at hwritten
      obtain ⟨line, hline⟩ := ih h
      exact ⟨_, hline.cons hwritten⟩
  | case6 o word wanted hword value rest ih =>
      have hwritten := Word.written_of_ofText word
      simp only [hword] at hwritten
      obtain ⟨line, hline⟩ := ih h
      exact ⟨_, hline.cons (hwritten value)⟩
  | case7 o word hword =>
      have hwritten := Word.written_of_ofText word
      simp only [hword] at hwritten
      subst hwritten
      exact ⟨{}, [], _, .nil, .separator, rfl⟩
  | case8 o word hword path =>
      have hwritten := Word.written_of_ofText word
      simp only [hword] at hwritten
      subst hwritten
      exact ⟨{ behind := some path }, [], _, .nil, .path path, rfl⟩
  | case10 o word rest path hword next hnext ih =>
      have hwritten := Word.written_of_ofText word
      simp only [hword] at hwritten
      obtain ⟨line, hline⟩ := ih h
      exact ⟨_, hline.cons hwritten⟩
  | case5 | case9 | case11 | case12 => simp at h

-- One more argument behind others is taken into the options that they come to.
theorem options_concat (arguments : List Argument) (argument : Argument) (hpath : argument.path? = none) :
    (Line.options { arguments }).take? argument = some (Line.options { arguments := arguments ++ [argument] }) := by
  cases argument with
  | path path => simp [Argument.path?] at hpath
  | setting setting value =>
      cases setting <;>
        simp [take?, apply, Line.options, Line.commands, Line.paths, Line.values, Argument.command?, Argument.path?,
          Argument.value?]
  | _ => simp [take?, Line.options, Line.commands, Line.paths, Line.values, Argument.command?, Argument.path?,
      Argument.value?]

theorem options_concat_path (arguments : List Argument) (path : String)
    (hnone : arguments.filterMap Argument.path? = []) :
    (Line.options { arguments }).take? (.path path) =
      some (Line.options { arguments := arguments ++ [.path path] }) := by
  simp [take?, withInput?, Line.options, Line.commands, Line.paths, Line.values, hnone, Argument.command?,
    Argument.path?, Argument.value?]

-- Arguments are read if there is one path among them at most.
theorem foldlM_take? (arguments : List Argument) :
    arguments.foldlM take? {} =
      if (arguments.filterMap Argument.path?).length ≤ 1 then some (Line.options { arguments }) else none := by
  induction arguments using List.reverseRecOn with
  | nil => rfl
  | append_singleton arguments argument ih =>
      rw [List.foldlM_append, ih, List.filterMap_append]
      cases hpath : argument.path? with
      | none =>
          rw [List.filterMap_cons_none hpath, List.filterMap_nil, List.append_nil]
          split
          · exact (bind_pure _).trans (options_concat arguments argument hpath)
          · rfl
      | some path =>
          obtain rfl : argument = .path path := by
            cases argument <;> simp_all [Argument.path?]
          cases hpaths : arguments.filterMap Argument.path? with
          | nil => exact (bind_pure _).trans (options_concat_path arguments path hpaths)
          | cons first others =>
              have hinput : (Line.options { arguments }).input = some first := by
                simp [Line.options, Line.paths, hpaths]
              have hmany : ¬(first :: others ++ [path]).length ≤ 1 := by simp
              rw [List.filterMap_cons_some hpath, List.filterMap_nil, if_neg hmany]
              split
              · have hrefused : (Line.options { arguments }).take? (.path path) = none := by
                  simp [take?, withInput?, hinput]
                exact (bind_pure _).trans hrefused
              · rfl

-- A path behind the separator counts like one more argument.
theorem options_behind (arguments : List Argument) (path : String) :
    Line.options ⟨arguments, some path⟩ = Line.options { arguments := arguments ++ [.path path] } := by
  simp [Line.options, Line.commands, Line.paths, Line.values, Argument.command?, Argument.path?, Argument.value?]

-- A line is read if it has one path at most, and comes to its options.
theorem readWords_line {line : Line} {words : List String} (h : line.Written words) :
    readWords {} words = if line.paths.length ≤ 1 then some line.options else none := by
  obtain ⟨arguments, behind⟩ := line
  obtain ⟨front, back, hfront, hback, rfl⟩ := h
  rw [readWords_allWritten hfront]
  simp only [readWords_ending hback]
  cases behind with
  | none =>
      rw [Line.paths, Option.toList_none, List.append_nil, ← foldlM_take?]
      exact Option.bind_fun_some _
  | some path =>
      have hlast := foldlM_take? (arguments ++ [.path path])
      rw [List.filterMap_append, ← options_behind] at hlast
      simp only [List.foldlM_append, List.foldlM_cons, List.foldlM_nil, bind_pure] at hlast
      exact hlast

theorem isComplete_options {line : Line} (hpath : line.paths.length ≤ 1) :
    line.options.isComplete = true ↔
      (line.commands.getLast? = some .merge → ∃ directory ∈ line.paths, directory ≠ "-") := by
  have hmerge : line.options.command = .merge ↔ line.commands.getLast? = some .merge := by
    unfold Line.options
    cases line.commands.getLast? <;> simp
  have hinput : line.options.input = line.paths.head? := rfl
  rw [isComplete, ← hmerge, hinput]
  cases hpaths : line.paths with
  | nil => simp
  | cons path others =>
      obtain rfl : others = [] := by simpa [hpaths] using hpath
      simp [imp_iff_not_or]

-- A command line asks for options exactly if it is one of the grammar, with one path at most and a
-- directory to merge; they are those of its last command and of the last value for each setting. Any other
-- has to be told how it is used, and so has one that asks for that where an argument may stand.
theorem parse_iff_line (words : List String) :
    (∀ o, parse words = some o ↔ ∃ line : Line, line.Written words ∧ line.Allowed ∧ o = line.options) ∧
      (parse words = none ↔ ∀ line : Line, line.Written words → ¬line.Allowed) ∧
      ∀ arguments front, Argument.AllWritten arguments front → ∀ help ∈ ["-h", "--help"], ∀ rest,
        words = front ++ help :: rest → parse words = none := by
  have hsome (o : Options) :
      parse words = some o ↔ ∃ line : Line, line.Written words ∧ line.Allowed ∧ o = line.options := by
    rw [parse, Option.filter_eq_some_iff]
    constructor
    · rintro ⟨hread, hcomplete⟩
      obtain ⟨line, hline⟩ := exists_written_of_readWords hread
      rw [readWords_line hline, Option.ite_none_right_eq_some] at hread
      obtain ⟨hpath, hoptions⟩ := hread
      obtain rfl := Option.some.inj hoptions
      exact ⟨line, hline, ⟨hpath, (isComplete_options hpath).mp hcomplete⟩, rfl⟩
    · rintro ⟨line, hline, ⟨hpath, hdirectory⟩, rfl⟩
      rw [readWords_line hline, if_pos hpath]
      exact ⟨rfl, (isComplete_options hpath).mpr hdirectory⟩
  refine ⟨hsome, ?_, ?_⟩
  · rw [Option.eq_none_iff_forall_ne_some]
    constructor
    · intro hnone line hline hallowed
      exact hnone _ ((hsome _).mpr ⟨line, hline, hallowed, rfl⟩)
    · intro hnone o ho
      obtain ⟨line, hline, hallowed, -⟩ := (hsome o).mp ho
      exact hnone line hline hallowed
  · rintro arguments front hfront help hm rest rfl
    have hunknown : ∀ help ∈ ["-h", "--help"], Word.ofText help = .unknown := by decide
    rw [parse, readWords_allWritten hfront]
    cases arguments.foldlM take? {} with
    | none => rfl
    | some o =>
        have hstop : readWords o (help :: rest) = none := by
          rw [readWords.eq_def]
          simp only [hunknown help hm]
        rw [Option.bind_some, hstop]
        rfl

-- A value may look like anything, and so may the path behind the separator.
example : parse ["--color", "--", "merge", "--color", "-h", "-v", "check", "--", "merge"] =
    some { command := .check, input := some "merge", verbose := true, color := some "-h" } := by
  decide

end Options

end Statechart
