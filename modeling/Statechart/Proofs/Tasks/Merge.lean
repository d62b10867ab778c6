import Statechart.Proofs.Json.ReadBack
import Statechart.Proofs.Tasks.Listing
import Statechart.Proofs.Text.ByteOrder

namespace Statechart.Tasks

section Readings

variable {content : ByteArray} {value : Json} {failure : Failure}

-- A document that is a text, and one that can be parsed.
def Reads (content : ByteArray) (value : Json) : Prop :=
  ∃ text, String.fromUTF8? content = some text ∧ Json.parse text = .ok value

-- Why a document is no value, told with the path of the document.
inductive Fails (path : String) (content : ByteArray) : Failure → Prop
  | notText (h : String.fromUTF8? content = none) : Fails path content (.file path .notText)
  | malformed {text : String} {reason : Json.SyntaxError} (h : String.fromUTF8? content = some text)
      (hparse : Json.parse text = .error reason) : Fails path content (.document path reason)

-- What the content of a document comes to.
def readAs (path : String) (content : ByteArray) : Except Failure Json :=
  ((decodeText content).mapError (.file path)).bind fun text => (Json.parse text).mapError (.document path)

theorem reads_iff (path : String) : Reads content value ↔ readAs path content = .ok value := by
  unfold Reads readAs decodeText
  cases String.fromUTF8? content with
  | none => simp [Except.mapError, Except.bind]
  | some text => cases hparse : Json.parse text <;> simp [Except.mapError, Except.bind, hparse]

theorem fails_iff (path : String) : Fails path content failure ↔ readAs path content = .error failure := by
  constructor
  · rintro (h | ⟨h, hparse⟩)
    · simp [readAs, decodeText, h, Except.mapError, Except.bind]
    · simp [readAs, decodeText, h, hparse, Except.mapError, Except.bind]
  · intro h
    unfold readAs decodeText at h
    cases htext : String.fromUTF8? content with
    | none =>
        rw [htext] at h
        cases h
        exact .notText htext
    | some text =>
        rw [htext] at h
        cases hparse : Json.parse text with
        | ok value => simp [Except.mapError, Except.bind, hparse] at h
        | error reason =>
            simp only [Except.mapError, Except.bind, hparse] at h
            cases h
            exact .malformed htext hparse

theorem Fails.not_reads {path : String} (h : Fails path content failure) : ¬Reads content value := by
  rw [reads_iff path, (fails_iff path).mp h]
  nofun

end Readings

-- A task is to have one document: there is a file with a name of a document's, and no other one.
structure HoldsOnly (tree : Node) (place : List String) (task document : String) (content : ByteArray) : Prop where
  file : tree.look (place ++ [task, document]) = some (.file content)
  named : ".json".toList <:+ document.toList
  only : ∀ other left, tree.look (place ++ [task, other]) = some (.file left) → ".json".toList <:+ other.toList →
    other = document

-- What tasks come to that hold documents: one object, with a member for each of them and the names in the order
-- of their bytes, or else what is wrong with the first document that cannot be read.
inductive Merged (holds : String → String → ByteArray → Prop) (root : String) : Except Failure Json → Prop
  | all {members : Json.Members}
      (hsorted : (Table.keys members).Pairwise fun a b => Text.bytes a < Text.bytes b)
      (hmembers : ∀ task value, (task, value) ∈ members ↔
        ∃ document content, holds task document content ∧ Reads content value)
      (hreads : ∀ task document content, holds task document content → ∃ value, Reads content value) :
      Merged holds root (.ok (.object members))
  | failed {task document : String} {content : ByteArray} {failure : Failure} (hholds : holds task document content)
      (hfails : Fails (join (join root task) document) content failure)
      (hfirst : ∀ earlier other left, holds earlier other left → Text.bytes earlier < Text.bytes task →
        ∃ value, Reads left value) :
      Merged holds root (.error failure)

variable {tree : Node} {place : List String} {task document : String} {content : ByteArray}

theorem HoldsOnly.unique {other : String} {left : ByteArray} (h : HoldsOnly tree place task document content)
    (hother : HoldsOnly tree place task other left) : document = other ∧ content = left := by
  obtain rfl := hother.only document content h.file h.named
  have hface := h.file.symm.trans hother.file
  exact ⟨rfl, by simpa using hface⟩

theorem HoldsOnly.file_concat (h : HoldsOnly tree place task document content) :
    tree.look (place ++ [task] ++ [document]) = some (.file content) := by
  rw [List.append_assoc]
  exact h.file

theorem HoldsOnly.directory (h : HoldsOnly tree place task document content) :
    tree.look (place ++ [task]) = some .directory :=
  Node.look_eq_directory_of_concat (by rw [h.file_concat]; rfl)

theorem HoldsOnly.congr {other : Node} (h : ∀ place, tree.look place = other.look place)
    (hheld : HoldsOnly tree place task document content) : HoldsOnly other place task document content :=
  ⟨h _ ▸ hheld.file, hheld.named, fun found left hfound => hheld.only found left ((h _).trans hfound)⟩

-- The documents in a directory are one file exactly if the task holds this one.
theorem documents_eq_singleton_iff (htree : tree.WellFormed) :
    (namesOf .file (tree.listing (place ++ [task]))).filter isDocument = [document] ↔
      ∃ content, HoldsOnly tree place task document content := by
  have hnodup : ((namesOf .file (tree.listing (place ++ [task]))).filter isDocument).Nodup :=
    ((pairwise_namesOf _ (Node.nodup_keys_listing htree _)).imp fun h => ne_of_lt h).filter _
  have hmem (name : String) : name ∈ (namesOf .file (tree.listing (place ++ [task]))).filter isDocument ↔
      (∃ content, tree.look (place ++ [task, name]) = some (.file content)) ∧ ".json".toList <:+ name.toList := by
    rw [List.mem_filter, mem_namesOf, Node.mem_listing_file_iff htree, isDocument_iff, List.append_assoc]
    rfl
  constructor
  · intro h
    simp only [h, List.mem_singleton] at hmem
    obtain ⟨⟨content, hfile⟩, hnamed⟩ := (hmem document).mp rfl
    exact ⟨content, hfile, hnamed, fun other left hother hname => (hmem other).mpr ⟨⟨left, hother⟩, hname⟩⟩
  · rintro ⟨content, h⟩
    refine List.perm_singleton.mp ((List.perm_ext_iff_of_nodup hnodup (List.nodup_singleton _)).mpr fun name => ?_)
    rw [hmem, List.mem_singleton]
    constructor
    · rintro ⟨⟨left, hfile⟩, hnamed⟩
      exact h.only name left hfile hnamed
    · rintro rfl
      exact ⟨⟨content, h.file⟩, h.named⟩

section Steps

variable {holds : String → String → ByteArray → Prop} {root : String} {before after : List String}
  {members : Json.Members} {value : Json} {failure : Failure} {result : Except Failure Json}

-- Only some of the tasks.
def Among (tasks : List String) (holds : String → String → ByteArray → Prop) (task document : String)
    (content : ByteArray) : Prop :=
  task ∈ tasks ∧ holds task document content

theorem among_concat_iff {other found : String} {left : ByteArray} :
    Among (before ++ [task]) holds other found left ↔
      Among before holds other found left ∨ other = task ∧ holds task found left := by
  rw [Among, List.mem_append, List.mem_singleton, or_and_right]
  refine or_congr_right (and_congr_right fun heq => ?_)
  rw [heq]

theorem Merged.nil : Merged (Among [] holds) root (.ok (.object [])) :=
  .all List.Pairwise.nil (by simp [Among]) (by simp [Among])

-- A task that comes behind all others brings its document, or nothing, or what is wrong with it.
theorem Merged.put (h : Merged (Among before holds) root (.ok (.object members)))
    (hunique : ∀ other left, holds task other left → left = content) (hholds : holds task document content)
    (hreads : Reads content value) (hbefore : ∀ earlier ∈ before, earlier < task) :
    Merged (Among (before ++ [task]) holds) root (.ok (.object (Table.put members task value))) := by
  obtain ⟨hsorted, hmembers, hall⟩ := h
  have hkeys : ∀ key ∈ Table.keys members, key < task := by
    intro key hkey
    obtain ⟨entry, hentry, rfl⟩ := List.mem_map.mp hkey
    obtain ⟨_, _, ⟨hmem, _⟩, _⟩ := (hmembers entry.1 entry.2).mp hentry
    exact hbefore _ hmem
  have hput : Table.put members task value = members ++ [(task, value)] :=
    Table.put_of_notMem (fun hmem => lt_irrefl task (hkeys task hmem)) value
  refine .all ?_ ?_ ?_
  · rw [hput, Table.keys, List.map_append, List.pairwise_append]
    refine ⟨hsorted, List.pairwise_singleton _ _, fun key hkey last hlast => ?_⟩
    obtain rfl : last = task := by simpa using hlast
    exact (Text.bytes_lt_iff _ _).mpr (hkeys key hkey)
  · intro other read
    rw [hput, List.mem_append, hmembers, List.mem_singleton]
    constructor
    · rintro (⟨found, left, hheld, hread⟩ | heq)
      · exact ⟨found, left, among_concat_iff.mpr (.inl hheld), hread⟩
      · obtain ⟨rfl, rfl⟩ := Prod.mk.inj heq
        exact ⟨document, content, among_concat_iff.mpr (.inr ⟨rfl, hholds⟩), hreads⟩
    · rintro ⟨found, left, hheld, hread⟩
      rcases among_concat_iff.mp hheld with hearlier | ⟨rfl, hlast⟩
      · exact .inl ⟨found, left, hearlier, hread⟩
      · obtain rfl := hunique found left hlast
        rw [reads_iff ""] at hread hreads
        exact .inr (by rw [Except.ok.inj (hread.symm.trans hreads)])
  · intro other found left hheld
    rcases among_concat_iff.mp hheld with hearlier | ⟨rfl, hlast⟩
    · exact hall other found left hearlier
    · exact ⟨value, hunique found left hlast ▸ hreads⟩

theorem Merged.skip (h : Merged (Among before holds) root result)
    (hnone : ∀ document content, ¬holds task document content) :
    Merged (Among (before ++ [task]) holds) root result := by
  have hsame : Among (before ++ [task]) holds = Among before holds := by
    funext other document content
    exact propext (among_concat_iff.trans (or_iff_left fun hlast => hnone _ _ hlast.2))
  rwa [hsame]

theorem Merged.stop (h : Merged (Among before holds) root (.ok (.object members)))
    (hholds : holds task document content) (hfails : Fails (join (join root task) document) content failure)
    (hafter : ∀ later ∈ after, task < later) :
    Merged (Among (before ++ task :: after) holds) root (.error failure) := by
  obtain ⟨_, _, hall⟩ := h
  refine .failed ⟨List.mem_append_right _ List.mem_cons_self, hholds⟩ hfails ?_
  rintro earlier other left ⟨hmem, hheld⟩ hlt
  rw [Text.bytes_lt_iff] at hlt
  rcases List.mem_append.mp hmem with hearlier | hlater
  · exact hall earlier other left ⟨hearlier, hheld⟩
  · rcases List.mem_cons.mp hlater with rfl | hlater
    · exact absurd hlt (lt_irrefl _)
    · exact absurd hlt (lt_asymm (hafter _ hlater))

-- What tasks come to is settled by what they hold.
theorem Merged.unique {other : Except Failure Json} (h : Merged (HoldsOnly tree place) root result)
    (hother : Merged (HoldsOnly tree place) root other) : result = other := by
  cases h with
  | @all members hsorted hmembers hreads =>
      cases hother with
      | @all others hothers hmem _ =>
          have hirrefl (a b : String × Json) (hab : Text.bytes a.1 < Text.bytes b.1) : a ≠ b := by
            rintro rfl
            exact List.lt_irrefl _ hab
          replace hsorted := List.pairwise_map.mp hsorted
          replace hothers := List.pairwise_map.mp hothers
          have hperm : members.Perm others :=
            (List.perm_ext_iff_of_nodup (hsorted.imp (hirrefl _ _)) (hothers.imp (hirrefl _ _))).mpr fun entry => by
              rw [hmembers entry.1 entry.2, hmem entry.1 entry.2]
          have heq : members = others :=
            hperm.eq_of_pairwise (fun a b _ _ hab hba => absurd hba (List.lt_asymm hab)) hsorted hothers
          rw [heq]
      | failed hholds hfails _ =>
          obtain ⟨value, hvalue⟩ := hreads _ _ _ hholds
          exact absurd hvalue hfails.not_reads
  | @failed task document content failure hholds hfails hfirst =>
      cases hother with
      | all _ _ hreads =>
          obtain ⟨value, hvalue⟩ := hreads _ _ _ hholds
          exact absurd hvalue hfails.not_reads
      | @failed second found left reason hheld hwrong hbefore =>
          rcases lt_trichotomy task second with hlt | rfl | hgt
          · obtain ⟨value, hvalue⟩ := hbefore _ _ _ hholds ((Text.bytes_lt_iff _ _).mpr hlt)
            exact absurd hvalue hfails.not_reads
          · obtain ⟨rfl, rfl⟩ := hholds.unique hheld
            rw [fails_iff] at hfails hwrong
            exact hfails.symm.trans hwrong
          · obtain ⟨value, hvalue⟩ := hfirst _ _ _ hheld ((Text.bytes_lt_iff _ _).mpr hgt)
            exact absurd hvalue hwrong.not_reads

end Steps

section Runs

variable {machine : Machine} {root : String} {members : Json.Members} {before after : List String}

theorem play_readDocument {path : String} (events : List Event) (hpath : machine.locate path = .ok place)
    (hplace : machine.root.look place = some (.file content)) :
    (readDocument path : Session (StateM Machine) Json).play events machine =
      ((readAs path content, events), machine) := by
  have hask : (Session.askText (.file path) (Host.read path) : Session (StateM Machine) String).play events machine =
      ((((machine.read path).bind decodeText).mapError (.file path), events), machine) :=
    Session.play_askText _ _ _ _
  have hread : machine.read path = .ok content := by rw [Machine.read_eq, hpath, Except.bind, hplace]
  rw [readDocument, Session.play_bind, hask, hread, Except.bind, readAs]
  cases decodeText content with
  | error e => rfl
  | ok text => exact Session.play_settle _ _ _

theorem play_addTask (events : List Event) (hmachine : machine.root.WellFormed)
    (hroot : machine.locate root = .ok place) (h : HoldsOnly machine.root place task document content) :
    (addTask root members task : Session (StateM Machine) _).play events machine =
      (((readAs (join (join root task) document) content).map (Table.put members task), events), machine) := by
  have hpath := locate_join hmachine hroot (by rw [h.directory]; rfl)
  have hdocument := locate_join hmachine hpath (by rw [h.file_concat]; rfl)
  have hfound := (documents_eq_singleton_iff hmachine).mpr ⟨content, h⟩
  rw [addTask, Session.play_bind, play_documents events hpath h.directory, hfound]
  simp only [Session.play_bind, play_readDocument events hdocument h.file_concat]
  cases readAs (join (join root task) document) content <;> rfl

theorem play_addTask_of_none (events : List Event) (hmachine : machine.root.WellFormed)
    (hroot : machine.locate root = .ok place) (htask : machine.root.look (place ++ [task]) = some .directory)
    (h : ∀ document content, ¬HoldsOnly machine.root place task document content) :
    ∃ told, (addTask root members task : Session (StateM Machine) _).play events machine =
      ((.ok members, told), machine) := by
  have hpath := locate_join hmachine hroot (by rw [htask]; rfl)
  rw [addTask, Session.play_bind, play_documents events hpath htask]
  dsimp only
  split
  · rename_i document hfound
    obtain ⟨content, hheld⟩ := (documents_eq_singleton_iff hmachine).mp hfound
    exact absurd hheld (h document content)
  · exact ⟨_, rfl⟩

-- Tasks that are gone through by name come to what all of them hold.
theorem play_foldlM_addTask (events : List Event) (hmachine : machine.root.WellFormed)
    (hroot : machine.locate root = .ok place) (hsorted : (before ++ after).Pairwise (· < ·))
    (hafter : ∀ task ∈ after, machine.root.look (place ++ [task]) = some .directory)
    (hbefore : Merged (Among before (HoldsOnly machine.root place)) root (.ok (.object members))) :
    ∃ result told, (after.foldlM (addTask root) members : Session (StateM Machine) _).play events machine =
      ((result, told), machine) ∧
        Merged (Among (before ++ after) (HoldsOnly machine.root place)) root (result.map .object) := by
  induction after generalizing before members events with
  | nil =>
      rw [List.append_nil]
      exact ⟨.ok members, events, rfl, hbefore⟩
  | cons task rest ih =>
      have hsplit : before ++ task :: rest = before ++ [task] ++ rest := by simp
      have hrest : ∀ later ∈ rest, task < later := (List.pairwise_cons.mp (List.pairwise_append.mp hsorted).2.1).1
      have hfirst : ∀ earlier ∈ before, earlier < task := fun earlier hm =>
        (List.pairwise_append.mp hsorted).2.2 earlier hm task List.mem_cons_self
      obtain ⟨htask, hlater⟩ := List.forall_mem_cons.mp hafter
      rw [List.foldlM_cons, Session.play_bind]
      by_cases hholds : ∃ document content, HoldsOnly machine.root place task document content
      · obtain ⟨document, content, hheld⟩ := hholds
        rw [play_addTask events hmachine hroot hheld]
        cases hread : readAs (join (join root task) document) content with
        | error failure =>
            exact ⟨.error failure, events, rfl, hbefore.stop hheld ((fails_iff _).mpr hread) hrest⟩
        | ok value =>
            rw [hsplit] at hsorted ⊢
            exact ih events hsorted hlater
              (hbefore.put (fun other left h => (h.unique hheld).2) hheld ((reads_iff _).mpr hread) hfirst)
      · simp only [not_exists] at hholds
        obtain ⟨told, hplay⟩ := play_addTask_of_none events hmachine hroot htask hholds
        rw [hplay]
        rw [hsplit] at hsorted ⊢
        exact ih told hsorted hlater (hbefore.skip hholds)

theorem play_merge (events : List Event) (hmachine : machine.root.WellFormed)
    (hroot : machine.DirectoryAt root place) :
    Merged (HoldsOnly machine.root place) root
      ((merge root : Session (StateM Machine) Json).play events machine).1.1 := by
  obtain ⟨hpath, hplace⟩ := hroot
  have hsorted := pairwise_namesOf .directory (Node.nodup_keys_listing hmachine place)
  have hmem (name : String) : name ∈ namesOf .directory (machine.root.listing place) ↔
      machine.root.look (place ++ [name]) = some .directory := by
    rw [mem_namesOf, Node.mem_listing_directory_iff hmachine]
  -- a task that holds a document is one of those that are gone through
  have hamong : Among (namesOf .directory (machine.root.listing place)) (HoldsOnly machine.root place) =
      HoldsOnly machine.root place := by
    funext task document content
    exact propext ⟨And.right, fun h => ⟨(hmem task).mpr h.directory, h⟩⟩
  rw [merge, Session.play_bind, play_tasks events hpath hplace]
  generalize namesOf .directory (machine.root.listing place) = names at *
  rw [← List.nil_append names] at hsorted
  obtain ⟨result, told, hplay, hmerged⟩ :=
    play_foldlM_addTask events hmachine hpath hsorted (fun name h => (hmem name).mp h) .nil
  rw [List.nil_append, hamong] at hmerged
  simp only [Session.play_bind, hplay]
  cases result <;> exact hmerged

theorem play_merge_of_error (events : List Event) {reason : FileError} (h : machine.list root = .error reason) :
    ((merge root : Session (StateM Machine) Json).play events machine).1.1 = .error (.file root reason) := by
  rw [merge, tasks, Session.play_bind, Session.play_bind, play_list, h]
  rfl

end Runs

-- A merge goes by what stands in the directory, and not by the order in which it is listed: it fails if there is no
-- directory, and else comes to what the tasks hold that have one document each. Two directories that hold the same
-- ones come to the same, whatever else there is in them.
theorem merge_exact (root : String) (events : List Event) {machine : Machine} (hmachine : machine.root.WellFormed) :
    let result (machine : Machine) := ((merge root : Session (StateM Machine) Json).play events machine).1.1
    ((¬∃ place, machine.DirectoryAt root place) →
      ∃ reason, machine.list root = .error reason ∧ result machine = .error (.file root reason)) ∧
    (∀ place, machine.DirectoryAt root place → Merged (HoldsOnly machine.root place) root (result machine)) ∧
    (∀ tree, machine.root.Reordered tree → result { machine with root := tree } = result machine) ∧
    ∀ other place aside, other.root.WellFormed → machine.DirectoryAt root place → other.DirectoryAt root aside →
      (∀ task document content, HoldsOnly machine.root place task document content ↔
        HoldsOnly other.root aside task document content) →
      result other = result machine := by
  intro result
  have hsame (other : Machine) (place aside : List String) (hother : other.root.WellFormed)
      (hplace : machine.DirectoryAt root place) (haside : other.DirectoryAt root aside)
      (hholds : ∀ task document content, HoldsOnly machine.root place task document content ↔
        HoldsOnly other.root aside task document content) : result other = result machine := by
    have heq : HoldsOnly other.root aside = HoldsOnly machine.root place := by
      funext task document content
      exact propext (hholds task document content).symm
    have hmerged := heq ▸ play_merge events hother haside
    exact hmerged.unique (play_merge events hmachine hplace)
  refine ⟨fun hnone => ?_, fun place hplace => play_merge events hmachine hplace, fun tree htree => ?_, hsame⟩
  · obtain ⟨reason, hreason⟩ := Machine.exists_list_error hnone
    have hlist := hreason machine (fun _ => rfl) rfl
    exact ⟨reason, hlist, play_merge_of_error events hlist⟩
  · have hlook := htree.look_eq hmachine
    by_cases hexists : ∃ place, machine.DirectoryAt root place
    · obtain ⟨place, hpath, hplace⟩ := hexists
      have hlocate := @Machine.locate_congr machine { machine with root := tree } hlook rfl root
      exact hsame _ place place (htree.wellFormed hmachine) ⟨hpath, hplace⟩
        ⟨hlocate.symm.trans hpath, (hlook place).symm.trans hplace⟩ fun task document content =>
          ⟨.congr hlook, .congr fun place => (hlook place).symm⟩
    · obtain ⟨reason, hreason⟩ := Machine.exists_list_error hexists
      have hlist := play_merge_of_error events (hreason machine (fun _ => rfl) rfl)
      exact (play_merge_of_error events (hreason { machine with root := tree } hlook rfl)).trans hlist.symm

-- A loose file, a task with two documents and a directory that goes by the name of a document, none of which is of
-- any consequence, and one task with one document.
def cluttered (content : ByteArray) : List (String × Node) :=
  [("n.json", .file content),
    ("c", .directory [("a.json", .file content), ("b.json", .file content)]),
    ("b", .directory [("x.json", .directory []), ("b.json", .file content)])]

def clutteredMachine (content : ByteArray) : Machine :=
  ⟨.directory [("t", .directory (cluttered content))], [], .empty⟩

theorem wellFormed_cluttered (content : ByteArray) : (clutteredMachine content).root.WellFormed := by
  simp [clutteredMachine, cluttered, Node.WellFormed, Node.EntriesWellFormed, ProperName, Table.keys]

theorem file_cluttered {content left : ByteArray} {task name : String}
    (h : (clutteredMachine content).root.look ["t", task, name] = some (.file left)) :
    task = "c" ∨ task = "b" ∧ name = "b.json" ∧ left = content := by
  replace h : (Node.directory (cluttered content)).look [task, name] = some (.file left) := h
  obtain ⟨inner, hinner, hleft⟩ := Node.exists_mem_of_look_cons h
  simp only [cluttered, List.mem_cons, Prod.mk.injEq, List.not_mem_nil, or_false] at hinner
  rcases hinner with ⟨-, rfl⟩ | ⟨rfl, -⟩ | ⟨rfl, rfl⟩
  · cases hleft
  · exact .inl rfl
  · obtain ⟨found, hfound, hface⟩ := Node.exists_mem_of_look_cons hleft
    simp only [List.mem_cons, Prod.mk.injEq, List.not_mem_nil, or_false] at hfound
    rcases hfound with ⟨-, rfl⟩ | ⟨rfl, rfl⟩
    · cases hface
    · cases hface
      exact .inr ⟨rfl, rfl, rfl⟩

theorem holdsOnly_cluttered_iff (content : ByteArray) (task document : String) (held : ByteArray) :
    HoldsOnly (clutteredMachine content).root ["t"] task document held ↔
      task = "b" ∧ document = "b.json" ∧ held = content := by
  constructor
  · rintro ⟨hfile, -, honly⟩
    rcases file_cluttered hfile with rfl | hheld
    · have hfirst := honly "a.json" content rfl (by decide)
      have hsecond := honly "b.json" content rfl (by decide)
      exact absurd (hfirst.trans hsecond.symm) (by decide)
    · exact hheld
  · rintro ⟨rfl, rfl, rfl⟩
    refine ⟨rfl, by decide, fun other left hother _ => ?_⟩
    rcases file_cluttered hother with heq | ⟨-, hname, -⟩
    · exact absurd heq (by decide)
    · exact hname

theorem merge_exact_cluttered :
    let result (machine : Machine) := ((merge "t" : Session (StateM Machine) Json).play [] machine).1.1
    let good := clutteredMachine "[]".toUTF8
    let bad := clutteredMachine ⟨#[0xFF]⟩
    good.root.WellFormed ∧ result good = .ok (.object [("b", .array [])]) ∧
      result { good with root := .directory [("t", .directory (cluttered "[]".toUTF8).reverse)] } = result good ∧
      bad.root.WellFormed ∧ result bad = .error (.file "t/b/b.json" .notText) := by
  intro result good bad
  obtain ⟨-, hgood, hreordered, -⟩ := merge_exact "t" [] (wellFormed_cluttered "[]".toUTF8)
  obtain ⟨-, hbad, -, -⟩ := merge_exact "t" [] (wellFormed_cluttered ⟨#[0xFF]⟩)
  have hreads (value : Json) : Reads "[]".toUTF8 value ↔ value = .array [] := by
    have hparse : Json.parse "[]" = .ok (.array []) := @Json.parse_compact (.array []) trivial "" (by simp)
    rw [reads_iff "", readAs, decodeText_toUTF8]
    simp [Except.mapError, Except.bind, hparse, eq_comm]
  have hmerged : Merged (HoldsOnly good.root ["t"]) "t" (.ok (.object [("b", .array [])])) := by
    refine .all (List.pairwise_singleton _ _) (fun task value => ?_) fun task document content h => ?_
    · rw [List.mem_singleton, Prod.mk.injEq]
      constructor
      · rintro ⟨rfl, rfl⟩
        exact ⟨_, _, (holdsOnly_cluttered_iff _ _ _ _).mpr ⟨rfl, rfl, rfl⟩, (hreads _).mpr rfl⟩
      · rintro ⟨document, content, hheld, hread⟩
        obtain ⟨rfl, -, rfl⟩ := (holdsOnly_cluttered_iff _ _ _ _).mp hheld
        exact ⟨rfl, (hreads _).mp hread⟩
    · obtain ⟨-, -, rfl⟩ := (holdsOnly_cluttered_iff _ _ _ _).mp h
      exact ⟨_, (hreads _).mpr rfl⟩
  have hfailed : Merged (HoldsOnly bad.root ["t"]) "t" (.error (.file "t/b/b.json" .notText)) := by
    refine .failed ((holdsOnly_cluttered_iff _ _ _ _).mpr ⟨rfl, rfl, rfl⟩) (.notText (by decide +kernel)) ?_
    intro earlier other left hheld hlt
    obtain ⟨rfl, -, -⟩ := (holdsOnly_cluttered_iff _ _ _ _).mp hheld
    exact absurd hlt (List.lt_irrefl _)
  have hshuffled := @Node.Reordered.within [] [] "t" _ _ (.perm (cluttered "[]".toUTF8).reverse_perm.symm)
  exact ⟨wellFormed_cluttered _, (hgood ["t"] ⟨rfl, rfl⟩).unique hmerged, hreordered _ hshuffled,
    wellFormed_cluttered _, (hbad ["t"] ⟨rfl, rfl⟩).unique hfailed⟩

end Statechart.Tasks
