import Mathlib.Data.List.TakeWhile
import Statechart.Json.Parser
import Statechart.Json.Printer
import Statechart.Proofs.Table.Lookup

namespace Statechart.Json

theorem hexValue?_digitChar {n : Nat} (h : n < 16) : hexValue? (Nat.digitChar n) = some n := by
  have hall : ∀ n < 16, hexValue? (Nat.digitChar n) = some n := by decide
  exact hall n h

-- The escape for a code unit gives a control character back.
theorem scanEscape_control {c : Char} (h : c.toNat < 0x20) (rest : List Char) :
    scanEscape ('u' :: '0' :: '0' :: Nat.digitChar (c.toNat / 16) :: Nat.digitChar (c.toNat % 16) :: rest) =
      .ok (c, rest) := by
  have hzero : hexValue? '0' = some 0 := by decide
  have hhigh := hexValue?_digitChar (n := c.toNat / 16) (by omega)
  have hlow := hexValue?_digitChar (n := c.toNat % 16) (by omega)
  have hunit : ((0 * 16 + 0) * 16 + c.toNat / 16) * 16 + c.toNat % 16 = c.toNat := by omega
  have hnotLow : isLowSurrogate c.toNat = false := by
    simp only [isLowSurrogate, Bool.and_eq_false_iff, decide_eq_false_iff_not]
    omega
  have hnotHigh : isHighSurrogate c.toNat = false := by
    simp only [isHighSurrogate, Bool.and_eq_false_iff, decide_eq_false_iff_not]
    omega
  have hescape (cs : List Char) : scanEscape ('u' :: cs) = scanUnit cs := rfl
  simp only [hescape, scanUnit, scanHex, hexUnit?, hzero, hhigh, hlow, hunit, hnotLow, hnotHigh, Char.ofNat_toNat]
  rfl

theorem scanString_escape {cs rest : List Char} {c : Char} (h : scanEscape cs = .ok (c, rest)) (done : List Char) :
    scanString done ('\\' :: cs) = scanString (c :: done) rest := by
  rw [scanString]
  split
  · rename_i hfault
    rw [h] at hfault
    simp at hfault
  · rename_i hread
    rw [h] at hread
    obtain ⟨rfl, rfl⟩ := Prod.mk.inj (Except.ok.inj hread)
    rfl

-- Each character of a string is read back from its escape.
theorem scanString_escapedChar (done : List Char) (c : Char) (rest : List Char) :
    scanString done (escapedChar c ++ rest) = scanString (c :: done) rest := by
  unfold escapedChar
  split
  case h_8 hquote hslash _ _ _ _ _ =>
    by_cases hcontrol : c.toNat < 0x20
    · rw [if_pos hcontrol]
      exact scanString_escape (scanEscape_control hcontrol rest) done
    · rw [if_neg hcontrol, List.singleton_append, scanString, if_neg hcontrol]
      · exact hquote
      · exact hslash
  all_goals exact scanString_escape rfl done

theorem scanString_flatMap (done cs rest : List Char) :
    scanString done (cs.flatMap escapedChar ++ '"' :: rest) = .ok (String.ofList (done.reverse ++ cs), rest) := by
  induction cs generalizing done with
  | nil =>
      rw [List.flatMap_nil, List.nil_append, scanString, List.append_nil]
  | cons c cs ih =>
      rw [List.flatMap_cons, List.append_assoc, scanString_escapedChar, ih]
      simp

theorem next_string (s : String) (rest : List Char) :
    Lexeme.next '"' (s.toList.flatMap escapedChar ++ '"' :: rest) = (.string s, rest) := by
  simp only [Lexeme.next, scanString_flatMap, Lexeme.ofScan, List.reverse_nil, List.nil_append,
    String.ofList_toList]

theorem next_listOpen (rest : List Char) : Lexeme.next '[' rest = (.listOpen, rest) := rfl

theorem next_objectOpen (rest : List Char) : Lexeme.next '{' rest = (.objectOpen, rest) := rfl

theorem next_comma (rest : List Char) : Lexeme.next ',' rest = (.comma, rest) := rfl

theorem readFrom_cons (limit : Nat) (state : State) {c : Char} (hc : isSpace c = false) (rest : List Char) :
    readFrom limit state (c :: rest) =
      match state.step limit (fun mistake => .at mistake (c :: rest)) (Lexeme.next c rest).1 with
      | .error fault => .error fault
      | .ok next => readFrom limit next (Lexeme.next c rest).2 := by
  have hdrop : (c :: rest).dropWhile isSpace = c :: rest := by
    rw [List.dropWhile_cons_of_neg]
    simp [hc]
  rw [readFrom]
  split
  · rename_i hnil
    rw [hdrop] at hnil
    simp at hnil
  · rename_i d ds hcons
    rw [hdrop] at hcons
    obtain ⟨rfl, rfl⟩ := List.cons.inj hcons
    rfl

theorem readFrom_step {limit : Nat} {state next : State} {c : Char} {rest tail : List Char} {lexeme : Lexeme}
    (hc : isSpace c = false) (hnext : Lexeme.next c rest = (lexeme, tail))
    (hstep : ∀ fail, state.step limit fail lexeme = .ok next) :
    readFrom limit state (c :: rest) = readFrom limit next tail := by
  rw [readFrom_cons limit state hc, hnext, hstep]

theorem readFrom_blank {limit : Nat} {state : State} {cs : List Char} (h : ∀ c ∈ cs, isSpace c = true) :
    readFrom limit state cs = state.finish := by
  have hdrop : cs.dropWhile isSpace = [] := List.dropWhile_eq_nil_iff.mpr h
  rw [readFrom]
  split
  · rfl
  · rename_i hcons
    rw [hdrop] at hcons
    simp at hcons

-- A document that a reader takes with room for so many open brackets. It has no numbers in it: how
-- those are written does not say what they are without a look at the digits.
mutual

def Readable : Nat → Json → Prop
  | _, .null | _, .bool _ | _, .string _ => True
  | _, .number _ | 0, .array _ | 0, .object _ => False
  | room + 1, .array elements => ElementsReadable room elements
  | room + 1, .object members => (Table.keys members).Nodup ∧ MembersReadable room members

def ElementsReadable (room : Nat) : List Json → Prop
  | [] => True
  | element :: rest => Readable room element ∧ ElementsReadable room rest

def MembersReadable (room : Nat) : Members → Prop
  | [] => True
  | (_, value) :: rest => Readable room value ∧ MembersReadable room rest

end

-- The text of what follows the first part of an array or object.
def further (parts : List String) : List Char :=
  parts.flatMap fun part => ',' :: part.toList

theorem toList_intercalate_comma (part : String) (parts : List String) :
    (String.intercalate "," (part :: parts)).toList = part.toList ++ further parts := by
  induction parts generalizing part with
  | nil => simp [further]
  | cons next parts ih =>
      rw [String.intercalate_cons_cons, String.toList_append, ih]
      simp [further]

theorem toList_compact_array (element : Json) (elements : List Json) :
    (Json.array (element :: elements)).compact.toList =
      '[' :: (element.compact.toList ++ (further (compactElements elements) ++ [']'])) := by
  rw [compact, compactElements, String.toList_append, String.toList_append, toList_intercalate_comma]
  simp

theorem toList_compact_object (key : String) (value : Json) (members : Members) :
    (Json.object ((key, value) :: members)).compact.toList =
      '{' :: ((stringText key).toList ++ ':' ::
        (value.compact.toList ++ (further (compactMembers members) ++ ['}']))) := by
  rw [compact, compactMembers, String.toList_append, String.toList_append, toList_intercalate_comma]
  simp

theorem compact_head {room : Nat} {j : Json} (h : Readable room j) :
    ∃ c cs, j.compact.toList = c :: cs ∧ isSpace c = false ∧ c ≠ ']' := by
  cases j with
  | null => exact ⟨'n', _, rfl, by decide, by decide⟩
  | bool value =>
      cases value with
      | false => exact ⟨'f', _, rfl, by decide, by decide⟩
      | true => exact ⟨'t', _, rfl, by decide, by decide⟩
  | number _ => simp [Readable] at h
  | string s =>
      refine ⟨'"', s.toList.flatMap escapedChar ++ ['"'], ?_, by decide, by decide⟩
      simp [compact, stringText]
  | array elements => exact ⟨'[', _, by simp [compact]; rfl, by decide, by decide⟩
  | object members => exact ⟨'{', _, by simp [compact]; rfl, by decide, by decide⟩

theorem next_eq_listClose {c : Char} {rest : List Char} (h : (Lexeme.next c rest).1 = .listClose) : c = ']' := by
  have hscan {α : Type} (make : α → Lexeme) (broken : Fault → Lexeme) (scan : Scan α)
      (hmake : ∀ a, make a ≠ .listClose) (hbroken : ∀ f, broken f ≠ .listClose) :
      (Lexeme.ofScan make broken scan).1 ≠ .listClose := by
    cases scan with
    | ok read => exact hmake read.1
    | error fault => exact hbroken fault
  unfold Lexeme.next at h
  split at h
  case h_2 => rfl
  case h_12 =>
    split at h
    · exact absurd h (hscan _ _ _ (by simp) (by simp))
    · simp at h
  all_goals first
    | simp at h
    | exact absurd h (hscan _ _ _ (by simp) (by simp))

-- Where an element of an array may stand, its first lexeme starts a value.
theorem readFrom_element (limit : Nat) (place : Place) (done : List Json) (stack : List Frame) {c : Char}
    (hspace : isSpace c = false) (hc : c ≠ ']') (cs : List Char) :
    readFrom limit (.element place done stack) (c :: cs) =
      readFrom limit (.value (.list done :: stack)) (c :: cs) := by
  have hstep (fail : Mistake → Fault) :
      State.step limit fail (.element place done stack) (Lexeme.next c cs).1 =
        State.step limit fail (.value (.list done :: stack)) (Lexeme.next c cs).1 := by
    cases hnext : (Lexeme.next c cs).1 with
    | listClose => exact absurd (next_eq_listClose hnext) hc
    | _ => cases place <;> rfl
  rw [readFrom_cons limit _ hspace, readFrom_cons limit _ hspace, hstep]

theorem readFrom_scalar {limit : Nat} {stack : List Frame} {c : Char} {cs rest : List Char} {j : Json}
    (hspace : isSpace c = false) (hnext : Lexeme.next c (cs ++ rest) = (.scalar j, rest)) :
    readFrom limit (.value stack) (c :: cs ++ rest) = readFrom limit (.after j stack) rest :=
  readFrom_step hspace hnext fun _ => rfl

theorem readFrom_string (limit : Nat) (stack : List Frame) (s : String) (rest : List Char) :
    readFrom limit (.value stack) ((stringText s).toList ++ rest) =
      readFrom limit (.after (.string s) stack) rest := by
  rw [stringText, String.toList_ofList, List.cons_append, List.cons_append, List.append_assoc]
  exact readFrom_step (by decide) (next_string s rest) fun _ => rfl

theorem readFrom_key (limit : Nat) (place : Place) (done : Members) (stack : List Frame) (key : String)
    (rest : List Char) :
    readFrom limit (.key place done stack) ((stringText key).toList ++ ':' :: rest) =
      readFrom limit (.value (.member done key :: stack)) rest := by
  rw [stringText, String.toList_ofList, List.cons_append, List.cons_append, List.append_assoc]
  have hkey : readFrom limit (.key place done stack) ('"' :: (key.toList.flatMap escapedChar ++ '"' :: ':' :: rest)) =
      readFrom limit (.colon done key stack) (':' :: rest) :=
    readFrom_step (by decide) (next_string key _) fun _ => by cases place <;> rfl
  exact hkey.trans (readFrom_step (by decide) rfl fun _ => rfl)

mutual

theorem readFrom_compact {limit room : Nat} (j : Json) (h : Readable room j) (stack : List Frame)
    (hroom : stack.length + room ≤ limit) (rest : List Char) :
    readFrom limit (.value stack) (j.compact.toList ++ rest) = readFrom limit (.after j stack) rest := by
  cases j with
  | null => exact readFrom_scalar (by decide) rfl
  | bool value =>
      cases value with
      | false => exact readFrom_scalar (by decide) rfl
      | true => exact readFrom_scalar (by decide) rfl
  | number _ => simp [Readable] at h
  | string s => exact readFrom_string limit stack s rest
  | array elements =>
      cases room with
      | zero => simp [Readable] at h
      | succ room =>
          have hopen (fail : Mistake → Fault) :
              State.step limit fail (.value stack) .listOpen = .ok (.element .first [] stack) :=
            if_pos (by omega)
          cases elements with
          | nil =>
              exact (readFrom_step (by decide) rfl hopen).trans (readFrom_step (by decide) rfl fun _ => rfl)
          | cons element elements =>
              obtain ⟨helement, helements⟩ := h
              obtain ⟨c, cs, hcompact, hspace, hc⟩ := compact_head helement
              have htext : (Json.array (element :: elements)).compact.toList ++ rest =
                  '[' :: (element.compact.toList ++ (further (compactElements elements) ++ ']' :: rest)) := by
                simp [toList_compact_array]
              rw [htext, readFrom_step (by decide) (next_listOpen _) hopen]
              have hfirst := readFrom_element limit .first [] stack hspace hc
                (cs ++ (further (compactElements elements) ++ ']' :: rest))
              rw [← List.cons_append, ← hcompact] at hfirst
              rw [hfirst, readFrom_compact element helement (.list [] :: stack) (by simp; omega)]
              exact readFrom_elements elements helements element [] stack (by omega) rest
  | object members =>
      cases room with
      | zero => simp [Readable] at h
      | succ room =>
          have hopen (fail : Mistake → Fault) :
              State.step limit fail (.value stack) .objectOpen = .ok (.key .first [] stack) :=
            if_pos (by omega)
          cases members with
          | nil =>
              exact (readFrom_step (by decide) rfl hopen).trans (readFrom_step (by decide) rfl fun _ => rfl)
          | cons member members =>
              obtain ⟨key, value⟩ := member
              obtain ⟨hkeys, hvalue, hmembers⟩ := h
              have htext : (Json.object ((key, value) :: members)).compact.toList ++ rest =
                  '{' :: ((stringText key).toList ++ ':' ::
                    (value.compact.toList ++ (further (compactMembers members) ++ '}' :: rest))) := by
                simp [toList_compact_object]
              rw [htext, readFrom_step (by decide) (next_objectOpen _) hopen, readFrom_key,
                readFrom_compact value hvalue (.member [] key :: stack) (by simp; omega)]
              exact readFrom_members members hmembers [] key value stack hkeys (by omega) rest

theorem readFrom_elements {limit room : Nat} (elements : List Json) (h : ElementsReadable room elements)
    (last : Json) (done : List Json) (stack : List Frame) (hroom : stack.length + 1 + room ≤ limit)
    (rest : List Char) :
    readFrom limit (.after last (.list done :: stack)) (further (compactElements elements) ++ ']' :: rest) =
      readFrom limit (.after (.array ((last :: done).reverse ++ elements)) stack) rest := by
  cases elements with
  | nil =>
      rw [List.append_nil]
      exact readFrom_step (by decide) rfl fun _ => rfl
  | cons element elements =>
      obtain ⟨helement, helements⟩ := h
      obtain ⟨c, cs, hcompact, hspace, hc⟩ := compact_head helement
      have htext : further (compactElements (element :: elements)) ++ ']' :: rest =
          ',' :: (element.compact.toList ++ (further (compactElements elements) ++ ']' :: rest)) := by
        simp [compactElements, further]
      have hcomma (fail : Mistake → Fault) : State.step limit fail (.after last (.list done :: stack)) .comma =
          .ok (.element .next (last :: done) stack) := rfl
      have hnext := readFrom_element limit .next (last :: done) stack hspace hc
        (cs ++ (further (compactElements elements) ++ ']' :: rest))
      rw [← List.cons_append, ← hcompact] at hnext
      rw [htext, readFrom_step (by decide) (next_comma _) hcomma, hnext,
        readFrom_compact element helement (.list (last :: done) :: stack) (by simp; omega),
        readFrom_elements elements helements element (last :: done) stack hroom rest]
      simp

theorem readFrom_members {limit room : Nat} (members : Members) (h : MembersReadable room members)
    (done : Members) (key : String) (value : Json) (stack : List Frame)
    (hkeys : (Table.keys (done ++ (key, value) :: members)).Nodup) (hroom : stack.length + 1 + room ≤ limit)
    (rest : List Char) :
    readFrom limit (.after value (.member done key :: stack)) (further (compactMembers members) ++ '}' :: rest) =
      readFrom limit (.after (.object (done ++ (key, value) :: members)) stack) rest := by
  have hfresh : key ∉ Table.keys done := by
    intro hm
    rw [Table.keys, List.map_append] at hkeys
    exact (List.nodup_append.mp hkeys).2.2 key hm key (by simp) rfl
  have hput := Table.put_of_notMem hfresh value
  cases members with
  | nil =>
      rw [← hput]
      exact readFrom_step (by decide) rfl fun _ => rfl
  | cons member members =>
      obtain ⟨next, new⟩ := member
      obtain ⟨hnew, hmembers⟩ := h
      have htext : further (compactMembers ((next, new) :: members)) ++ '}' :: rest =
          ',' :: ((stringText next).toList ++ ':' ::
            (new.compact.toList ++ (further (compactMembers members) ++ '}' :: rest))) := by
        simp [compactMembers, further]
      have hcomma (fail : Mistake → Fault) :
          State.step limit fail (.after value (.member done key :: stack)) .comma =
          .ok (.key .next (Table.put done key value) stack) := rfl
      rw [htext, readFrom_step (by decide) (next_comma _) hcomma, hput, readFrom_key,
        readFrom_compact new hnew (.member _ next :: stack) (by simp; omega),
        readFrom_members members hmembers (done ++ [(key, value)]) next new stack (by simpa using hkeys) hroom rest]
      simp

end

-- What is printed of a document is read back as the document, with or without a line feed behind it.
theorem parse_compact {j : Json} (h : Readable depthLimit j) {blank : String}
    (hblank : ∀ c ∈ blank.toList, isSpace c = true) : parse (j.compact ++ blank) = .ok j := by
  have hread : readFrom depthLimit (.value []) (j.compact ++ blank).toList = .ok j := by
    rw [String.toList_append, readFrom_compact j h [] (by simp), readFrom_blank hblank]
    rfl
  rw [parse, parseWithin, hread]

end Statechart.Json
