import Statechart.Json.Basic
import Statechart.Json.SyntaxError

namespace Statechart.Json

-- What a text can start with, blanks apart.
inductive Lexeme where
  | listOpen
  | listClose
  | objectOpen
  | objectClose
  | comma
  | colon
  | string (text : String)
  | scalar (value : Json)
  | stray
  | brokenString (fault : Fault)
  | brokenScalar (fault : Fault)

abbrev Scan (α : Type) := Except Fault (α × List Char)

-- The fault of a reader that has looked at, or read, the first byte of `cs` and no more.
def Fault.at (mistake : Mistake) (cs : List Char) : Fault :=
  ⟨mistake, byteCount cs - 1⟩

-- The fault of a reader that has read everything before `cs`.
def Fault.before (mistake : Mistake) (cs : List Char) : Fault :=
  ⟨mistake, byteCount cs⟩

def Fault.atEnd (mistake : Mistake) : Fault :=
  ⟨mistake, 0⟩

def isSpace (c : Char) : Bool :=
  c = ' ' || c = '\n' || c = '\r' || c = '\t'

-- Reads the rest of a word of the language.
def scanWord (value : Json) : List Char → List Char → Scan Json
  | [], cs => .ok (value, cs)
  | _ :: _, [] => .error (.atEnd .endInValue)
  | e :: expected, c :: cs =>
      if c = e then scanWord value expected cs else .error (.at .expectedWord (c :: cs))

def hexValue? (c : Char) : Option Nat :=
  if '0' ≤ c ∧ c ≤ '9' then some (c.toNat - '0'.toNat)
  else if 'a' ≤ c ∧ c ≤ 'f' then some (c.toNat - 'a'.toNat + 10)
  else if 'A' ≤ c ∧ c ≤ 'F' then some (c.toNat - 'A'.toNat + 10)
  else none

-- The number that four hexadecimal digits stand for.
def hexUnit? : List Char → Option (Nat × List Char)
  | a :: b :: c :: d :: rest =>
      match hexValue? a, hexValue? b, hexValue? c, hexValue? d with
      | some a, some b, some c, some d => some (((a * 16 + b) * 16 + c) * 16 + d, rest)
      | _, _, _, _ => none
  | _ => none

-- Four hexadecimal digits. Four bytes are read before they are looked at.
def scanHex (cs : List Char) : Scan Nat :=
  match hexUnit? cs with
  | some unit => .ok unit
  | none =>
      if byteCount (cs.take 4) < 4 then .error (.atEnd .endInString)
      else .error ⟨.invalidEscape, byteCount cs - 4⟩

def isHighSurrogate (n : Nat) : Bool := 0xD800 ≤ n && n ≤ 0xDBFF
def isLowSurrogate (n : Nat) : Bool := 0xDC00 ≤ n && n ≤ 0xDFFF

-- The second escape of a pair, for a low surrogate.
def scanLow (high : Nat) (cs : List Char) : Scan Char :=
  match scanHex cs with
  | .error fault => .error fault
  | .ok (low, rest) =>
      if isLowSurrogate low then .ok (Char.ofNat (0x10000 + (high - 0xD800) * 0x400 + (low - 0xDC00)), rest)
      else .error (.before .loneSurrogate rest)

-- What has to stand behind the escape of a high surrogate.
def scanPair (high : Nat) : List Char → Scan Char
  | [] | ['\\'] => .error (.atEnd .endInString)
  | '\\' :: 'u' :: rest => scanLow high rest
  | '\\' :: rest => .error (.at .unfinishedSurrogate rest)
  | rest => .error (.at .unfinishedSurrogate rest)

-- The escape for a code unit.
def scanUnit (cs : List Char) : Scan Char :=
  match scanHex cs with
  | .error fault => .error fault
  | .ok (unit, rest) =>
      if isLowSurrogate unit then .error (.before .loneSurrogate rest)
      else if isHighSurrogate unit then scanPair unit rest
      else .ok (Char.ofNat unit, rest)

-- The escape behind a backslash.
def scanEscape : List Char → Scan Char
  | [] => .error (.atEnd .endInString)
  | '"' :: rest => .ok ('"', rest)
  | '\\' :: rest => .ok ('\\', rest)
  | '/' :: rest => .ok ('/', rest)
  | 'b' :: rest => .ok ('\x08', rest)
  | 'f' :: rest => .ok ('\x0c', rest)
  | 'n' :: rest => .ok ('\n', rest)
  | 'r' :: rest => .ok ('\r', rest)
  | 't' :: rest => .ok ('\t', rest)
  | 'u' :: rest => scanUnit rest
  | rest => .error (.at .invalidEscape rest)

theorem length_dropWhile_le (p : Char → Bool) (cs : List Char) : (cs.dropWhile p).length ≤ cs.length :=
  (List.dropWhile_suffix p).length_le

theorem hexUnit?_length {cs rest : List Char} {n : Nat} (h : hexUnit? cs = some (n, rest)) :
    rest.length < cs.length := by
  unfold hexUnit? at h
  split at h
  · split at h
    · simp only [Option.some.injEq, Prod.mk.injEq] at h
      simp only [← h.2, List.length_cons]
      omega
    · simp at h
  · simp at h

theorem scanHex_length {cs rest : List Char} {n : Nat} (h : scanHex cs = .ok (n, rest)) :
    rest.length < cs.length := by
  unfold scanHex at h
  split at h
  · rename_i hx
    simp only [Except.ok.injEq] at h
    exact hexUnit?_length (h ▸ hx)
  · split at h <;> simp at h

theorem scanLow_length {cs rest : List Char} {high : Nat} {c : Char}
    (h : scanLow high cs = .ok (c, rest)) : rest.length < cs.length := by
  unfold scanLow at h
  split at h
  · simp at h
  · rename_i hx
    have := scanHex_length hx
    split at h
    · simp only [Except.ok.injEq, Prod.mk.injEq] at h
      rwa [← h.2]
    · simp at h

theorem scanPair_length {cs rest : List Char} {high : Nat} {c : Char}
    (h : scanPair high cs = .ok (c, rest)) : rest.length < cs.length := by
  unfold scanPair at h
  split at h
  · simp at h
  · simp at h
  · have := scanLow_length h
    simp only [List.length_cons]
    omega
  · simp at h
  · simp at h

theorem scanUnit_length {cs rest : List Char} {c : Char} (h : scanUnit cs = .ok (c, rest)) :
    rest.length < cs.length := by
  unfold scanUnit at h
  split at h
  · simp at h
  · rename_i hx
    have := scanHex_length hx
    split at h
    · simp at h
    split at h
    · have := scanPair_length h
      omega
    · simp only [Except.ok.injEq, Prod.mk.injEq] at h
      rwa [← h.2]

theorem scanEscape_length {cs rest : List Char} {c : Char} (h : scanEscape cs = .ok (c, rest)) :
    rest.length < cs.length := by
  unfold scanEscape at h
  split at h
  case h_10 =>
    have := scanUnit_length h
    simp only [List.length_cons]
    omega
  all_goals simp_all

-- The rest of a string behind its opening quote; `done` holds what is read, the last first.
def scanString (done : List Char) (cs : List Char) : Scan String :=
  match cs with
  | [] => .error (.atEnd .endInString)
  | '"' :: rest => .ok (String.ofList done.reverse, rest)
  | '\\' :: rest =>
      match _h : scanEscape rest with
      | .error fault => .error fault
      | .ok (c, tail) => scanString (c :: done) tail
  | c :: rest =>
      if c.toNat < 0x20 then .error (.before .controlCharacter rest) else scanString (c :: done) rest
termination_by cs.length
decreasing_by
  · have := scanEscape_length _h
    simp only [List.length_cons]
    omega
  · simp

-- The largest exponent that is read; a longer one decides the number at once.
def exponentBound : Nat := 0x7FFFFFFF

-- The value of an exponent's digits, or what is left of them once they pass the bound.
def scanExponent (value : Nat) : List Char → Except (List Char) Nat
  | [] => .ok value
  | d :: rest =>
      let next := value * 10 + (d.toNat - '0'.toNat)
      if exponentBound < next then .error rest else scanExponent next rest

-- The digits of a number as far as a machine word holds them, and a power of ten for the place of the
-- last one.
structure Significand where
  value : UInt64
  power : Int

-- Appends digits to a value up to the first one with which it would not fit a machine word, and
-- gives back those that are left.
def appendDigits (value : UInt64) : List Char → UInt64 × List Char
  | [] => (value, [])
  | d :: rest =>
      let next := value.toNat * 10 + (d.toNat - '0'.toNat)
      if h : next < UInt64.size then appendDigits (.ofNatLT next h) rest else (value, d :: rest)

-- Digits of a whole part that are left count as zeros, and those of a fraction as nothing.
def Significand.ofWhole (digits : List Char) : Significand :=
  let (value, left) := appendDigits 0 digits
  ⟨value, left.length⟩

def Significand.withFraction (s : Significand) (digits : List Char) : Significand :=
  let (value, left) := appendDigits s.value digits
  ⟨value, s.power - (digits.length - left.length)⟩

-- The number of a significand, its power of ten changed by an exponent; infinity is out of range.
def scanScaled (negative : Bool) (s : Significand) (exponent : Int) (rest : List Char) : Scan Number :=
  match Binary64.ofDecimal? negative s.value.toNat (s.power + exponent) with
  | some x => .ok (.real x, rest)
  | none => .error (.before .numberOutOfRange rest)

-- The number behind an exponent's sign.
def scanDigits (negative : Bool) (s : Significand) (down : Bool) (cs : List Char) : Scan Number :=
  let digits := cs.takeWhile Char.isDigit
  let rest := cs.dropWhile Char.isDigit
  if digits.isEmpty then
    .error (if cs.isEmpty then .atEnd .endInValue else .at .invalidNumber cs)
  else match scanExponent 0 digits with
    | .ok e => scanScaled negative s (if down then -e else e) rest
    | .error left =>
        if s.value = 0 ∨ down then .ok (.real (.zero negative), rest)
        else .error (.before .numberOutOfRange (left ++ rest))

-- The number behind an exponent's mark.
def scanPower (negative : Bool) (s : Significand) : List Char → Scan Number
  | '-' :: rest => scanDigits negative s true rest
  | '+' :: rest => scanDigits negative s false rest
  | cs => scanDigits negative s false cs

-- A whole number stays exact where a machine word holds it.
def scanWhole (negative : Bool) (s : Significand) (rest : List Char) : Scan Number :=
  if s.power ≠ 0 then scanScaled negative s 0 rest
  else if negative then
    if h : s.value.toNat - 1 < 0x8000000000000000 then
      if s.value = 0 then .ok (.real (.zero true), rest) else .ok (.negative ⟨s.value.toNat - 1, h⟩, rest)
    else scanScaled true s 0 rest
  else .ok (.natural s.value, rest)

-- The number behind its whole part.
def scanFraction (negative : Bool) (s : Significand) (cs : List Char) : Scan Number :=
  match cs with
  | '.' :: cs =>
      let digits := cs.takeWhile Char.isDigit
      let rest := cs.dropWhile Char.isDigit
      if digits.isEmpty then
        .error (if rest.isEmpty then .atEnd .endInValue else .at .invalidNumber rest)
      else match rest with
        | 'e' :: rest | 'E' :: rest => scanPower negative (s.withFraction digits) rest
        | rest => scanScaled negative (s.withFraction digits) 0 rest
  | 'e' :: rest | 'E' :: rest => scanPower negative s rest
  | rest => scanWhole negative s rest

-- A number behind its sign. A zero in front is the whole of the whole part.
def scanNumber (negative : Bool) (cs : List Char) : Scan Number :=
  match cs with
  | [] => .error (.atEnd .endInValue)
  | '0' :: rest =>
      if (rest.takeWhile Char.isDigit).isEmpty then scanFraction negative ⟨0, 0⟩ rest
      else .error (.at .invalidNumber rest)
  | cs =>
      let digits := cs.takeWhile Char.isDigit
      if digits.isEmpty then .error (.at .invalidNumber cs)
      else scanFraction negative (.ofWhole digits) (cs.dropWhile Char.isDigit)

theorem scanWord_length {value read : Json} {expected cs rest : List Char}
    (h : scanWord value expected cs = .ok (read, rest)) : rest.length ≤ cs.length := by
  induction expected generalizing cs with
  | nil =>
      simp only [scanWord, Except.ok.injEq, Prod.mk.injEq] at h
      simp [h.2]
  | cons e expected ih =>
      cases cs with
      | nil => simp [scanWord] at h
      | cons c cs =>
          simp only [scanWord] at h
          split at h
          · have := ih h
            simp only [List.length_cons]
            omega
          · simp at h

theorem scanString_length {done cs rest : List Char} {s : String}
    (h : scanString done cs = .ok (s, rest)) : rest.length ≤ cs.length := by
  fun_induction scanString done cs with
  | case1 => simp at h
  | case2 done tail =>
      simp only [Except.ok.injEq, Prod.mk.injEq] at h
      simp [h.2]
  | case3 => simp at h
  | case4 done tail c final he ih =>
      have := scanEscape_length he
      have := ih h
      simp only [List.length_cons]
      omega
  | case5 => simp at h
  | case6 done c tail _ _ _ ih =>
      have := ih h
      simp only [List.length_cons]
      omega

theorem scanScaled_rest {negative : Bool} {s : Significand} {exponent : Int} {cs rest : List Char} {n : Number}
    (h : scanScaled negative s exponent cs = .ok (n, rest)) : rest = cs := by
  unfold scanScaled at h
  split at h
  · simp only [Except.ok.injEq, Prod.mk.injEq] at h
    exact h.2.symm
  · simp at h

theorem scanPower_length {negative : Bool} {s : Significand} {cs rest : List Char} {n : Number}
    (h : scanPower negative s cs = .ok (n, rest)) : rest.length ≤ cs.length := by
  have hsplit (down : Bool) (ds : List Char) (hs : ds.length ≤ cs.length)
      (h : scanDigits negative s down ds = .ok (n, rest)) : rest.length ≤ cs.length := by
    have hl := length_dropWhile_le Char.isDigit ds
    unfold scanDigits at h
    simp only at h
    split at h
    · simp at h
    split at h
    · rw [scanScaled_rest h]
      omega
    · split at h
      · simp only [Except.ok.injEq, Prod.mk.injEq] at h
        rw [← h.2]
        omega
      · simp at h
  unfold scanPower at h
  split at h
  · exact hsplit true _ (by simp) h
  · exact hsplit false _ (by simp) h
  · exact hsplit false _ (Nat.le_refl _) h

theorem scanWhole_rest {negative : Bool} {s : Significand} {cs rest : List Char} {n : Number}
    (h : scanWhole negative s cs = .ok (n, rest)) : rest = cs := by
  unfold scanWhole at h
  repeat' split at h
  all_goals first
    | exact scanScaled_rest h
    | (simp only [Except.ok.injEq, Prod.mk.injEq] at h; exact h.2.symm)

theorem scanFraction_length {negative : Bool} {s : Significand} {cs rest : List Char} {n : Number}
    (h : scanFraction negative s cs = .ok (n, rest)) : rest.length ≤ cs.length := by
  unfold scanFraction at h
  split at h
  · rename_i tail
    have hl := length_dropWhile_le Char.isDigit tail
    simp only at h
    split at h
    · simp at h
    split at h
    · rename_i next hr
      have := scanPower_length h
      simp only [hr, List.length_cons] at *
      omega
    · rename_i next hr
      have := scanPower_length h
      simp only [hr, List.length_cons] at *
      omega
    · rw [scanScaled_rest h]
      simp only [List.length_cons]
      omega
  · have := scanPower_length h
    simp only [List.length_cons]
    omega
  · have := scanPower_length h
    simp only [List.length_cons]
    omega
  · exact Nat.le_of_eq (congrArg List.length (scanWhole_rest h))

theorem scanNumber_length {negative : Bool} {cs rest : List Char} {n : Number}
    (h : scanNumber negative cs = .ok (n, rest)) : rest.length < cs.length := by
  unfold scanNumber at h
  split at h
  · simp at h
  · split at h
    · have := scanFraction_length h
      simp only [List.length_cons]
      omega
    · simp at h
  · simp only at h
    split at h
    · simp at h
    · rename_i hd
      have hf := scanFraction_length h
      cases cs with
      | nil => simp at hd
      | cons c tail =>
          cases hc : c.isDigit with
          | false => simp [hc] at hd
          | true =>
              rw [List.dropWhile_cons_of_pos hc] at hf
              have := length_dropWhile_le Char.isDigit tail
              simp only [List.length_cons]
              omega

-- The lexeme that a scan has read; the text behind a fault is of no use.
def Lexeme.ofScan {α : Type} (make : α → Lexeme) (broken : Fault → Lexeme) : Scan α → Lexeme × List Char
  | .ok (value, rest) => (make value, rest)
  | .error fault => (broken fault, [])

def Lexeme.ofWord (value : Json) (expected rest : List Char) : Lexeme × List Char :=
  ofScan .scalar .brokenScalar (scanWord value expected rest)

def Lexeme.ofNumber (negative : Bool) (cs : List Char) : Lexeme × List Char :=
  ofScan (fun n => .scalar (.number n)) .brokenScalar (scanNumber negative cs)

-- The lexeme that starts with a character, and the text behind it.
def Lexeme.next (c : Char) (rest : List Char) : Lexeme × List Char :=
  match c with
  | '[' => (.listOpen, rest)
  | ']' => (.listClose, rest)
  | '{' => (.objectOpen, rest)
  | '}' => (.objectClose, rest)
  | ',' => (.comma, rest)
  | ':' => (.colon, rest)
  | '"' => ofScan .string .brokenString (scanString [] rest)
  | 'n' => ofWord .null ['u', 'l', 'l'] rest
  | 't' => ofWord (.bool true) ['r', 'u', 'e'] rest
  | 'f' => ofWord (.bool false) ['a', 'l', 's', 'e'] rest
  | '-' => ofNumber true rest
  | c =>
      if c.isDigit then ofNumber false (c :: rest) else (.stray, rest)

theorem Lexeme.ofScan_length {α : Type} {make : α → Lexeme} {broken : Fault → Lexeme} {scan : Scan α}
    {bound : Nat} (h : ∀ value rest, scan = .ok (value, rest) → rest.length ≤ bound) :
    (ofScan make broken scan).2.length ≤ bound := by
  cases scan with
  | error f => simp [ofScan]
  | ok p => exact h p.1 p.2 rfl

theorem Lexeme.next_length (c : Char) (rest : List Char) :
    (Lexeme.next c rest).2.length ≤ rest.length := by
  unfold Lexeme.next
  split <;> try exact Nat.le_refl _
  · exact ofScan_length fun _ _ h => scanString_length h
  · exact ofScan_length fun _ _ h => scanWord_length h
  · exact ofScan_length fun _ _ h => scanWord_length h
  · exact ofScan_length fun _ _ h => scanWord_length h
  · exact ofScan_length fun _ _ h => Nat.le_of_lt (scanNumber_length h)
  · split
    · exact ofScan_length fun _ _ h => Nat.le_of_lt_succ (scanNumber_length h)
    · exact Nat.le_refl _

end Statechart.Json
