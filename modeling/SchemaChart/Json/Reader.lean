/-
Reading JSON text. A reader takes the characters left and gives a value with the characters left after
it, which are fewer; or it stops with a problem and the characters from the place of the problem on.
Beyond the standard, the words for infinities and for no number are read. Of members with one name the
last counts, at the place of the first. Strings are texts of characters: one with half a surrogate pair, which
a reader may also keep as a text that is no Unicode, is refused here.
-/
import SchemaChart.Json.Basic
import SchemaChart.Json.Fault
import SchemaChart.Text.Basic

namespace SchemaChart.Json.Reader

/-- A problem and the characters from its place on. -/
abbrev Stop := Problem × List Char

/-- Characters left after reading something from `s`. -/
abbrev Rest (s : List Char) := { r : List Char // r.length < s.length }

/-- What reading from `s` gives. -/
abbrev Read (α : Type) (s : List Char) := Except Stop (α × Rest s)

/-! ## Blanks and words -/

/-- Blanks between tokens. -/
def isBlank (c : Char) : Bool := c == ' ' || c == '\t' || c == '\n' || c == '\r'

def skip (s : List Char) : List Char := s.dropWhile isBlank

theorem length_skip_le (s : List Char) : (skip s).length ≤ s.length := by
  simpa [skip] using (List.dropWhile_sublist (p := isBlank) (l := s)).length_le

/-- Words that stand for a value. -/
def words : List (List Char × Json) :=
  [("null".toList, .null), ("true".toList, .bool true), ("false".toList, .bool false), ("NaN".toList, .real .nan),
    ("Infinity".toList, .real (.infinite false)), ("-Infinity".toList, .real (.infinite true))]

/-- A word at the beginning. -/
def word? (s : List Char) : Option (Json × Rest s) :=
  words.findSome? fun (w, v) =>
    if h : w.isPrefixOf s = true ∧ 0 < w.length then
      some (v, ⟨s.drop w.length, by
        have hl : w.length ≤ s.length := (List.isPrefixOf_iff_prefix.1 h.1).length_le
        have := h.2
        rw [List.length_drop]; omega⟩)
    else none

/-! ## Numbers -/

/-- The digits at the beginning, and what is left. -/
def digits (s : List Char) : List Char × List Char := (s.takeWhile Char.isDigit, s.dropWhile Char.isDigit)

theorem length_digits_le (s : List Char) : (digits s).2.length ≤ s.length :=
  (List.dropWhile_sublist (p := Char.isDigit) (l := s)).length_le

/-- The number of decimal digits. -/
def value (ds : List Char) : Nat := ds.foldl (fun n c => 10 * n + (c.toNat - '0'.toNat)) 0

/-- A minus sign, if there is one. -/
def sign (s : List Char) : Bool × List Char :=
  match s with
  | '-' :: r => (true, r)
  | _ => (false, s)

theorem length_sign_le (s : List Char) : (sign s).2.length ≤ s.length := by
  unfold sign; split <;> simp

/-- The part before the point: a zero, or digits that do not begin with one. -/
def whole? (s : List Char) : Option (List Char × Rest s) :=
  match s with
  | '0' :: r => some (['0'], ⟨r, by simp⟩)
  | c :: r =>
    if c.isDigit then
      some (c :: (digits r).1, ⟨(digits r).2, by
        have := length_digits_le r
        simp only [List.length_cons]; omega⟩)
    else none
  | [] => none

/-- A point with at least one digit, if that follows. -/
def fraction (s : List Char) : List Char × List Char :=
  match s with
  | '.' :: r => if (digits r).1 = [] then ([], s) else digits r
  | _ => ([], s)

theorem length_fraction_le (s : List Char) : (fraction s).2.length ≤ s.length := by
  unfold fraction
  split
  · rename_i r
    split
    · simp
    · have := length_digits_le r
      simp only [List.length_cons]; omega
  · simp

/-- A sign of an exponent, if there is one. -/
def exponentSign (s : List Char) : Bool × List Char :=
  match s with
  | '-' :: r => (true, r)
  | '+' :: r => (false, r)
  | _ => (false, s)

theorem length_exponentSign_le (s : List Char) : (exponentSign s).2.length ≤ s.length := by
  unfold exponentSign; split <;> simp

/-- An exponent, if one follows. -/
def exponent? (s : List Char) : Option (Int × List Char) :=
  match s with
  | c :: r =>
    if c = 'e' ∨ c = 'E' then
      let (negative, t) := exponentSign r
      let (ds, left) := digits t
      if ds = [] then none else some (if negative then -(value ds : Int) else (value ds : Int), left)
    else none
  | [] => none

theorem length_exponent_le {s r : List Char} {e : Int} (h : exponent? s = some (e, r)) :
    r.length ≤ s.length := by
  unfold exponent? at h
  split at h
  · rename_i c t
    have h1 := length_exponentSign_le t
    have h2 := length_digits_le (exponentSign t).2
    split at h
    · dsimp only at h
      split at h
      · cases h
      · simp only [Option.some.injEq, Prod.mk.injEq] at h
        rw [List.length_cons, ← h.2]; omega
    · cases h
  · cases h

/-- A number at the beginning: a double if it has a fraction or an exponent, else a whole number. -/
def number? (s : List Char) : Option (Except Problem Json × Rest s) :=
  match whole? (sign s).2 with
  | none => none
  | some (ds, ⟨r, hr⟩) =>
    have hs := length_sign_le s
    have hf := length_fraction_le r
    let negative := (sign s).1
    let frac := (fraction r).1
    match he : exponent? (fraction r).2 with
    | some (e, left) =>
      some (.ok (.real (.ofDecimal negative (value (ds ++ frac)) (e - (frac.length : Int)))),
        ⟨left, by have := length_exponent_le he; omega⟩)
    | none =>
      let v : Except Problem Json :=
        if frac ≠ [] then .ok (.real (.ofDecimal negative (value (ds ++ frac)) (-(frac.length : Int))))
        else if maxDigits < ds.length then .error (.tooManyDigits ds.length)
        else .ok (.int (if negative then -(value ds : Int) else (value ds : Int)))
      some (v, ⟨(fraction r).2, by omega⟩)

/-! ## Strings -/

/-- The number of four hexadecimal digits. -/
def hex4? (a b c d : Char) : Option Nat := do
  let a ← Text.hexDigit? a
  let b ← Text.hexDigit? b
  let c ← Text.hexDigit? c
  let d ← Text.hexDigit? d
  pure (((a * 16 + b) * 16 + c) * 16 + d)

/-- The character of an escape by letter. -/
def shortEscape? (c : Char) : Option Char :=
  [('"', '"'), ('\\', '\\'), ('/', '/'), ('b', '\x08'), ('f', '\x0c'), ('n', '\n'), ('r', '\r'), ('t', '\t')].lookup c

/-- Whether a code unit is half of a surrogate pair. -/
def isSurrogate (n : Nat) : Bool := 0xd800 ≤ n && n < 0xe000

/-- The characters of code units: a high surrogate and the low one after it make one character. There are
none if another surrogate is left. -/
def ofUnits? : List Nat → Option (List Char)
  | a :: b :: rest =>
    if 0xd800 ≤ a ∧ a < 0xdc00 ∧ 0xdc00 ≤ b ∧ b < 0xe000 then
      (ofUnits? rest).map (Char.ofNat (0x10000 + (a - 0xd800) * 0x400 + (b - 0xdc00)) :: ·)
    else if isSurrogate a then none
    else (ofUnits? (b :: rest)).map (Char.ofNat a :: ·)
  | [a] => if isSurrogate a then none else some [Char.ofNat a]
  | [] => some []

/-- The code units up to the closing quote. `start` is the text from the opening quote on. -/
def units (start : List Char) : (s : List Char) → Read (List Nat) s
  | [] => .error (.unterminatedString, start)
  | '"' :: r => .ok ([], ⟨r, by simp⟩)
  | ['\\'] => .error (.unterminatedString, start)
  | '\\' :: 'u' :: a :: b :: c :: d :: r =>
    match hex4? a b c d with
    | some n =>
      if r = [] then .error (.invalidUnicodeEscape, 'u' :: a :: b :: c :: d :: r)
      else do
        let (ns, ⟨left, h⟩) ← units start r
        pure (n :: ns, ⟨left, by simp only [List.length_cons]; omega⟩)
    | none => .error (.invalidUnicodeEscape, 'u' :: a :: b :: c :: d :: r)
  | '\\' :: e :: r =>
    match shortEscape? e with
    | some c => do
      let (ns, ⟨left, h⟩) ← units start r
      pure (c.toNat :: ns, ⟨left, by simp only [List.length_cons]; omega⟩)
    | none => .error (if e = 'u' then (.invalidUnicodeEscape, e :: r) else (.invalidEscape, '\\' :: e :: r))
  | c :: r =>
    if c.toNat < 0x20 then .error (.invalidControl, c :: r)
    else do
      let (ns, ⟨left, h⟩) ← units start r
      pure (c.toNat :: ns, ⟨left, by simp only [List.length_cons]; omega⟩)

/-- A string behind its opening quote. -/
def string (start s : List Char) : Read String s := do
  let (ns, left) ← units start s
  match ofUnits? ns with
  | some text => pure (String.ofList text, left)
  | none => .error (.loneSurrogate, start)

/-! ## Values -/

mutual

/-- A value, where one must begin at once. -/
def readValue (s : List Char) : Read Json s :=
  match s with
  | [] => .error (.expectedValue, [])
  | '"' :: r => do
    let (text, ⟨left, h⟩) ← string ('"' :: r) r
    pure (.str text, ⟨left, by simp only [List.length_cons]; omega⟩)
  | '[' :: r =>
    have hk := length_skip_le r
    match hr : skip r with
    | ']' :: left => .ok (.arr [], ⟨left, by simp [hr] at hk; simp only [List.length_cons]; omega⟩)
    | _ => do
      let (items, ⟨left, h⟩) ← readItems (skip r)
      pure (.arr items, ⟨left, by simp only [List.length_cons]; omega⟩)
  | '\x7b' :: r =>
    have hk := length_skip_le r
    match hr : skip r with
    | '\x7d' :: left => .ok (.obj [], ⟨left, by simp [hr] at hk; simp only [List.length_cons]; omega⟩)
    | _ => do
      let (members, ⟨left, h⟩) ← readMembers (skip r)
      pure (.obj (Dictionary.ofPairs members), ⟨left, by simp only [List.length_cons]; omega⟩)
  | c :: r =>
    match word? (c :: r) with
    | some found => .ok found
    | none =>
      match number? (c :: r) with
      | some (.ok v, left) => .ok (v, left)
      | some (.error problem, _) => .error (problem, c :: r)
      | none => .error (.expectedValue, c :: r)
  termination_by 3 * s.length + 1
  decreasing_by
    all_goals simp only [List.length_cons]; omega

/-- The items from one that must begin at once up to the closing bracket. -/
def readItems (s : List Char) : Read (List Json) s := do
  let (v, ⟨r, h⟩) ← readValue s
  have hk := length_skip_le r
  match hr : skip r with
  | ']' :: left => pure ([v], ⟨left, by simp [hr] at hk; omega⟩)
  | ',' :: next =>
    have hn := length_skip_le next
    let (vs, ⟨left, h'⟩) ← readItems (skip next)
    pure (v :: vs, ⟨left, by simp [hr] at hk; omega⟩)
  | stop => .error (.expectedComma, stop)
  termination_by 3 * s.length + 2
  decreasing_by
    all_goals (try simp [hr] at hk); omega

/-- The members from one that must begin at once up to the closing brace. -/
def readMembers (s : List Char) : Read (List (String × Json)) s :=
  match s with
  | '"' :: q => do
    let (name, ⟨afterName, h1⟩) ← string ('"' :: q) q
    have k1 := length_skip_le afterName
    match hc : skip afterName with
    | ':' :: afterColon => do
      have k2 := length_skip_le afterColon
      let (v, ⟨r, h2⟩) ← readValue (skip afterColon)
      have hk := length_skip_le r
      match hr : skip r with
      | '\x7d' :: left =>
        pure ([(name, v)], ⟨left, by simp [hr] at hk; simp [hc] at k1; simp only [List.length_cons]; omega⟩)
      | ',' :: next =>
        have hn := length_skip_le next
        let (ms, ⟨left, h'⟩) ← readMembers (skip next)
        pure ((name, v) :: ms, ⟨left, by simp [hr] at hk; simp [hc] at k1; simp only [List.length_cons]; omega⟩)
      | stop => .error (.expectedComma, stop)
    | stop => .error (.expectedColon, stop)
  | stop => .error (.expectedName, stop)
  termination_by 3 * s.length
  decreasing_by
    all_goals (try simp [hr] at hk); simp [hc] at k1; simp only [List.length_cons]; omega

end

end SchemaChart.Json.Reader

namespace SchemaChart.Json

/-- The value of a text of characters. -/
def Reader.text (s : List Char) : Except Reader.Stop Json :=
  if s.head? = some '\ufeff' then .error (.byteOrderMark, s)
  else do
    let (v, ⟨r, _⟩) ← Reader.readValue (Reader.skip s)
    if Reader.skip r = [] then pure v else .error (.extraData, Reader.skip r)

/-- The value that a text stands for. -/
def parse (text : String) : Except Fault Json :=
  let s := text.toList
  match Reader.text s with
  | .ok v => .ok v
  | .error (problem, left) => .error (Fault.after (s.take (s.length - left.length)) problem)

end SchemaChart.Json
