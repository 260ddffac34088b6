import UrlRouting.Json.Mistake

/-!
Reading of JSON texts.  A reader takes characters from the front and gives those that are left;
arrays and objects that are still open are kept as a list of frames, innermost first.
-/

namespace UrlRouting.Json

/-! ### Texts -/

def escaped? (char : Char) : Option Char :=
  match char with
  | '"' => some '"'
  | '\\' => some '\\'
  | '/' => some '/'
  | 'b' => some '\x08'
  | 'f' => some '\x0c'
  | 'n' => some '\n'
  | 'r' => some '\r'
  | 't' => some '\t'
  | _ => none

/-- Whether a number is the first half of a character beyond the first 65536. -/
def isHighHalf (code : Nat) : Bool := 0xd800 ≤ code && code < 0xdc00

def isLowHalf (code : Nat) : Bool := 0xdc00 ≤ code && code < 0xe000

def joinHalves (high low : Nat) : Char :=
  Char.ofNat (0x10000 + (high - 0xd800) * 1024 + (low - 0xdc00))

/-- The character of a code; a half without the other is replaced. -/
def charOfCode (code : Nat) : Char :=
  if 0xd800 ≤ code && code < 0xe000 then '\ufffd' else Char.ofNat code

/-- The character of four hexadecimal digits, with the characters after them.  `place` is the
number of characters from the letter before the digits to the end.  The text must go on after the
digits.  Two halves in a row are one character. -/
def readCode (place : Nat) (chars : List Char) : Except Fault (Char × List Char) :=
  match chars with
  | a :: b :: c :: d :: next :: rest =>
      match Text.hexNumber? 4 [a, b, c, d] with
      | none => .error (.form .incompleteEscape place)
      | some high =>
          match isHighHalf high, next, rest with
          | true, '\\', 'u' :: e :: f :: g :: h :: following :: rest =>
              match Text.hexNumber? 4 [e, f, g, h] with
              | none => .error (.form .incompleteEscape (rest.length + 6))
              | some low =>
                  if isLowHalf low then .ok (joinHalves high low, following :: rest)
                  else .ok (charOfCode high, chars.drop 4)
          | _, _, _ => .ok (charOfCode high, next :: rest)
  | _ => .error (.form .incompleteEscape place)

/-- The character of an escape, without its backslash, and the characters after it.  Something
must stand behind the backslash. -/
def readEscape (chars : List Char) : Except Fault (Char × List Char) :=
  match chars with
  | [] => .error (.form .unknownEscape 1)
  | 'u' :: rest => readCode (rest.length + 1) rest
  | char :: rest =>
      match escaped? char with
      | some char => .ok (char, rest)
      | none => .error (.form .unknownEscape (rest.length + 2))

theorem readCode_length {place : Nat} {chars : List Char} {char : Char} {rest : List Char}
    (h : readCode place chars = .ok (char, rest)) : rest.length ≤ chars.length := by
  unfold readCode at h
  split at h
  · split at h
    · cases h
    · split at h
      · split at h
        · cases h
        · split at h <;>
          · simp only [Except.ok.injEq, Prod.mk.injEq] at h
            obtain ⟨-, rfl⟩ := h
            simp only [List.length_cons, List.length_drop]
            omega
      · simp only [Except.ok.injEq, Prod.mk.injEq] at h
        obtain ⟨-, rfl⟩ := h
        simp only [List.length_cons]
        omega
  · cases h

theorem readEscape_length {chars : List Char} {char : Char} {rest : List Char}
    (h : readEscape chars = .ok (char, rest)) : rest.length < chars.length := by
  unfold readEscape at h
  split at h
  · cases h
  · have := readCode_length h; simp; omega
  · split at h <;> cases h; simp

def prepend (char : Char) (result : Except Fault (List Char × List Char)) :
    Except Fault (List Char × List Char) :=
  result.map fun (text, rest) => (char :: text, rest)

theorem prepend_eq_ok {char : Char} {result : Except Fault (List Char × List Char)}
    {text rest : List Char} :
    prepend char result = .ok (text, rest) ↔
      ∃ tail, result = .ok (tail, rest) ∧ char :: tail = text := by
  cases result with
  | error _ => simp [prepend, Except.map]
  | ok read => simp [prepend, Except.map, Prod.ext_iff]; grind

/-- The characters of a text up to its closing quote, and the characters after the quote.
`opening` is the number of characters from the opening quote to the end. -/
def readText (opening : Nat) (chars : List Char) : Except Fault (List Char × List Char) :=
  match chars with
  | [] => .error (.form .unterminatedText opening)
  | '"' :: rest => .ok ([], rest)
  | '\\' :: rest =>
      if rest.isEmpty then .error (.form .unterminatedText opening)
      else
        match _h : readEscape rest with
        | .error fault => .error fault
        | .ok (char, rest) => prepend char (readText opening rest)
  | char :: rest =>
      if char.toNat < 32 then .error (.form .controlCharacter (rest.length + 1))
      else prepend char (readText opening rest)
termination_by chars.length
decreasing_by
  · have := readEscape_length _h; simp; omega
  · simp

/-! ### Numbers -/

structure Numeral where
  negative : Bool
  whole : List Char
  fraction : List Char
  exponent : Option Int
  deriving Repr

/-- The digits before the point, with what is behind them: a zero, or digits that do not start with
one. -/
def readWhole (chars : List Char) : List Char × List Char :=
  match chars with
  | '0' :: rest => (['0'], rest)
  | chars => (chars.takeWhile Char.isDigit, chars.dropWhile Char.isDigit)

/-- The digits behind a point, with what is behind them.  A point without digits is left. -/
def readFraction (chars : List Char) : List Char × List Char :=
  match chars with
  | '.' :: rest =>
      let digits := rest.takeWhile Char.isDigit
      if digits.isEmpty then ([], chars) else (digits, rest.dropWhile Char.isDigit)
  | chars => ([], chars)

def readExponent (chars : List Char) : Option Int × List Char :=
  match chars with
  | mark :: rest =>
      if mark == 'e' || mark == 'E' then
        let (negative, rest) := match rest with
          | '-' :: rest => (true, rest)
          | '+' :: rest => (false, rest)
          | rest => (false, rest)
        let digits := rest.takeWhile Char.isDigit
        if digits.isEmpty then (none, chars)
        else
          let size : Int := Text.numberOf 10 digits
          (some (if negative then -size else size), rest.dropWhile Char.isDigit)
      else (none, chars)
  | [] => (none, [])

def readUnsigned? (negative : Bool) (chars : List Char) : Option (Numeral × List Char) :=
  let (whole, rest) := readWhole chars
  if whole.isEmpty then none
  else
    let (fraction, rest) := readFraction rest
    let (exponent, rest) := readExponent rest
    some (⟨negative, whole, fraction, exponent⟩, rest)

def readNumeral? (chars : List Char) : Option (Numeral × List Char) :=
  match chars with
  | '-' :: rest => readUnsigned? true rest
  | chars => readUnsigned? false chars

/-- The value of a number: an integer if it has neither point nor exponent. -/
def Numeral.value (numeral : Numeral) : Except ScalarFault Value :=
  if numeral.fraction.isEmpty && numeral.exponent.isNone then
    (integerOfDigits numeral.negative numeral.whole).map .int
  else
    .ok (.float (.ofDecimal numeral.negative
      (Text.numberOf 10 (numeral.whole ++ numeral.fraction))
      (numeral.exponent.getD 0 - numeral.fraction.length)))

/-! ### Values without brackets -/

def words : List (List Char × Value) := [
  ("null".toList, .null), ("true".toList, .bool true), ("false".toList, .bool false),
  ("NaN".toList, .float .nan), ("Infinity".toList, .float (.infinite false)),
  ("-Infinity".toList, .float (.infinite true))]

def readWord? (chars : List Char) : List (List Char × Value) → Option (Value × List Char)
  | [] => none
  | (word, value) :: others =>
      if word.isPrefixOf chars then some (value, chars.drop word.length)
      else readWord? chars others

def readScalar (chars : List Char) : Except Fault (Value × List Char) :=
  match readWord? chars words with
  | some found => .ok found
  | none =>
      match readNumeral? chars with
      | none => .error (.form .noValue chars.length)
      | some (numeral, rest) =>
          match numeral.value with
          | .ok value => .ok (value, rest)
          | .error fault => .error (.scalar fault)

theorem length_dropWhile_le (test : Char → Bool) (chars : List Char) :
    (chars.dropWhile test).length ≤ chars.length :=
  (List.dropWhile_suffix test).length_le

theorem readWhole_length {chars whole rest : List Char} (h : readWhole chars = (whole, rest))
    (nonempty : whole ≠ []) : rest.length < chars.length := by
  unfold readWhole at h
  split at h
  · cases h; simp
  · cases h
    have := congrArg List.length (List.takeWhile_append_dropWhile (p := Char.isDigit) (l := chars))
    have := List.length_pos_iff.2 nonempty
    simp only [List.length_append] at *
    omega

theorem readFraction_length (chars : List Char) :
    (readFraction chars).2.length ≤ chars.length := by
  unfold readFraction
  split
  · rename_i rest
    have := length_dropWhile_le Char.isDigit rest
    dsimp only
    split
    · simp
    · simp; omega
  · simp

theorem readExponent_length (chars : List Char) :
    (readExponent chars).2.length ≤ chars.length := by
  unfold readExponent
  split
  · rename_i mark rest
    split
    · have := fun chars => length_dropWhile_le Char.isDigit chars
      dsimp only
      split <;> (simp; grind)
    · simp
  · simp

theorem readUnsigned?_length {negative : Bool} {chars : List Char} {numeral : Numeral}
    {rest : List Char} (h : readUnsigned? negative chars = some (numeral, rest)) :
    rest.length < chars.length := by
  simp only [readUnsigned?] at h
  split at h
  · cases h
  · rename_i nonempty
    cases h
    have split : readWhole chars = ((readWhole chars).1, (readWhole chars).2) := rfl
    have := readWhole_length split (by simpa using nonempty)
    have := readFraction_length (readWhole chars).2
    have := readExponent_length (readFraction (readWhole chars).2).2
    omega

theorem readNumeral?_length {chars : List Char} {numeral : Numeral} {rest : List Char}
    (h : readNumeral? chars = some (numeral, rest)) : rest.length < chars.length := by
  unfold readNumeral? at h
  split at h
  · have := readUnsigned?_length h; simp; omega
  · exact readUnsigned?_length h

theorem readWord?_length {chars rest : List Char} {value : Value}
    {list : List (List Char × Value)} (nonempty : ∀ entry ∈ list, entry.1 ≠ [])
    (h : readWord? chars list = some (value, rest)) : rest.length < chars.length := by
  induction list with
  | nil => cases h
  | cons entry others ih =>
    obtain ⟨word, known⟩ := entry
    simp only [readWord?] at h
    split at h
    · rename_i isPrefix
      cases h
      have := (List.isPrefixOf_iff_prefix.1 isPrefix).length_le
      have : 0 < word.length := List.length_pos_iff.2 (nonempty _ List.mem_cons_self)
      simp only [List.length_drop]
      omega
    · exact ih (fun entry h => nonempty entry (List.mem_cons_of_mem _ h)) h

theorem readScalar_length {chars rest : List Char} {value : Value}
    (h : readScalar chars = .ok (value, rest)) : rest.length < chars.length := by
  unfold readScalar at h
  split at h
  · rename_i found
    cases h
    exact readWord?_length (by decide) found
  · split at h
    · cases h
    · rename_i numeral
      split at h <;> cases h
      exact readNumeral?_length numeral

/-! ### Values -/

/-- Something that is open around the place of reading: an array with the items before that place,
last one first, or an object with the pairs before that place and the name that stands last. -/
inductive Frame where
  | array (items : List Value)
  | object (entries : Attributes) (name : String)

def isBlank (char : Char) : Bool :=
  char == ' ' || char == '\t' || char == '\n' || char == '\r'

def skipBlanks (chars : List Char) : List Char := chars.dropWhile isBlank

theorem length_skipBlanks_le (chars : List Char) :
    (skipBlanks chars).length ≤ chars.length :=
  length_dropWhile_le isBlank chars

def readName (chars : List Char) : Except Fault (String × List Char) :=
  match chars with
  | '"' :: rest =>
      match readText chars.length rest with
      | .error fault => .error fault
      | .ok (name, rest) =>
          match skipBlanks rest with
          | ':' :: rest => .ok (String.ofList name, skipBlanks rest)
          | rest => .error (.form .noColon rest.length)
  | chars => .error (.form .noName chars.length)

theorem readText_length {opening : Nat} {chars text rest : List Char}
    (h : readText opening chars = .ok (text, rest)) : rest.length < chars.length := by
  fun_induction readText opening chars generalizing text rest with
  | case1 => cases h
  | case2 => cases h; simp
  | case3 => cases h
  | case4 => cases h
  | case5 _ _ _ _ escape ih =>
      obtain ⟨_, read, rfl⟩ := prepend_eq_ok.1 h
      have := readEscape_length escape
      have := ih read
      simp only [List.length_cons]
      omega
  | case6 => cases h
  | case7 _ _ _ _ _ ih =>
      obtain ⟨_, read, rfl⟩ := prepend_eq_ok.1 h
      have := ih read
      simp only [List.length_cons]
      omega

theorem readName_length {chars rest : List Char} {name : String}
    (h : readName chars = .ok (name, rest)) : rest.length < chars.length := by
  unfold readName at h
  split at h
  · split at h
    · cases h
    · rename_i text
      have := readText_length text
      split at h
      · rename_i colon
        cases h
        have := congrArg List.length colon
        have := length_dropWhile_le isBlank
        simp only [skipBlanks, List.length_cons] at *
        grind
      · cases h
  · cases h

mutual

/-- The value at the front, and then everything up to the end of what is open. -/
def readValue (frames : List Frame) (chars : List Char) : Except Fault (Value × List Char) :=
  match chars with
  | '"' :: inside =>
      match _read : readText chars.length inside with
      | .error fault => .error fault
      | .ok (text, rest) => goOn frames (.text (String.ofList text)) rest
  | '\x7b' :: inside =>
      match _blanks : skipBlanks inside with
      | '\x7d' :: rest => goOn frames (.map []) rest
      | first =>
          match _read : readName first with
          | .error fault => .error fault
          | .ok (name, rest) => readValue (.object [] name :: frames) rest
  | '[' :: inside =>
      match _blanks : skipBlanks inside with
      | ']' :: rest => goOn frames (.list []) rest
      | first => readValue (.array [] :: frames) first
  | chars =>
      match _read : readScalar chars with
      | .error fault => .error fault
      | .ok (value, rest) => goOn frames value rest
termination_by chars.length
decreasing_by
  · grind [→ readText_length]
  · grind [length_skipBlanks_le]
  · grind [length_skipBlanks_le, → readName_length]
  · grind [length_skipBlanks_le]
  · grind [length_skipBlanks_le]
  · grind [→ readScalar_length]

/-- Everything behind a value up to the end of what is open; the value of the outermost bracket. -/
def goOn (frames : List Frame) (value : Value) (chars : List Char) :
    Except Fault (Value × List Char) :=
  match frames with
  | [] => .ok (value, chars)
  | .array items :: frames =>
      match _blanks : skipBlanks chars with
      | ']' :: rest => goOn frames (.list (value :: items).reverse) rest
      | ',' :: rest => readValue (.array (value :: items) :: frames) (skipBlanks rest)
      | rest => .error (.form .noComma rest.length)
  | .object entries name :: frames =>
      match _blanks : skipBlanks chars with
      | '\x7d' :: rest => goOn frames (.map (entries.putName name value)) rest
      | ',' :: behind =>
          match _read : readName (skipBlanks behind) with
          | .error fault => .error fault
          | .ok (next, rest) =>
              readValue (.object (entries.putName name value) next :: frames) rest
      | rest => .error (.form .noComma rest.length)
termination_by chars.length
decreasing_by
  · grind [length_skipBlanks_le]
  · grind [length_skipBlanks_le]
  · grind [length_skipBlanks_le]
  · grind [length_skipBlanks_le, → readName_length]

end

def readAll (chars : List Char) : Except Fault Value :=
  if chars.head? == some '\ufeff' then .error (.form .byteOrderMark chars.length)
  else
    match readValue [] (skipBlanks chars) with
    | .error fault => .error fault
    | .ok (value, rest) =>
        let rest := skipBlanks rest
        if rest.isEmpty then .ok value else .error (.form .extraData rest.length)

def read (chars : List Char) : Except ReadingFault Value :=
  (readAll chars).mapError (Fault.report chars)

end UrlRouting.Json
