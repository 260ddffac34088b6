import UrlRouting.Proofs.Template.Segments

/-!
# Placeholders in a template

Which texts are placeholders, in braces or in angle brackets, said without a scanner.  Reading a
template from left to right takes a placeholder wherever one starts
(`Segment.pieces_of_startsPlaceholder`, `Segment.pieces_of_not_startsPlaceholder`), so that each
template has one reading (`Segment.reads_iff`); and as braces do not stand inside of a placeholder,
none is overlooked in what is left between them (`Segment.pieces_append_of_plain`).
-/

namespace UrlRouting.Segment

/-! ### Names -/

/-- A letter or an underscore, and letters, digits and underscores behind it. -/
def IsName (chars : List Char) : Prop :=
  ∃ first rest, chars = first :: rest ∧ isNameStart first = true ∧
    ∀ char ∈ rest, isNameChar char = true

theorem isNameChar_of_isNameStart {char : Char} (isStart : isNameStart char = true) :
    isNameChar char = true := by
  simp only [isNameStart, isNameChar, Bool.or_eq_true, Char.isAlphanum] at isStart ⊢
  exact isStart.imp_left .inl

theorem IsName.isNameChar {chars : List Char} (isName : IsName chars) {char : Char}
    (membership : char ∈ chars) : Segment.isNameChar char = true := by
  obtain ⟨first, rest, rfl, isStart, named⟩ := isName
  rcases List.mem_cons.mp membership with rfl | inRest
  · exact isNameChar_of_isNameStart isStart
  · exact named char inRest

/-- Letters and underscores are a name. -/
theorem isName_of_forall_isNameStart {chars : List Char} (nonempty : chars ≠ [])
    (letters : ∀ char ∈ chars, isNameStart char = true) : IsName chars := by
  obtain ⟨first, rest, rfl⟩ := List.exists_cons_of_ne_nil nonempty
  rw [List.forall_mem_cons] at letters
  exact ⟨first, rest, rfl, letters.1, fun char inRest =>
    isNameChar_of_isNameStart (letters.2 char inRest)⟩

/-- A name is taken up to the first character that cannot be in it. -/
theorem takeName?_append {name : List Char} (isName : IsName name) {delimiter : Char}
    (ends : isNameChar delimiter = false) (rest : List Char) :
    takeName? (name ++ delimiter :: rest) = some (name, delimiter :: rest) := by
  obtain ⟨first, others, rfl, isStart, named⟩ := isName
  rw [List.cons_append, takeName?, if_pos isStart, List.takeWhile_append_of_pos named,
    List.dropWhile_append_of_pos named, List.takeWhile_cons_of_neg (by simp [ends]),
    List.dropWhile_cons_of_neg (by simp [ends]), List.append_nil]

theorem isName_of_takeName? {chars name rest : List Char}
    (taken : takeName? chars = some (name, rest)) : IsName name := by
  unfold takeName? at taken
  cases chars with
  | nil => simp at taken
  | cons first others =>
      simp only [Option.ite_none_right_eq_some, Option.some.injEq, Prod.mk.injEq] at taken
      obtain ⟨isStart, rfl, -⟩ := taken
      exact ⟨first, _, rfl, isStart, fun char => List.mem_takeWhile_imp⟩

/-! ### Angle brackets -/

/-- What stands between angle brackets: a name, behind a word of letters and a colon if at all. -/
inductive IsAngle : List Char → Prop where
  | plain {name : List Char} (isName : IsName name) : IsAngle name
  | typed {word name : List Char} (nonempty : word ≠ [])
      (letters : ∀ char ∈ word, isNameStart char = true) (isName : IsName name) :
      IsAngle (word ++ ':' :: name)

/-- Whether a placeholder in angle brackets stands somewhere in a text. -/
def HasAngle (chars : List Char) : Prop :=
  ∃ front inside behind, IsAngle inside ∧ chars = front ++ '<' :: inside ++ '>' :: behind

theorem angleAt?_isSome_iff {chars : List Char} :
    (angleAt? chars).isSome ↔
      ∃ inside behind, IsAngle inside ∧ chars = inside ++ '>' :: behind := by
  constructor
  · intro isSome
    obtain ⟨placeholder, found⟩ := Option.isSome_iff_exists.mp isSome
    obtain ⟨⟨first, rest⟩, taken, continues⟩ := Option.bind_eq_some_iff.mp found
    obtain ⟨rfl, -⟩ := takeName?_eq_some taken
    have isName := isName_of_takeName? taken
    dsimp only at continues
    split at continues
    · next more => exact ⟨first, more, .plain isName, rfl⟩
    · next rest =>
        split at continues
        · next letters =>
            obtain ⟨⟨second, rest⟩, takenSecond, ends⟩ := Option.bind_eq_some_iff.mp continues
            obtain ⟨rfl, -⟩ := takeName?_eq_some takenSecond
            dsimp only at ends
            split at ends
            · next more =>
                obtain ⟨char, others, rfl, -⟩ := isName
                exact ⟨_, more, .typed (List.cons_ne_nil _ _) (List.all_eq_true.mp letters)
                  (isName_of_takeName? takenSecond), by simp⟩
            · cases ends
        · cases continues
    · cases continues
  · rintro ⟨inside, behind, isAngle, rfl⟩
    cases isAngle with
    | plain isName =>
        have taken : takeName? (inside ++ '>' :: behind) = some (inside, '>' :: behind) :=
          takeName?_append isName rfl _
        rw [angleAt?, taken]
        rfl
    | @typed word name nonempty letters isName =>
        have takenWord : takeName? (word ++ ':' :: (name ++ '>' :: behind)) =
            some (word, ':' :: (name ++ '>' :: behind)) :=
          takeName?_append (isName_of_forall_isNameStart nonempty letters) rfl _
        have takenName : takeName? (name ++ '>' :: behind) = some (name, '>' :: behind) :=
          takeName?_append isName rfl _
        rw [List.append_assoc, List.cons_append, angleAt?, takenWord]
        change (if word.all isNameStart then (takeName? (name ++ '>' :: behind)).bind _
          else none).isSome = true
        rw [if_pos (List.all_eq_true.mpr letters), takenName]
        rfl

theorem hasAngle_cons_iff {char : Char} {rest : List Char} :
    HasAngle (char :: rest) ↔
      (char = '<' ∧ ∃ inside behind, IsAngle inside ∧ rest = inside ++ '>' :: behind) ∨
        HasAngle rest := by
  constructor
  · rintro ⟨front, inside, behind, isAngle, chars_eq⟩
    cases front with
    | nil =>
        obtain ⟨rfl, rfl⟩ := List.cons_eq_cons.mp chars_eq
        exact .inl ⟨rfl, inside, behind, isAngle, rfl⟩
    | cons first front =>
        obtain ⟨rfl, rfl⟩ := List.cons_eq_cons.mp chars_eq
        exact .inr ⟨front, inside, behind, isAngle, by simp⟩
  · rintro (⟨rfl, inside, behind, isAngle, rfl⟩ | ⟨front, inside, behind, isAngle, rfl⟩)
    · exact ⟨[], inside, behind, isAngle, rfl⟩
    · exact ⟨char :: front, inside, behind, isAngle, rfl⟩

theorem findAngle?_isSome_iff {chars : List Char} :
    (findAngle? chars).isSome ↔ HasAngle chars := by
  induction chars with
  | nil => simp [findAngle?, HasAngle]
  | cons char rest inductionHypothesis =>
      rw [findAngle?, hasAngle_cons_iff, ← inductionHypothesis, ← angleAt?_isSome_iff]
      by_cases isOpening : char = '<'
      · subst isOpening
        cases angleAt? rest <;> simp
      · simp [isOpening]

/-! ### Braces -/

namespace Placeholder

/-- Whether the names of a placeholder are names. -/
structure IsWritten (placeholder : Placeholder) : Prop where
  isName : IsName placeholder.name.toList
  isConverterName : ∀ converter, placeholder.converter = some converter → IsName converter.toList

def chars (placeholder : Placeholder) : List Char := '\x7b' :: placeholder.charsAfterBrace

variable {placeholder : Placeholder}

theorem charsAfterBrace_eq (placeholder : Placeholder) :
    placeholder.charsAfterBrace = placeholder.name.toList ++
      ((placeholder.converter.map fun converter => ':' :: converter.toList).getD []) ++
        ['\x7d'] := by
  unfold charsAfterBrace
  cases placeholder.converter <;> rfl

theorem not_mem_charsAfterBrace (isWritten : placeholder.IsWritten) :
    '\x7b' ∉ placeholder.charsAfterBrace := by
  have notInName {name : List Char} (isName : Segment.IsName name) : '\x7b' ∉ name :=
    fun membership => absurd (isName.isNameChar membership) (by decide)
  rw [charsAfterBrace_eq]
  cases converter_eq : placeholder.converter with
  | none => simp [notInName isWritten.isName]
  | some converter =>
      simp [notInName isWritten.isName, notInName (isWritten.isConverterName _ converter_eq)]

end Placeholder

variable {chars behind text : List Char} {placeholder : Placeholder}
  {placeholders : List Placeholder}

theorem placeholderAt?_append (isWritten : placeholder.IsWritten) (behind : List Char) :
    placeholderAt? (placeholder.charsAfterBrace ++ behind) = some placeholder := by
  rcases placeholder with ⟨name, _ | converter⟩
  · have taken : takeName? (name.toList ++ '\x7d' :: behind) =
        some (name.toList, '\x7d' :: behind) :=
      takeName?_append isWritten.isName rfl _
    simp [placeholderAt?, Placeholder.charsAfterBrace, taken]
  · have taken : takeName? (name.toList ++ ':' :: (converter.toList ++ '\x7d' :: behind)) =
        some (name.toList, ':' :: (converter.toList ++ '\x7d' :: behind)) :=
      takeName?_append isWritten.isName rfl _
    have takenConverter : takeName? (converter.toList ++ '\x7d' :: behind) =
        some (converter.toList, '\x7d' :: behind) :=
      takeName?_append (isWritten.isConverterName _ rfl) rfl _
    simp [placeholderAt?, Placeholder.charsAfterBrace, taken, takenConverter]

theorem isWritten_of_placeholderAt? (found : placeholderAt? chars = some placeholder) :
    placeholder.IsWritten := by
  unfold placeholderAt? at found
  obtain ⟨⟨name, rest⟩, taken, continues⟩ := Option.bind_eq_some_iff.mp found
  have isName := isName_of_takeName? taken
  dsimp only at continues
  split at continues
  · cases continues
    exact ⟨by simpa using isName, by simp⟩
  · obtain ⟨⟨converter, rest⟩, takenConverter, ends⟩ := Option.bind_eq_some_iff.mp continues
    have isConverterName := isName_of_takeName? takenConverter
    dsimp only at ends
    split at ends
    · cases ends
      exact ⟨by simpa using isName, by simpa using isConverterName⟩
    · cases ends
  · cases continues

def StartsPlaceholder (chars : List Char) : Prop :=
  ∃ (placeholder : Placeholder) (behind : List Char),
    placeholder.IsWritten ∧ chars = placeholder.chars ++ behind

/-- Whether a placeholder stands somewhere in a text. -/
def HasPlaceholder (chars : List Char) : Prop :=
  ∃ (front : List Char) (placeholder : Placeholder) (behind : List Char),
    placeholder.IsWritten ∧ chars = front ++ placeholder.chars ++ behind

/-- The placeholders of a text from left to right: where one starts it is taken, and the next one is
looked for behind it. -/
inductive Reads : List Char → List Placeholder → Prop where
  | nil : Reads [] []
  | skip {char : Char} {rest : List Char} {placeholders : List Placeholder}
      (startsNone : ¬ StartsPlaceholder (char :: rest)) (reads : Reads rest placeholders) :
      Reads (char :: rest) placeholders
  | take {placeholder : Placeholder} {behind : List Char} {placeholders : List Placeholder}
      (isWritten : placeholder.IsWritten) (reads : Reads behind placeholders) :
      Reads (placeholder.chars ++ behind) (placeholder :: placeholders)

theorem pieces_of_startsPlaceholder (isWritten : placeholder.IsWritten) (behind : List Char) :
    pieces (placeholder.chars ++ behind) = .placeholder placeholder :: pieces behind := by
  rw [Placeholder.chars, List.cons_append, pieces, if_pos (by rfl), placeholderAt?_append isWritten]
  dsimp only
  rw [List.drop_left]

theorem pieces_of_not_startsPlaceholder {char : Char} {rest : List Char}
    (startsNone : ¬ StartsPlaceholder (char :: rest)) :
    pieces (char :: rest) = .char char :: pieces rest := by
  rw [pieces]
  split
  · next placeholder found =>
      obtain ⟨isBrace, foundAfter⟩ : char = '\x7b' ∧ placeholderAt? rest = some placeholder := by
        simpa using found
      obtain ⟨⟨more, rest_eq⟩, -⟩ := placeholderAt?_eq_some foundAfter
      refine absurd ⟨placeholder, more, isWritten_of_placeholderAt? foundAfter, ?_⟩ startsNone
      rw [isBrace, Placeholder.chars, List.cons_append, rest_eq]
  · rfl

def Piece.placeholder? : Piece → Option Placeholder
  | .char _ => none
  | .placeholder placeholder => some placeholder

/-- Each text is read in one way. -/
theorem reads_iff : Reads chars placeholders ↔
    placeholders = (pieces chars).filterMap Piece.placeholder? := by
  constructor
  · intro reads
    induction reads with
    | nil => simp [pieces]
    | skip startsNone _ inductionHypothesis =>
        rw [pieces_of_not_startsPlaceholder startsNone, inductionHypothesis]
        rfl
    | take isWritten _ inductionHypothesis =>
        rw [pieces_of_startsPlaceholder isWritten, inductionHypothesis]
        rfl
  · rintro rfl
    induction length_eq : chars.length using Nat.strongRecOn generalizing chars with
    | ind length inductionHypothesis =>
        subst length_eq
        cases chars with
        | nil => simpa [pieces] using Reads.nil
        | cons char rest =>
            by_cases starts : StartsPlaceholder (char :: rest)
            · obtain ⟨placeholder, behind, isWritten, chars_eq⟩ := starts
              rw [chars_eq, pieces_of_startsPlaceholder isWritten]
              apply Reads.take isWritten
              apply inductionHypothesis _ _ rfl
              rw [chars_eq, List.length_append, Placeholder.chars, List.length_cons]
              omega
            · rw [pieces_of_not_startsPlaceholder starts]
              exact .skip starts (inductionHypothesis _ (by simp) rfl)

theorem Reads.isWritten (reads : Reads chars placeholders) :
    ∀ placeholder ∈ placeholders, placeholder.IsWritten := by
  induction reads with
  | nil => simp
  | skip _ _ inductionHypothesis => exact inductionHypothesis
  | take isWritten _ inductionHypothesis =>
      exact List.forall_mem_cons.mpr ⟨isWritten, inductionHypothesis⟩

/-! ### Texts without placeholders -/

theorem hasPlaceholder_cons_of {char : Char} {rest : List Char} (inRest : HasPlaceholder rest) :
    HasPlaceholder (char :: rest) := by
  obtain ⟨front, placeholder, behind, isWritten, rfl⟩ := inRest
  exact ⟨char :: front, placeholder, behind, isWritten, rfl⟩

/-- A placeholder cannot start in a text and end behind it, since there an opening brace follows. -/
theorem not_startsPlaceholder_append (plain : ¬ HasPlaceholder text) (nonempty : text ≠ [])
    (opens : ∀ char, behind.head? = some char → char = '\x7b') :
    ¬ StartsPlaceholder (text ++ behind) := by
  rintro ⟨placeholder, more, isWritten, chars_eq⟩
  rcases List.append_eq_append_iff.mp chars_eq with ⟨rest, chars_eq, behind_eq⟩ | ⟨rest, rfl, -⟩
  · cases rest with
    | nil =>
        rw [List.append_nil] at chars_eq
        exact plain ⟨[], placeholder, [], isWritten, by simp [chars_eq]⟩
    | cons char rest =>
        -- The brace that follows would stand inside of the placeholder.
        obtain rfl : char = '\x7b' := opens char (by rw [behind_eq]; rfl)
        obtain ⟨first, others, rfl⟩ := List.exists_cons_of_ne_nil nonempty
        rw [Placeholder.chars, List.cons_append] at chars_eq
        obtain ⟨-, inside_eq⟩ := List.cons_eq_cons.mp chars_eq
        apply Placeholder.not_mem_charsAfterBrace isWritten
        rw [inside_eq]
        simp
  · exact plain ⟨[], placeholder, rest, isWritten, rfl⟩

/-- A text without placeholders stays characters, before the end of a template or another
placeholder. -/
theorem pieces_append_of_plain (plain : ¬ HasPlaceholder text)
    (opens : ∀ char, behind.head? = some char → char = '\x7b') :
    pieces (text ++ behind) = text.map .char ++ pieces behind := by
  induction text with
  | nil => rfl
  | cons char rest inductionHypothesis =>
      have startsNone := not_startsPlaceholder_append plain (List.cons_ne_nil _ _) opens
      rw [List.cons_append] at startsNone ⊢
      rw [pieces_of_not_startsPlaceholder startsNone,
        inductionHypothesis (mt hasPlaceholder_cons_of plain)]
      rfl

/-- Behind any of its pieces, the rest of a text is cut as if it stood alone. -/
theorem exists_of_pieces_eq_append {first second : List Piece}
    (pieces_eq : pieces chars = first ++ second) :
    ∃ rest, chars = first.flatMap Piece.chars ++ rest ∧ pieces rest = second := by
  induction first generalizing chars with
  | nil => exact ⟨chars, rfl, pieces_eq⟩
  | cons piece others inductionHypothesis =>
      cases chars with
      | nil => simp [pieces] at pieces_eq
      | cons char tail =>
          by_cases starts : StartsPlaceholder (char :: tail)
          · obtain ⟨placeholder, behind, isWritten, chars_eq⟩ := starts
            rw [chars_eq, pieces_of_startsPlaceholder isWritten, List.cons_append] at pieces_eq
            obtain ⟨rfl, others_eq⟩ := List.cons_eq_cons.mp pieces_eq
            obtain ⟨rest, rfl, rest_eq⟩ := inductionHypothesis others_eq
            exact ⟨rest, by rw [chars_eq, List.flatMap_cons, List.append_assoc]; rfl, rest_eq⟩
          · rw [pieces_of_not_startsPlaceholder starts, List.cons_append] at pieces_eq
            obtain ⟨rfl, others_eq⟩ := List.cons_eq_cons.mp pieces_eq
            obtain ⟨rest, rfl, rest_eq⟩ := inductionHypothesis others_eq
            exact ⟨rest, rfl, rest_eq⟩

/-- Pieces that are characters have no placeholder among them. -/
theorem not_hasPlaceholder_of_pieces {front rest : List Piece}
    (pieces_eq : pieces chars = front ++ text.map .char ++ rest) : ¬ HasPlaceholder text := by
  rintro ⟨before, placeholder, behind, isWritten, rfl⟩
  rw [List.map_append, List.map_append, List.append_assoc, List.append_assoc, List.append_assoc,
    ← List.append_assoc front] at pieces_eq
  obtain ⟨tail, -, tail_eq⟩ := exists_of_pieces_eq_append pieces_eq
  obtain ⟨more, tail_chars, -⟩ := exists_of_pieces_eq_append tail_eq
  rw [tail_chars, List.flatMap_map] at tail_eq
  have chars_eq : placeholder.chars.flatMap (fun char => Piece.chars (.char char)) =
      placeholder.chars := List.flatMap_singleton' _
  rw [chars_eq, pieces_of_startsPlaceholder isWritten, Placeholder.chars, List.map_cons] at tail_eq
  cases tail_eq

end UrlRouting.Segment
