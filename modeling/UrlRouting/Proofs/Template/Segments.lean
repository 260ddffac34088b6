import Mathlib
import UrlRouting.Template.Segment

/-!
# Segments of a template

What cutting a template into segments guarantees: no variable comes twice, no two literals stand
side by side, none of them is empty, names are made of name characters, and written one after the
other the segments are the template again.
-/

namespace UrlRouting.Segment

theorem mem_names_iff {segments : List Segment} {name : String} :
    name ∈ segments.filterMap variableName? ↔ ∃ converter, .var name converter ∈ segments := by
  rw [List.mem_filterMap]
  constructor
  · rintro ⟨segment, membership, isName⟩
    cases segment with
    | literal text => simp [variableName?] at isName
    | var other converter =>
        injection isName with same
        exact ⟨converter, same ▸ membership⟩
  · rintro ⟨converter, membership⟩
    exact ⟨_, membership, rfl⟩

/-- What holds for the segments of every template. -/
structure AreParsed (segments : List Segment) : Prop where
  nodup : (segments.filterMap variableName?).Nodup
  named : ∀ segment ∈ segments, ∀ name, segment.variableName? = some name →
    ∀ char ∈ name.toList, isNameChar char
  separated : segments.IsChain fun first second => first.isVariable ∨ second.isVariable
  nonempty : ∀ text, .literal text ∈ segments → text ≠ ""

/-! ### Placeholders -/

theorem toNat_lt_of_isNameChar {char : Char} (isPart : isNameChar char = true) :
    char.toNat < 128 := by
  rcases (Bool.or_eq_true _ _).mp isPart with isAlphanum | isUnderscore
  · have ranges : 65 ≤ char.toNat ∧ char.toNat ≤ 90 ∨ 97 ≤ char.toNat ∧ char.toNat ≤ 122 ∨
        48 ≤ char.toNat ∧ char.toNat ≤ 57 := by
      simpa [Char.isAlphanum, Char.isAlpha, Char.isUpper, Char.isLower, Char.isDigit,
        UInt32.le_iff_toNat_le, or_assoc] using isAlphanum
    omega
  · rw [beq_iff_eq.mp isUnderscore]
    decide

theorem takeName?_eq_some {chars name rest : List Char}
    (taken : takeName? chars = some (name, rest)) :
    chars = name ++ rest ∧ ∀ char ∈ name, isNameChar char := by
  unfold takeName? at taken
  cases chars with
  | nil => simp at taken
  | cons first others =>
      simp only [Option.ite_none_right_eq_some, Option.some.injEq, Prod.mk.injEq] at taken
      obtain ⟨isStart, rfl, rfl⟩ := taken
      refine ⟨by simp, ?_⟩
      intro char membership
      rcases List.mem_cons.mp membership with rfl | inRest
      · simp only [isNameStart, isNameChar, Bool.or_eq_true, Char.isAlphanum] at isStart ⊢
        rcases isStart with isAlpha | isUnderscore
        · exact .inl (.inl isAlpha)
        · exact .inr isUnderscore
      · exact (List.mem_takeWhile_imp inRest)

theorem placeholderAt?_eq_some {chars : List Char} {placeholder : Placeholder}
    (found : placeholderAt? chars = some placeholder) :
    placeholder.charsAfterBrace <+: chars ∧
      ∀ char ∈ placeholder.name.toList, isNameChar char := by
  unfold placeholderAt? at found
  obtain ⟨⟨name, rest⟩, taken, continues⟩ := Option.bind_eq_some_iff.mp found
  obtain ⟨rfl, named⟩ := takeName?_eq_some taken
  dsimp only at continues
  split at continues
  · next more =>
      injection continues with same
      subst same
      exact ⟨⟨more, by simp [Placeholder.charsAfterBrace]⟩, by simpa using named⟩
  · obtain ⟨⟨converter, rest⟩, takenConverter, ends⟩ := Option.bind_eq_some_iff.mp continues
    obtain ⟨rfl, -⟩ := takeName?_eq_some takenConverter
    dsimp only at ends
    split at ends
    · next more =>
        injection ends with same
        subst same
        exact ⟨⟨more, by simp [Placeholder.charsAfterBrace]⟩, by simpa using named⟩
    · simp at ends
  · simp at continues

def Piece.chars : Piece → List Char
  | .char letter => [letter]
  | .placeholder written => '\x7b' :: written.charsAfterBrace

/-- Nothing is lost when a template is cut into pieces, and names are names. -/
theorem pieces_spec (chars : List Char) :
    (pieces chars).flatMap Piece.chars = chars ∧
      ∀ placeholder, .placeholder placeholder ∈ pieces chars →
        ∀ char ∈ placeholder.name.toList, isNameChar char := by
  fun_induction pieces chars with
  | case1 => simp
  | case2 first rest placeholder found inductionHypothesis =>
      obtain ⟨isBrace, foundAfter⟩ : first = '\x7b' ∧ placeholderAt? rest = some placeholder := by
        simpa using found
      subst isBrace
      obtain ⟨⟨more, rfl⟩, named⟩ := placeholderAt?_eq_some foundAfter
      rw [List.drop_left] at inductionHypothesis
      obtain ⟨lossless, namedRest⟩ := inductionHypothesis
      constructor
      · rw [List.drop_left, List.flatMap_cons, lossless]
        rfl
      · intro other membership
        rw [List.drop_left, List.mem_cons] at membership
        rcases membership with same | inRest
        · injection same with same
          subst same
          exact named
        · exact namedRest other inRest
  | case3 first rest _ inductionHypothesis =>
      obtain ⟨lossless, namedRest⟩ := inductionHypothesis
      constructor
      · rw [List.flatMap_cons, lossless]
        rfl
      · intro other membership
        rw [List.mem_cons] at membership
        rcases membership with same | inRest
        · simp at same
        · exact namedRest other inRest

/-! ### Segments -/

theorem Converter.name_of_named? {name : String} {converter : Converter}
    (found : Converter.named? name = some converter) : converter.name = name := by
  simpa [Converter.named?] using List.find?_some found

theorem literalOf_flatMap_written (chars : List Char) :
    (literalOf chars).flatMap (·.written.toList) = chars.reverse := by
  unfold literalOf
  cases chars with
  | nil => rfl
  | cons char rest => simp [written]

namespace AreParsed

theorem literalOf (chars : List Char) : AreParsed (literalOf chars) := by
  unfold Segment.literalOf
  cases chars with
  | nil => exact ⟨.nil, by simp, .nil, by simp⟩
  | cons char rest => exact ⟨.nil, by simp [variableName?], .singleton _, by simp⟩

theorem cons_var {segments : List Segment} (parsed : AreParsed segments) {name : String}
    (converter : Option Converter) (named : ∀ char ∈ name.toList, isNameChar char)
    (fresh : name ∉ segments.filterMap variableName?) :
    AreParsed (.var name converter :: segments) := by
  refine ⟨List.nodup_cons.mpr ⟨fresh, parsed.nodup⟩, ?_, ?_, ?_⟩
  · intro segment membership other isName
    rcases List.mem_cons.mp membership with rfl | inRest
    · injection isName with same
      rw [← same]
      exact named
    · exact parsed.named segment inRest other isName
  · have separated := parsed.separated
    cases segments with
    | nil => exact .singleton _
    | cons next others => exact .cons_cons (.inl rfl) separated
  · intro text membership
    rcases List.mem_cons.mp membership with same | inRest
    · simp at same
    · exact parsed.nonempty text inRest

theorem cons_literal {segments : List Segment} {name text : String}
    {converter : Option Converter} (parsed : AreParsed (.var name converter :: segments))
    (nonempty : text ≠ "") : AreParsed (.literal text :: .var name converter :: segments) := by
  refine ⟨parsed.nodup, ?_, .cons_cons (.inr rfl) parsed.separated, ?_⟩
  · intro segment membership other isName
    rcases List.mem_cons.mp membership with rfl | inRest
    · simp [variableName?] at isName
    · exact parsed.named segment inRest other isName
  · intro other membership
    rcases List.mem_cons.mp membership with same | inRest
    · injection same with same
      rw [same]
      exact nonempty
    · exact parsed.nonempty other inRest

/-- A new variable goes in front of segments, and before it there may be a literal. -/
theorem literalOf_append {segments : List Segment} {name : String}
    {converter : Option Converter} (parsed : AreParsed (.var name converter :: segments))
    (chars : List Char) :
    AreParsed (Segment.literalOf chars ++ .var name converter :: segments) := by
  unfold Segment.literalOf
  cases chars with
  | nil => exact parsed
  | cons char rest => exact parsed.cons_literal (by simp)

end AreParsed

theorem ofPieces_placeholder_eq_ok {template : String} {seen : List String} {chars : List Char}
    {placeholder : Placeholder} {rest : List Piece} {segments : List Segment}
    (cut : ofPieces template seen chars (.placeholder placeholder :: rest) = .ok segments) :
    ∃ converter more, placeholder.name ∉ seen ∧
      ofPieces template (placeholder.name :: seen) [] rest = .ok more ∧
      segments = literalOf chars ++ .var placeholder.name converter :: more ∧
      (var placeholder.name converter).written.toList = Piece.chars (.placeholder placeholder) := by
  rcases placeholder with ⟨name, converterName⟩
  rw [ofPieces] at cut
  split at cut
  · simp at cut
  · next known =>
      split at cut
      · simp at cut
      · next fresh =>
          have unseen : name ∉ seen := by simpa using fresh
          split at cut
          · simp at cut
          · next more cutRest =>
              injection cut with same
              refine ⟨_, more, unseen, cutRest, same.symm, ?_⟩
              cases converterName with
              | none => simp [written, Piece.chars, Placeholder.charsAfterBrace]
              | some converterName =>
                  cases isKnown : Converter.named? converterName with
                  | none => exact absurd (by simp [isKnown]) (known converterName)
                  | some converter =>
                      have name_eq := Converter.name_of_named? isKnown
                      simp [written, Piece.chars, Placeholder.charsAfterBrace, isKnown, name_eq]

/-- Cutting pieces into segments loses nothing either, and refuses names that have been seen. -/
theorem ofPieces_spec {template : String} {seen : List String} {chars : List Char}
    {pieces : List Piece} {segments : List Segment}
    (cut : ofPieces template seen chars pieces = .ok segments)
    (named : ∀ placeholder, .placeholder placeholder ∈ pieces →
      ∀ char ∈ placeholder.name.toList, isNameChar char) :
    AreParsed segments ∧ (∀ name ∈ segments.filterMap variableName?, name ∉ seen) ∧
      segments.flatMap (·.written.toList) = chars.reverse ++ pieces.flatMap Piece.chars := by
  have unnamed (chars : List Char) : (literalOf chars).filterMap variableName? = [] := by
    unfold literalOf
    split <;> rfl
  induction pieces generalizing seen chars segments with
  | nil =>
      rw [ofPieces] at cut
      injection cut with same
      subst same
      exact ⟨.literalOf chars, by simp [unnamed], by simp [literalOf_flatMap_written]⟩
  | cons piece rest inductionHypothesis =>
      have namedRest : ∀ placeholder, .placeholder placeholder ∈ rest →
          ∀ char ∈ placeholder.name.toList, isNameChar char :=
        fun placeholder membership => named placeholder (List.mem_cons_of_mem _ membership)
      cases piece with
      | char letter =>
          rw [ofPieces] at cut
          obtain ⟨parsed, fresh, lossless⟩ := inductionHypothesis cut namedRest
          exact ⟨parsed, fresh, by simp [lossless, Piece.chars]⟩
      | placeholder placeholder =>
          obtain ⟨converter, more, unseen, cutRest, rfl, isWritten⟩ :=
            ofPieces_placeholder_eq_ok cut
          obtain ⟨parsed, fresh, lossless⟩ := inductionHypothesis cutRest namedRest
          refine ⟨?_, ?_, ?_⟩
          · have unused : placeholder.name ∉ more.filterMap variableName? :=
              fun membership => fresh _ membership (List.mem_cons_self ..)
            have isNamed := named placeholder (List.mem_cons_self ..)
            exact (parsed.cons_var converter isNamed unused).literalOf_append chars
          · intro name membership
            rw [List.filterMap_append, unnamed, List.nil_append] at membership
            rcases List.mem_cons.mp membership with rfl | inRest
            · exact unseen
            · exact fun known => fresh name inRest (List.mem_cons_of_mem _ known)
          · rw [List.flatMap_append, literalOf_flatMap_written, List.flatMap_cons, lossless,
              isWritten]
            rfl

theorem areParsed_of_parse {template : String} {segments : List Segment}
    (parses : parse template = .ok segments) : AreParsed segments := by
  unfold parse at parses
  split at parses
  · simp at parses
  · exact (ofPieces_spec parses (pieces_spec _).2).1

/-- The segments of a template make up the template. -/
theorem flatMap_written_of_parse {template : String} {segments : List Segment}
    (parses : parse template = .ok segments) :
    segments.flatMap (·.written.toList) = template.toList := by
  unfold parse at parses
  split at parses
  · simp at parses
  · rw [(ofPieces_spec parses (pieces_spec _).2).2.2, (pieces_spec _).1]
    rfl

end UrlRouting.Segment
