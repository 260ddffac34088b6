import UrlRouting.Failure
import UrlRouting.Proofs.Template.Tokens

/-!
# Parsing a template

When a template can be parsed, and into what.  Segments stand for pieces of the template
(`Segment.pieces_flatMap_written`), and as no two literals are side by side they can be read off the
pieces again (`Segment.AreSpaced.eq_of_flatMap_toPieces_eq`): whoever describes the segments of a
template by its placeholders describes one list of them (`Segment.AreExact`).
-/

namespace UrlRouting.Segment

/-- Whether a placeholder has no converter, or one that there is. -/
def Placeholder.IsKnown (placeholder : Placeholder) : Prop :=
  ∀ name, placeholder.converter = some name → ∃ converter : Converter, converter.name = name

/-- What makes a text unfit for a template: a placeholder in angle brackets, a converter that there
is not, or a name that comes twice. -/
def IsRefused (template : String) (tokens : List Placeholder) : Prop :=
  HasAngle template.toList ∨ (∃ token ∈ tokens, ¬ token.IsKnown) ∨
    ¬ (tokens.map (·.name)).Nodup

/-- Whether a segment is the variable that a placeholder writes. -/
structure IsFor (segment : Segment) (token : Placeholder) : Prop where
  written : segment.written.toList = token.chars
  name : segment.variableName? = some token.name
  converter : segment.converter.name = token.converter.getD Converter.str.name

/-- Literals have characters, and something between them. -/
structure AreSpaced (segments : List Segment) : Prop where
  nonempty : ∀ text, .literal text ∈ segments → text ≠ ""
  separated : segments.IsChain fun first second => first.isVariable ∨ second.isVariable

/-- The segments of a template by what they look like: the variables are the placeholders of the
template, and the literals are what is between them. -/
structure AreExact (template : String) (tokens : List Placeholder) (segments : List Segment) : Prop
    extends AreSpaced segments where
  lossless : String.join (segments.map Segment.written) = template
  isFor : List.Forall₂ IsFor (segments.filter isVariable) tokens
  plain : ∀ text, .literal text ∈ segments → ¬ HasPlaceholder text.toList

variable {template : String} {tokens : List Placeholder} {token : Placeholder} {segment : Segment}
  {segments others : List Segment} {converter : Option Converter} {seen : List String}
  {chars : List Char} {cut : List Piece}

/-! ### Segments as pieces -/

theorem Converter.name_injective : Function.Injective Converter.name := by
  intro converter other same
  cases converter <;> cases other <;> first | rfl | exact absurd same (by decide)

def placeholder? : Segment → Option Placeholder
  | .literal _ => none
  | .var name converter => some ⟨name, converter.map Converter.name⟩

def toPieces : Segment → List Piece
  | .literal text => text.toList.map .char
  | .var name converter => [.placeholder ⟨name, converter.map Converter.name⟩]

theorem written_eq_chars_iff : (var token.name converter).written.toList = token.chars ↔
    converter.map Converter.name = token.converter := by
  rcases token with ⟨name, _ | converterName⟩ <;> cases converter <;>
    simp [written, Placeholder.chars, Placeholder.charsAfterBrace, String.toList_inj]

theorem written_eq_chars (name : String) (converter : Option Converter) :
    (var name converter).written.toList =
      Placeholder.chars ⟨name, converter.map Converter.name⟩ :=
  (@written_eq_chars_iff ⟨name, converter.map Converter.name⟩ converter).mpr rfl

theorem isFor_iff : segment.IsFor token ↔ segment.placeholder? = some token := by
  constructor
  · rintro ⟨written_eq, name_eq, -⟩
    cases segment with
    | literal text => cases name_eq
    | var name converter =>
        obtain rfl : name = token.name := Option.some.inj name_eq
        rw [placeholder?, written_eq_chars_iff.mp written_eq]
  · intro same
    cases segment with
    | literal text => cases same
    | var name converter =>
        obtain rfl := Option.some.inj same
        refine ⟨written_eq_chars name converter, rfl, ?_⟩
        cases converter <;> rfl

theorem forall₂_isFor_iff : List.Forall₂ IsFor (segments.filter isVariable) tokens ↔
    segments.filterMap placeholder? = tokens := by
  induction segments generalizing tokens with
  | nil => simp [eq_comm]
  | cons segment rest inductionHypothesis =>
      cases segment with
      | literal text => exact inductionHypothesis
      | var name converter =>
          rw [List.filter_cons_of_pos rfl, List.forall₂_cons_left_iff]
          simp only [isFor_iff, inductionHypothesis, placeholder?, List.filterMap_cons]
          grind

theorem filterMap_flatMap_toPieces (segments : List Segment) :
    (segments.flatMap toPieces).filterMap Piece.placeholder? =
      segments.filterMap placeholder? := by
  induction segments with
  | nil => rfl
  | cons segment rest inductionHypothesis =>
      rw [List.flatMap_cons, List.filterMap_append, inductionHypothesis]
      cases segment with
      | literal text =>
          have nonePlaced : (toPieces (.literal text)).filterMap Piece.placeholder? = [] := by
            simp [toPieces, Function.comp_def, Piece.placeholder?]
          rw [nonePlaced]
          rfl
      | var name converter => rfl

namespace AreSpaced

theorem tail (spaced : AreSpaced (segment :: segments)) : AreSpaced segments :=
  ⟨fun text membership => spaced.nonempty text (List.mem_cons_of_mem _ membership),
    spaced.separated.tail⟩

/-- Behind a literal there is a variable, or nothing. -/
theorem behind_literal {text : String} (spaced : AreSpaced (.literal text :: segments)) :
    segments = [] ∨ ∃ name converter rest, segments = .var name converter :: rest := by
  cases segments with
  | nil => exact .inl rfl
  | cons next rest =>
      cases next with
      | literal other =>
          have apart := (List.isChain_cons_cons.mp spaced.separated).1
          simp [isVariable, variableName?] at apart
      | var name converter => exact .inr ⟨name, converter, rest, rfl⟩

end AreSpaced

/-- Written one after the other, segments are cut apart where they were put together. -/
theorem pieces_flatMap_written (spaced : AreSpaced segments)
    (isWritten : ∀ token ∈ segments.filterMap placeholder?, token.IsWritten)
    (plain : ∀ text, .literal text ∈ segments → ¬ HasPlaceholder text.toList) :
    pieces (segments.flatMap (·.written.toList)) = segments.flatMap toPieces := by
  induction segments with
  | nil => simp [pieces]
  | cons segment rest inductionHypothesis =>
      have plainRest text (membership : .literal text ∈ rest) :=
        plain text (List.mem_cons_of_mem _ membership)
      rw [List.flatMap_cons, List.flatMap_cons]
      cases segment with
      | literal text =>
          rw [written, pieces_append_of_plain (plain text List.mem_cons_self),
            inductionHypothesis spaced.tail isWritten plainRest, toPieces]
          rcases spaced.behind_literal with rfl | ⟨name, converter, others, rfl⟩
          · simp
          · cases converter <;> simp [written, eq_comm]
      | var name converter =>
          simp only [List.filterMap_cons, placeholder?, List.forall_mem_cons] at isWritten
          rw [written_eq_chars, pieces_of_startsPlaceholder isWritten.1,
            inductionHypothesis spaced.tail isWritten.2 plainRest]
          rfl

/-- What comes behind characters, before a placeholder or at the end, shows how many they are. -/
theorem map_char_append_inj {text other : List Char} {behind rest : List Piece}
    (ends : ∀ char, behind.head? ≠ some (.char char))
    (endsOther : ∀ char, rest.head? ≠ some (.char char))
    (same : text.map .char ++ behind = other.map .char ++ rest) : text = other ∧ behind = rest := by
  induction text generalizing other with
  | nil =>
      cases other with
      | nil => exact ⟨rfl, same⟩
      | cons char others => exact absurd (congrArg List.head? same) (ends char)
  | cons char more inductionHypothesis =>
      cases other with
      | nil => exact absurd (congrArg List.head? same).symm (endsOther char)
      | cons first others =>
          simp only [List.map_cons, List.cons_append, List.cons.injEq, Piece.char.injEq] at same
          obtain ⟨rfl, same⟩ := same
          obtain ⟨rfl, behind_eq⟩ := inductionHypothesis same
          exact ⟨rfl, behind_eq⟩

namespace AreSpaced

theorem toPieces_ne_nil (spaced : AreSpaced (segment :: segments)) : segment.toPieces ≠ [] := by
  cases segment with
  | literal text => simpa [toPieces] using spaced.nonempty text List.mem_cons_self
  | var name converter => exact List.cons_ne_nil _ _

theorem head?_flatMap_toPieces {text : String} (spaced : AreSpaced (.literal text :: segments))
    (char : Char) : (segments.flatMap toPieces).head? ≠ some (.char char) := by
  rcases spaced.behind_literal with rfl | ⟨name, converter, rest, rfl⟩ <;> simp [toPieces]

theorem append_ne_placeholder {text : String} (spaced : AreSpaced (.literal text :: segments))
    (behind rest : List Piece) :
    toPieces (.literal text) ++ behind ≠ .placeholder token :: rest := by
  obtain ⟨char, more, text_eq⟩ := List.exists_cons_of_ne_nil
    (mt String.toList_eq_nil_iff.mp (spaced.nonempty text List.mem_cons_self))
  simp [toPieces, text_eq]

/-- The pieces of segments show which one is the first. -/
theorem eq_of_toPieces_append_eq {other : Segment} (spaced : AreSpaced (segment :: segments))
    (spacedOther : AreSpaced (other :: others))
    (same : segment.toPieces ++ segments.flatMap toPieces =
      other.toPieces ++ others.flatMap toPieces) :
    segment = other ∧ segments.flatMap toPieces = others.flatMap toPieces := by
  cases segment with
  | literal text =>
      cases other with
      | literal otherText =>
          obtain ⟨text_eq, rest_eq⟩ := map_char_append_inj spaced.head?_flatMap_toPieces
            spacedOther.head?_flatMap_toPieces same
          exact ⟨by rw [String.toList_inj.mp text_eq], rest_eq⟩
      | var name converter => exact absurd same (spaced.append_ne_placeholder _ _)
  | var name converter =>
      cases other with
      | literal text => exact absurd same.symm (spacedOther.append_ne_placeholder _ _)
      | var otherName otherConverter =>
          obtain ⟨token_eq, rest_eq⟩ := List.cons_eq_cons.mp same
          simp only [Piece.placeholder.injEq, Placeholder.mk.injEq] at token_eq
          obtain ⟨rfl, converter_eq⟩ := token_eq
          exact ⟨by rw [Option.map_injective Converter.name_injective converter_eq], rest_eq⟩

/-- Segments are determined by their pieces. -/
theorem eq_of_flatMap_toPieces_eq (spaced : AreSpaced segments) (spacedOthers : AreSpaced others)
    (same : segments.flatMap toPieces = others.flatMap toPieces) : segments = others := by
  induction segments generalizing others with
  | nil =>
      cases others with
      | nil => rfl
      | cons other rest =>
          exact absurd (List.append_eq_nil_iff.mp same.symm).1 spacedOthers.toPieces_ne_nil
  | cons segment more inductionHypothesis =>
      cases others with
      | nil => exact absurd (List.append_eq_nil_iff.mp same).1 spaced.toPieces_ne_nil
      | cons other rest =>
          obtain ⟨rfl, rest_eq⟩ := spaced.eq_of_toPieces_append_eq spacedOthers same
          rw [inductionHypothesis spaced.tail spacedOthers.tail rest_eq]

end AreSpaced

/-! ### From pieces to segments -/

theorem Converter.named?_eq_some_iff {name : String} {converter : Converter} :
    Converter.named? name = some converter ↔ converter.name = name := by
  constructor
  · exact Converter.name_of_named?
  · rintro rfl
    cases converter <;> rfl

theorem Placeholder.isKnown_iff : token.IsKnown ↔
    ∃ converter : Option Converter, converter.map Converter.name = token.converter := by
  rcases token with ⟨name, _ | converterName⟩
  · exact ⟨fun _ => ⟨none, rfl⟩, fun _ _ isNone => nomatch isNone⟩
  · simp only [IsKnown, Option.some.injEq, Option.map_eq_some_iff]
    grind

/-- A placeholder becomes a variable, behind the characters before it. -/
theorem ofPieces_placeholder_eq_ok_iff :
    ofPieces template seen chars (.placeholder token :: cut) = .ok segments ↔
      ∃ (converter : Option Converter) (more : List Segment),
        converter.map Converter.name = token.converter ∧
        token.name ∉ seen ∧ ofPieces template (token.name :: seen) [] cut = .ok more ∧
        segments = literalOf chars ++ .var token.name converter :: more := by
  constructor
  · intro isCut
    obtain ⟨converter, more, unseen, cutRest, segments_eq, written_eq⟩ :=
      ofPieces_placeholder_eq_ok isCut
    exact ⟨converter, more, written_eq_chars_iff.mp written_eq, unseen, cutRest, segments_eq⟩
  · rintro ⟨converter, more, converter_eq, unseen, cutRest, rfl⟩
    rcases token with ⟨name, _⟩
    subst converter_eq
    cases converter with
    | none => simp_all [ofPieces]
    | some converter =>
        have isKnown : Converter.named? converter.name = some converter :=
          Converter.named?_eq_some_iff.mpr rfl
        simp_all [ofPieces]

/-- Pieces can be joined to segments unless a placeholder is unknown or has a name for the second
time. -/
theorem exists_ofPieces_eq_ok_iff :
    (∃ segments, ofPieces template seen chars cut = .ok segments) ↔
      (∀ token ∈ cut.filterMap Piece.placeholder?, token.IsKnown) ∧
        ((cut.filterMap Piece.placeholder?).map (·.name)).Nodup ∧
        ∀ token ∈ cut.filterMap Piece.placeholder?, token.name ∉ seen := by
  induction cut generalizing seen chars with
  | nil => simp [ofPieces]
  | cons piece rest inductionHypothesis =>
      cases piece with
      | char char => exact inductionHypothesis
      | placeholder token =>
          have step : (∃ segments,
              ofPieces template seen chars (.placeholder token :: rest) = .ok segments) ↔
              token.IsKnown ∧ token.name ∉ seen ∧
                ∃ more, ofPieces template (token.name :: seen) [] rest = .ok more := by
            simp only [ofPieces_placeholder_eq_ok_iff, Placeholder.isKnown_iff]
            grind
          rw [step, inductionHypothesis]
          simp only [List.filterMap_cons, Piece.placeholder?, List.map_cons, List.nodup_cons,
            List.mem_map, List.mem_cons]
          grind

theorem flatMap_toPieces_literalOf (chars : List Char) :
    (literalOf chars).flatMap toPieces = chars.reverse.map .char := by
  unfold literalOf
  cases chars with
  | nil => rfl
  | cons char rest => simp [toPieces]

/-- The segments that pieces are joined to stand for these pieces. -/
theorem flatMap_toPieces_of_ofPieces (isCut : ofPieces template seen chars cut = .ok segments) :
    segments.flatMap toPieces = chars.reverse.map .char ++ cut := by
  induction cut generalizing seen chars segments with
  | nil =>
      obtain rfl := Except.ok.inj isCut
      rw [flatMap_toPieces_literalOf, List.append_nil]
  | cons piece rest inductionHypothesis =>
      cases piece with
      | char char => simpa using inductionHypothesis isCut
      | placeholder token =>
          obtain ⟨converter, more, converter_eq, -, cutRest, rfl⟩ :=
            ofPieces_placeholder_eq_ok_iff.mp isCut
          rw [List.flatMap_append, flatMap_toPieces_literalOf, List.flatMap_cons,
            inductionHypothesis cutRest, toPieces, converter_eq]
          rfl

/-! ### Templates -/

/-- A template can be parsed unless it is refused. -/
theorem exists_parse_eq_ok_iff (reads : Reads template.toList tokens) :
    (∃ segments, parse template = .ok segments) ↔ ¬ IsRefused template tokens := by
  obtain rfl := reads_iff.mp reads
  unfold parse IsRefused
  cases found : findAngle? template.toList with
  | some placeholder =>
      have hasAngle : HasAngle template.toList :=
        findAngle?_isSome_iff.mp (by rw [found]; rfl)
      simp [hasAngle]
  | none =>
      have noAngle : ¬ HasAngle template.toList :=
        mt findAngle?_isSome_iff.mpr (by rw [found]; exact Bool.false_ne_true)
      rw [exists_ofPieces_eq_ok_iff]
      simp only [noAngle, false_or, not_or, not_exists, not_and, not_not, List.not_mem_nil,
        not_false_eq_true, implies_true, and_true]

theorem AreParsed.areSpaced (parsed : AreParsed segments) : AreSpaced segments :=
  ⟨parsed.nonempty, parsed.separated⟩

theorem AreExact.flatMap_toPieces (reads : Reads template.toList tokens)
    (exact : AreExact template tokens segments) :
    segments.flatMap toPieces = pieces template.toList := by
  rw [← pieces_flatMap_written exact.toAreSpaced _ exact.plain]
  · rw [← List.flatMap_map, ← String.toList_join, exact.lossless]
  · rw [forall₂_isFor_iff.mp exact.isFor]
    exact reads.isWritten

/-- Parsing takes a template apart exactly. -/
theorem areExact_of_parse (reads : Reads template.toList tokens)
    (parses : parse template = .ok segments) : AreExact template tokens segments := by
  have lossless := flatMap_written_of_parse parses
  have isPieces : segments.flatMap toPieces = pieces template.toList := by
    unfold parse at parses
    split at parses
    · cases parses
    · exact flatMap_toPieces_of_ofPieces parses
  refine ⟨(areParsed_of_parse parses).areSpaced, ?_, ?_, ?_⟩
  · rw [← String.toList_inj, String.toList_join, List.flatMap_map, lossless]
  · rw [forall₂_isFor_iff, ← filterMap_flatMap_toPieces, isPieces, ← reads_iff.mp reads]
  · intro text membership
    obtain ⟨before, behind, rfl⟩ := List.append_of_mem membership
    rw [List.flatMap_append, List.flatMap_cons, toPieces, ← List.append_assoc] at isPieces
    exact not_hasPlaceholder_of_pieces isPieces.symm

/-- A template has one reading from left to right.  It is refused exactly for brackets that are
angles, converters that there are not and names that come twice; otherwise its segments are the one
list in which nothing is lost, the variables are the placeholders, and the literals are what is
between them. -/
theorem parse_exact (template : String) :
    ∃ tokens, (∀ others, Reads template.toList others ↔ others = tokens) ∧
      ((∃ fault, parse template = .error fault ∧
        (Failure.compile (.malformed fault)).kind = .configuration) ↔
          IsRefused template tokens) ∧
      (¬ IsRefused template tokens → ∃ segments, parse template = .ok segments ∧
        ∀ others, AreExact template tokens others ↔ others = segments) := by
  have reads := reads_iff.mpr (Eq.refl ((pieces template.toList).filterMap Piece.placeholder?))
  refine ⟨_, fun others => reads_iff, ?_, fun accepted => ?_⟩
  · rw [← not_iff_not, ← exists_parse_eq_ok_iff reads]
    cases parse template <;> simp [Failure.kind, Failure.regexFault?]
  · obtain ⟨segments, parses⟩ := (exists_parse_eq_ok_iff reads).mpr accepted
    have exact := areExact_of_parse reads parses
    refine ⟨segments, parses, fun others => ⟨fun exactOthers => ?_, ?_⟩⟩
    · apply exactOthers.eq_of_flatMap_toPieces_eq exact.toAreSpaced
      rw [exactOthers.flatMap_toPieces reads, exact.flatMap_toPieces reads]
    · rintro rfl
      exact exact

/-- Braces around what is no name are letters like all others. -/
example : parse "/\x7b\x7ba\x7d/\x7b1a\x7d\x7bb:int\x7d" =
    .ok [.literal "/\x7b", .var "a" none, .literal "/\x7b1a\x7d", .var "b" (some .int)] := by
  cbv

end UrlRouting.Segment
