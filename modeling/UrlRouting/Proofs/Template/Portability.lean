import UrlRouting.Proofs.Regex.Enclosure
import UrlRouting.Proofs.Template.Fronts
import UrlRouting.Proofs.Template.Parsing

/-!
# Requirements that fit into every template

A requirement that names no groups, takes none of them again, sets no flags for the whole of itself
and asks for no groups inside of look-behinds can stand for a variable of any template: the text
that is made of the template is an expression, and its named groups are those of the variables
(`CompiledTemplate.exists_compile_of_arePortable`).
-/

namespace UrlRouting

open Regex

/-! ### Names -/

namespace Segment

theorem isName_of_ascii {char : Char} (isAscii : char.toNat < 128) :
    (isNameChar char = true → Text.isNameContinue char = true) ∧
      (isNameStart char = true → Text.isNameStart char = true) := by
  have checked : ∀ code < 128,
      (isNameChar (Char.ofNat code) = true → Text.isNameContinue (Char.ofNat code) = true) ∧
        (isNameStart (Char.ofNat code) = true → Text.isNameStart (Char.ofNat code) = true) := by
    decide +kernel
  have isName := checked char.toNat isAscii
  rwa [Char.ofNat_toNat] at isName

/-- A name of a variable can be the name of a group. -/
theorem IsName.isGroupName {name : String} (isName : IsName name.toList) :
    Text.isName name = true := by
  obtain ⟨first, rest, chars_eq, isStart, named⟩ := isName
  rw [Text.isName, chars_eq]
  refine (Bool.and_eq_true _ _).mpr ⟨?_, List.all_eq_true.mpr fun char inRest => ?_⟩
  · exact (isName_of_ascii
      (toNat_lt_of_isNameChar (isNameChar_of_isNameStart isStart))).2 isStart
  · exact (isName_of_ascii (toNat_lt_of_isNameChar (named char inRest))).1 (named char inRest)

theorem isName_of_parse {template : String} {segments : List Segment}
    (parses : parse template = .ok segments) {name : String}
    (membership : name ∈ segments.filterMap (·.variableName?)) : IsName name.toList := by
  obtain ⟨converter, isVariable⟩ := mem_names_iff.mp membership
  have reads := reads_iff.mpr (Eq.refl ((pieces template.toList).filterMap Piece.placeholder?))
  have isFor := forall₂_isFor_iff.mp (areExact_of_parse reads parses).isFor
  have isToken : ⟨name, converter.map Converter.name⟩ ∈
      (pieces template.toList).filterMap Piece.placeholder? := by
    rw [← isFor]
    exact List.mem_filterMap.mpr ⟨_, isVariable, rfl⟩
  exact (reads.isWritten _ isToken).isName

end Segment

/-! ### Requirements on their own -/

namespace Expression

/-- A text is an expression on its own, read to `last`, and it names no groups, takes none of them
again and sets no flags for the whole of itself. -/
structure IsSelfContained (source : String) (last : Progress) : Prop where
  reads : readTokens (Token.ofChars source.toList) = .ok last
  unnamed : last.groups.names = []
  unflagged : last.wholeFlags = []
  unreferring : last.frame.body.hasReference = false

/-- Nor does it ask inside of a look-behind if one of its groups has taken something. -/
def IsPortable (source : String) : Prop :=
  ∃ last, IsSelfContained source last ∧ last.frame.body.asksBehind false = false

theorem IsPortable.exists_compile {source : String} (portable : IsPortable source) :
    ∃ expression, compile source = .ok expression := by
  obtain ⟨last, selfContained, -⟩ := portable
  exact ⟨_, by rw [compile, selfContained.reads]⟩

/-- Behind any groups it is read to its end, where it leaves no names behind and nothing open. -/
theorem IsPortable.exists_isBracketed {source : String}
    (portable : IsPortable source) {before : Groups}
    (nodup : (before.names.map (·.1)).Nodup) (noLookbehind : before.beforeLookbehind = none)
    (number : Nat) :
    ∃ final behind, IsBracketed before number source final ∧
      behind = (final.groups.close final.frame).bare ∧ behind.names = before.names ∧
      before.count ≤ behind.count ∧ behind.beforeLookbehind = none ∧
      CompiledTemplate.AreSettled [final] behind := by
  obtain ⟨last, ⟨reads, unnamed, unflagged, unreferring⟩, asksNothing⟩ := portable
  have free : last.frame.body.refersBack false = false := by
    rw [refersBack_eq, unreferring, asksNothing, Bool.or_false]
  obtain ⟨notAlone, readsAll, closed⟩ := readTokens_eq_ok reads
  have finishes : finish last = .ok last := by
    rw [readTokens, Reader.guardRest_eq_ok_iff.mpr notAlone, readsAll] at reads
    exact reads
  obtain ⟨fixedWidths, known⟩ :=
    (CompiledTemplate.exists_finish_iff closed unflagged).mp ⟨last, finishes⟩
  obtain ⟨final, bracketed, beside⟩ :=
    Regex.exists_isBracketed reads unnamed unflagged free nodup noLookbehind number
  have count_eq : (final.groups.close final.frame).count = last.groups.count + before.count :=
    (Groups.close_count ..).trans beside.groups.count
  refine ⟨final, _, bracketed, rfl, ?_, ?_, ?_, ?_⟩
  · change (final.groups.close final.frame).names = _
    rw [Groups.close_names, beside.groups.names, unnamed, List.map_nil, List.append_nil]
  · exact (Nat.le_add_left _ _).trans count_eq.ge
  · change (final.groups.close final.frame).beforeLookbehind = _
    rw [Groups.close_beforeLookbehind, beside.beforeLookbehind_eq_none closed, ite_self]
  · refine List.forall_mem_singleton.mpr
      ⟨beside.variableLookbehind.trans fixedWidths, fun mentioned membership => ?_⟩
    rw [Groups.mentions, beside.mentioned] at membership
    exact (known mentioned membership).trans ((Nat.le_add_right _ _).trans count_eq.ge)

theorem isPortable_pattern (converter : Converter) : IsPortable converter.pattern := by
  obtain ⟨last, reads, expression_eq⟩ := exists_readTokens_of_compile converter.compile_pattern
  have unflagged : (readTokens (Token.ofChars converter.pattern.toList)).map (·.wholeFlags) =
      .ok [] := by
    cases converter <;> cbv
  have names_eq : converter.expression.names = last.groups.names := by rw [expression_eq]
  have regular := converter.isRegular
  rw [reads] at unflagged
  rw [expression_eq] at regular
  have free : last.frame.body.refersBack false = false := refersBack_of_isRegular regular.1
  rw [refersBack_eq, Bool.or_eq_false_iff] at free
  refine ⟨last, ⟨reads, ?_, Except.ok.inj unflagged, free.1⟩, free.2⟩
  rw [← names_eq]
  cases converter <;> rfl

end Expression

namespace CompiledTemplate

variable {sources : String → String} {segments : List Segment}

/-! ### Places -/

theorem allows_of_nodup {groups : Groups} {name : String} {others : List String}
    (isGroupName : Text.isName name = true)
    (nodup : (groups.names.map (·.1) ++ name :: others).Nodup) : groups.Allows name := by
  refine ⟨isGroupName, Option.eq_none_iff_forall_ne_some.mpr fun number found => ?_⟩
  have isTaken := List.mem_map_of_mem (f := (·.1)) (mem_of_lookup found)
  exact (List.nodup_append.mp nodup).2.2 name isTaken name (List.mem_cons_self ..) rfl

theorem AreSettled.cons {final : Progress} {finals : List Progress} {behind after : Groups}
    (settledFirst : AreSettled [final] behind) (le : behind.count ≤ after.count)
    (settled : AreSettled finals after) : AreSettled (final :: finals) after := by
  obtain ⟨fixedWidths, known⟩ := List.forall_mem_singleton.mp settledFirst
  exact List.forall_mem_cons.mpr
    ⟨⟨fixedWidths, fun number isMentioned => (known number isMentioned).trans le⟩, settled⟩

/-- Each variable finds its place behind those before it, since only their names stay. -/
theorem exists_placed_of_isPortable
    (isGroupName : ∀ name ∈ segments.filterMap (·.variableName?), Text.isName name = true)
    (portable : ∀ name ∈ segments.filterMap (·.variableName?),
      Expression.IsPortable (sources name))
    (before : Groups)
    (nodup : (before.names.map (·.1) ++ segments.filterMap (·.variableName?)).Nodup)
    (noLookbehind : before.beforeLookbehind = none) :
    ∃ slots finals after, slots.map Slot.segment = segments ∧
      Slot.ArePlaced sources before slots finals after ∧ AreSettled finals after ∧
      before.count ≤ after.count ∧
      after.names.map (·.1) = before.names.map (·.1) ++ segments.filterMap (·.variableName?) := by
  induction segments generalizing before with
  | nil =>
      exact ⟨[], [], before, rfl, .nil before, List.forall_mem_nil _, le_rfl,
        (List.append_nil _).symm⟩
  | cons segment rest inductionHypothesis =>
      cases segment with
      | literal text =>
          obtain ⟨slots, finals, after, segments_eq, placed, settled, le, names_eq⟩ :=
            inductionHypothesis isGroupName portable before nodup noLookbehind
          exact ⟨.literal text :: slots, finals, after, congrArg (_ :: ·) segments_eq,
            .literal text placed, settled, le, names_eq⟩
      | var name converter =>
          obtain ⟨isFirstName, areNames⟩ := List.forall_mem_cons.mp isGroupName
          obtain ⟨firstPortable, restPortable⟩ := List.forall_mem_cons.mp portable
          have named_eq : (before.named name).names.map (·.1) =
              before.names.map (·.1) ++ [name] := by
            rw [Groups.named, List.map_append, List.map_singleton]
          have nodupAll : ((before.named name).names.map (·.1) ++
              rest.filterMap (·.variableName?)).Nodup := by
            rw [named_eq, List.append_assoc]
            exact nodup
          obtain ⟨final, behind, bracketed, rfl, sameNames, grows, closed, settledFirst⟩ :=
            firstPortable.exists_isBracketed nodupAll.of_append_left noLookbehind
              (before.count + 1)
          rw [← sameNames] at nodupAll named_eq
          obtain ⟨slots, finals, after, segments_eq, placed, settled, le, names_eq⟩ :=
            inductionHypothesis areNames restPortable _ nodupAll closed
          refine ⟨_, _, after, ?_,
            .group converter (allows_of_nodup isFirstName nodup) bracketed placed,
            settledFirst.cons le settled, (Nat.le_succ _).trans (grows.trans le), ?_⟩
          · rw [List.map_cons, segments_eq]
            rfl
          · rw [names_eq, named_eq, List.append_assoc]
            rfl

/-! ### Whole templates -/

/-- The text that is made of portable sources is an expression with the names of the variables. -/
theorem exists_compile_sourceText {effective : List (String × String)}
    (areNames : ∀ name ∈ segments.filterMap (·.variableName?), Segment.IsName name.toList)
    (nodup : (segments.filterMap (·.variableName?)).Nodup)
    (portable : ∀ name ∈ segments.filterMap (·.variableName?),
      Expression.IsPortable (sourceOf effective name))
    (optionalFrom : Nat) (lead : Option Char) :
    ∃ expression,
      Expression.compile (sourceText effective segments optionalFrom lead) = .ok expression ∧
        expression.names.map (·.1) = segments.filterMap (·.variableName?) := by
  have written_names : (trimmed lead (segments.take optionalFrom) ++
      segments.drop optionalFrom).filterMap (·.variableName?) =
        segments.filterMap (·.variableName?) := by
    rw [List.filterMap_append, filterMap_trimmed, ← List.filterMap_append, List.take_append_drop]
  obtain ⟨slots, finals, after, segments_eq, placed, settled, -, names_eq⟩ :=
    exists_placed_of_isPortable
      (fun name membership => (areNames name (written_names ▸ membership)).isGroupName)
      (fun name membership => portable name (written_names ▸ membership)) .none
      (written_names.symm ▸ nodup) rfl
  have readable : Readable (sourceOf effective) (slots.map Slot.segment) := by
    intro segment membership name isName
    rw [segments_eq] at membership
    have isVariable : name ∈ segments.filterMap (·.variableName?) :=
      written_names ▸ List.mem_filterMap.mpr ⟨segment, membership, isName⟩
    exact ⟨fun char => (areNames name isVariable).isNameChar,
      (portable name isVariable).exists_compile⟩
  obtain ⟨expression, compiles⟩ :=
    (exists_compile_sourceText_iff placed readable segments_eq).mpr settled
  refine ⟨expression, compiles, ?_⟩
  -- The text is read to its end in one way, and there its groups are those of the slots.
  obtain ⟨last, readsTokens, rfl⟩ := exists_readTokens_of_compile compiles
  obtain ⟨-, last', reads, -, groups_eq⟩ := readAll_sourceText placed readable segments_eq rfl
    (Token.width (Token.ofChars (sourceText effective segments optionalFrom lead).toList))
  obtain rfl := Except.ok.inj ((readTokens_eq_ok readsTokens).2.1.symm.trans reads)
  rw [← written_names, ← List.nil_append (List.filterMap ..)]
  exact (congrArg (fun groups => groups.names.map (·.1)) groups_eq).trans names_eq

end CompiledTemplate

/-! ### Requirements of variables -/

namespace Requirements

/-- Whether the requirements of some variables are portable. -/
def ArePortable (requirements : Requirements) (names : List String) : Prop :=
  ∀ name ∈ names, ∀ source, requirements.get? (.text name) = some source →
    Expression.IsPortable source

variable {requirements : Requirements} {names : List String}
  (portable : requirements.ArePortable names) {name : String}
  (membership : name ∈ names) (converter : Converter)

include portable membership

theorem ArePortable.sourceFor :
    Expression.IsPortable (requirements.sourceFor name converter) := by
  unfold Requirements.sourceFor
  cases found : requirements.get? (.text name) with
  | none => exact Expression.isPortable_pattern converter
  | some source => exact portable name membership source found

theorem ArePortable.requirementOf {source : String}
    (found : CompiledTemplate.requirementOf requirements name converter = some source) :
    Expression.IsPortable source := by
  unfold CompiledTemplate.requirementOf at found
  split at found
  · next explicit isExplicit =>
      obtain rfl := Option.some.inj found
      exact portable name membership _ isExplicit
  · split at found
    · cases found
    · obtain rfl := Option.some.inj found
      exact Expression.isPortable_pattern converter

end Requirements

namespace CompiledTemplate

variable {segments : List Segment} {requirements : Requirements}

theorem exists_var_of_mem_requirementsOf {entry : String × String}
    (membership : entry ∈ requirementsOf requirements segments) :
    ∃ converter, .var entry.1 converter ∈ segments ∧
      requirementOf requirements entry.1 (converter.getD .str) = some entry.2 := by
  induction segments with
  | nil => cases membership
  | cons segment rest inductionHypothesis =>
      have inRest (isThere : entry ∈ requirementsOf requirements rest) :
          ∃ converter, .var entry.1 converter ∈ segment :: rest ∧
            requirementOf requirements entry.1 (converter.getD .str) = some entry.2 := by
        obtain ⟨converter, isVariable, found⟩ := inductionHypothesis isThere
        exact ⟨converter, List.mem_cons_of_mem _ isVariable, found⟩
      cases segment with
      | literal text => exact inRest membership
      | var name converter =>
          rw [requirementsOf] at membership
          split at membership
          · next source found =>
              rcases List.mem_cons.mp membership with rfl | isThere
              · exact ⟨converter, List.mem_cons_self .., found⟩
              · exact inRest isThere
          · exact inRest membership

theorem exists_constraintsOf {effective : List (String × String)}
    (portable : ∀ entry ∈ effective, Expression.IsPortable entry.2) :
    ∃ constraints, constraintsOf effective = .ok constraints := by
  induction effective with
  | nil => exact ⟨[], rfl⟩
  | cons entry rest inductionHypothesis =>
      obtain ⟨isFirst, areRest⟩ := List.forall_mem_cons.mp portable
      obtain ⟨expression, compiles⟩ := isFirst.exists_compile
      obtain ⟨constraints, reads⟩ := inductionHypothesis areRest
      exact ⟨(entry.1, expression) :: constraints, by simp only [constraintsOf, compiles, reads]⟩

/-- Whatever the template and its defaults, requirements that are portable do not keep it from being
compiled: the text that is made of it is an expression, and its named groups are the variables in
the order of the template. -/
theorem exists_compile_of_arePortable {template : String} {segments : List Segment}
    (parses : Segment.parse template = .ok segments) (defaults : Attributes)
    {requirements : Requirements}
    (portable : requirements.ArePortable (segments.filterMap (·.variableName?))) :
    ∃ compiled, compile template defaults requirements = .ok compiled ∧
      compiled.segments = segments ∧
      compiled.expression.names.map (·.1) = segments.filterMap (·.variableName?) := by
  have parsed := Segment.areParsed_of_parse parses
  have restrictions : ∀ entry ∈ requirementsOf requirements segments,
      Expression.IsPortable entry.2 := by
    intro entry membership
    obtain ⟨converter, isVariable, found⟩ := exists_var_of_mem_requirementsOf membership
    exact portable.requirementOf (Segment.mem_names_iff.mpr ⟨converter, isVariable⟩) _ found
  have sources : ∀ name ∈ segments.filterMap (·.variableName?),
      Expression.IsPortable (sourceOf (requirementsOf requirements segments) name) := by
    intro name membership
    obtain ⟨converter, isVariable⟩ := Segment.mem_names_iff.mp membership
    rw [sourceOf_requirementsOf parsed.nodup isVariable]
    exact portable.sourceFor membership _
  obtain ⟨constraints, constrains⟩ := exists_constraintsOf restrictions
  obtain ⟨expression, reads, names_eq⟩ := exists_compile_sourceText
    (fun name membership => Segment.isName_of_parse parses membership) parsed.nodup sources
    (optionalStart defaults.hasName segments)
    (leadSeparatorOf segments (optionalStart defaults.hasName segments))
  exact ⟨_, compile_eq_ok parses constrains reads, rfl, names_eq⟩

/-- A slug with a scoped flag, groups and a look-behind stands between two other variables. -/
theorem archive_compiles : ∃ compiled,
    compile "/archive/\x7byear:int\x7d/\x7bslug\x7d.\x7bformat\x7d" [(.text "format", .text "html")]
        [(.text "slug", "(?i:[a-z]+(-\\w\x7b1,8\x7d)*)(?<!-)")] = .ok compiled ∧
      compiled.expression.names.map (·.1) = ["year", "slug", "format"] := by
  have parses : Segment.parse "/archive/\x7byear:int\x7d/\x7bslug\x7d.\x7bformat\x7d" =
      .ok [.literal "/archive/", .var "year" (some .int), .literal "/", .var "slug" none,
        .literal ".", .var "format" none] := by cbv
  have slug : Expression.IsPortable "(?i:[a-z]+(-\\w\x7b1,8\x7d)*)(?<!-)" :=
    ⟨_, ⟨by cbv, rfl, rfl, rfl⟩, rfl⟩
  have portable : Requirements.ArePortable
      [(.text "slug", "(?i:[a-z]+(-\\w\x7b1,8\x7d)*)(?<!-)")] ["year", "slug", "format"] := by
    intro name _ source found
    obtain ⟨entry, isFound, rfl⟩ := Option.map_eq_some_iff.mp found
    rw [List.mem_singleton.mp (List.mem_of_find?_eq_some isFound)]
    exact slug
  obtain ⟨compiled, compile_eq, -, names_eq⟩ := exists_compile_of_arePortable parses
    [(.text "format", .text "html")] portable
  exact ⟨compiled, compile_eq, names_eq⟩

/-- It is not enough that a requirement names no groups, takes none of them again and sets no flags
for the whole.  Inside of a look-behind a group that is asked for has to be closed, and in a
template the number of the group is that of the variable around it. -/
theorem part_asks_for_open_group :
    Segment.parse "/\x7bx\x7d" = .ok [.literal "/", .var "x" none] ∧
      (∃ last, Expression.IsSelfContained "(a)(?<=(?(1)a|b))" last) ∧
      compile "/\x7bx\x7d" [] [(.text "x", "(a)(?<=(?(1)a|b))")] =
        .error (.assembled "/\x7bx\x7d" "^/(?P<x>(a)(?<=(?(1)a|b)))$" ⟨.openGroup, some 20⟩) := by
  have checked : (readTokens (Token.ofChars "(a)(?<=(?(1)a|b))".toList)).map
      (fun last => (last.groups.names, last.wholeFlags, last.frame.body.hasReference)) =
        .ok ([], [], false) := by decide +kernel
  refine ⟨by cbv, ?_, by decide +kernel⟩
  cases reads : readTokens (Token.ofChars "(a)(?<=(?(1)a|b))".toList) with
  | error trouble =>
      rw [reads] at checked
      cases checked
  | ok last =>
      rw [reads] at checked
      simp only [Except.map, Except.ok.injEq, Prod.mk.injEq] at checked
      exact ⟨last, reads, checked.1, checked.2.1, checked.2.2⟩

end CompiledTemplate

end UrlRouting
