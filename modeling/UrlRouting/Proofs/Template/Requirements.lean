import UrlRouting.Proofs.Regex.Characters
import UrlRouting.Proofs.Regex.Groups
import UrlRouting.Proofs.Template.Segments
import UrlRouting.Template.Compiled

/-!
# Requirements of variables

Which expression a variable of a template has to fit, and which texts that lets through.  The
expressions of the converters are regular, so a template is regular as soon as the explicit
requirements of its variables are.
-/

namespace UrlRouting

variable {requirements : Requirements} {segments : List Segment} {name : String}

/-! ### Requirements -/

namespace Expression

/-- The texts that the expression of a given text describes. -/
def languageOf (source : String) : Language Char :=
  {text | ∃ expression, compile source = .ok expression ∧ text ∈ expression.regex.language}

theorem languageOf_eq {source : String} {expression : Expression}
    (compiles : compile source = .ok expression) :
    languageOf source = expression.regex.language := by
  ext text
  constructor
  · rintro ⟨other, compilesOther, inside⟩
    rw [compiles] at compilesOther
    injection compilesOther with same
    rwa [same]
  · exact fun inside => ⟨expression, compiles, inside⟩

end Expression

namespace Requirements

/-- The text of the expression for a variable: its requirement, or else that of its converter. -/
def sourceFor (requirements : Requirements) (name : String) (converter : Converter) : String :=
  (requirements.get? (.text name)).getD converter.pattern

/-- Whether the requirements of some variables are regular expressions. -/
def AreRegular (requirements : Requirements) (names : List String) : Prop :=
  ∀ name ∈ names, ∀ source, requirements.get? (.text name) = some source →
    ∀ expression, Expression.compile source = .ok expression → expression.IsRegular

theorem areRegular_of_forall_mem {requirements : Requirements}
    (regular : ∀ entry ∈ requirements, ∃ expression,
      Expression.compile entry.2 = .ok expression ∧ expression.IsRegular)
    (names : List String) : requirements.AreRegular names := by
  intro name _ source found expression compiles
  obtain ⟨entry, isFound, rfl⟩ := Option.map_eq_some_iff.mp found
  obtain ⟨known, compilesEntry, isRegular⟩ := regular entry (List.mem_of_find?_eq_some isFound)
  rw [compilesEntry] at compiles
  injection compiles with same
  rwa [← same]

end Requirements

/-! ### Converters -/

def Converter.expression : Converter → Expression
  | str => ⟨"[^/]+", .seq (.repeated 1 none .greedy (.oneOf ⟨true, [.single 47], .exact⟩)) .empty,
      []⟩
  | int => ⟨"\\d+",
      .seq (.repeated 1 none .greedy (.oneOf ⟨false, [.shorthand .digit false false], .exact⟩))
        .empty, []⟩
  | float => ⟨"\\d+(?:\\.\\d+)?",
      .seq (.repeated 1 none .greedy (.oneOf ⟨false, [.shorthand .digit false false], .exact⟩))
        (.seq (.repeated 0 (some 1) .greedy
          (.seq (.oneOf ⟨false, [.single 46], .exact⟩)
            (.seq (.repeated 1 none .greedy
                (.oneOf ⟨false, [.shorthand .digit false false], .exact⟩)) .empty))) .empty), []⟩

theorem Converter.compile_pattern (converter : Converter) :
    Expression.compile converter.pattern = .ok converter.expression := by
  cases converter with
  | str => cbv
  | int => cbv
  | float => cbv

theorem Converter.narrow_of_mem_languageOf {converter : Converter} {text : List Char}
    (inside : text ∈ Expression.languageOf converter.pattern) : text ≠ [] ∧ '/' ∉ text := by
  rw [Expression.languageOf_eq converter.compile_pattern] at inside
  have avoids : converter.expression.regex.avoids '/' ∧ converter.expression.regex.isProper := by
    cases converter <;> decide
  exact ⟨Regex.ne_nil_of_mem_language avoids.2 inside,
    Regex.notMem_of_mem_language avoids.1 inside⟩

theorem Converter.mem_languageOf_str {text : List Char} (nonempty : text ≠ [])
    (free : '/' ∉ text) : text ∈ Expression.languageOf Converter.str.pattern := by
  rw [Expression.languageOf_eq Converter.str.compile_pattern]
  have members : ∀ char ∈ text, CharClass.contains ⟨true, [.single 47], .exact⟩ char := by
    intro char inText
    have isOther : char.toNat ≠ 47 := by
      intro isSlash
      exact free ((Char.toNat_inj.mp isSlash : char = '/') ▸ inText)
    simp [CharClass.contains, ClassItem.contains, CaseRule.variants, isOther.symm]
  exact Language.mem_mul.mpr
    ⟨text, Regex.mem_some_oneOf_language nonempty members .greedy, [], rfl, List.append_nil _⟩

theorem Converter.isRegular (converter : Converter) : converter.expression.IsRegular := by
  cases converter <;> exact ⟨by decide, rfl⟩

namespace CompiledTemplate

/-! ### The parts of a compiled template -/

/-- How the parts of a compiled template hang together. -/
structure Compiles (template : String) (defaults : Attributes) (requirements : Requirements)
    (compiled : CompiledTemplate) : Prop where
  parse : Segment.parse template = .ok compiled.segments
  requirements_eq : compiled.requirements = requirementsOf requirements compiled.segments
  constraints : constraintsOf compiled.requirements = .ok compiled.constraints
  optionalFrom_eq : compiled.optionalFrom = optionalStart defaults.hasName compiled.segments
  leadSeparator_eq :
    compiled.leadSeparator = leadSeparatorOf compiled.segments compiled.optionalFrom
  expression : Expression.compile (sourceText compiled.requirements compiled.segments
    compiled.optionalFrom compiled.leadSeparator) = .ok compiled.expression

theorem compiles_of_compile {template : String} {defaults : Attributes}
    {requirements : Requirements} {compiled : CompiledTemplate}
    (compile_eq : compile template defaults requirements = .ok compiled) :
    Compiles template defaults requirements compiled := by
  unfold compile at compile_eq
  split at compile_eq
  · simp at compile_eq
  · next segments parses =>
      dsimp only at compile_eq
      split at compile_eq
      · simp at compile_eq
      · next constraints reads =>
          split at compile_eq
          · simp at compile_eq
          · next expression readsSource =>
              injection compile_eq with same
              subst same
              exact ⟨parses, rfl, reads, rfl, rfl, readsSource⟩

/-! ### The expressions of its variables -/

theorem mem_names_of_lookup_requirementsOf {source : String}
    (found : (requirementsOf requirements segments).lookup name = some source) :
    name ∈ segments.filterMap (·.variableName?) := by
  induction segments with
  | nil => simp [requirementsOf] at found
  | cons segment rest inductionHypothesis =>
      cases segment with
      | literal text => exact inductionHypothesis found
      | var other converter =>
          by_cases same : name = other
          · subst same
            exact List.mem_cons_self ..
          · refine List.mem_cons_of_mem _ (inductionHypothesis ?_)
            rw [requirementsOf] at found
            split at found
            · rwa [lookup_cons_of_ne same] at found
            · exact found

/-- Since no variable comes twice, each one gets the requirement that is meant for it. -/
theorem lookup_requirementsOf (nodup : (segments.filterMap (·.variableName?)).Nodup)
    {converter : Option Converter} (membership : .var name converter ∈ segments) :
    (requirementsOf requirements segments).lookup name =
      requirementOf requirements name (converter.getD .str) := by
  induction segments with
  | nil => simp at membership
  | cons segment rest inductionHypothesis =>
      cases segment with
      | literal text =>
          apply inductionHypothesis nodup
          simpa using membership
      | var other otherConverter =>
          obtain ⟨fresh, nodupRest⟩ := List.nodup_cons.mp nodup
          rcases List.mem_cons.mp membership with same | inRest
          · injection same with same sameConverter
            subst same sameConverter
            rw [requirementsOf]
            split
            · next source found => rw [List.lookup_cons_self, found]
            · next notFound =>
                rw [notFound]
                cases later : (requirementsOf requirements rest).lookup name with
                | none => rfl
                | some source => exact absurd (mem_names_of_lookup_requirementsOf later) fresh
          · have different : name ≠ other := by
              rintro rfl
              exact fresh (Segment.mem_names_iff.mpr ⟨_, inRest⟩)
            rw [← inductionHypothesis nodupRest inRest, requirementsOf]
            split
            · rw [lookup_cons_of_ne different]
            · rfl

theorem sourceOf_requirementsOf (nodup : (segments.filterMap (·.variableName?)).Nodup)
    {converter : Option Converter} (membership : .var name converter ∈ segments) :
    sourceOf (requirementsOf requirements segments) name =
      requirements.sourceFor name (converter.getD .str) := by
  rw [sourceOf, lookup_requirementsOf nodup membership, requirementOf, Requirements.sourceFor]
  cases requirements.get? (.text name) with
  | some source => rfl
  | none =>
      by_cases plain : converter.getD .str = .str
      · simp [plain]
      · simp [plain]

theorem lookup_constraintsOf {effective : List (String × String)}
    {constraints : List (String × Expression)} (reads : constraintsOf effective = .ok constraints)
    (name : String) :
    (effective.lookup name = none ∧ constraints.lookup name = none) ∨
      ∃ source expression, effective.lookup name = some source ∧
        constraints.lookup name = some expression ∧
        Expression.compile source = .ok expression := by
  induction effective generalizing constraints with
  | nil =>
      injection reads with same
      subst same
      exact .inl ⟨rfl, rfl⟩
  | cons first rest inductionHypothesis =>
      rcases first with ⟨other, source⟩
      rw [constraintsOf] at reads
      split at reads
      · simp at reads
      · next expression compiles =>
          split at reads
          · simp at reads
          · next constraintsRest readsRest =>
              injection reads with same
              subst same
              by_cases isFirst : name = other
              · subst isFirst
                exact .inr ⟨source, expression, List.lookup_cons_self, List.lookup_cons_self,
                  compiles⟩
              · rw [lookup_cons_of_ne isFirst, lookup_cons_of_ne isFirst]
                exact inductionHypothesis readsRest

section

variable {template : String} {defaults : Attributes} {compiled : CompiledTemplate}
  (compiles : Compiles template defaults requirements compiled) {converter : Option Converter}
  (membership : .var name converter ∈ compiled.segments)

include compiles membership

theorem Compiles.sourceOf_eq :
    sourceOf compiled.requirements name = requirements.sourceFor name (converter.getD .str) := by
  rw [compiles.requirements_eq]
  exact sourceOf_requirementsOf (Segment.areParsed_of_parse compiles.parse).nodup membership

/-- What a variable has to fit could be read. -/
theorem Compiles.exists_compile : ∃ expression,
    Expression.compile (requirements.sourceFor name (converter.getD .str)) = .ok expression := by
  rw [← compiles.sourceOf_eq membership, sourceOf]
  rcases lookup_constraintsOf compiles.constraints name with
    ⟨absent, -⟩ | ⟨source, expression, isFound, -, compilesSource⟩
  · rw [absent]
    exact ⟨_, Converter.str.compile_pattern⟩
  · rw [isFound]
    exact ⟨expression, compilesSource⟩

theorem Compiles.exists_expression (regular : requirements.AreRegular compiled.variableNames) :
    ∃ expression,
      Expression.compile (requirements.sourceFor name (converter.getD .str)) = .ok expression ∧
      expression.IsRegular := by
  obtain ⟨expression, compilesSource⟩ := compiles.exists_compile membership
  refine ⟨expression, compilesSource, ?_⟩
  cases required : requirements.get? (.text name) with
  | none =>
      rw [Requirements.sourceFor, required, Option.getD_none,
        Converter.compile_pattern] at compilesSource
      injection compilesSource with same
      rw [← same]
      exact (converter.getD .str).isRegular
  | some source =>
      rw [Requirements.sourceFor, required, Option.getD_some] at compilesSource
      have isVariable : name ∈ compiled.variableNames :=
        Segment.mem_names_iff.mpr ⟨converter, membership⟩
      exact regular name isVariable source required expression compilesSource

/-- A variable is plain, or its constraint accepts what its requirement describes. -/
theorem Compiles.lookup_constraints (regular : requirements.AreRegular compiled.variableNames) :
    (requirements.get? (.text name) = none ∧ converter.getD .str = .str ∧
      compiled.constraints.lookup name = none) ∨
    ∃ expression, compiled.constraints.lookup name = some expression ∧
      ∀ text : String, expression.accepts text ↔
        text.toList ∈ Expression.languageOf
          (requirements.sourceFor name (converter.getD .str)) := by
  obtain ⟨expression, compilesSource, isRegular⟩ := compiles.exists_expression membership regular
  have effective_eq : compiled.requirements.lookup name =
      requirementOf requirements name (converter.getD .str) := by
    rw [compiles.requirements_eq]
    exact lookup_requirementsOf (Segment.areParsed_of_parse compiles.parse).nodup membership
  rcases lookup_constraintsOf compiles.constraints name with
    ⟨absent, notConstrained⟩ | ⟨source, other, isFound, isConstrained, compilesOther⟩
  · left
    rw [effective_eq, requirementOf] at absent
    cases required : requirements.get? (.text name) with
    | none => simpa [required, notConstrained] using absent
    | some source => simp [required] at absent
  · right
    have source_eq : requirements.sourceFor name (converter.getD .str) = source := by
      rw [← compiles.sourceOf_eq membership, sourceOf, isFound]
      rfl
    rw [source_eq, compilesOther] at compilesSource
    injection compilesSource with same
    subst same
    refine ⟨other, isConstrained, ?_⟩
    intro text
    rw [source_eq, Expression.languageOf_eq compilesOther]
    exact Expression.accepts_iff isRegular text

end

end CompiledTemplate

end UrlRouting
