import UrlRouting.Proofs.Regex.Locality
import UrlRouting.Proofs.Template.SlotWays

/-!
# Requirements inside of templates

A way through the expression of a template passes the groups of its variables one after the other,
whatever the requirements are (`Slot.Through`).  So the group of a variable starts where no group
of its own requirement has captured anything, as the requirement does alone, and if the requirement
asks nothing about the text around it, it also accepts alone what the variable captures
(`CompiledTemplate.accepts_of_captured`).
-/

namespace UrlRouting

open Regex

namespace Slot

/-! ### Passing groups -/

def SameCaptures (first last : State) : Prop :=
  ∀ number, last.captures.lookup number = first.captures.lookup number

/-- The groups of some slots are passed one after the other.  Nothing else on the way captures
anything. -/
inductive Through : List Slot → State → State → Prop where
  | done {first last : State} : SameCaptures first last → Through [] first last
  | skip {first last : State} {slots : List Slot} (slot : Slot) :
      Through slots first last → Through (slot :: slots) first last
  | group {first start next last : State} {slots : List Slot} {name : String}
      {converter : Option Converter} {number : Nat} {body : Regex} :
      SameCaptures first start → next ∈ (Regex.group number body).ways start →
      Through slots next last → Through (.group name converter number body :: slots) first last

variable {slots more : List Slot} {first middle last : State}

theorem SameCaptures.trans (same : SameCaptures first middle)
    (sameMore : SameCaptures middle last) : SameCaptures first last :=
  fun number => (sameMore number).trans (same number)

namespace Through

theorem of_same (same : SameCaptures first middle) (through : Through slots middle last) :
    Through slots first last := by
  induction through generalizing first with
  | done sameMore => exact .done (same.trans sameMore)
  | skip slot _ inductionHypothesis => exact .skip slot (inductionHypothesis same)
  | group sameStart inGroup rest _ => exact .group (same.trans sameStart) inGroup rest

theorem skip_all (slots : List Slot) (same : SameCaptures first last) :
    Through slots first last := by
  induction slots with
  | nil => exact .done same
  | cons slot rest inductionHypothesis => exact .skip slot inductionHypothesis

theorem append (through : Through slots first middle) (throughMore : Through more middle last) :
    Through (slots ++ more) first last := by
  induction through with
  | done same => exact throughMore.of_same same
  | skip slot _ inductionHypothesis => exact .skip slot (inductionHypothesis throughMore)
  | group same inGroup _ inductionHypothesis =>
      exact .group same inGroup (inductionHypothesis throughMore)

theorem of_mem_ways (membership : last ∈ (concat (slots.flatMap trees)).ways first) :
    Through slots first last := by
  induction slots generalizing first with
  | nil =>
      rw [List.mem_singleton.mp membership]
      exact .done fun _ => rfl
  | cons slot rest inductionHypothesis =>
      rw [List.flatMap_cons, mem_ways_concat_append] at membership
      obtain ⟨middle, inSlot, inRest⟩ := membership
      have throughRest := inductionHypothesis inRest
      cases slot with
      | literal text => exact .skip _ (throughRest.of_same (passes_of_mem_literal inSlot).2)
      | group name converter number body =>
          exact .group (fun _ => rfl) (mem_ways_concat_singleton.mp inSlot) throughRest

theorem of_mem_optional {before : List Char}
    (membership : last ∈ (concat (optionalTrees before slots)).ways first) :
    Through slots first last := by
  induction slots generalizing first before with
  | nil =>
      rw [List.mem_singleton.mp membership]
      exact .done fun _ => rfl
  | cons slot rest inductionHypothesis =>
      cases slot with
      | literal text => exact .skip _ (inductionHypothesis membership)
      | group name converter number body =>
          rw [optionalTrees, mem_ways_concat_singleton, mem_ways_optional] at membership
          rcases membership with inUnit | rfl
          · obtain ⟨afterLiteral, inLiteral, inGroup⟩ := mem_ways_concat_append.mp inUnit
            obtain ⟨afterGroup, inGroup, inRest⟩ := List.mem_flatMap.mp inGroup
            exact .group (passes_of_mem_literal inLiteral).2 inGroup (inductionHypothesis inRest)
          · exact .skip_all _ fun _ => rfl

/-- Only the groups of the slots, and those inside of them, capture anything. -/
theorem lookup_eq (through : Through slots first last) {number : Nat}
    (outside : ∀ slot ∈ slots, number ∉ slot.numbers) :
    last.captures.lookup number = first.captures.lookup number := by
  induction through with
  | done same => exact same number
  | skip slot _ inductionHypothesis =>
      exact inductionHypothesis (List.forall_mem_cons.mp outside).2
  | group same inGroup _ inductionHypothesis =>
      obtain ⟨outsideSlot, outsideRest⟩ := List.forall_mem_cons.mp outside
      rw [inductionHypothesis outsideRest,
        (leads_of_mem_any_ways inGroup).captures number outsideSlot, same number]

end Through

/-! ### What a group has captured -/

theorem Precedes.notMem {slot other : Slot} (precedes : slot.Precedes other) {number larger : Nat}
    (membership : number ∈ other.numbers) (le : number ≤ larger) : larger ∉ slot.numbers :=
  fun inSlot => absurd (precedes larger inSlot number membership) (Nat.not_lt.mpr le)

/-- No group of some slots has captured anything, nor has a group after one of them. -/
def AreFresh (slots : List Slot) (state : State) : Prop :=
  ∀ slot ∈ slots, ∀ number ∈ slot.numbers, ∀ larger, number ≤ larger →
    state.captures.lookup larger = none

theorem AreFresh.tail {slot : Slot} (fresh : AreFresh (slot :: slots) first) :
    AreFresh slots first :=
  (List.forall_mem_cons.mp fresh).2

/-- A group has captured a text on a way through its body, which starts where neither the group nor
any group after it has captured anything. -/
theorem Through.exists_mem_ways (through : Through slots first last)
    (ordered : slots.Pairwise Precedes) (fresh : AreFresh slots first) {name : String}
    {converter : Option Converter} {number : Nat} {body : Regex}
    (membership : .group name converter number body ∈ slots) {text : List Char}
    (captured : last.captures.lookup number = some text) :
    ∃ start, ∃ next ∈ body.ways start, start.cursor.textTo next.cursor = text ∧
      ∀ larger, number ≤ larger → start.captures.lookup larger = none := by
  induction through with
  | done => simp at membership
  | skip slot through inductionHypothesis =>
      obtain ⟨precedes, orderedRest⟩ := List.pairwise_cons.mp ordered
      rcases List.mem_cons.mp membership with rfl | inRest
      · -- The group was left out, and those after it have larger numbers.
        have unchanged := through.lookup_eq fun later inRest inLater =>
          (precedes later inRest).notMem inLater le_rfl (List.mem_cons_self ..)
        rw [unchanged, fresh _ membership number (List.mem_cons_self ..) _ le_rfl] at captured
        simp at captured
      · exact inductionHypothesis orderedRest fresh.tail inRest captured
  | group same inGroup through inductionHypothesis =>
      obtain ⟨precedes, orderedRest⟩ := List.pairwise_cons.mp ordered
      rcases List.mem_cons.mp membership with isFirst | inRest
      · injection isFirst with _ _ sameNumber sameBody
        subst sameNumber sameBody
        have unchanged := through.lookup_eq fun later inRest inLater =>
          (precedes later inRest).notMem inLater le_rfl (List.mem_cons_self ..)
        obtain ⟨next, inBody, rfl⟩ := List.mem_map.mp inGroup
        rw [unchanged, List.lookup_cons_self] at captured
        injection captured with isText
        refine ⟨_, next, inBody, isText, fun larger le => ?_⟩
        rw [same larger]
        exact fresh _ (List.mem_cons_self ..) number (List.mem_cons_self ..) larger le
      · refine inductionHypothesis orderedRest ?_ inRest captured
        intro later isLater other inLater larger le
        rw [(leads_of_mem_any_ways inGroup).captures larger
          ((precedes later isLater).notMem inLater le), same larger]
        exact fresh.tail later isLater other inLater larger le

end Slot

/-! ### The requirement alone -/

/-- What an expression inside of another one takes, starting where nothing of its own is captured,
it also takes alone. -/
theorem Regex.Mirrors.fullMatch?_isSome {offset limit : Nat} {tree tree' : Regex}
    (mirrors : tree.Mirrors offset limit tree.IsByName tree') (isLocal : tree.IsLocal false)
    {first last : State} (membership : last ∈ tree'.ways first)
    (fresh : ∀ number, offset ≤ number → first.captures.lookup number = none) :
    (tree.fullMatch? (first.cursor.textTo last.cursor)).isSome := by
  obtain ⟨text, -, passes⟩ := (leads_of_mem_any_ways membership).passes
  have embeds : Embeds offset first.cursor.before last.cursor.after ⟨.start text, []⟩ first :=
    ⟨rfl, passes.1, fun number _ => fresh _ (Nat.le_add_left ..)⟩
  obtain ⟨alone, isAlone, embedsLast⟩ :=
    (mirrors.follows isLocal.isByName isLocal embeds).exists_of_mem membership le_rfl
  have atEnd : alone.cursor.after = [] := by simpa using embedsLast.after_eq
  rw [passes.textTo]
  exact fullMatch?_isSome_of_mem_ways isAlone atEnd

namespace CompiledTemplate

variable {template : String} {defaults : Attributes} {requirements : Requirements}
  {compiled : CompiledTemplate} {fixed optional : List Slot}

theorem IsAssembled.exists_slot (assembled : IsAssembled compiled fixed optional) {name : String}
    {converter : Option Converter} (membership : .var name converter ∈ compiled.segments) :
    ∃ number body, .group name converter number body ∈ fixed ++ optional := by
  have inSegments : .var name converter ∈ (fixed ++ optional).map Slot.segment := by
    rw [List.map_append, assembled.fixed_eq, assembled.optional_eq, List.mem_append,
      mem_trimmed_iff rfl, ← List.mem_append, List.take_append_drop]
    exact membership
  obtain ⟨slot, isSlot, segment_eq⟩ := List.mem_map.mp inSegments
  cases slot with
  | literal text => simp [Slot.segment] at segment_eq
  | group other otherConverter number body =>
      injection segment_eq with sameName sameConverter
      subst sameName sameConverter
      exact ⟨number, body, isSlot⟩

theorem IsAssembled.lookup_names (assembled : IsAssembled compiled fixed optional) {name : String}
    {converter : Option Converter} {number : Nat} {body : Regex}
    (membership : .group name converter number body ∈ fixed ++ optional) :
    compiled.expression.names.lookup name = some number := by
  apply lookup_of_mem assembled.nodupNames
  rw [assembled.names_eq]
  exact List.mem_flatMap.mpr ⟨_, membership, List.mem_cons_self ..⟩

theorem IsAssembled.through (assembled : IsAssembled compiled fixed optional) {first last : State}
    (membership : last ∈ compiled.expression.regex.ways first) :
    Slot.Through (fixed ++ optional) first last := by
  rw [assembled.regex_eq, concat, ways, List.mem_flatMap] at membership
  obtain ⟨start, isStart, membership⟩ := membership
  obtain ⟨-, rfl⟩ := mem_ways_anchor.mp isStart
  obtain ⟨next, inSlots, isEnd⟩ := mem_ways_concat_append.mp membership
  obtain ⟨middle, inFixed, inOptional⟩ := mem_ways_concat_append.mp inSlots
  obtain ⟨-, rfl⟩ := mem_ways_anchor.mp (mem_ways_concat_singleton.mp isEnd)
  exact (Slot.Through.of_mem_ways inFixed).append (Slot.Through.of_mem_optional inOptional)

/-- A constraint is the expression of a variable's source. -/
theorem Compiles.exists_of_lookup_constraints
    (compiles : Compiles template defaults requirements compiled) {name : String}
    {constraint : Expression}
    (isConstrained : compiled.constraints.lookup name = some constraint) :
    (∃ converter, .var name converter ∈ compiled.segments) ∧
      Expression.compile (sourceOf compiled.requirements name) = .ok constraint := by
  rcases lookup_constraintsOf compiles.constraints name with
    ⟨-, absent⟩ | ⟨source, expression, isFound, isExpression, compilesSource⟩
  · simp [absent] at isConstrained
  · rw [isExpression] at isConstrained
    injection isConstrained with same
    subst same
    refine ⟨?_, by rwa [sourceOf, isFound]⟩
    rw [compiles.requirements_eq] at isFound
    exact Segment.mem_names_iff.mp (mem_names_of_lookup_requirementsOf isFound)

/-- What a variable captures its constraint accepts, if that asks nothing about the text around. -/
theorem accepts_of_captured (compile_eq : compile template defaults requirements = .ok compiled)
    {path : String} {captured : List (String × Option String)}
    (found : compiled.expression.fullMatch? path = some captured) {name text : String}
    (isCaptured : (name, some text) ∈ captured) {constraint : Expression}
    (isConstrained : compiled.constraints.lookup name = some constraint)
    (isLocal : constraint.regex.IsLocal false) : constraint.accepts text := by
  have compiles := compiles_of_compile compile_eq
  obtain ⟨fixed, optional, assembled⟩ := exists_assembled compiles
  obtain ⟨captures, matched, rfl⟩ := Option.map_eq_some_iff.mp found
  obtain ⟨last, membership, -, rfl⟩ := mem_ways_of_fullMatch? matched
  obtain ⟨⟨converter, isVariable⟩, compilesConstraint⟩ :=
    compiles.exists_of_lookup_constraints isConstrained
  obtain ⟨number, body, inSlots⟩ := assembled.exists_slot isVariable
  have captured_eq : (last.captures.lookup number).map String.ofList = some text := by
    obtain ⟨⟨other, otherNumber⟩, isNamed, same⟩ := List.mem_map.mp isCaptured
    obtain ⟨rfl, isText⟩ := Prod.mk.inj same
    have isNumber := lookup_of_mem assembled.nodupNames isNamed
    rw [assembled.lookup_names inSlots] at isNumber
    injection isNumber with same
    rwa [same]
  obtain ⟨chars, isChars, rfl⟩ := Option.map_eq_some_iff.mp captured_eq
  obtain ⟨start, next, inBody, isText, fresh⟩ :=
    (assembled.through membership).exists_mem_ways assembled.ordered
      (fun _ _ _ _ _ _ => rfl) inSlots isChars
  obtain ⟨expression, limit, compilesSource, mirrors⟩ := assembled.holds _ inSlots
  rw [compilesConstraint] at compilesSource
  injection compilesSource with same
  subst same
  rw [Expression.accepts, String.toList_ofList, ← isText]
  exact mirrors.fullMatch?_isSome isLocal inBody fresh

end CompiledTemplate

end UrlRouting
