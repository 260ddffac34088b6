import UrlRouting.Proofs.Regex.Order
import UrlRouting.Proofs.Template.Assembly

/-!
# Ways through the slots of a template

A way through the expression of a template passes slots one after the other: of those that may be
left out, all up to some variable.  What it captures on the way is what the slots take
(`Slot.fits_of_mem_ways`, `Slot.exists_fits_of_mem_optional`), and every choice of texts that the
groups describe is taken (`Slot.exists_takes`, `Slot.exists_takes_optional`).
-/

namespace UrlRouting

open Regex

namespace Slot

/-! ### What slots take -/

/-- The text that a slot takes, going by what is captured. -/
def taken (captures : Captures) : Slot → List Char
  | literal text => text.toList
  | group _ _ number _ => (captures.lookup number).getD []

def IsCaptured (captures : Captures) : Slot → Prop
  | literal _ => True
  | group _ _ number body => ∃ text ∈ body.language, captures.lookup number = some text

/-- Some slots are passed on the way from one state to another, and only they capture. -/
structure Fits (slots : List Slot) (first last : State) : Prop where
  passes : first.cursor.Passes (slots.flatMap (taken last.captures)) last.cursor
  captured : ∀ slot ∈ slots, slot.IsCaptured last.captures
  others : ∀ number, (∀ slot ∈ slots, number ∉ slot.numbers) →
    last.captures.lookup number = first.captures.lookup number

def AreRegular (slots : List Slot) : Prop :=
  ∀ slot ∈ slots, ∀ tree ∈ slot.trees, tree.IsRegular

variable {slots more : List Slot} {first middle last : State}

/-- What is captured under other numbers does not matter for a slot. -/
theorem taken_congr {slot : Slot} {captures captures' : Captures}
    (same : ∀ number ∈ slot.numbers, captures'.lookup number = captures.lookup number) :
    slot.taken captures' = slot.taken captures ∧
      (slot.IsCaptured captures → slot.IsCaptured captures') := by
  cases slot with
  | literal text => exact ⟨rfl, id⟩
  | group name converter number body =>
      have equality := same number (List.mem_cons_self ..)
      simp only [taken, IsCaptured, equality]
      exact ⟨trivial, id⟩

theorem Fits.refl (state : State) : Fits [] state state :=
  ⟨.refl _, by simp, fun _ _ => rfl⟩

theorem Fits.append (fits : Fits slots first middle) (fitsMore : Fits more middle last)
    (disjoint : ∀ slot ∈ slots, ∀ other ∈ more, slot.numbers.Disjoint other.numbers) :
    Fits (slots ++ more) first last := by
  have kept : ∀ slot ∈ slots, ∀ number ∈ slot.numbers,
      last.captures.lookup number = middle.captures.lookup number := by
    intro slot membership number inSlot
    apply fitsMore.others
    intro other inMore
    exact disjoint slot membership other inMore inSlot
  refine ⟨?_, ?_, ?_⟩
  · have same : slots.flatMap (taken last.captures) = slots.flatMap (taken middle.captures) := by
      apply List.flatMap_congr
      intro slot membership
      exact (taken_congr (kept slot membership)).1
    rw [List.flatMap_append, same]
    exact fits.passes.trans fitsMore.passes
  · intro slot membership
    rcases List.mem_append.mp membership with inFirst | inMore
    · exact (taken_congr (kept slot inFirst)).2 (fits.captured slot inFirst)
    · exact fitsMore.captured slot inMore
  · intro number fresh
    rw [fitsMore.others number fun slot inMore => fresh slot (List.mem_append_right _ inMore),
      fits.others number fun slot inFirst => fresh slot (List.mem_append_left _ inFirst)]

/-! ### Single slots -/

theorem contains_single_iff {char other : Char} :
    CharClass.contains ⟨false, [.single char.toNat], .exact⟩ other = true ↔ other = char := by
  simp [CharClass.contains, ClassItem.contains, CaseRule.variants, Char.toNat_inj, eq_comm]

theorem charTree_language (char : Char) : (charTree char).language = {[char]} := by
  ext text
  constructor
  · rintro ⟨other, rfl, member⟩
    rw [contains_single_iff.mp member]
    rfl
  · rintro rfl
    exact ⟨char, rfl, contains_single_iff.mpr rfl⟩

theorem literal_language (chars : List Char) :
    (concat (chars.map charTree)).language = {chars} := by
  induction chars with
  | nil => rfl
  | cons char rest inductionHypothesis =>
      rw [List.map_cons, concat, language, charTree_language, inductionHypothesis]
      ext text
      rw [Language.mem_mul]
      constructor
      · rintro ⟨_, rfl, _, rfl, rfl⟩
        rfl
      · rintro rfl
        exact ⟨[char], rfl, rest, rfl, rfl⟩

theorem literal_isRegular (chars : List Char) : (concat (chars.map charTree)).IsRegular := by
  apply concat_isRegular
  intro tree membership
  obtain ⟨char, -, rfl⟩ := List.mem_map.mp membership
  trivial

theorem literal_numbers (chars : List Char) : (concat (chars.map charTree)).numbers = [] := by
  induction chars with
  | nil => rfl
  | cons char rest inductionHypothesis =>
      rw [List.map_cons, concat, Regex.numbers, inductionHypothesis]
      rfl

theorem numbers_flatMap_trees (slots : List Slot) :
    (concat (slots.flatMap trees)).numbers = slots.flatMap numbers := by
  induction slots with
  | nil => rfl
  | cons slot rest inductionHypothesis =>
      rw [List.flatMap_cons, List.flatMap_cons, numbers_concat_append, inductionHypothesis]
      cases slot with
      | literal text => rw [trees, literal_numbers, numbers]
      | group name converter number body => simp [trees, concat, Regex.numbers, numbers]

theorem passes_of_mem_literal {chars : List Char}
    (membership : last ∈ (concat (chars.map charTree)).ways first) :
    first.cursor.Passes chars last.cursor ∧
      ∀ number, last.captures.lookup number = first.captures.lookup number := by
  have leads := leads_of_mem_ways (literal_isRegular chars) membership
  rw [literal_language, literal_numbers] at leads
  obtain ⟨text, rfl, passes⟩ := leads.passes
  exact ⟨passes, fun number => leads.captures number (by simp)⟩

theorem fits_of_mem_group {name : String} {converter : Option Converter} {number : Nat}
    {body : Regex} (regular : body.IsRegular)
    (membership : last ∈ (Regex.group number body).ways first) :
    Fits [.group name converter number body] first last := by
  rw [ways, List.mem_map] at membership
  obtain ⟨next, inBody, rfl⟩ := membership
  have leads := leads_of_mem_ways regular inBody
  obtain ⟨text, inside, passes⟩ := leads.passes
  have isText : first.cursor.textTo next.cursor = text := passes.textTo
  refine ⟨?_, ?_, ?_⟩
  · simpa [taken, isText] using passes
  · intro slot isSlot
    rw [List.mem_singleton.mp isSlot]
    exact ⟨text, inside, by rw [isText, List.lookup_cons_self]⟩
  · intro other fresh
    have outside : other ∉ number :: body.numbers := fresh _ (List.mem_singleton_self _)
    rw [List.mem_cons, not_or] at outside
    rw [List.lookup_cons, beq_eq_false_iff_ne.mpr outside.1]
    exact leads.captures other outside.2

theorem fits_of_mem_slot {slot : Slot} (regular : AreRegular [slot])
    (membership : last ∈ (concat slot.trees).ways first) : Fits [slot] first last := by
  cases slot with
  | literal text =>
      obtain ⟨passes, same⟩ := passes_of_mem_literal membership
      exact ⟨by simpa [taken] using passes, by simp [IsCaptured], fun number _ => same number⟩
  | group name converter number body =>
      have isRegular : (Regex.group number body).IsRegular :=
        regular _ (List.mem_singleton_self _) _ (List.mem_singleton_self _)
      refine fits_of_mem_group isRegular ?_
      simpa [trees, concat, ways] using membership

/-! ### Sequences of slots -/

/-- A way through slots passes all of them. -/
theorem fits_of_mem_ways (regular : AreRegular slots)
    (disjoint : slots.Pairwise fun first second => first.numbers.Disjoint second.numbers)
    (membership : last ∈ (concat (slots.flatMap trees)).ways first) : Fits slots first last := by
  induction slots generalizing first with
  | nil =>
      rw [List.flatMap_nil, concat, ways, List.mem_singleton] at membership
      subst membership
      exact .refl _
  | cons slot rest inductionHypothesis =>
      rw [List.flatMap_cons, mem_ways_concat_append] at membership
      obtain ⟨middle, inSlot, inRest⟩ := membership
      obtain ⟨apart, disjointRest⟩ := List.pairwise_cons.mp disjoint
      have fitsSlot : Fits [slot] first middle :=
        fits_of_mem_slot (fun other isSlot => regular other (by simp_all)) inSlot
      have fitsRest : Fits rest middle last :=
        inductionHypothesis (fun other inRest => regular other (List.mem_cons_of_mem _ inRest))
          disjointRest inRest
      apply fitsSlot.append fitsRest
      intro other isSlot
      rw [List.mem_singleton.mp isSlot]
      exact apart

/-! ### Slots that may be left out -/

def isVariable (slot : Slot) : Bool := slot.segment.isVariable

theorem map_segment_throughVariable (count : Nat) (slots : List Slot) :
    (throughVariable isVariable count slots).map segment =
      throughVariable Segment.isVariable count (slots.map segment) :=
  map_throughVariable (fun _ => rfl) count slots

/-- Slots of which no two literals stand side by side, also counting the text before them. -/
structure AreSeparated (before : List Char) (slots : List Slot) : Prop where
  chain : slots.IsChain fun first second => first.isVariable ∨ second.isVariable
  head : before = [] ∨ ∀ slot ∈ slots.head?, slot.isVariable

/-- What is passed of slots that may be left out, when `count` of the variables are not. -/
def opened (before : List Char) (count : Nat) (slots : List Slot) : List Slot :=
  if count = 0 then []
  else .literal (String.ofList before) :: throughVariable isVariable count slots

theorem mem_of_mem_opened {before : List Char} {count : Nat} {slot : Slot}
    (membership : slot ∈ opened before count slots) :
    slot = .literal (String.ofList before) ∨ slot ∈ slots := by
  unfold opened at membership
  split at membership
  · simp at membership
  · rcases List.mem_cons.mp membership with isLiteral | inThrough
    · exact .inl isLiteral
    · exact .inr (mem_of_mem_throughVariable inThrough)

theorem AreSeparated.of_literal {before : List Char} {text : String}
    (separated : AreSeparated before (.literal text :: slots)) :
    before = [] ∧ AreSeparated text.toList slots := by
  have notVariable : Slot.isVariable (.literal text) ≠ true := Bool.false_ne_true
  have nothing : before = [] := by
    rcases separated.head with nothing | isVariable
    · exact nothing
    · exact absurd (isVariable _ rfl) notVariable
  refine ⟨nothing, separated.chain.tail, .inr ?_⟩
  have chain := separated.chain
  cases slots with
  | nil => simp
  | cons next rest =>
      rintro slot ⟨⟩
      exact (List.isChain_cons_cons.mp chain).1.resolve_left notVariable

theorem AreSeparated.of_group {before : List Char} {slot : Slot}
    (separated : AreSeparated before (slot :: slots)) : AreSeparated [] slots :=
  ⟨separated.chain.tail, .inl rfl⟩

theorem flatMap_trees_opened_literal (text : String) (count : Nat) (rest : List Slot) :
    (opened [] count (.literal text :: rest)).flatMap trees =
      (opened text.toList count rest).flatMap trees := by
  cases count with
  | zero => rfl
  | succ count => simp [opened, throughVariable, trees, isVariable, segment, Segment.isVariable,
      Segment.variableName?]

theorem flatMap_trees_opened_group (before : List Char) (name : String)
    (converter : Option Converter) (number : Nat) (body : Regex) (count : Nat)
    (rest : List Slot) :
    (opened before (count + 1) (.group name converter number body :: rest)).flatMap trees =
      before.map charTree ++ .group number body :: (opened [] count rest).flatMap trees := by
  cases count with
  | zero => simp [opened, throughVariable, trees, isVariable, segment, Segment.isVariable,
      Segment.variableName?]
  | succ count => simp [opened, throughVariable, trees, isVariable, segment, Segment.isVariable,
      Segment.variableName?]

/-- The ways through what may be left out are those through it up to some variable. -/
theorem mem_ways_optionalTrees {before : List Char} (separated : AreSeparated before slots) :
    last ∈ (concat (optionalTrees before slots)).ways first ↔
      ∃ count ≤ (slots.filterMap named?).length,
        last ∈ (concat ((opened before count slots).flatMap trees)).ways first := by
  -- A literal waits in `before` for the variable behind it, with which it is left out or passed.
  induction slots generalizing first before with
  | nil =>
      constructor
      · exact fun membership => ⟨0, le_rfl, membership⟩
      · rintro ⟨count, bounded, membership⟩
        obtain rfl : count = 0 := by simpa using bounded
        exact membership
  | cons slot rest inductionHypothesis =>
      cases slot with
      | literal text =>
          obtain ⟨rfl, separatedRest⟩ := separated.of_literal
          simp only [optionalTrees, flatMap_trees_opened_literal]
          exact inductionHypothesis separatedRest
      | group name converter number body =>
          have unit_eq : before.map charTree ++ .group number body :: optionalTrees [] rest =
              (before.map charTree ++ [.group number body]) ++ optionalTrees [] rest := by simp
          have passed_eq (count : Nat) : before.map charTree ++ .group number body ::
              (opened [] count rest).flatMap trees = (before.map charTree ++
                [.group number body]) ++ (opened [] count rest).flatMap trees := by simp
          rw [optionalTrees, mem_ways_concat_singleton, mem_ways_optional, unit_eq,
            mem_ways_concat_append]
          constructor
          · rintro (⟨middle, inGroup, inRest⟩ | rfl)
            · obtain ⟨count, bounded, inOpened⟩ :=
                (inductionHypothesis separated.of_group).mp inRest
              refine ⟨count + 1, Nat.succ_le_succ bounded, ?_⟩
              rw [flatMap_trees_opened_group, passed_eq]
              exact mem_ways_concat_append.mpr ⟨middle, inGroup, inOpened⟩
            · exact ⟨0, Nat.zero_le _, by simp [opened, concat, ways]⟩
          · rintro ⟨_ | count, bounded, membership⟩
            · right
              simpa [opened, concat, ways] using membership
            · left
              rw [flatMap_trees_opened_group, passed_eq] at membership
              obtain ⟨middle, inGroup, inOpened⟩ := mem_ways_concat_append.mp membership
              exact ⟨middle, inGroup, (inductionHypothesis separated.of_group).mpr
                ⟨count, Nat.le_of_succ_le_succ bounded, inOpened⟩⟩

theorem AreRegular.opened (regular : AreRegular slots) (before : List Char) (count : Nat) :
    AreRegular (opened before count slots) := by
  intro slot membership tree inTrees
  rcases mem_of_mem_opened membership with rfl | inSlots
  · obtain ⟨char, -, rfl⟩ := List.mem_map.mp inTrees
    trivial
  · exact regular slot inSlots tree inTrees

theorem pairwise_disjoint_opened
    (disjoint : slots.Pairwise fun first second => first.numbers.Disjoint second.numbers)
    (before : List Char) (count : Nat) :
    (opened before count slots).Pairwise fun first second =>
      first.numbers.Disjoint second.numbers := by
  unfold opened
  split
  · exact .nil
  · refine List.pairwise_cons.mpr ⟨fun _ _ => List.disjoint_nil_left _, ?_⟩
    exact disjoint.sublist (throughVariable_isPrefix ..).sublist

/-- A way through what may be left out passes it up to some variable. -/
theorem exists_fits_of_mem_optional {before : List Char} (separated : AreSeparated before slots)
    (regular : AreRegular slots)
    (disjoint : slots.Pairwise fun first second => first.numbers.Disjoint second.numbers)
    (membership : last ∈ (concat (optionalTrees before slots)).ways first) :
    ∃ count ≤ (slots.filterMap named?).length, Fits (opened before count slots) first last := by
  obtain ⟨count, bounded, inOpened⟩ := (mem_ways_optionalTrees separated).mp membership
  exact ⟨count, bounded, fits_of_mem_ways (regular.opened before count)
    (pairwise_disjoint_opened disjoint before count) inOpened⟩

/-! ### Texts of slots -/

/-- The group of a variable describes the text that the variable is to take. -/
def Admits (values : String → String) : Slot → Prop
  | literal _ => True
  | group name _ _ body => (values name).toList ∈ body.language

variable {values : String → String}

/-- Some slots are passed with given texts for their variables. -/
structure Takes (values : String → String) (slots : List Slot) (first last : State) : Prop
    extends Fits slots first last where
  filled : ∀ slot ∈ slots, slot.taken last.captures = slot.segment.filled values

theorem Takes.refl (state : State) : Takes values [] state state := ⟨.refl state, by simp⟩

theorem Takes.append (takes : Takes values slots first middle)
    (takesMore : Takes values more middle last)
    (disjoint : ∀ slot ∈ slots, ∀ other ∈ more, slot.numbers.Disjoint other.numbers) :
    Takes values (slots ++ more) first last := by
  refine ⟨takes.toFits.append takesMore.toFits disjoint, ?_⟩
  intro slot membership
  rcases List.mem_append.mp membership with inFirst | inMore
  · rw [← takes.filled slot inFirst]
    refine (taken_congr fun number inSlot => takesMore.others number ?_).1
    exact fun other isOther => disjoint slot inFirst other isOther inSlot
  · exact takesMore.filled slot inMore

variable {place : Cursor}

theorem exists_takes_group {name : String} (converter : Option Converter) (number : Nat)
    {body : Regex} (regular : body.IsRegular) (admitted : (values name).toList ∈ body.language)
    (passes : first.cursor.Passes (values name).toList place) :
    ∃ last ∈ (Regex.group number body).ways first,
      last.cursor = place ∧ Takes values [.group name converter number body] first last := by
  obtain ⟨next, inBody, rfl⟩ := ways_cover_language regular admitted passes
  have membership : { next with captures :=
      (number, first.cursor.textTo next.cursor) :: next.captures } ∈
        (Regex.group number body).ways first := List.mem_map.mpr ⟨next, inBody, rfl⟩
  refine ⟨_, membership, rfl, fits_of_mem_group regular membership, ?_⟩
  intro slot isSlot
  rw [List.mem_singleton.mp isSlot, taken, List.lookup_cons_self, passes.textTo]
  rfl

theorem exists_takes_slot {slot : Slot} (regular : AreRegular [slot])
    (admitted : slot.Admits values)
    (passes : first.cursor.Passes (slot.segment.filled values) place) :
    ∃ last ∈ (concat slot.trees).ways first,
      last.cursor = place ∧ Takes values [slot] first last := by
  cases slot with
  | literal text =>
      have inside : text.toList ∈ (concat (text.toList.map charTree)).language := by
        rw [literal_language]
        rfl
      obtain ⟨last, membership, rfl⟩ :=
        ways_cover_language (literal_isRegular text.toList) inside passes
      exact ⟨last, membership, rfl, fits_of_mem_slot regular membership,
        List.forall_mem_singleton.mpr rfl⟩
  | group name converter number body =>
      have isRegular : (Regex.group number body).IsRegular :=
        regular _ (List.mem_singleton_self _) _ (List.mem_singleton_self _)
      simp only [trees, mem_ways_concat_singleton]
      exact exists_takes_group converter number isRegular admitted passes

/-- Slots can be passed with all texts that their groups describe. -/
theorem exists_takes (regular : AreRegular slots)
    (disjoint : slots.Pairwise fun first second => first.numbers.Disjoint second.numbers)
    (admits : ∀ slot ∈ slots, slot.Admits values)
    (passes : first.cursor.Passes (slots.flatMap (·.segment.filled values)) place) :
    ∃ last ∈ (concat (slots.flatMap trees)).ways first,
      last.cursor = place ∧ Takes values slots first last := by
  induction slots generalizing first with
  | nil =>
      exact ⟨first, by simp [concat, ways], passes.eq_of_nil.symm, .refl first⟩
  | cons slot rest inductionHypothesis =>
      obtain ⟨apart, disjointRest⟩ := List.pairwise_cons.mp disjoint
      obtain ⟨admitted, admitsRest⟩ := List.forall_mem_cons.mp admits
      obtain ⟨regularSlot, regularRest⟩ := List.forall_mem_cons.mp regular
      obtain ⟨_, passesSlot, passesRest⟩ := passes.split
      obtain ⟨middle, inSlot, rfl, takesSlot⟩ :=
        exists_takes_slot (List.forall_mem_singleton.mpr regularSlot) admitted passesSlot
      obtain ⟨last, inRest, isPlace, takesRest⟩ :=
        inductionHypothesis regularRest disjointRest admitsRest passesRest
      refine ⟨last, ?_, isPlace, takesSlot.append takesRest (List.forall_mem_singleton.mpr apart)⟩
      rw [List.flatMap_cons]
      exact mem_ways_concat_append.mpr ⟨middle, inSlot, inRest⟩

theorem flatMap_opened (before : List Char) (count : Nat) (slots : List Slot) :
    (opened before count slots).flatMap (·.segment.filled values) =
      if count = 0 then []
      else
        before ++
          (throughVariable isVariable count slots).flatMap (·.segment.filled values) := by
  unfold opened
  split
  · rfl
  · simp [segment, Segment.filled]

/-- What may be left out can be passed up to any variable, or left out altogether. -/
theorem exists_takes_optional {before : List Char} (separated : AreSeparated before slots)
    (regular : AreRegular slots)
    (disjoint : slots.Pairwise fun first second => first.numbers.Disjoint second.numbers)
    {count : Nat} (bounded : count ≤ (slots.filterMap named?).length)
    (admits : ∀ slot ∈ throughVariable isVariable count slots, slot.Admits values)
    (passes : first.cursor.Passes
      ((opened before count slots).flatMap (·.segment.filled values)) place) :
    ∃ last ∈ (concat (optionalTrees before slots)).ways first,
      last.cursor = place ∧ Takes values (opened before count slots) first last := by
  have admitsOpened : ∀ slot ∈ opened before count slots, slot.Admits values := by
    unfold opened
    split
    · simp
    · exact List.forall_mem_cons.mpr ⟨trivial, admits⟩
  obtain ⟨last, inOpened, isPlace, takes⟩ := exists_takes (regular.opened before count)
    (pairwise_disjoint_opened disjoint before count) admitsOpened passes
  exact ⟨last, (mem_ways_optionalTrees separated).mpr ⟨count, bounded, inOpened⟩, isPlace, takes⟩

end Slot

end UrlRouting
