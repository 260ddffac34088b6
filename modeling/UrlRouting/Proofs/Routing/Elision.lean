import UrlRouting.Proofs.Routing.Generation
import UrlRouting.Proofs.Template.Endings

/-!
# What a path leaves out

Of the variables at the end of a template that may be left out, a path keeps those up to the last
one that is supplied, with everything before it, and nothing behind it
(`Generation.substitute_shortest`).
-/

namespace UrlRouting

/-- The number of names up to the last one that is supplied, and zero if none is. -/
structure IsLastSupplied (supplied : String → Bool) (names : List String) (count : Nat) : Prop where
  bounded : count ≤ names.length
  last : count ≠ 0 → ∃ name, names[count - 1]? = some name ∧ supplied name = true
  notBehind : ∀ name ∈ names.drop count, supplied name = false

theorem isLastSupplied_rdropWhile (supplied : String → Bool) (names : List String) :
    IsLastSupplied supplied names (names.rdropWhile fun name => !supplied name).length := by
  have parts : names.rdropWhile (fun name => !supplied name) ++
      names.rtakeWhile (fun name => !supplied name) = names := List.rdropWhile_append_rtakeWhile
  have isLast := List.rdropWhile_last_not (fun name => !supplied name) names
  have notBehind : ∀ name ∈ names.rtakeWhile (fun name => !supplied name),
      supplied name = false := by
    intro name membership
    simpa using List.mem_rtakeWhile_imp membership
  generalize names.rdropWhile (fun name => !supplied name) = kept at *
  generalize names.rtakeWhile (fun name => !supplied name) = behind at *
  subst parts
  constructor
  · exact (List.prefix_append kept behind).length_le
  · intro positive
    have nonempty : kept ≠ [] := List.ne_nil_of_length_pos (Nat.pos_of_ne_zero positive)
    refine ⟨kept.getLast nonempty, ?_, by simpa using isLast nonempty⟩
    rw [List.getElem?_append_left (Nat.sub_one_lt positive), ← List.getLast?_eq_getElem?]
    exact List.getLast?_eq_some_getLast nonempty
  · rwa [List.drop_left]

theorem IsLastSupplied.le {supplied : String → Bool} {names : List String} {count count' : Nat}
    (isLast : IsLastSupplied supplied names count) (isLast' : IsLastSupplied supplied names count') :
    count' ≤ count := by
  by_contra isMore
  obtain ⟨name, isName, isSupplied⟩ := isLast'.last (by omega)
  have isBehind : name ∈ names.drop count := by
    apply List.mem_of_getElem? (i := count' - 1 - count)
    rwa [List.getElem?_drop, Nat.add_sub_cancel' (by omega)]
  rw [isLast.notBehind name isBehind] at isSupplied
  cases isSupplied

theorem IsLastSupplied.unique {supplied : String → Bool} {names : List String}
    {count count' : Nat} (isLast : IsLastSupplied supplied names count)
    (isLast' : IsLastSupplied supplied names count') : count = count' :=
  Nat.le_antisymm (isLast'.le isLast) (isLast.le isLast')

namespace CompiledTemplate

/-- The segments that are kept go up to the last variable that is kept, if there is any of those
that may be left out. -/
theorem exists_segments_eq_kept {compiled : CompiledTemplate} {count : Nat}
    (positive : count ≠ 0) (bounded : count ≤ compiled.optionalNames.length) :
    ∃ front name converter behind,
      compiled.segments = front ++ .var name converter :: behind ∧
      compiled.optionalNames[count - 1]? = some name ∧
      compiled.kept count = front ++ [.var name converter] := by
  obtain ⟨front, name, converter, through_eq⟩ :=
    exists_throughVariable_eq_append_var positive bounded
  obtain ⟨behind, whole⟩ := throughVariable_isPrefix Segment.isVariable count
    (compiled.segments.drop compiled.optionalFrom)
  have names_eq := filterMap_throughVariable count
    (compiled.segments.drop compiled.optionalFrom)
  change _ = compiled.optionalNames.take count at names_eq
  refine ⟨compiled.segments.take compiled.optionalFrom ++ front, name, converter, behind, ?_, ?_,
    ?_⟩
  · rw [through_eq] at whole
    calc compiled.segments
      _ = compiled.segments.take compiled.optionalFrom ++
            compiled.segments.drop compiled.optionalFrom := (List.take_append_drop ..).symm
      _ = _ := by rw [← whole]; simp
  · have isLast : (compiled.optionalNames.take count).getLast? = some name := by
      rw [← names_eq, through_eq, List.filterMap_append]
      simp [Segment.variableName?]
    rw [List.getLast?_eq_getElem?, List.length_take_of_le bounded] at isLast
    rwa [List.getElem?_take_of_lt (Nat.sub_one_lt positive)] at isLast
  · rw [kept, through_eq, List.append_assoc]

/-- Only the separator is missing where all is left out that may be. -/
theorem form_zero_append {template : String} {defaults : Attributes}
    {requirements : Requirements} {compiled : CompiledTemplate}
    (compiles : Compiles template defaults requirements compiled) (values : String → String) :
    compiled.form (Segment.filled values) 0 ++ compiled.leadSeparator.toList =
      (compiled.segments.take compiled.optionalFrom).flatMap (Segment.filled values) := by
  have whole := trimmed_flatMap_append (Segment.filled values)
    (fun text => (List.map_id _).symm) compiled.segments compiled.optionalFrom
  rw [← compiles.leadSeparator_eq, List.map_id] at whole
  rw [form, kept, throughVariable_zero, List.append_nil, ← whole]
  cases compiled.leadSeparator with
  | none => simp
  | some lead => simp

end CompiledTemplate

open CompiledTemplate

/-- What a template that is filled in comes to depends on the last variable that is supplied, of
those that may be left out.  Everything up to this variable is there and nothing behind it; if there
is none, it is what stands before all these variables, without the separator at its end.  So the
value of each variable that is supplied is kept, and a slash stands for the empty text. -/
theorem Generation.substitute_shortest {template : String} {defaults : Attributes}
    {requirements : Requirements} {compiled : CompiledTemplate}
    (compile_eq : compile template defaults requirements = .ok compiled)
    (values : String → String) (filling : Filling)
    (filled : ∀ name ∈ compiled.variableNames, filling.lookup name = some (values name))
    (supplied : String → Bool) :
    ∃ count, IsLastSupplied supplied compiled.optionalNames count ∧
      substitute compiled filling supplied =
        (if compiled.form (Segment.filled values) count = [] then "/"
        else String.ofList (compiled.form (Segment.filled values) count)) ∧
      (∀ name ∈ compiled.variableNames, supplied name = true → name ∈ compiled.keptNames count) ∧
      (count = 0 → compiled.form (Segment.filled values) count ++ compiled.leadSeparator.toList =
        (compiled.segments.take compiled.optionalFrom).flatMap (Segment.filled values)) ∧
      (count ≠ 0 → ∃ front name converter behind,
        compiled.segments = front ++ .var name converter :: behind ∧
        compiled.optionalNames[count - 1]? = some name ∧ supplied name = true ∧
        compiled.form (Segment.filled values) count =
          (front ++ [.var name converter]).flatMap (Segment.filled values)) := by
  have isLast := isLastSupplied_rdropWhile supplied compiled.optionalNames
  have substituted := substitute_eq filled supplied
  generalize (compiled.optionalNames.rdropWhile fun name => !supplied name).length = count at *
  refine ⟨count, isLast, ?_, ?_, ?_, ?_⟩
  · rw [substituted]
    simp only [String.ofList_eq_empty_iff]
  · intro name isVariable isSupplied
    rw [keptNames_eq, List.mem_append]
    rw [variableNames_eq, List.mem_append, ← List.take_append_drop count compiled.optionalNames,
      List.mem_append] at isVariable
    rcases isVariable with isFixed | isKept | isLeft
    · exact .inl isFixed
    · exact .inr isKept
    · exact absurd (isLast.notBehind name isLeft) (by simp [isSupplied])
  · rintro rfl
    exact form_zero_append (compiles_of_compile compile_eq) values
  · intro positive
    obtain ⟨front, name, converter, behind, segments_eq, isName, kept_eq⟩ :=
      exists_segments_eq_kept positive isLast.bounded
    obtain ⟨other, isOther, isSupplied⟩ := isLast.last positive
    obtain rfl : name = other := Option.some.inj (isName.symm.trans isOther)
    refine ⟨front, name, converter, behind, segments_eq, isName, isSupplied, ?_⟩
    rw [form_of_ne_zero positive, kept_eq]

/-- Of the parts of a date, only the month is supplied: the year before it is kept, and the day
behind it is not. -/
theorem Generation.month_shortest : ∃ (compiled : CompiledTemplate) (filling : Filling),
    compile "/log/\x7byear\x7d/\x7bmonth\x7d/\x7bday\x7d"
        [(.text "day", .int 1), (.text "month", .int 1), (.text "year", .int 2024)] [] =
      .ok compiled ∧
    filling = [("year", "2024"), ("month", "5"), ("day", "1")] ∧
    (∀ name ∈ compiled.variableNames,
      filling.lookup name = some ((filling.lookup name).getD "")) ∧
    IsLastSupplied (· == "month") compiled.optionalNames 2 ∧
    substitute compiled filling (· == "month") = "/log/2024/5" := by
  obtain ⟨compiled, compile_eq, segments_eq, optionalFrom_eq⟩ : ∃ compiled,
      compile "/log/\x7byear\x7d/\x7bmonth\x7d/\x7bday\x7d"
        [(.text "day", .int 1), (.text "month", .int 1), (.text "year", .int 2024)] [] =
          .ok compiled ∧
      compiled.segments = [.literal "/log/", .var "year" none, .literal "/", .var "month" none,
        .literal "/", .var "day" none] ∧
      compiled.optionalFrom = 1 := by
    have parts_eq : (compile "/log/\x7byear\x7d/\x7bmonth\x7d/\x7bday\x7d"
        [(.text "day", .int 1), (.text "month", .int 1), (.text "year", .int 2024)]
        []).toOption.map (fun compiled => (compiled.segments, compiled.optionalFrom)) =
      some ([.literal "/log/", .var "year" none, .literal "/", .var "month" none,
        .literal "/", .var "day" none], 1) := by decide +kernel
    generalize compile _ _ _ = result at parts_eq ⊢
    cases result with
    | error failure => cases parts_eq
    | ok compiled =>
        obtain ⟨segments_eq, optionalFrom_eq⟩ := Prod.mk.inj (Option.some.inj parts_eq)
        exact ⟨compiled, rfl, segments_eq, optionalFrom_eq⟩
  have names_eq : compiled.variableNames = ["year", "month", "day"] := by
    rw [variableNames, segments_eq]
    rfl
  have optionalNames_eq : compiled.optionalNames = ["year", "month", "day"] := by
    rw [optionalNames, segments_eq, optionalFrom_eq]
    rfl
  obtain ⟨filling, filling_eq⟩ : ∃ filling : Filling,
      filling = [("year", "2024"), ("month", "5"), ("day", "1")] := ⟨_, rfl⟩
  have filled : ∀ name ∈ compiled.variableNames,
      filling.lookup name = some ((filling.lookup name).getD "") := by
    rw [names_eq, filling_eq]
    decide
  have isTwo : IsLastSupplied (· == "month") compiled.optionalNames 2 := by
    rw [optionalNames_eq]
    exact ⟨by decide, fun _ => ⟨"month", by decide⟩, by decide⟩
  obtain ⟨count, isLast, substituted, -, -, -⟩ := substitute_shortest compile_eq
    (fun name => (filling.lookup name).getD "") filling filled (· == "month")
  obtain rfl := isLast.unique isTwo
  refine ⟨compiled, filling, compile_eq, filling_eq, filled, isTwo, substituted.trans ?_⟩
  rw [form_of_ne_zero (by decide), kept, segments_eq, optionalFrom_eq, filling_eq]
  decide

end UrlRouting
