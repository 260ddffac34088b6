import UrlRouting.Proofs.Template.Requirements
import UrlRouting.Route

/-!
# Values under names

Putting a value under a name changes what stands under this name and nothing else.  So a route that
takes a path gives back its defaults, except for the names that capture a text.
-/

namespace UrlRouting

theorem Entries.get?_cons {κ υ : Type} [BEq κ] (known : κ) (value : υ) (rest : Entries κ υ)
    (key : κ) :
    get? ((known, value) :: rest) key = if known == key then some value else get? rest key := by
  unfold get?
  rw [List.find?_cons]
  cases isKey : known == key <;> simp [isKey]

theorem Entries.has_put_of_has {κ υ : Type} [BEq κ] {entries : Entries κ υ} {key : κ}
    (isThere : entries.has key = true) (other : κ) (value : υ) :
    (entries.put other value).has key = true := by
  induction entries with
  | nil => simp [has] at isThere
  | cons first rest inductionHypothesis =>
      rcases first with ⟨known, old⟩
      rw [has, List.any_cons, Bool.or_eq_true] at isThere
      rw [put]
      by_cases isOther : (known == other) = true
      · rw [if_pos isOther, has, List.any_cons, Bool.or_eq_true]
        exact isThere
      · rw [if_neg isOther, has, List.any_cons, Bool.or_eq_true]
        exact isThere.imp_right inductionHypothesis

/-! ### Names as keys -/

theorem Value.beq_text_iff {key : Value} {name : String} :
    (key == .text name) = true ↔ key = .text name := by
  change same key (.text name) = true ↔ _
  cases key with
  | text other => simp [same]
  | null | bool _ | int _ | float _ | bytes _ | date _ | moment _ | clock _ | list _ | tuple _
    | map _ => simp [same, toInt?]

theorem Value.text_beq_iff {key : Value} {name : String} :
    (Value.text name == key) = true ↔ key = .text name := by
  change same (.text name) key = true ↔ _
  cases key with
  | text other =>
      simp only [same, beq_iff_eq, text.injEq]
      exact eq_comm
  | null | bool _ | int _ | float _ | bytes _ | date _ | moment _ | clock _ | list _ | tuple _
    | map _ => simp [same, toInt?]

namespace Attributes

theorem named?_putName_self (attributes : Attributes) (name : String) (value : Value) :
    (attributes.putName name value).named? name = some value := by
  unfold putName named?
  induction attributes with
  | nil =>
      rw [Entries.put, Entries.get?_cons, if_pos (Value.beq_text_iff.mpr rfl)]
  | cons first rest inductionHypothesis =>
      rcases first with ⟨known, old⟩
      by_cases isKnown : (known == Value.text name) = true
      · rw [Entries.put, if_pos isKnown, Entries.get?_cons, if_pos isKnown]
      · rw [Entries.put, if_neg isKnown, Entries.get?_cons, if_neg isKnown, inductionHypothesis]

theorem hasName_putName_self (attributes : Attributes) (name : String) (value : Value) :
    (attributes.putName name value).hasName name = true := by
  have found := named?_putName_self attributes name value
  rw [named?, Entries.get?, Option.map_eq_some_iff] at found
  obtain ⟨entry, isEntry, -⟩ := found
  have isName := List.find?_some isEntry
  exact List.any_eq_true.mpr ⟨entry, List.mem_of_find?_eq_some isEntry, isName⟩

theorem get?_putName_of_ne (attributes : Attributes) {name : String} {key : Value}
    (different : key ≠ .text name) (value : Value) :
    Entries.get? (attributes.putName name value) key = Entries.get? attributes key := by
  have notName : ¬ (Value.text name == key) = true := mt Value.text_beq_iff.mp different
  unfold putName
  induction attributes with
  | nil =>
      rw [Entries.put, Entries.get?_cons, if_neg notName]
  | cons first rest inductionHypothesis =>
      rcases first with ⟨known, old⟩
      by_cases isKnown : (known == Value.text name) = true
      · have notKey : ¬ (known == key) = true := by
          rwa [Value.beq_text_iff.mp isKnown]
        rw [Entries.put, if_pos isKnown, Entries.get?_cons, Entries.get?_cons, if_neg notKey,
          if_neg notKey]
      · rw [Entries.put, if_neg isKnown, Entries.get?_cons, Entries.get?_cons,
          inductionHypothesis]

end Attributes

namespace Route

/-! ### Parameters of a match -/

theorem parameters_cons (defaults : Attributes) (name : String) (text? : Option String)
    (captured : List (String × Option String)) :
    parameters defaults ((name, text?) :: captured) none =
      parameters ((text?.map fun text => defaults.putName name (.text text)).getD defaults)
        captured none := by
  cases text? <;> rfl

theorem get?_parameters_of_ne (defaults : Attributes) {captured : List (String × Option String)}
    {key : Value}
    (different : ∀ name text, (name, some text) ∈ captured → key ≠ .text name) :
    Entries.get? (parameters defaults captured none) key = Entries.get? defaults key := by
  induction captured generalizing defaults with
  | nil => rfl
  | cons first rest inductionHypothesis =>
      rcases first with ⟨name, text?⟩
      rw [parameters_cons, inductionHypothesis]
      · cases text? with
        | none => rfl
        | some text =>
            exact Attributes.get?_putName_of_ne _ (different name text (List.mem_cons_self ..)) _
      · exact fun other text inRest => different other text (List.mem_cons_of_mem _ inRest)

theorem named?_parameters_of_mem (defaults : Attributes)
    {captured : List (String × Option String)} (nodup : (captured.map (·.1)).Nodup)
    {name text : String} (membership : (name, some text) ∈ captured) :
    (parameters defaults captured none).named? name = some (.text text) := by
  induction captured generalizing defaults with
  | nil => simp at membership
  | cons first rest inductionHypothesis =>
      obtain ⟨fresh, nodupRest⟩ := List.nodup_cons.mp nodup
      rcases List.mem_cons.mp membership with rfl | inRest
      · rw [parameters_cons, Attributes.named?, get?_parameters_of_ne]
        · exact Attributes.named?_putName_self defaults name (.text text)
        · rintro other otherText inRest same
          injection same with same
          subst same
          exact fresh (List.mem_map_of_mem (f := (·.1)) inRest)
      · rw [parameters_cons]
        exact inductionHypothesis _ nodupRest inRest

end Route

end UrlRouting
