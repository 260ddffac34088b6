import UrlRouting.Proofs.Regex.Language

/-!
# Characters of a language

From the sets of an expression one can tell that a character comes in none of its texts, and from
its repetitions that no text of it is empty.
-/

namespace UrlRouting.Regex

/-- Whether no set of an expression has a character. -/
def avoids (char : Char) : Regex → Bool
  | oneOf set => !set.contains char
  | seq first second | alt first second => first.avoids char && second.avoids char
  | repeated _ _ _ body | group _ body => body.avoids char
  | _ => true

/-- Whether every text of an expression takes a character. -/
def isProper : Regex → Bool
  | empty => false
  | seq first second => first.isProper || second.isProper
  | alt first second => first.isProper && second.isProper
  | repeated least _ _ body => least != 0 && body.isProper
  | group _ body => body.isProper
  | _ => true

theorem notMem_of_mem_pow {char : Char} {language : Language Char}
    (free : ∀ text ∈ language, char ∉ text) (count : Nat) {text : List Char}
    (inside : text ∈ language ^ count) : char ∉ text := by
  induction count generalizing text with
  | zero =>
      rw [pow_zero, Language.mem_one] at inside
      rw [inside]
      exact List.not_mem_nil
  | succ count inductionHypothesis =>
      rw [pow_succ] at inside
      obtain ⟨front, inFront, last, inLast, rfl⟩ := Language.mem_mul.mp inside
      rw [List.mem_append]
      exact not_or.mpr ⟨inductionHypothesis inFront, free last inLast⟩

theorem notMem_of_mem_language {char : Char} {regex : Regex} (avoids : regex.avoids char)
    {text : List Char} (inside : text ∈ regex.language) : char ∉ text := by
  induction regex generalizing text with
  | empty =>
      rw [language, Language.mem_one] at inside
      rw [inside]
      exact List.not_mem_nil
  | oneOf set =>
      obtain ⟨other, rfl, member⟩ := inside
      rw [List.mem_singleton]
      rintro rfl
      simp [Regex.avoids, member] at avoids
  | seq first second avoidsFirst avoidsSecond =>
      obtain ⟨inFirst, inSecond⟩ := Bool.and_eq_true_iff.mp avoids
      obtain ⟨front, isFront, last, isLast, rfl⟩ := Language.mem_mul.mp inside
      rw [List.mem_append]
      exact not_or.mpr ⟨avoidsFirst inFirst isFront, avoidsSecond inSecond isLast⟩
  | alt first second avoidsFirst avoidsSecond =>
      obtain ⟨inFirst, inSecond⟩ := Bool.and_eq_true_iff.mp avoids
      rcases inside with isFirst | isSecond
      · exact avoidsFirst inFirst isFirst
      · exact avoidsSecond inSecond isSecond
  | group number body avoidsBody => exact avoidsBody avoids inside
  | repeated least most greed body avoidsBody =>
      have free : ∀ text ∈ body.language, char ∉ text := fun text => avoidsBody avoids
      obtain ⟨front, isFront, last, ⟨count, -, isLast⟩, rfl⟩ := Language.mem_mul.mp inside
      rw [List.mem_append]
      exact not_or.mpr
        ⟨notMem_of_mem_pow free least isFront, notMem_of_mem_pow free count isLast⟩
  | anchor | reference | atomic | lookahead | lookbehind | conditional => exact inside.elim

/-- The texts of a proper expression are not empty. -/
theorem ne_nil_of_mem_language {regex : Regex} (proper : regex.isProper) {text : List Char}
    (inside : text ∈ regex.language) : text ≠ [] := by
  induction regex generalizing text with
  | empty => simp [isProper] at proper
  | oneOf set =>
      obtain ⟨char, rfl, -⟩ := inside
      exact List.cons_ne_nil _ _
  | seq first second ofFirst ofSecond =>
      obtain ⟨front, isFront, last, isLast, rfl⟩ := Language.mem_mul.mp inside
      rcases Bool.or_eq_true_iff.mp proper with properFirst | properSecond
      · exact List.append_ne_nil_of_left_ne_nil (ofFirst properFirst isFront) _
      · exact List.append_ne_nil_of_right_ne_nil _ (ofSecond properSecond isLast)
  | alt first second ofFirst ofSecond =>
      obtain ⟨properFirst, properSecond⟩ := Bool.and_eq_true_iff.mp proper
      rcases inside with isFirst | isSecond
      · exact ofFirst properFirst isFirst
      · exact ofSecond properSecond isSecond
  | group number body ofBody => exact ofBody proper inside
  | repeated least most greed body ofBody =>
      obtain ⟨some, properBody⟩ := Bool.and_eq_true_iff.mp proper
      obtain ⟨count, rfl⟩ := Nat.exists_eq_succ_of_ne_zero (bne_iff_ne.mp some)
      obtain ⟨front, isFront, last, -, rfl⟩ := Language.mem_mul.mp inside
      rw [pow_succ] at isFront
      obtain ⟨before, -, once, isOnce, rfl⟩ := Language.mem_mul.mp isFront
      rw [List.append_assoc]
      exact List.append_ne_nil_of_right_ne_nil _
        (List.append_ne_nil_of_left_ne_nil (ofBody properBody isOnce) _)
  | anchor | reference | atomic | lookahead | lookbehind | conditional => exact inside.elim

theorem mem_oneOf_language_pow {set : CharClass} {text : List Char}
    (members : ∀ char ∈ text, set.contains char) : text ∈ (oneOf set).language ^ text.length := by
  induction text with
  | nil =>
      rw [List.length_nil, pow_zero]
      exact Language.nil_mem_one
  | cons char rest inductionHypothesis =>
      rw [List.length_cons, pow_succ']
      refine Language.append_mem_mul (a := [char]) ⟨char, rfl, members char (by simp)⟩ ?_
      exact inductionHypothesis fun other inRest => members other (List.mem_cons_of_mem _ inRest)

theorem mem_some_oneOf_language {set : CharClass} {text : List Char} (nonempty : text ≠ [])
    (members : ∀ char ∈ text, set.contains char) (greed : Greed) :
    text ∈ (repeated 1 none greed (oneOf set)).language := by
  obtain ⟨char, rest, rfl⟩ := List.exists_cons_of_ne_nil nonempty
  rw [language, pow_one]
  refine Language.append_mem_mul (a := [char]) ⟨char, rfl, members char (by simp)⟩ ?_
  exact ⟨rest.length, by simp, mem_oneOf_language_pow fun other inRest =>
    members other (List.mem_cons_of_mem _ inRest)⟩

end UrlRouting.Regex
