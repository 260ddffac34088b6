import UrlRouting.Proofs.Json.Texts
import UrlRouting.Proofs.Table.Union

/-!
# JSON values that are read back

A value without fractions, texts for all its keys, is read from what is written of it, whatever
brackets are open around it (`Json.readValue_write`).
-/

namespace UrlRouting

/-! ### Maps with names -/

namespace Attributes

/-- Values under names. -/
def ofNamed (pairs : Entries String Value) : Attributes :=
  pairs.map fun (name, value) => (.text name, value)

theorem putName_ofNamed (pairs : Entries String Value) (name : String) (value : Value) :
    (ofNamed pairs).putName name value = ofNamed (pairs.put name value) := by
  have sameKey (known : String) : (Value.text known == Value.text name) = (known == name) := rfl
  induction pairs with
  | nil => rfl
  | cons first rest inductionHypothesis =>
      unfold putName ofNamed at inductionHypothesis ⊢
      rw [List.map_cons, Entries.put, Entries.put, sameKey, inductionHypothesis]
      split <;> rfl

end Attributes

namespace Value

/-- Values that JSON has a notation for.  Integers are short enough to be read, and the names in a
map differ. -/
inductive IsJson : Value → Prop where
  | null : IsJson .null
  | bool (value : Bool) : IsJson (.bool value)
  | int {n : Int} (isShort : Json.IsShort n) : IsJson (.int n)
  | float (x : Binary64) : IsJson (.float x)
  | text (text : String) : IsJson (.text text)
  | list {items : List Value} (areJson : ∀ item ∈ items, IsJson item) : IsJson (.list items)
  | map {pairs : Entries String Value} (nodup : pairs.names.Nodup)
      (areJson : ∀ pair ∈ pairs, IsJson pair.2) : IsJson (.map (Attributes.ofNamed pairs))

/-- A number that may have a fraction stands somewhere in a value. -/
inductive HasFloat : Value → Prop where
  | here (x : Binary64) : HasFloat (.float x)
  | list {items : List Value} {item : Value} (isItem : item ∈ items) (hasFloat : HasFloat item) :
      HasFloat (.list items)
  | tuple {items : List Value} {item : Value} (isItem : item ∈ items) (hasFloat : HasFloat item) :
      HasFloat (.tuple items)
  | key {entries : List (Value × Value)} {entry : Value × Value} (isEntry : entry ∈ entries)
      (hasFloat : HasFloat entry.1) : HasFloat (.map entries)
  | value {entries : List (Value × Value)} {entry : Value × Value} (isEntry : entry ∈ entries)
      (hasFloat : HasFloat entry.2) : HasFloat (.map entries)

end Value

namespace Json

variable {frames : List Frame} {chars inside behind rest : List Char} {value : Value}
  {items : List Value} {entries : Attributes} {name : String}

/-! ### Steps of reading -/

theorem readValue_text {text : List Char}
    (isRead : readText ('"' :: inside).length inside = .ok (text, rest)) :
    readValue frames ('"' :: inside) = goOn frames (.text (String.ofList text)) rest := by
  rw [readValue]
  split
  · next failed => rw [isRead] at failed; cases failed
  · next read => rw [isRead] at read; cases read; rfl

theorem readValue_emptyObject (closes : skipBlanks inside = '\x7d' :: rest) :
    readValue frames ('\x7b' :: inside) = goOn frames (.map []) rest := by
  rw [readValue]
  split
  · next same => rw [closes] at same; cases same; rfl
  · next different => exact absurd closes (different _)

theorem readValue_object (isName : readName (skipBlanks inside) = .ok (name, rest)) :
    readValue frames ('\x7b' :: inside) = readValue (.object [] name :: frames) rest := by
  rw [readValue]
  split
  · next same => rw [same] at isName; cases isName
  · split
    · next failed => rw [isName] at failed; cases failed
    · next read => rw [isName] at read; cases read; rfl

theorem readValue_emptyArray (closes : skipBlanks inside = ']' :: rest) :
    readValue frames ('[' :: inside) = goOn frames (.list []) rest := by
  rw [readValue]
  split
  · next same => rw [closes] at same; cases same; rfl
  · next different => exact absurd closes (different _)

theorem readValue_array (opens : ∀ others, skipBlanks inside ≠ ']' :: others) :
    readValue frames ('[' :: inside) = readValue (.array [] :: frames) (skipBlanks inside) := by
  rw [readValue]
  split
  · next same => exact absurd same (opens _)
  · rfl

theorem readValue_scalar {first : Char} (isPlain : first ∉ ['"', '\x7b', '['])
    (isRead : readScalar (first :: chars) = .ok (value, rest)) :
    readValue frames (first :: chars) = goOn frames value rest := by
  rw [readValue]
  · split
    · next failed => rw [isRead] at failed; cases failed
    · next read => rw [isRead] at read; cases read; rfl
  all_goals simp_all

theorem goOn_closeArray (closes : skipBlanks chars = ']' :: rest) :
    goOn (.array items :: frames) value chars =
      goOn frames (.list (value :: items).reverse) rest := by
  rw [goOn]
  split
  · next same => rw [closes] at same; cases same; rfl
  · next same => rw [closes] at same; cases same
  · next different _ => exact absurd closes (different _)

theorem goOn_nextItem (goesOn : skipBlanks chars = ',' :: rest) :
    goOn (.array items :: frames) value chars =
      readValue (.array (value :: items) :: frames) (skipBlanks rest) := by
  rw [goOn]
  split
  · next same => rw [goesOn] at same; cases same
  · next same => rw [goesOn] at same; cases same; rfl
  · next _ different => exact absurd goesOn (different _)

theorem goOn_closeObject (closes : skipBlanks chars = '\x7d' :: rest) :
    goOn (.object entries name :: frames) value chars =
      goOn frames (.map (entries.putName name value)) rest := by
  rw [goOn]
  split
  · next same => rw [closes] at same; cases same; rfl
  · next same => rw [closes] at same; cases same
  · next different _ => exact absurd closes (different _)

theorem goOn_nextEntry {next : String} (goesOn : skipBlanks chars = ',' :: behind)
    (isName : readName (skipBlanks behind) = .ok (next, rest)) :
    goOn (.object entries name :: frames) value chars =
      readValue (.object (entries.putName name value) next :: frames) rest := by
  rw [goOn]
  split
  · next same => rw [goesOn] at same; cases same
  · next same =>
      rw [goesOn] at same
      cases same
      split
      · next failed => rw [isName] at failed; cases failed
      · next read => rw [isName] at read; cases read; rfl
  · next _ different => exact absurd goesOn (different _)

/-! ### Blanks -/

theorem skipBlanks_cons {first : Char} (isSign : isBlank first = false) (rest : List Char) :
    skipBlanks (first :: rest) = first :: rest := by
  rw [skipBlanks, List.dropWhile_cons, if_neg (by rw [isSign]; exact Bool.false_ne_true)]

theorem skipBlanks_newLine (depth : Nat) (rest : List Char) :
    skipBlanks (newLine depth ++ rest) = skipBlanks rest := by
  apply List.dropWhile_append_of_pos
  intro char membership
  rcases List.mem_cons.mp membership with rfl | inRow
  · rfl
  · rw [List.eq_of_mem_replicate inRow]
    rfl

theorem endsNumber_newLine (depth : Nat) (rest : List Char) : EndsNumber (newLine depth ++ rest) :=
  endsNumber_cons (by decide) _

/-! ### What is written -/

/-- One entry of an object. -/
def writeEntry (depth : Nat) (pair : String × Value) : List Char :=
  writeText pair.1 ++ ':' :: ' ' :: write depth pair.2

theorem writeItems_eq_map (depth : Nat) (items : List Value) :
    writeItems depth items = items.map (write depth) := by
  induction items with
  | nil => rw [writeItems, List.map_nil]
  | cons item rest inductionHypothesis => rw [writeItems, inductionHypothesis, List.map_cons]

theorem writeEntries_ofNamed (depth : Nat) (pairs : Entries String Value) :
    writeEntries depth (Attributes.ofNamed pairs) = pairs.map (writeEntry depth) := by
  induction pairs with
  | nil => rw [List.map_nil, Attributes.ofNamed, List.map_nil, writeEntries]
  | cons pair rest inductionHypothesis =>
      change writeEntries depth ((.text pair.1, pair.2) :: Attributes.ofNamed rest) = _
      rw [writeEntries, inductionHypothesis, List.map_cons, writeEntry]
      rfl

/-- What stands behind the first of some parts up to the end of the bracket around them. -/
def writeBehind (closing : Char) (depth : Nat) (parts : List (List Char)) : List Char :=
  parts.flatMap (fun part => ',' :: newLine (depth + 1) ++ part) ++ newLine depth ++ [closing]

theorem writeBehind_nil (closing : Char) (depth : Nat) (rest : List Char) :
    writeBehind closing depth [] ++ rest = newLine depth ++ closing :: rest := by
  simp [writeBehind]

theorem writeBehind_cons (closing : Char) (depth : Nat) (part : List Char)
    (parts : List (List Char)) (rest : List Char) :
    writeBehind closing depth (part :: parts) ++ rest =
      ',' :: (newLine (depth + 1) ++ (part ++ (writeBehind closing depth parts ++ rest))) := by
  simp [writeBehind]

theorem endsNumber_writeBehind (closing : Char) (depth : Nat) (parts : List (List Char))
    (rest : List Char) : EndsNumber (writeBehind closing depth parts ++ rest) := by
  cases parts with
  | nil =>
      rw [writeBehind_nil]
      exact endsNumber_newLine depth _
  | cons part parts =>
      rw [writeBehind_cons]
      exact endsNumber_cons (by decide) _

theorem intercalate_cons_eq_flatMap {α : Type} (separator part : List α) (parts : List (List α)) :
    separator.intercalate (part :: parts) = part ++ parts.flatMap (separator ++ ·) := by
  induction parts generalizing part with
  | nil => simp
  | cons next others inductionHypothesis =>
      rw [List.intercalate_cons_cons, inductionHypothesis, List.flatMap_cons, List.append_assoc,
        List.append_assoc]

theorem enclose_cons (opening closing : Char) (depth : Nat) (part : List Char)
    (parts : List (List Char)) (rest : List Char) :
    enclose opening closing depth (part :: parts) ++ rest =
      opening :: (newLine (depth + 1) ++ (part ++ (writeBehind closing depth parts ++ rest))) := by
  rw [enclose, List.isEmpty_cons, if_neg Bool.false_ne_true, intercalate_cons_eq_flatMap,
    writeBehind]
  simp only [List.cons_append, List.append_assoc]

/-! ### What is written is read -/

/-- A value is read from what is written of it, inside any brackets; what is written begins with no
blank and closes no array. -/
structure IsRead (depth : Nat) (value : Value) : Prop where
  opens : ∃ first others, write depth value = first :: others ∧ isBlank first = false ∧ first ≠ ']'
  reads (frames : List Frame) {rest : List Char} (ends : EndsNumber rest) :
    readValue frames (write depth value ++ rest) = goOn frames value rest

variable {depth : Nat}

theorem IsRead.skipBlanks_eq (isRead : IsRead depth value) (rest : List Char) :
    skipBlanks (write depth value ++ rest) = write depth value ++ rest := by
  obtain ⟨first, others, write_eq, isSign, -⟩ := isRead.opens
  rw [write_eq, List.cons_append, skipBlanks_cons isSign]

theorem readName_writeText (name : String) (rest : List Char) :
    readName (writeText name ++ ':' :: rest) = .ok (name, skipBlanks rest) := by
  have written : writeText name ++ ':' :: rest =
      '"' :: (name.toList.flatMap writeChar ++ '"' :: ':' :: rest) := by
    simp [writeText]
  rw [written, readName, readText_flatMap]
  dsimp only
  rw [skipBlanks_cons rfl, String.ofList_toList]
  rfl

/-- The name of an entry on a line of its own, and its value behind it. -/
theorem readName_writeEntry {pair : String × Value} (isRead : IsRead depth pair.2)
    (rest : List Char) :
    readName (skipBlanks (newLine depth ++ (writeEntry depth pair ++ rest))) =
      .ok (pair.1, write depth pair.2 ++ rest) := by
  have isSign : skipBlanks (writeEntry depth pair ++ rest) = writeEntry depth pair ++ rest :=
    skipBlanks_cons rfl _
  rw [skipBlanks_newLine, isSign, writeEntry, List.append_assoc, List.cons_append,
    readName_writeText]
  exact congrArg (fun chars => Except.ok (pair.1, chars)) (isRead.skipBlanks_eq rest)

/-- The items behind one that has been read are read up to the end of the array. -/
theorem goOn_writeItems {behind : List Value} (areRead : ∀ item ∈ behind, IsRead (depth + 1) item)
    (before : List Value) (value : Value) (rest : List Char) :
    goOn (.array before :: frames) value
        (writeBehind ']' depth (behind.map (write (depth + 1))) ++ rest) =
      goOn frames (.list (before.reverse ++ value :: behind)) rest := by
  induction behind generalizing before value with
  | nil =>
      rw [List.map_nil, writeBehind_nil, goOn_closeArray, List.reverse_cons]
      rw [skipBlanks_newLine, skipBlanks_cons rfl]
  | cons item others inductionHypothesis =>
      obtain ⟨isRead, areReadOthers⟩ := List.forall_mem_cons.mp areRead
      rw [List.map_cons, writeBehind_cons, goOn_nextItem (skipBlanks_cons rfl _),
        skipBlanks_newLine, isRead.skipBlanks_eq, isRead.reads _ (endsNumber_writeBehind _ _ _ _),
        inductionHypothesis areReadOthers, List.reverse_cons, List.append_assoc]
      rfl

theorem putName_of_nodup {before behind : Entries String Value}
    (nodup : (Entries.names (before ++ (name, value) :: behind)).Nodup) :
    (Attributes.ofNamed before).putName name value =
      Attributes.ofNamed (before ++ [(name, value)]) := by
  have fresh : name ∉ Entries.names before := by
    rw [Entries.names, List.map_append, List.map_cons] at nodup
    exact fun isBefore => (List.nodup_append.mp nodup).2.2 _ isBefore _ List.mem_cons_self rfl
  rw [Attributes.putName_ofNamed, Entries.put_of_not_mem fresh]

/-- The entries behind one that has been read are read up to the end of the object. -/
theorem goOn_writeEntries {behind : Entries String Value}
    (areRead : ∀ pair ∈ behind, IsRead (depth + 1) pair.2) (before : Entries String Value)
    (name : String) (value : Value)
    (nodup : (Entries.names (before ++ (name, value) :: behind)).Nodup) (rest : List Char) :
    goOn (.object (Attributes.ofNamed before) name :: frames) value
        (writeBehind '\x7d' depth (behind.map (writeEntry (depth + 1))) ++ rest) =
      goOn frames (.map (Attributes.ofNamed (before ++ (name, value) :: behind))) rest := by
  induction behind generalizing before name value with
  | nil =>
      rw [List.map_nil, writeBehind_nil, goOn_closeObject, putName_of_nodup nodup]
      rw [skipBlanks_newLine, skipBlanks_cons rfl]
  | cons pair others inductionHypothesis =>
      obtain ⟨isRead, areReadOthers⟩ := List.forall_mem_cons.mp areRead
      have split : before ++ (name, value) :: pair :: others =
          (before ++ [(name, value)]) ++ pair :: others := by
        rw [List.append_assoc]
        rfl
      rw [List.map_cons, writeBehind_cons,
        goOn_nextEntry (skipBlanks_cons rfl _) (readName_writeEntry isRead _),
        isRead.reads _ (endsNumber_writeBehind _ _ _ _), putName_of_nodup nodup, split]
      rw [split] at nodup
      exact inductionHypothesis areReadOthers _ pair.1 pair.2 nodup

/-- Characters that begin no number and no word. -/
def notScalar : List Char := ['"', '\x7b', '[', ']', ' ', '\t', '\n', '\r']

theorem isRead_of_readScalar {first : Char} {others : List Char}
    (write_eq : write depth value = first :: others) (isScalar : first ∉ notScalar)
    (isRead : ∀ {rest}, EndsNumber rest →
      readScalar (write depth value ++ rest) = .ok (value, rest)) : IsRead depth value where
  opens := by
    refine ⟨first, others, write_eq, ?_, ?_⟩
    · simp_all [notScalar, isBlank]
    · rintro rfl
      exact isScalar (by decide)
  reads frames rest ends := by
    have isPlain : first ∉ ['"', '\x7b', '['] := fun isOpening =>
      isScalar (List.mem_append_left [']', ' ', '\t', '\n', '\r'] isOpening)
    have read := isRead ends
    rw [write_eq] at read ⊢
    exact readValue_scalar isPlain read

theorem isRead_int {n : Int} (isShort : IsShort n) : IsRead depth (.int n) := by
  obtain ⟨first, digits, digits_eq⟩ := List.exists_cons_of_ne_nil
    (Nat.toDigits_ne_nil : Nat.toDigits 10 n.natAbs ≠ [])
  have isRead {rest : List Char} (ends : EndsNumber rest) :
      readScalar (write depth (.int n) ++ rest) = .ok (.int n, rest) := by
    rw [write]
    exact readScalar_writeInt isShort ends
  by_cases isNegative : n < 0
  · have write_eq : write depth (.int n) = '-' :: Nat.toDigits 10 n.natAbs := by
      rw [write, writeInt, if_pos isNegative]
    exact isRead_of_readScalar write_eq (by decide) isRead
  · have write_eq : write depth (.int n) = first :: digits := by
      rw [write, writeInt, if_neg isNegative, digits_eq]
    refine isRead_of_readScalar write_eq ?_ isRead
    have isDigit : first.isDigit = true :=
      Text.isDigit_of_mem_toDigits (digits_eq ▸ List.mem_cons_self)
    have noDigits : notScalar.all (fun char => !char.isDigit) = true := by decide
    intro membership
    have notDigit := List.all_eq_true.mp noDigits first membership
    rw [isDigit] at notDigit
    cases notDigit

theorem isRead_text (text : String) : IsRead depth (.text text) where
  opens := ⟨'"', text.toList.flatMap writeChar ++ ['"'], rfl, by decide, by decide⟩
  reads frames rest _ := by
    have written : write depth (.text text) ++ rest =
        '"' :: (text.toList.flatMap writeChar ++ '"' :: rest) := by
      simp [write, writeText, Value.toText]
    rw [written, readValue_text (readText_flatMap _ _ _), String.ofList_toList]

theorem isRead_list {items : List Value} (areRead : ∀ item ∈ items, IsRead (depth + 1) item) :
    IsRead depth (.list items) := by
  cases items with
  | nil =>
      refine ⟨⟨'[', [']'], rfl, by decide, by decide⟩, fun frames rest _ => ?_⟩
      exact readValue_emptyArray (skipBlanks_cons rfl rest)
  | cons item others =>
      obtain ⟨isRead, areReadOthers⟩ := List.forall_mem_cons.mp areRead
      have written (rest : List Char) : write depth (.list (item :: others)) ++ rest =
          '[' :: (newLine (depth + 1) ++ (write (depth + 1) item ++
            (writeBehind ']' depth (others.map (write (depth + 1))) ++ rest))) := by
        rw [write, writeItems_eq_map, List.map_cons, enclose_cons]
      constructor
      · exact ⟨'[', _, List.append_nil (write _ _) ▸ written [], by decide, by decide⟩
      · intro frames rest _
        obtain ⟨first, behind, write_eq, -, notClosing⟩ := isRead.opens
        rw [written, readValue_array, skipBlanks_newLine, isRead.skipBlanks_eq,
          isRead.reads _ (endsNumber_writeBehind _ _ _ _), goOn_writeItems areReadOthers]
        · rfl
        · intro more same
          rw [skipBlanks_newLine, isRead.skipBlanks_eq, write_eq] at same
          exact notClosing (List.cons_eq_cons.mp same).1

theorem isRead_map {pairs : Entries String Value} (nodup : pairs.names.Nodup)
    (areRead : ∀ pair ∈ pairs, IsRead (depth + 1) pair.2) :
    IsRead depth (.map (Attributes.ofNamed pairs)) := by
  cases pairs with
  | nil =>
      refine ⟨⟨'\x7b', ['\x7d'], rfl, by decide, by decide⟩, fun frames rest _ => ?_⟩
      exact readValue_emptyObject (skipBlanks_cons rfl rest)
  | cons pair others =>
      obtain ⟨isRead, areReadOthers⟩ := List.forall_mem_cons.mp areRead
      have written (rest : List Char) :
          write depth (.map (Attributes.ofNamed (pair :: others))) ++ rest =
            '\x7b' :: (newLine (depth + 1) ++ (writeEntry (depth + 1) pair ++
              (writeBehind '\x7d' depth (others.map (writeEntry (depth + 1))) ++ rest))) := by
        rw [write, writeEntries_ofNamed, List.map_cons, enclose_cons]
      constructor
      · exact ⟨'\x7b', _, List.append_nil (write _ _) ▸ written [], by decide, by decide⟩
      · intro frames rest _
        rw [written, readValue_object (readName_writeEntry isRead _),
          isRead.reads _ (endsNumber_writeBehind _ _ _ _)]
        exact goOn_writeEntries areReadOthers [] pair.1 pair.2 nodup rest

/-- A value that JSON has a notation for is read from what is written of it, unless a number in it
may have a fraction. -/
theorem isRead_of_isJson (isJson : value.IsJson) (noFloat : ¬ value.HasFloat) (depth : Nat) :
    IsRead depth value := by
  induction isJson generalizing depth with
  | null => exact isRead_of_readScalar rfl (by decide) fun _ => rfl
  | bool value =>
      cases value with
      | false => exact isRead_of_readScalar rfl (by decide) fun _ => rfl
      | true => exact isRead_of_readScalar rfl (by decide) fun _ => rfl
  | int isShort => exact isRead_int isShort
  | float x => exact absurd (.here x) noFloat
  | text text => exact isRead_text text
  | list areJson inductionHypothesis =>
      exact isRead_list fun item isItem =>
        inductionHypothesis item isItem (fun hasFloat => noFloat (.list isItem hasFloat)) _
  | map nodup areJson inductionHypothesis =>
      refine isRead_map nodup fun pair isPair =>
        inductionHypothesis pair isPair (fun hasFloat => noFloat ?_) _
      exact .value (List.mem_map_of_mem isPair) hasFloat

end Json

end UrlRouting
