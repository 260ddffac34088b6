import UrlRouting.Proofs.Routing.Separation
import UrlRouting.Text.Utf8

/-!
# Reading a query

A query is read by splitting it at `&`, each part at `=`, and undoing the encoding of bytes.  This
gives back the pairs that it was made from (`Query.read?_encodePairs`).  So the query of a link
tells the parameters that are not variables, in order, and nothing else (`RouteTable.query_tells`).
-/

namespace UrlRouting

namespace Query

/-! ### Reading -/

/-- The bytes that encoded characters stand for: a plus sign for a space, a percent sign and two
digits for any byte, and other ASCII characters for themselves. -/
def decodeBytes? : List Char → Option (List UInt8)
  | [] => some []
  | '+' :: rest => (decodeBytes? rest).map (32 :: ·)
  | '%' :: high :: low :: rest => do
      let highValue ← Text.hexValue? high
      let lowValue ← Text.hexValue? low
      return UInt8.ofNat (highValue * 16 + lowValue) :: (← decodeBytes? rest)
  | '%' :: _ => none
  | char :: rest =>
      if char.toNat < 128 then (decodeBytes? rest).map (UInt8.ofNat char.toNat :: ·) else none

def decodePair? (part : List Char) : Option (List UInt8 × List UInt8) :=
  match part.splitOn '=' with
  | [name, value] => do return (← decodeBytes? name, ← decodeBytes? value)
  | _ => none

/-- The pairs of names and values in a query; none in the empty one. -/
def read? (query : List Char) : Option (List (List UInt8 × List UInt8)) :=
  if query.isEmpty then some [] else (query.splitOn '&').mapM decodePair?

/-! ### What a query tells -/

/-- The bytes of a value on its own. -/
def bytesOfItem : Value → List UInt8
  | .text text => Text.encodeUtf8 text
  | .bytes bytes => bytes
  | value => Text.encodeUtf8 value.toText

/-- The bytes of the values that a parameter has in a query: those of its elements, those of its
keys, or its own. -/
def told : Value → List (List UInt8)
  | .list items => items.map bytesOfItem
  | .tuple items => items.map bytesOfItem
  | .map entries => entries.map fun (key, _) => bytesOfItem key
  | value => [bytesOfItem value]

/-- The pairs that a query tells of parameters, in order. -/
def toldPairs (parameters : Parameters) : List (List UInt8 × List UInt8) :=
  parameters.flatMap fun (name, value) =>
    (told value).map fun bytes => (Text.encodeUtf8 name, bytes)

theorem pairs_eq_toldPairs (parameters : Parameters) : pairs parameters = toldPairs parameters := by
  unfold pairs toldPairs
  apply List.flatMap_congr
  rintro ⟨name, value⟩ _
  have sameItem (item : Value) : bytesOfValue item = bytesOfItem item := by
    cases item <;> rfl
  have sameValues : (valuesOf value).map bytesOfValue = told value := by
    rw [funext sameItem]
    cases value with
    | map entries => exact List.map_map
    | list items | tuple items => rfl
    | null | bool _ | int _ | float _ | text _ | bytes _ | date _ | moment _ | clock _ => rfl
  dsimp only
  rw [← sameValues, List.map_map]
  rfl

/-! ### Characters of a query -/

/-- Characters that encoded bytes consist of. -/
def isEncodedChar (char : Char) : Bool :=
  char.isAlphanum || ['_', '.', '-', '~', '+', '%'].contains char

/-- Characters that a query consists of. -/
def isQueryChar (char : Char) : Bool :=
  isEncodedChar char || char == '&' || char == '='

theorem isEncodedChar_upperHexDigit {n : Nat} (isDigit : n < 16) :
    isEncodedChar (upperHexDigit n) = true := by
  revert n
  decide

theorem isEncodedChar_of_isUnreserved {byte : UInt8} (isPlain : isUnreserved byte = true) :
    isEncodedChar (Char.ofNat byte.toNat) = true := by
  rcases (Bool.or_eq_true _ _).mp isPlain with isAlphanum | isSign
  · exact (Bool.or_eq_true _ _).mpr (.inl isAlphanum)
  · apply (Bool.or_eq_true _ _).mpr
    right
    apply List.contains_iff_mem.mpr
    exact List.mem_append_left ['+', '%'] (List.contains_iff_mem.mp isSign)

theorem isEncodedChar_of_mem_encodeByte {byte : UInt8} {char : Char}
    (membership : char ∈ encodeByte byte) : isEncodedChar char = true := by
  have isByte := byte.toNat_lt
  unfold encodeByte at membership
  split at membership
  · next isPlain =>
      obtain rfl := List.mem_singleton.mp membership
      exact isEncodedChar_of_isUnreserved isPlain
  · split at membership
    · obtain rfl := List.mem_singleton.mp membership
      rfl
    · simp only [List.mem_cons, List.not_mem_nil, or_false] at membership
      rcases membership with rfl | rfl | rfl
      · rfl
      · apply isEncodedChar_upperHexDigit
        omega
      · apply isEncodedChar_upperHexDigit
        omega

theorem isEncodedChar_of_mem_encodeBytes {bytes : List UInt8} {char : Char}
    (membership : char ∈ encodeBytes bytes) : isEncodedChar char = true := by
  obtain ⟨byte, -, inByte⟩ := List.mem_flatMap.mp membership
  exact isEncodedChar_of_mem_encodeByte inByte

theorem not_mem_encodeBytes {char : Char} (isApart : isEncodedChar char = false)
    (bytes : List UInt8) : char ∉ encodeBytes bytes := by
  intro membership
  rw [isEncodedChar_of_mem_encodeBytes membership] at isApart
  cases isApart

theorem isEncodedChar_or_eq_of_mem_encodePair {pair : List UInt8 × List UInt8} {char : Char}
    (membership : char ∈ encodePair pair) : isEncodedChar char = true ∨ char = '=' := by
  rw [encodePair, List.mem_append, List.mem_cons] at membership
  rcases membership with inName | isSign | inValue
  · exact .inl (isEncodedChar_of_mem_encodeBytes inName)
  · exact .inr isSign
  · exact .inl (isEncodedChar_of_mem_encodeBytes inValue)

theorem isQueryChar_of_mem_encodePairs {pairs : List (List UInt8 × List UInt8)} {char : Char}
    (membership : char ∈ encodePairs pairs) : isQueryChar char = true := by
  have ofPair {pair : List UInt8 × List UInt8} (inPair : char ∈ encodePair pair) :
      isQueryChar char = true := by
    rcases isEncodedChar_or_eq_of_mem_encodePair inPair with isEncoded | rfl
    · simp [isQueryChar, isEncoded]
    · rfl
  induction pairs with
  | nil => cases membership
  | cons first rest inductionHypothesis =>
      cases rest with
      | nil =>
          rw [encodePairs, List.map_singleton, List.intercalate_singleton] at membership
          exact ofPair membership
      | cons second rest =>
          rw [encodePairs, List.map_cons, List.map_cons, List.intercalate_cons_cons,
            List.mem_append, List.mem_append] at membership
          rcases membership with (inFirst | isSign) | inRest
          · exact ofPair inFirst
          · rw [List.mem_singleton.mp isSign]
            rfl
          · exact inductionHypothesis inRest

/-! ### Encoded bytes are read -/

theorem toNat_lt_of_isEncodedChar {char : Char} (isEncoded : isEncodedChar char = true) :
    char.toNat < 128 := by
  rcases (Bool.or_eq_true _ _).mp isEncoded with isAlphanum | isSign
  · exact Segment.toNat_lt_of_isNameChar ((Bool.or_eq_true _ _).mpr (.inl isAlphanum))
  · have signs : ['_', '.', '-', '~', '+', '%'].all (·.toNat < 128) = true := rfl
    apply of_decide_eq_true
    exact List.all_eq_true.mp signs char (List.contains_iff_mem.mp isSign)

theorem toNat_ofNat_byte (byte : UInt8) : (Char.ofNat byte.toNat).toNat = byte.toNat := by
  have isByte := byte.toNat_lt
  rw [Char.toNat_ofNat, if_pos]
  left
  omega

theorem ne_of_isUnreserved {byte : UInt8} (isPlain : isUnreserved byte = true) :
    Char.ofNat byte.toNat ≠ '+' ∧ Char.ofNat byte.toNat ≠ '%' := by
  unfold isUnreserved at isPlain
  constructor
  · intro isPlus
    rw [isPlus] at isPlain
    exact absurd isPlain (by decide)
  · intro isPercent
    rw [isPercent] at isPlain
    exact absurd isPlain (by decide)

theorem hexValue?_upperHexDigit {n : Nat} (isDigit : n < 16) :
    Text.hexValue? (upperHexDigit n) = some n := by
  revert n
  decide

theorem decodeBytes?_encodeByte_append (byte : UInt8) (rest : List Char) :
    decodeBytes? (encodeByte byte ++ rest) = (decodeBytes? rest).map (byte :: ·) := by
  unfold encodeByte
  split
  · next isPlain =>
      obtain ⟨notPlus, notPercent⟩ := ne_of_isUnreserved isPlain
      have isAscii := toNat_lt_of_isEncodedChar (isEncodedChar_of_isUnreserved isPlain)
      rw [List.singleton_append, decodeBytes?, if_pos isAscii, toNat_ofNat_byte,
        UInt8.ofNat_toNat]
      · exact notPlus
      · exact fun _ _ _ isPercent => absurd isPercent notPercent
      · exact notPercent
  · split
    · next isSpace =>
        obtain rfl : byte = 32 := eq_of_beq isSpace
        rfl
    · have isByte := byte.toNat_lt
      have whole : byte.toNat / 16 * 16 + byte.toNat % 16 = byte.toNat := Nat.div_add_mod' ..
      change decodeBytes? ('%' :: upperHexDigit _ :: upperHexDigit _ :: rest) = _
      rw [decodeBytes?, hexValue?_upperHexDigit (by omega), hexValue?_upperHexDigit (by omega)]
      cases decodeBytes? rest with
      | none => rfl
      | some bytes =>
          change some (UInt8.ofNat (byte.toNat / 16 * 16 + byte.toNat % 16) :: bytes) = _
          rw [whole, UInt8.ofNat_toNat]
          rfl

theorem decodeBytes?_encodeBytes (bytes : List UInt8) :
    decodeBytes? (encodeBytes bytes) = some bytes := by
  induction bytes with
  | nil => rfl
  | cons byte rest inductionHypothesis =>
      change decodeBytes? (encodeByte byte ++ encodeBytes rest) = _
      rw [decodeBytes?_encodeByte_append, inductionHypothesis]
      rfl

/-! ### Encoded pairs are read -/

theorem splitOn_encodePair (pair : List UInt8 × List UInt8) :
    (encodePair pair).splitOn '=' = [encodeBytes pair.1, encodeBytes pair.2] := by
  have joined : encodePair pair = ['='].intercalate [encodeBytes pair.1, encodeBytes pair.2] := by
    simp [encodePair]
  rw [joined]
  apply List.splitOn_intercalate
  · intro part membership
    rcases List.mem_pair.mp membership with rfl | rfl <;> exact not_mem_encodeBytes rfl _
  · exact List.cons_ne_nil _ _

theorem decodePair?_encodePair (pair : List UInt8 × List UInt8) :
    decodePair? (encodePair pair) = some pair := by
  rw [decodePair?, splitOn_encodePair]
  dsimp only
  rw [decodeBytes?_encodeBytes, decodeBytes?_encodeBytes]
  rfl

theorem splitOn_encodePairs {pairs : List (List UInt8 × List UInt8)} (isSome : pairs ≠ []) :
    (encodePairs pairs).splitOn '&' = pairs.map encodePair := by
  apply List.splitOn_intercalate
  · intro part membership
    obtain ⟨pair, -, rfl⟩ := List.mem_map.mp membership
    intro inPair
    rcases isEncodedChar_or_eq_of_mem_encodePair inPair with isEncoded | isEqual
    · exact absurd isEncoded (by decide)
    · exact absurd isEqual (by decide)
  · exact mt List.map_eq_nil_iff.mp isSome

theorem mapM_decodePair? (pairs : List (List UInt8 × List UInt8)) :
    (pairs.map encodePair).mapM decodePair? = some pairs := by
  induction pairs with
  | nil => rfl
  | cons pair rest inductionHypothesis =>
      rw [List.map_cons, List.mapM_cons, decodePair?_encodePair, inductionHypothesis]
      rfl

/-- Pairs are read from the query that they make. -/
theorem read?_encodePairs (pairs : List (List UInt8 × List UInt8)) :
    read? (encodePairs pairs) = some pairs := by
  cases pairs with
  | nil => rfl
  | cons first rest =>
      have split := splitOn_encodePairs (List.cons_ne_nil first rest)
      have isNonempty : (encodePairs (first :: rest)).isEmpty = false := by
        apply List.isEmpty_eq_false_iff.mpr
        intro isEmpty
        have inFirst : '=' ∈ encodePair first :=
          List.mem_append_right _ List.mem_cons_self
        rw [isEmpty, List.splitOn_nil, List.map_cons] at split
        rw [← (List.cons.inj split).1] at inFirst
        cases inFirst
      rw [read?, isNonempty, if_neg Bool.false_ne_true, split, mapM_decodePair?]

end Query

namespace RouteTable

open Generation Query

/-- Behind the path of a link stands a query, if there are parameters for one.  It consists of few
characters, and the pairs that are read from it are those of these parameters, in order. -/
theorem query_tells {table : RouteTable Route} {config : Config} {name : String}
    {parameters : Parameters} (nodup : (Entries.names parameters).Nodup) {absolute : Bool}
    {url : String} (made : table.link config name parameters absolute = .ok url) :
    ∃ path, table.link config name (table.pathParameters name parameters) absolute = .ok path ∧
      (table.queryParameters config name parameters = [] ∧ url = path ∨
        table.queryParameters config name parameters ≠ [] ∧
          ∃ query, url = path ++ "?" ++ String.ofList query ∧
            (∀ char ∈ query, isQueryChar char = true) ∧
            read? query = some (toldPairs (table.queryParameters config name parameters))) := by
  obtain ⟨path, linked, rfl⟩ := exists_path_of_link nodup made
  refine ⟨path, linked, ?_⟩
  generalize table.queryParameters config name parameters = others
  cases others with
  | nil => exact .inl ⟨rfl, rfl⟩
  | cons first rest =>
      right
      refine ⟨List.cons_ne_nil _ _, encodePairs (pairs (first :: rest)), rfl, ?_, ?_⟩
      · intro char
        exact isQueryChar_of_mem_encodePairs
      · rw [← pairs_eq_toldPairs]
        exact read?_encodePairs _

/-- A page of a blog, asked for with signs that a query gives a meaning to, bytes, several values at
once and none. -/
theorem blog_query_tells : ∃ (table : RouteTable Route) (parameters : Parameters),
    parameters = [("q&a", .text "1+1=2 é"), ("page", .int 7), ("raw", .bytes [0, 255]),
      ("tag", .list [.text "a", .bytes [61]]), ("no", .tuple []), ("ref", .null),
      ("key", .map [(.int 1, .null)])] ∧
    (Entries.names parameters).Nodup ∧
    table.link .standard "blog" parameters false =
      .ok "/blog/7?q%26a=1%2B1%3D2+%C3%A9&raw=%00%FF&tag=a&tag=%3D&key=1" ∧
    ∃ query, "/blog/7?q%26a=1%2B1%3D2+%C3%A9&raw=%00%FF&tag=a&tag=%3D&key=1" =
        "/blog/7" ++ "?" ++ String.ofList query ∧
      (∀ char ∈ query, isQueryChar char = true) ∧
      read? query = some [([113, 38, 97], [49, 43, 49, 61, 50, 32, 195, 169]),
        ([114, 97, 119], [0, 255]), ([116, 97, 103], [97]), ([116, 97, 103], [61]),
        ([107, 101, 121], [49])] := by
  obtain ⟨table, names_eq, linked⟩ := exists_blog_variableNames
  have nodup : (Entries.names [("q&a", Value.text "1+1=2 é"), ("page", .int 7),
      ("raw", .bytes [0, 255]), ("tag", .list [.text "a", .bytes [61]]), ("no", .tuple []),
      ("ref", .null), ("key", .map [(.int 1, .null)])]).Nodup := by decide
  have made := link_eq_map nodup table .standard "blog"
    (by rw [queryParameters, names_eq]; decide) false
  rw [pathParameters, queryParameters, names_eq] at made
  change _ = (table.link .standard "blog" [("page", .int 7)] false).map _ at made
  have url_eq : withQuery "/blog/7" [("q&a", .text "1+1=2 é"), ("raw", .bytes [0, 255]),
      ("tag", .list [.text "a", .bytes [61]]), ("no", .tuple []), ("key", .map [(.int 1, .null)])] =
        "/blog/7?q%26a=1%2B1%3D2+%C3%A9&raw=%00%FF&tag=a&tag=%3D&key=1" := by
    decide +kernel
  rw [linked] at made
  replace made := made.trans (congrArg Except.ok url_eq)
  obtain ⟨path, path_eq, told⟩ := query_tells nodup made
  rw [pathParameters, names_eq] at path_eq
  obtain rfl : "/blog/7" = path := Except.ok.inj (linked.symm.trans path_eq)
  rw [queryParameters, names_eq] at told
  rcases told with ⟨isNone, -⟩ | ⟨-, query, split, allowed, read⟩
  · cases isNone
  · refine ⟨table, _, rfl, nodup, made, query, split, allowed, read.trans ?_⟩
    decide +kernel

end RouteTable

end UrlRouting
