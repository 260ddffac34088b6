import UrlRouting.Yaml.Scan
import UrlRouting.Yaml.Tag

/-!
The nodes of a YAML text, made from its tokens.  Collections that are still open are kept as a list
of frames, innermost first.
-/

namespace UrlRouting.Yaml

inductive Node where
  | scalar (tag : Tag) (text : String)
  | sequence (tag : Tag) (items : List Node)
  | mapping (tag : Tag) (pairs : List (Node × Node))

namespace Node

def tag : Node → Tag
  | scalar tag _ => tag
  | sequence tag _ => tag
  | mapping tag _ => tag

def empty : Node := scalar .null ""

end Node

/-- What is written in front of a node: an anchor and the full name of a tag. -/
structure Properties where
  anchor : Option String
  tagName : Option String

namespace Properties

def none : Properties := ⟨.none, .none⟩

/-- The tag that is given, if one is: a lone exclamation mark gives none. -/
def tag? (properties : Properties) : Option Tag :=
  (properties.tagName.filter (· != "!")).map Tag.ofName

/-- The tag of a scalar.  A lone exclamation mark makes any scalar a plain one. -/
def scalarTag (properties : Properties) (text : String) (isPlain : Bool) : Tag :=
  match properties.tag? with
  | some tag => tag
  | .none => if isPlain || properties.tagName.isSome then tagOfPlain text else .text

end Properties

/-- A collection that is open, with the items or pairs before the place of reading, last ones first.
A mapping may have a key that waits for its value; a key between brackets that is not marked as one
has no value. -/
inductive Frame where
  | blockSequence (properties : Properties) (items : List Node)
  | plainSequence (properties : Properties) (items : List Node)
  | blockMapping (properties : Properties) (pairs : List (Node × Node)) (key : Option Node)
  | flowSequence (properties : Properties) (items : List Node)
  | flowPair (key : Option Node)
  | flowMapping (properties : Properties) (pairs : List (Node × Node)) (key : Option Node)
  | flowKey (properties : Properties) (pairs : List (Node × Node))

def Frame.fill (node : Node) : Frame → Frame
  | .blockSequence properties items => .blockSequence properties (node :: items)
  | .plainSequence properties items => .plainSequence properties (node :: items)
  | .blockMapping properties pairs none => .blockMapping properties pairs (some node)
  | .blockMapping properties pairs (some key) =>
      .blockMapping properties ((key, node) :: pairs) none
  | .flowSequence properties items => .flowSequence properties (node :: items)
  | .flowPair _ => .flowPair (some node)
  | .flowMapping properties pairs none => .flowMapping properties pairs (some node)
  | .flowMapping properties pairs (some key) => .flowMapping properties ((key, node) :: pairs) none
  | .flowKey properties pairs => .flowMapping properties ((node, .empty) :: pairs) none

def Frame.weight : Frame → Nat
  | .blockMapping _ _ (some _) | .flowMapping _ _ (some _) | .flowPair (some _) => 4
  | _ => 3

/-- A list of tokens of which a part has been read.  `found` is a node that has just been read and
is not yet in its frame.  An anchor whose node is still open is no node yet. -/
structure Assembly where
  tokens : List Token
  frames : List Frame
  found : Option Node
  anchors : List (String × Option Node)
  handles : List (String × String)

namespace Assembly

/-- Whether the next token is one of several; the end of the tokens is none. -/
def isNext (tokens wanted : List Token) : Bool := tokens.head?.any wanted.contains

def goOn (state : Assembly) (tokens : List Token) (frames : List Frame) : Assembly :=
  { state with tokens := tokens, frames := frames, found := none }

def goOnWith (state : Assembly) (tokens : List Token) (frames : List Frame) (node : Node) :
    Assembly :=
  { state with tokens := tokens, frames := frames, found := some node }

/-- Defines an anchor; `node` is the node if it is complete. -/
def define (state : Assembly) (anchor : Option String) (node : Option Node) : Assembly :=
  match anchor with
  | some name => { state with anchors := (name, node) :: state.anchors }
  | none => state

/-- Puts a node that is complete, with the anchor in front of it, where it is expected. -/
def complete (state : Assembly) (tokens : List Token) (frames : List Frame)
    (properties : Properties) (node : Node) : Assembly :=
  (state.define properties.anchor (some node)).goOnWith tokens frames node

/-! ### Nodes -/

def fullName? (state : Assembly) (name : TagName) : Option String :=
  match name.handle with
  | none => some name.suffix
  | some handle => (state.handles.lookup handle).map (· ++ name.suffix)

def properties? (state : Assembly) : Option (Properties × List Token) :=
  match state.tokens with
  | .anchor anchor :: .tag name :: rest | .tag name :: .anchor anchor :: rest =>
      (state.fullName? name).map fun tagName => (⟨some anchor, some tagName⟩, rest)
  | .anchor anchor :: rest => some (⟨some anchor, none⟩, rest)
  | .tag name :: rest => (state.fullName? name).map fun tagName => (⟨none, some tagName⟩, rest)
  | rest => some (.none, rest)

def enter (state : Assembly) (tokens : List Token) (properties : Properties) (frame : Frame) :
    Assembly :=
  (state.define properties.anchor none).goOn tokens (frame :: state.frames)

def content? (state : Assembly) (block plain : Bool) (properties : Properties)
    (tokens : List Token) : Option Assembly :=
  match tokens with
  | .blockEntry :: _ =>
      if plain then some (state.enter tokens properties (.plainSequence properties []))
      else bare
  | .scalar text isPlain :: rest =>
      let tag := properties.scalarTag text isPlain
      some (state.complete rest state.frames properties (.scalar tag text))
  | .flowSequenceStart :: rest =>
      some (state.enter rest properties (.flowSequence properties []))
  | .flowMappingStart :: rest =>
      some (state.enter rest properties (.flowMapping properties [] none))
  | .blockSequenceStart :: rest =>
      if block then some (state.enter rest properties (.blockSequence properties [])) else bare
  | .blockMappingStart :: rest =>
      if block then some (state.enter rest properties (.blockMapping properties [] none)) else bare
  | _ => bare
where
  /-- Properties with nothing behind them stand before a scalar without characters. -/
  bare : Option Assembly :=
    if properties.anchor.isSome || properties.tagName.isSome then
      let tag := properties.scalarTag "" true
      some (state.complete tokens state.frames properties (.scalar tag ""))
    else none

/-- Reads the start of a node.  An anchor must be new; one that is referred to must be complete. -/
def node? (state : Assembly) (block plain : Bool) : Option Assembly :=
  match state.tokens with
  | .alias name :: rest =>
      match state.anchors.lookup name with
      | some (some node) => some (state.goOnWith rest state.frames node)
      | _ => none
  | _ => do
      let (properties, tokens) ← state.properties?
      if properties.anchor.any fun name => (state.anchors.lookup name).isSome then none
      else state.content? block plain properties tokens

/-! ### Collections -/

def closeSequence (state : Assembly) (tokens : List Token) (frames : List Frame)
    (properties : Properties) (items : List Node) : Assembly :=
  state.complete tokens frames properties
    (.sequence (properties.tag?.getD .sequence) items.reverse)

def closeMapping (state : Assembly) (tokens : List Token) (frames : List Frame)
    (properties : Properties) (pairs : List (Node × Node)) : Assembly :=
  state.complete tokens frames properties (.mapping (properties.tag?.getD .mapping) pairs.reverse)

/-- Reads a node in a frame, or puts an empty one there if a token that cannot start one is next. -/
def nodeUnless? (state : Assembly) (enders : List Token) (tokens : List Token) (frame : Frame)
    (frames : List Frame) (block plain : Bool) : Option Assembly :=
  if isNext tokens enders then some (state.goOn tokens (frame.fill .empty :: frames))
  else (state.goOn tokens (frame :: frames)).node? block plain

def nodeInMapping? (state : Assembly) (tokens : List Token) (frame : Frame)
    (frames : List Frame) : Option Assembly :=
  state.nodeUnless? [.key, .value, .blockEnd] tokens frame frames true true

def insideBlock? (state : Assembly) (frame : Frame) (frames : List Frame) :
    Option Assembly :=
  match frame, state.tokens with
  | .blockSequence _ _, .blockEntry :: rest =>
      state.nodeUnless? [.blockEntry, .blockEnd] rest frame frames true false
  | .blockSequence properties items, .blockEnd :: rest =>
      some (state.closeSequence rest frames properties items)
  | .plainSequence _ _, .blockEntry :: rest =>
      state.nodeUnless? [.blockEntry, .key, .value, .blockEnd] rest frame frames true false
  | .plainSequence properties items, rest =>
      some (state.closeSequence rest frames properties items)
  | .blockMapping _ _ none, .key :: rest => state.nodeInMapping? rest frame frames
  | .blockMapping properties pairs none, .blockEnd :: rest =>
      some (state.closeMapping rest frames properties pairs)
  | .blockMapping _ _ (some _), .value :: rest => state.nodeInMapping? rest frame frames
  | .blockMapping _ _ (some _), rest => some (state.goOn rest (frame.fill .empty :: frames))
  | _, _ => none

/-- The tokens behind the comma that must stand before every entry but the first. -/
def behindComma? (isFirst : Bool) (tokens : List Token) : Option (List Token) :=
  if isFirst then some tokens
  else
    match tokens with
    | .flowEntry :: rest => some rest
    | _ => none

/-- The next entry of a sequence between brackets, or its end.  A pair alone is a mapping. -/
def insideFlowSequence? (state : Assembly) (properties : Properties) (items : List Node)
    (frames : List Frame) : Option Assembly := do
  let frame := Frame.flowSequence properties items
  let tokens ←
    if isNext state.tokens [.flowSequenceEnd] then some state.tokens
    else behindComma? items.isEmpty state.tokens
  match tokens with
  | .flowSequenceEnd :: rest => return state.closeSequence rest frames properties items
  | .key :: rest =>
      state.nodeUnless? [.value, .flowEntry, .flowSequenceEnd] rest (.flowPair none)
        (frame :: frames) false false
  | rest => (state.goOn rest (frame :: frames)).node? false false

def insideFlowPair? (state : Assembly) (key : Node) (frames : List Frame) :
    Option Assembly :=
  let close := fun rest => state.closeMapping rest frames .none [(key, .empty)]
  match state.tokens with
  | .value :: rest =>
      if isNext rest [.flowEntry, .flowSequenceEnd] then some (close rest)
      else (state.goOn rest (.flowPair (some key) :: frames)).node? false false
  | rest => some (close rest)

def insideFlowMapping? (state : Assembly) (properties : Properties)
    (pairs : List (Node × Node)) (frames : List Frame) : Option Assembly := do
  let tokens ←
    if isNext state.tokens [.flowMappingEnd] then some state.tokens
    else behindComma? pairs.isEmpty state.tokens
  match tokens with
  | .flowMappingEnd :: rest => return state.closeMapping rest frames properties pairs
  | .key :: rest =>
      state.nodeUnless? [.value, .flowEntry, .flowMappingEnd] rest
        (.flowMapping properties pairs none) frames false false
  | rest => (state.goOn rest (.flowKey properties pairs :: frames)).node? false false

def insideFlowValue? (state : Assembly) (frame : Frame) (frames : List Frame) :
    Option Assembly :=
  match state.tokens with
  | .value :: rest =>
      state.nodeUnless? [.flowEntry, .flowMappingEnd] rest frame frames false false
  | rest => some (state.goOn rest (frame.fill .empty :: frames))

def inside? (state : Assembly) (frame : Frame) (frames : List Frame) : Option Assembly :=
  match frame with
  | .flowSequence properties items => state.insideFlowSequence? properties items frames
  | .flowPair (some key) => state.insideFlowPair? key frames
  | .flowMapping properties pairs none => state.insideFlowMapping? properties pairs frames
  | .flowMapping _ _ (some _) => state.insideFlowValue? frame frames
  | frame => state.insideBlock? frame frames

def place (state : Assembly) (node : Node) (frame : Frame) (frames : List Frame) :
    Assembly :=
  match frame with
  | .flowPair (some key) => state.closeMapping state.tokens frames .none [(key, node)]
  | frame => state.goOn state.tokens (frame.fill node :: frames)

/-- One step in the reading of a node: the node and the tokens behind it if nothing is open. -/
def step (state : Assembly) :
    Except ReadingFault (Step Assembly (Node × List Token)) :=
  let next := fun state? : Option Assembly =>
    match state? with
    | some state => .ok (.next state)
    | none => .error illFormed
  match state.found, state.frames with
  | some node, [] => .ok (.done (node, state.tokens))
  | some node, frame :: frames => next (some (state.place node frame frames))
  | none, frame :: frames => next (state.inside? frame frames)
  | none, [] => next none

def size (state : Assembly) : Nat :=
  16 * state.tokens.length + state.frames.foldr (fun frame rest => frame.weight + rest) 0 +
    if state.found.isSome then 2 else 0

end Assembly

/-! ### Documents -/

def standardHandles : List (String × String) := [("!", "!"), ("!!", Tag.namespaceName)]

/-- Directives before a document: whether a version has been given, and the handles.  Both must
not be given twice, and the version must start with one. -/
def readDirectives : (hasVersion : Bool) → (handles : List (String × String)) → List Token →
    Option (List (String × String) × List Token)
  | hasVersion, handles, .directive (.version major) :: rest =>
      if hasVersion || major != 1 then none else readDirectives true handles rest
  | hasVersion, handles, .directive (.handle handle meaning) :: rest =>
      if (handles.lookup handle).isSome then none
      else readDirectives hasVersion ((handle, meaning) :: handles) rest
  | hasVersion, handles, .directive .other :: rest => readDirectives hasVersion handles rest
  | _, handles, rest => some (handles, rest)

/-- The handles of the first document and the tokens behind its start, which need not be marked if
there are no directives. -/
def readDocumentStart? (tokens : List Token) : Option (List (String × String) × List Token) :=
  match tokens with
  | .directive _ :: _ | .documentStart :: _ =>
      match readDirectives false [] tokens with
      | some (handles, .documentStart :: rest) =>
          let isEmpty := rest.head?.all fun token =>
            match token with
            | .directive _ | .documentStart | .documentEnd => true
            | _ => false
          let rest := if isEmpty then .scalar "" true :: rest else rest
          some (handles ++ standardHandles, rest)
      | _ => none
  | tokens => some (standardHandles, tokens)

/-- The node of a text, if it has one: there must be no other document in it. -/
def Node.ofTokens? (tokens : List Token) : Except ReadingFault (Option Node) := do
  if tokens.isEmpty then return none
  else
    match readDocumentStart? tokens with
    | none => throw illFormed
    | some (handles, rest) =>
        match Assembly.node? ⟨rest, [], none, [], handles⟩ true false with
        | none => throw illFormed
        | some state =>
            let (node, rest) ← descend Assembly.size illFormed Assembly.step state
            if rest.all (· == .documentEnd) then return some node else throw illFormed

end UrlRouting.Yaml
