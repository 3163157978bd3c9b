import Journal.Decimal.Reader
import Journal.Yaml.Token.Stream
/-!
YAML documents. Plain scalars mean null, a truth value or a number if they look like one; quoted scalars are
always text. A mapping has no two equal keys, and no key that is undefined.
-/
namespace Journal.Yaml

inductive Scalar where
  | null
  | bool (value : Bool)
  | integer (value : Int)
  | real (text : String)
  | string (text : String)
  deriving DecidableEq, Repr

inductive Node where
  /-- A scalar that does not fit its tag, or an alias inside of the node that it names. -/
  | undefined
  | scalar (value : Scalar)
  | sequence (items : List Node)
  | mapping (members : List (Node × Node))
  deriving Repr

def Node.null : Node := .scalar .null

mutual

def Node.same : Node → Node → Bool
  | .undefined, .undefined => true
  | .scalar a, .scalar b => a == b
  | .sequence as, .sequence bs => sameItems as bs
  | .mapping as, .mapping bs => sameMembers as bs
  | _, _ => false

def sameItems : List Node → List Node → Bool
  | [], [] => true
  | a :: as, b :: bs => a.same b && sameItems as bs
  | _, _ => false

def sameMembers : List (Node × Node) → List (Node × Node) → Bool
  | [], [] => true
  | (k, a) :: as, (l, b) :: bs => k.same l && a.same b && sameMembers as bs
  | _, _ => false

end

/-- Keys and values take turns; what is undefined is passed over where a key stands, and a last key without
value is left out. -/
def membersOf? : (children : List Node) → (done : List (Node × Node)) → Option (List (Node × Node))
  | .undefined :: rest, done => membersOf? rest done
  | key :: value :: rest, done =>
    if done.any fun member => member.1.same key then none else membersOf? rest ((key, value) :: done)
  | _, done => some done.reverse

def Node.ofChildren? (children : List Node) : Option Node := (membersOf? children []).map .mapping

def octalDigit? (c : Char) : Option Nat := if '0' ≤ c ∧ c ≤ '7' then some (c.toNat - 48) else none

def markedInteger? (s : String) : Option Int :=
  match s.toList with
  | '0' :: 'x' :: ds => Decimal.integer? 16 Lex.hexValue? ds
  | '0' :: 'o' :: ds => Decimal.integer? 8 octalDigit? ds
  | '+' :: ds => Decimal.integer? 10 Decimal.digit? ds
  | _ => none

def pointed : List String :=
  [".inf", ".Inf", ".INF", "+.inf", "+.Inf", "+.INF", "-.inf", "-.Inf", "-.INF", ".nan", ".NAN"]

def isReal (s : String) : Bool := pointed.contains s || (Binary64.ofText? s).isSome

def Scalar.ofPlain (s : String) : Scalar :=
  match markedInteger? s with
  | some n => .integer n
  | none =>
    if s = "~" ∨ s = "null" then .null
    else if s = "true" then .bool true
    else if s = "false" then .bool false
    else match Decimal.signed? s with
      | some n => .integer n
      | none => if isReal s then .real s else .string s

def coreTag : String := "tag:yaml.org,2002:"

def Scalar.ofTagged? (handle suffix s : String) : Option Scalar :=
  if handle ≠ coreTag then some (.string s)
  else match suffix with
    | "bool" => if s = "true" then some (.bool true) else if s = "false" then some (.bool false) else none
    | "int" => (Decimal.signed? s).map .integer
    | "float" => if isReal s then some (.real s) else none
    | "null" => if s = "~" ∨ s = "null" then some .null else none
    | _ => some (.string s)

structure TokenReader where
  tokens : List Token
  handles : List (String × String) := []
  anchors : Array (String × Node) := #[]

abbrev Build := StateT TokenReader Option

namespace Build

def peek : Build (Option Token) := do return (← get).tokens.head?

def skip : Build Unit := modify fun c => { c with tokens := c.tokens.drop 1 }

def expect (token : Token) : Build Unit := do
  if (← peek) = some token then skip else failure

def isAhead (tokens : List Token) : Build Bool := do
  return match ← peek with
    | some token => tokens.contains token
    | none => false

def nodeOf (name : String) : Build Node := do
  match (← get).anchors.toList.reverse.find? fun anchor => anchor.1 = name with
  | some anchor => return anchor.2
  | none => failure

def announce (name : String) : Build Nat :=
  modifyGet fun c => (c.anchors.size, { c with anchors := c.anchors.push (name, .undefined) })

def complete (place : Nat) (node : Node) : Build Unit :=
  modify fun c => { c with anchors := c.anchors.modify place fun anchor => (anchor.1, node) }

def resolve (handle suffix : String) : Build (String × String) := do
  match (← get).handles.find? fun h => h.1 = handle with
  | some h => return (h.2, suffix)
  | none =>
    if handle = "!!" then return (coreTag, suffix)
    if 2 ≤ handle.length then failure
    return (handle, suffix)

def properties : Build (Option String × Option (String × String)) := do
  match ← peek with
  | some (.anchor name) =>
    skip
    match ← peek with
    | some (.tag handle suffix) => skip; return (some name, some (← resolve handle suffix))
    | _ => return (some name, none)
  | some (.tag handle suffix) =>
    skip
    let tag ← resolve handle suffix
    match ← peek with
    | some (.anchor name) => skip; return (some name, some tag)
    | _ => return (none, some tag)
  | _ => return (none, none)

def scalarOf (plain : Bool) (text : String) (tag : Option (String × String)) : Node :=
  match plain, tag with
  | false, _ => .scalar (.string text)
  | true, none => .scalar (.ofPlain text)
  | true, some (handle, suffix) => ((Scalar.ofTagged? handle suffix text).map .scalar).getD .undefined

inductive Spot where
  | block
  | member
  | flow
  deriving DecidableEq

mutual

def node (spot : Spot) : (limit : Nat) → Build Node
  | 0 => failure
  | limit + 1 => do
    if let some (.alias name) := ← peek then
      skip
      return ← nodeOf name
    let (anchor, tag) ← properties
    let place ← anchor.mapM announce
    let content : Node ← do
      match ← peek with
      | some (.scalar plain text) =>
        skip
        pure (scalarOf plain text tag)
      | some .flowSequence => skip; flowItems limit true []
      | some .flowMapping => skip; flowMembers limit true []
      | some token =>
        if spot = .member && token = .blockEntry then looseItems limit []
        else if spot ≠ .flow && token = .blockSequence then
          skip
          blockItems limit []
        else if spot ≠ .flow && token = .blockMapping then
          skip
          blockMembers limit []
        else if anchor.isSome || tag.isSome then pure (scalarOf true "" tag)
        else failure
      | none => if anchor.isSome || tag.isSome then pure (scalarOf true "" tag) else failure
    place.forM fun place => complete place content
    return content

def blockItems : (limit : Nat) → (done : List Node) → Build Node
  | 0, _ => failure
  | limit + 1, done => do
    if ← isAhead [.blockEnd] then
      skip
      return .sequence done.reverse
    expect .blockEntry
    let item ← if ← isAhead [.blockEntry, .blockEnd] then pure .null else node .block limit
    blockItems limit (item :: done)

def looseItems : (limit : Nat) → (done : List Node) → Build Node
  | 0, _ => failure
  | limit + 1, done => do
    if ← isAhead [.blockEntry] then
      skip
      let item ← if ← isAhead [.blockEntry, .key, .value, .blockEnd] then pure .null else node .block limit
      looseItems limit (item :: done)
    else return .sequence done.reverse

def blockMembers : (limit : Nat) → (done : List Node) → Build Node
  | 0, _ => failure
  | limit + 1, done => do
    if ← isAhead [.blockEnd] then
      skip
      return ← Node.ofChildren? done.reverse
    let key : Node ←
      if ← isAhead [.key] then
        skip
        if ← isAhead [.key, .value, .blockEnd] then pure .null else node .member limit
      else if ← isAhead [.value] then pure .null
      else failure
    let value : Node ←
      if ← isAhead [.value] then
        skip
        if ← isAhead [.key, .value, .blockEnd] then pure .null else node .member limit
      else pure .null
    blockMembers limit (value :: key :: done)

def flowValue (stop : Token) : (limit : Nat) → Build Node
  | 0 => failure
  | limit + 1 => do
    if ← isAhead [.value] then
      skip
      if ← isAhead [.flowEntry, stop] then pure .null else node .flow limit
    else pure .null

def flowItems : (limit : Nat) → (first : Bool) → (done : List Node) → Build Node
  | 0, _, _ => failure
  | limit + 1, first, done => do
    if !first && !(← isAhead [.flowSequenceEnd]) then expect .flowEntry
    if ← isAhead [.flowSequenceEnd] then
      skip
      return .sequence done.reverse
    if ← isAhead [.key] then
      skip
      let key : Node ←
        if ← isAhead [.value, .flowEntry, .flowSequenceEnd] then
          -- An empty key takes the token behind it along.
          skip
          pure .null
        else node .flow limit
      let value ← flowValue .flowSequenceEnd limit
      flowItems limit false ((← Node.ofChildren? [key, value]) :: done)
    else
      flowItems limit false ((← node .flow limit) :: done)

def flowMembers : (limit : Nat) → (first : Bool) → (done : List Node) → Build Node
  | 0, _, _ => failure
  | limit + 1, first, done => do
    if !first && !(← isAhead [.flowMappingEnd]) then expect .flowEntry
    if ← isAhead [.flowMappingEnd] then
      skip
      return ← Node.ofChildren? done.reverse
    if ← isAhead [.key, .value] then
      if ← isAhead [.key] then skip
      let key : Node ←
        if ← isAhead [.value, .flowEntry, .flowMappingEnd] then pure .null else node .flow limit
      let value ← flowValue .flowMappingEnd limit
      flowMembers limit false (value :: key :: done)
    else
      let key ← node .flow limit
      flowMembers limit false (.null :: key :: done)

end

def directives : (limit : Nat) → (version found : Bool) → Build Bool
  | 0, _, found => pure found
  | limit + 1, version, found => do
    match ← peek with
    | some .version =>
      if version then failure
      modify fun c => { c with handles := [] }
      skip
      directives limit true true
    | some (.tagHandle handle replacement) =>
      modify fun c => { c with handles := [(handle, replacement)] }
      skip
      directives limit version true
    | _ => return found

def skipEnds : (limit : Nat) → Build Unit
  | 0 => pure ()
  | limit + 1 => do
    if ← isAhead [.documentEnd] then
      skip
      skipEnds limit

def atEdge : Build Bool := do
  match ← peek with
  | none | some .documentStart | some .documentEnd | some .version | some (.tagHandle ..) => return true
  | _ => return false

/-- The documents; all but the first need a mark unless the one before was ended by one. -/
def documents : (limit : Nat) → (free : Bool) → (done : List Node) → Build (List Node)
  | 0, _, _ => failure
  | limit + 1, free, done => do
    skipEnds limit
    if (← peek).isNone then return done.reverse
    modify fun c => { c with handles := [] }
    let directed ← directives limit false false
    let marked ← isAhead [.documentStart]
    if marked then skip
    else if directed || !free then failure
    let content : Node ←
      if marked && (← atEdge) then pure .null else node .block limit
    if ← isAhead [.documentEnd] then
      skip
      documents limit true (content :: done)
    else
      match ← peek with
      | some .version | some (.tagHandle ..) => failure
      | _ => documents limit false (content :: done)

end Build

def documents? (text : String) : Option (List Node) := do
  let tokens ← tokens? text
  let (nodes, _) ← (Build.documents (4 * tokens.length + 8) true []).run { tokens }
  some nodes

end Journal.Yaml
