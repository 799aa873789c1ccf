import RecordGateway.Document.Layout

/-!
# Nodes of documents

A document is a tree of scalars, sequences and mappings, each with an optional tag.  A node can be
given a name by an anchor and be repeated under that name later on.

Names are numbered by the number of different names known before, and a name that is given again
gets a new number.  Since known names are not counted twice, such a number can be given once more;
it then stands for the node that got it last.
-/

namespace RecordGateway.Document

/-- A node of a document. -/
inductive Node where
  | scalar (tag : Option (List Char)) (isPlain : Bool) (text : List Char)
  | sequence (tag : Option (List Char)) (items : List Node)
  | mapping (tag : Option (List Char)) (members : List (Node × Node))
  /-- The node with the given number. -/
  | reference (number : Nat)

instance : Inhabited Node := ⟨.scalar none true []⟩

/-- What is known while the nodes are built from the tokens. -/
structure Assembly where
  /-- The tokens that are left. -/
  tokens : List Token
  /-- The short forms of the starts of tags. -/
  handles : List (List Char × List Char)
  /-- The numbers of the names known so far. -/
  names : List (List Char × Nat)
  /-- The numbers of the nodes with names, in the order in which the nodes start; the last first. -/
  started : List Nat
  /-- The nodes with names that are complete, by their place in the order of starts. -/
  finished : List (Nat × Node)

/-- A step of building nodes, which may find the tokens wrong. -/
abbrev Assemble := StateT Assembly Option

namespace Assemble

/-- The next token, if there is one. -/
def peek : Assemble (Option Token) := do
  return (← get).tokens.head?

/-- Takes the next token. -/
def skip : Assemble Unit :=
  modify fun a => { a with tokens := a.tokens.drop 1 }

/-- Takes the next token if it is the given one, and tells whether it is. -/
def accept (t : Token) : Assemble Bool := do
  if (← peek) = some t then
    skip
    return true
  else return false

/-- Takes the next token, which has to be the given one. -/
def expect (t : Token) : Assemble Unit := do
  if !(← accept t) then failure

/-- Whether the next token is one of the given ones. -/
def comes (ts : List Token) : Assemble Bool := do
  return (← peek).any ts.contains

/-- A scalar that is left out. -/
def missing : Node := .scalar none true []

/-- Takes an anchor, if one comes. -/
def anchor? : Assemble (Option (List Char)) := do
  match ← peek with
  | some (.anchor name) =>
    skip
    return some name
  | _ => return none

/-- Takes a tag, if one comes. -/
def tag? : Assemble (Option (List Char × List Char)) := do
  match ← peek with
  | some (.tag handle rest) =>
    skip
    return some (handle, rest)
  | _ => return none

/-- Takes an anchor and a tag in any order. -/
def properties : Assemble (Option (List Char) × Option (List Char × List Char)) := do
  match ← anchor? with
  | some name => return (some name, ← tag?)
  | none =>
    let tag ← tag?
    if tag.isSome then return (← anchor?, tag) else return (none, none)

/-- The tag that a handle and the rest stand for. -/
def fullTag (handle rest : List Char) : Assemble (List Char) := do
  if handle = [] then return rest
  else return (← (← get).handles.lookup handle) ++ rest

/-- The number of a name. -/
def numberOf (name : List Char) : Assemble Nat := do
  (← get).names.lookup name

/-- Gives a name to the node that starts here, and tells its place in the order of starts. -/
def startNamed (name : List Char) : Assemble Nat := do
  let a ← get
  let number := a.names.length
  set { a with
    names := (name, number) :: a.names.filter (·.1 ≠ name)
    started := number :: a.started }
  return a.started.length

/-- Remembers a complete node with a name. -/
def finishNamed (place : Nat) (node : Node) : Assemble Unit :=
  modify fun a => { a with finished := (place, node) :: a.finished }

/-! ### Nodes -/

mutual

/-- Builds a node; `block` tells whether it may be written in lines, and `flush` whether the items
of a sequence may stand at the indent of the mapping around. -/
def node : Nat → (block flush : Bool) → Assemble Node
  | 0, _, _ => failure
  | fuel + 1, block, flush => do
    match ← peek with
    | some (.reference name) =>
      skip
      return .reference (← numberOf name)
    | _ =>
      let (name, tag) ← properties
      let tag ← tag.mapM fun t => fullTag t.1 t.2
      let place ← name.mapM startNamed
      let node ← content fuel block flush tag (name.isSome || tag.isSome)
      place.forM fun place => finishNamed place node
      return node

/-- Builds what a node has after its properties; only with properties it may have nothing. -/
def content : Nat → (block flush : Bool) → Option (List Char) → Bool → Assemble Node
  | 0, _, _, _, _ => failure
  | fuel + 1, block, flush, tag, named => do
    match ← peek with
    | some (.scalar text isPlain) =>
      skip
      return .scalar (tag.filter (· ≠ ['!'])) isPlain text
    | some .bracketOpening =>
      skip
      return .sequence tag (← flowItems fuel true)
    | some .braceOpening =>
      skip
      return .mapping tag (← flowMembers fuel true)
    | t =>
      if flush && t == some .item then return .sequence tag (← flushItems fuel)
      else if block && t == some .sequenceOpening then
        skip
        return .sequence tag (← items fuel)
      else if block && t == some .mappingOpening then
        skip
        return .mapping tag (← members fuel)
      else if named then return .scalar tag true []
      else failure

/-- Builds the items of a sequence in lines of their own indent. -/
def items : Nat → Assemble (List Node)
  | 0 => failure
  | fuel + 1 => do
    if ← accept .item then
      let first ← if ← comes [.item, .closing] then pure missing else node fuel true false
      return first :: (← items fuel)
    else
      expect .closing
      return []

/-- Builds the items of a sequence in lines at the indent of the mapping around. -/
def flushItems : Nat → Assemble (List Node)
  | 0 => failure
  | fuel + 1 => do
    if ← accept .item then
      let first ← if ← comes [.item, .nameMark, .valueMark, .closing] then pure missing
        else node fuel true false
      return first :: (← flushItems fuel)
    else return []

/-- Builds the members of a mapping in lines. -/
def members : Nat → Assemble (List (Node × Node))
  | 0 => failure
  | fuel + 1 => do
    if ← accept .nameMark then
      let name ← memberPart fuel
      let value ← if ← accept .valueMark then memberPart fuel else pure missing
      return (name, value) :: (← members fuel)
    else if ← accept .closing then return []
    else failure

/-- Builds a name or a value in a mapping in lines. -/
def memberPart : Nat → Assemble Node
  | 0 => failure
  | fuel + 1 => do
    if ← comes [.nameMark, .valueMark, .closing] then return missing else node fuel true true

/-- Builds the items of a sequence in brackets up to the closing bracket. -/
def flowItems : Nat → (first : Bool) → Assemble (List Node)
  | 0, _ => failure
  | fuel + 1, first => do
    if ← accept .bracketClosing then return []
    else
      if !first then expect .comma
      if ← accept .bracketClosing then return []
      else if ← accept .nameMark then
        let member ← pair fuel
        return .mapping none [member] :: (← flowItems fuel false)
      else
        let item ← node fuel false false
        return item :: (← flowItems fuel false)

/-- Builds the one member of a mapping that is an item of a sequence in brackets.  A mark that takes
the place of the name is passed. -/
def pair : Nat → Assemble (Node × Node)
  | 0 => failure
  | fuel + 1 => do
    let name ← if ← comes [.valueMark, .comma, .bracketClosing] then
        skip
        pure missing
      else node fuel false false
    let value ← if ← accept .valueMark then
        if ← comes [.comma, .bracketClosing] then pure missing else node fuel false false
      else pure missing
    return (name, value)

/-- Builds the members of a mapping in brackets up to the closing brace. -/
def flowMembers : Nat → (first : Bool) → Assemble (List (Node × Node))
  | 0, _ => failure
  | fuel + 1, first => do
    if ← accept .braceClosing then return []
    else
      if !first then expect .comma
      if ← accept .braceClosing then return []
      else if ← accept .nameMark then
        let name ← if ← comes [.valueMark, .comma, .braceClosing] then pure missing
          else node fuel false false
        let value ← if ← accept .valueMark then
            if ← comes [.comma, .braceClosing] then pure missing else node fuel false false
          else pure missing
        return (name, value) :: (← flowMembers fuel false)
      else
        let name ← node fuel false false
        return (name, missing) :: (← flowMembers fuel false)

end

/-! ### Documents -/

/-- The handles that are always known. -/
def standardHandles : List (List Char × List Char) :=
  [(['!'], ['!']), (['!', '!'], "tag:yaml.org,2002:".toList)]

/-- Takes the instructions in front of a document, of which each may be given once; tells whether
the version has been given. -/
def instructions : Nat → Bool → Assemble Unit
  | 0, _ => failure
  | fuel + 1, versioned => do
    match ← peek with
    | some (.version major minor) =>
      skip
      if versioned || major ≠ 1 || !(minor == 1 || minor == 2) then failure
      else instructions fuel true
    | some (.tagHandle handle stem) =>
      skip
      let a ← get
      if (a.handles.lookup handle).isSome then failure
      else
        set { a with handles := (handle, stem) :: a.handles }
        instructions fuel versioned
    | _ => modify fun a => { a with handles := a.handles ++ standardHandles }

/-- Takes the marks at the end of a document. -/
def ends : Nat → Assemble Unit
  | 0 => failure
  | fuel + 1 => do if ← accept .documentEnd then ends fuel

/-- Builds the root of a document whose start is marked. -/
def markedRoot (fuel : Nat) : Assemble Node := do
  expect .documentStart
  match ← peek with
  | none | some .documentStart | some .documentEnd | some (.version ..) | some (.tagHandle ..) =>
    return missing
  | _ => node fuel true false

/-- Builds the root of the one document that the tokens make up. -/
def root (fuel : Nat) : Assemble Node := do
  let explicit := match ← peek with
    | some .documentStart | some (.version ..) | some (.tagHandle ..) => true
    | _ => false
  instructions fuel false
  let root ← if explicit then markedRoot fuel else node fuel true false
  ends fuel
  if (← get).tokens.isEmpty then return root else failure

end Assemble

/-- A document: its root and the nodes with names. -/
structure Tree where
  root : Node
  started : List Nat
  finished : List (Nat × Node)

/-- The document that tokens make up; no tokens make up an empty one. -/
def Tree.ofTokens? (tokens : List Token) : Option Tree :=
  if tokens = [] then some ⟨.mapping none [], [], []⟩
  else do
    let (root, a) ← (Assemble.root (4 * tokens.length + 8)).run ⟨tokens, [], [], [], []⟩
    return ⟨root, a.started, a.finished⟩

/-- The node with a number, of several the one that starts last. -/
def Tree.node? (t : Tree) (number : Nat) : Option Node :=
  match t.started.idxOf? number with
  | some i => t.finished.lookup (t.started.length - 1 - i)
  | none => none

end RecordGateway.Document
