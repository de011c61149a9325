import Courier.Yaml.Token

/-!
# `Courier.Yaml.Node`: YAML documents

A document is a tree of scalars, sequences and mappings. A scalar remembers its tag and whether it
was written plainly, because on these it hangs whether it can be a number or nothing at all. What
an alias refers to is put in its place, and tags of sequences and mappings are passed over.
-/

set_option autoImplicit false

namespace Courier.Yaml

/-- A part of a document. -/
inductive Node where
  | scalar (text : String) (style : Style) (tag? : Option Bytes)
  | sequence (items : List Node)
  | mapping (entries : List (Node × Node))
deriving Inhabited

namespace Node

/-- A part that is left out. -/
def absent : Node := .scalar "" .plain none

/-- The parts that have names, the last one with a name first. -/
abbrev Anchors := List (String × Node)

/-- A part that has been read, the names that are known, and the rest of the tokens. -/
abbrev Parsed (α : Type) := Option (α × Anchors × List Token)

/-- What stands in front of a part. -/
structure Properties where
  anchor? : Option String := none
  tag? : Option Bytes := none

/-- Whether anything stands in front. -/
def Properties.any (p : Properties) : Bool := p.anchor?.isSome || p.tag?.isSome

/-- The anchor and the tag in front of a part, in either order. -/
def properties : List Token → Properties × List Token
  | .anchor a :: .tag _ t :: rest => (⟨some a, some t⟩, rest)
  | .tag _ t :: .anchor a :: rest => (⟨some a, some t⟩, rest)
  | .anchor a :: rest => (⟨some a, none⟩, rest)
  | .tag _ t :: rest => (⟨none, some t⟩, rest)
  | rest => ({}, rest)

/-- The tag of a scalar that is not left out: a lonely exclamation mark says nothing about it. -/
def Properties.scalarTag? (p : Properties) : Option Bytes :=
  p.tag?.filter (· ≠ Bytes.ofString "!")

/-- A part and its name. -/
def named (name? : Option String) : Parsed Node → Parsed Node
  | none => none
  | some (n, as, ts) =>
    match name? with
    | none => some (n, as, ts)
    | some a => some (n, (a, n) :: as, ts)

/-- Whether a key or a value of a block is left out in front of these tokens. -/
def leavesOutInBlock : List Token → Bool
  | .key :: _ => true
  | .value :: _ => true
  | .blockEnd :: _ => true
  | _ => false

/-- Whether an item of a block is left out in front of these tokens. -/
def leavesOutItem : List Token → Bool
  | .item :: _ => true
  | .blockEnd :: _ => true
  | _ => false

/-- Whether an item of a list that is not indented is left out in front of these tokens. -/
def leavesOutFlatItem (ts : List Token) : Bool := leavesOutItem ts || leavesOutInBlock ts

/-- Whether a key or a value between brackets is left out in front of these tokens. -/
def leavesOutInFlow (atKey : Bool) (close : Token) : List Token → Bool
  | [] => false
  | t :: _ => (atKey && t = .value) || t = .comma || t = close

mutual

/-- Reads a part. In a block it can be a block itself, and behind a key also a list whose items
are not indented. -/
def parse (inBlock flat : Bool) : (budget : Nat) → Anchors → List Token → Parsed Node
  | 0, _, _ => none
  | _ + 1, as, .alias a :: rest => (as.find? (·.1 = a)).map fun found => (found.2, as, rest)
  | budget + 1, as, ts =>
    let (p, ts) := properties ts
    let name? := p.anchor?
    match ts with
    | .scalar text style :: rest =>
      named name? (some (.scalar text style p.scalarTag?, as, rest))
    | .flowSequence :: rest =>
      named name? ((parseFlowItems budget true as rest).map fun r => (.sequence r.1, r.2))
    | .flowMapping :: rest =>
      named name? ((parseFlowEntries budget true as rest).map fun r => (.mapping r.1, r.2))
    | .blockSequence :: rest =>
      if inBlock then named name? ((parseItems budget as rest).map fun r => (.sequence r.1, r.2))
      else none
    | .blockMapping :: rest =>
      if inBlock then named name? ((parseEntries budget as rest).map fun r => (.mapping r.1, r.2))
      else none
    | .item :: rest =>
      if flat then
        named name? ((parseFlatItems budget as (.item :: rest)).map fun r => (.sequence r.1, r.2))
      else if p.any then named name? (some (.scalar "" .plain p.tag?, as, .item :: rest))
      else none
    | rest => if p.any then named name? (some (.scalar "" .plain p.tag?, as, rest)) else none

/-- Reads the items of a block up to its end. -/
def parseItems : (budget : Nat) → Anchors → List Token → Parsed (List Node)
  | 0, _, _ => none
  | budget + 1, as, .item :: ts =>
    match if leavesOutItem ts then some (.absent, as, ts) else parse true false budget as ts with
    | none => none
    | some (n, as, ts) => (parseItems budget as ts).map fun (ns, r) => (n :: ns, r)
  | _ + 1, as, .blockEnd :: ts => some ([], as, ts)
  | _ + 1, _, _ => none

/-- Reads items that are not indented. They have no end of their own. -/
def parseFlatItems : (budget : Nat) → Anchors → List Token → Parsed (List Node)
  | 0, _, _ => none
  | budget + 1, as, .item :: ts =>
    match
      if leavesOutFlatItem ts then some (.absent, as, ts) else parse true false budget as ts with
    | none => none
    | some (n, as, ts) => (parseFlatItems budget as ts).map fun (ns, r) => (n :: ns, r)
  | _ + 1, as, ts => some ([], as, ts)

/-- Reads the entries of a block up to its end. -/
def parseEntries : (budget : Nat) → Anchors → List Token → Parsed (List (Node × Node))
  | 0, _, _ => none
  | budget + 1, as, .key :: ts =>
    match if leavesOutInBlock ts then some (.absent, as, ts) else parse true true budget as ts with
    | none => none
    | some (k, as, ts) =>
      match ts with
      | .value :: ts =>
        match if leavesOutInBlock ts then some (.absent, as, ts)
          else parse true true budget as ts with
        | none => none
        | some (v, as, ts) => (parseEntries budget as ts).map fun (es, r) => ((k, v) :: es, r)
      | ts => (parseEntries budget as ts).map fun (es, r) => ((k, .absent) :: es, r)
  | _ + 1, as, .blockEnd :: ts => some ([], as, ts)
  | _ + 1, _, _ => none

/-- Reads the items between brackets. An entry among them is a mapping of its own. -/
def parseFlowItems :
    (budget : Nat) → (isFirst : Bool) → Anchors → List Token → Parsed (List Node)
  | 0, _, _, _ => none
  | _ + 1, _, as, .flowSequenceEnd :: ts => some ([], as, ts)
  | budget + 1, isFirst, as, ts =>
    match if isFirst then some ts else (if ts.head? = some .comma then some ts.tail else none) with
    | none => none
    | some (.flowSequenceEnd :: ts) => some ([], as, ts)
    | some (.key :: ts) =>
      match parseFlowEntry budget .flowSequenceEnd as ts with
      | none => none
      | some (e, as, ts) =>
        (parseFlowItems budget false as ts).map fun (ns, r) => (.mapping [e] :: ns, r)
    | some ts =>
      match parse false false budget as ts with
      | none => none
      | some (n, as, ts) => (parseFlowItems budget false as ts).map fun (ns, r) => (n :: ns, r)

/-- Reads an entry between brackets, behind the mark of its key. -/
def parseFlowEntry :
    (budget : Nat) → (close : Token) → Anchors → List Token → Parsed (Node × Node)
  | 0, _, _, _ => none
  | budget + 1, close, as, ts =>
    match if leavesOutInFlow true close ts then some (.absent, as, ts)
      else parse false false budget as ts with
    | none => none
    | some (k, as, ts) =>
      match ts with
      | .value :: ts =>
        if leavesOutInFlow false close ts then some ((k, .absent), as, ts)
        else (parse false false budget as ts).map fun (v, r) => ((k, v), r)
      | ts => some ((k, .absent), as, ts)

/-- Reads the entries between brackets. -/
def parseFlowEntries :
    (budget : Nat) → (isFirst : Bool) → Anchors → List Token → Parsed (List (Node × Node))
  | 0, _, _, _ => none
  | _ + 1, _, as, .flowMappingEnd :: ts => some ([], as, ts)
  | budget + 1, isFirst, as, ts =>
    match if isFirst then some ts else (if ts.head? = some .comma then some ts.tail else none) with
    | none => none
    | some (.flowMappingEnd :: ts) => some ([], as, ts)
    | some (.key :: ts) =>
      match parseFlowEntry budget .flowMappingEnd as ts with
      | none => none
      | some (e, as, ts) => (parseFlowEntries budget false as ts).map fun (es, r) => (e :: es, r)
    | some ts =>
      match parse false false budget as ts with
      | none => none
      | some (k, as, ts) =>
        (parseFlowEntries budget false as ts).map fun (es, r) => ((k, .absent) :: es, r)

end

/-- Whether nothing but ends of documents is left. -/
def onlyEnds (ts : List Token) : Bool := ts.all (· = .documentEnd)

/-- The directives in front of a document, and the other tokens. -/
def directives : List Token → List Tag.Directive × List Token
  | .directive d :: ts =>
    let (ds, ts) := directives ts
    (d :: ds, ts)
  | ts => ([], ts)

/-- The tokens with every tag written in full. -/
def expandTags? (hs : Tag.Handles) (ts : List Token) : Option (List Token) :=
  ts.mapM fun t =>
    match t with
    | .tag handle rest => (hs.expand? handle rest).map (.tag "" ·)
    | t => some t

/-- The only document of the tokens. Without tokens it is left out. Behind directives it has to
begin with its mark. -/
def ofTokens? (ts : List Token) : Option Node :=
  let budget := 2 * ts.length + 2
  let (ds, ts) := directives ts
  let explicit := ts.head? = some .documentStart
  if !ds.isEmpty && !explicit then none
  else
    match Tag.Handles.declared? false [] ds with
    | none => none
    | some hs =>
      match expandTags? hs (if explicit then ts.tail else ts) with
      | none => none
      | some ts =>
        if ts.isEmpty || explicit && onlyEnds ts then some .absent
        else
          match parse true false budget [] ts with
          | some (n, _, rest) => if onlyEnds rest then some n else none
          | none => none

/-- The only document of a text. -/
def ofText? (text : String) : Option Node := (Token.ofText? text).bind ofTokens?

end Node

end Courier.Yaml
