import SpireEnroll.Yaml.Parser
import SpireEnroll.Yaml.Resolve

/-!
# Composing the node graph

Events become nodes: scalars, sequences and mappings, each with a tag, the tag
found from the text when the document gives none (or gives the bare `!`). An
anchor names the node it is on, and an alias stands for the node named, so one
node may sit in several places, and a collection may even contain itself. The
nodes are therefore kept in one array, and collections refer to their items by
their place in it.

A text holds at most one document; an empty text holds none.
-/

namespace SpireEnroll
namespace Yaml

/-- What a node holds. -/
inductive NodeBody where
  | scalar (value : String)
  | sequence (items : List Nat)
  | mapping (pairs : List (Nat × Nat))
deriving Repr, Inhabited

/-- A node: its tag, what it holds, and where it starts. -/
structure Node where
  tag : String
  body : NodeBody
  start : Mark
deriving Repr, Inhabited

def NodeBody.kindName : NodeBody → String
  | .scalar _ => "scalar"
  | .sequence _ => "sequence"
  | .mapping _ => "mapping"

/-- The composer's state: the parser, the nodes so far, and the anchors of the
current document. -/
structure Composer where
  parser : Parser
  nodes : Array Node
  anchors : List (String × Nat)
deriving Inhabited

abbrev ComposeM := StateT Composer (Except YamlError)

def parse {α : Type} (m : ParseM α) : ComposeM α := fun c => do
  let (a, p) ← m.run c.parser
  pure (a, { c with parser := p })

def addNode (n : Node) : ComposeM Nat := do
  let c ← get
  set { c with nodes := c.nodes.push n }
  return c.nodes.size

def setBody (i : Nat) (b : NodeBody) : ComposeM Unit :=
  modify fun c => { c with nodes := c.nodes.modify i fun n => { n with body := b } }

def addAnchor (anchor : Option String) (i : Nat) : ComposeM Unit :=
  match anchor with
  | some a => modify fun c => { c with anchors := c.anchors ++ [(a, i)] }
  | none => pure ()

def atCollectionEnd : ComposeM Bool := do
  match ← parse peekEvent with
  | some ⟨.sequenceEnd, _, _⟩ | some ⟨.mappingEnd, _, _⟩ => return true
  | _ => return false

mutual
def composeNode : Nat → ComposeM Nat
  | 0 => throw .exhausted
  | fuel + 1 => do
    let some ev ← parse peekEvent | throw .exhausted
    if let .alias name := ev.kind then
      let _ ← parse takeEvent
      match (← get).anchors.lookup name with
      | some i => return i
      | none => throw (.marked none none ("found undefined alias " ++ Text.literal name) ev.start)
    if let some a := ev.anchor then
      if let some first := (← get).anchors.lookup a then
        let firstMark := ((← get).nodes.getD first default).start
        throw (.marked (some ("found duplicate anchor " ++ Text.literal a ++ "; first occurrence"))
          (some firstMark) "second occurrence" ev.start)
    let _ ← parse takeEvent
    match ev.kind with
    | .scalar anchor tag implicit value =>
      let tag := match tag with
        | some t => if t == "!" then resolveScalar value implicit else t
        | none => resolveScalar value implicit
      let i ← addNode ⟨tag, .scalar value, ev.start⟩
      addAnchor anchor i
      return i
    | .sequenceStart anchor tag _ =>
      let tag := match tag with
        | some t => if t == "!" then seqTag else t
        | none => seqTag
      let i ← addNode ⟨tag, .sequence [], ev.start⟩
      addAnchor anchor i
      let items ← composeItems fuel []
      let _ ← parse takeEvent
      setBody i (.sequence items)
      return i
    | .mappingStart anchor tag _ =>
      let tag := match tag with
        | some t => if t == "!" then mapTag else t
        | none => mapTag
      let i ← addNode ⟨tag, .mapping [], ev.start⟩
      addAnchor anchor i
      let pairs ← composePairs fuel []
      let _ ← parse takeEvent
      setBody i (.mapping pairs)
      return i
    | _ => throw .exhausted

def composeItems : Nat → List Nat → ComposeM (List Nat)
  | 0, _ => throw .exhausted
  | fuel + 1, acc => do
    if (← atCollectionEnd) then return acc.reverse
    let i ← composeNode fuel
    composeItems fuel (i :: acc)

def composePairs : Nat → List (Nat × Nat) → ComposeM (List (Nat × Nat))
  | 0, _ => throw .exhausted
  | fuel + 1, acc => do
    if (← atCollectionEnd) then return acc.reverse
    let k ← composeNode fuel
    let v ← composeNode fuel
    composePairs fuel ((k, v) :: acc)
end

def atStreamEnd : ComposeM Bool := do
  match ← parse peekEvent with
  | some ⟨.streamEnd, _, _⟩ => return true
  | _ => return false

def composeSingle (fuel : Nat) : ComposeM (Option Nat) := do
  let _ ← parse takeEvent
  let root ←
    if (← atStreamEnd) then pure none
    else do
      let _ ← parse takeEvent
      let i ← composeNode fuel
      let _ ← parse takeEvent
      modify fun c => { c with anchors := [] }
      pure (some i)
  if !(← atStreamEnd) then
    let ev ← parse takeEvent
    let nodes := (← get).nodes
    let rootMark := root.map fun i => (nodes.getD i default).start
    throw (.marked (some "expected a single document in the stream") rootMark
      "but found another document" ev.start)
  let _ ← parse takeEvent
  return root

/-- The node graph of a text and its root, if it holds a document. -/
def compose (text : String) : Except YamlError (Array Node × Option Nat) := do
  let c : Composer := ⟨Parser.init text, #[], []⟩
  let fuel := 4 * (text.length + 8)
  let (root, c) ← (composeSingle fuel).run c
  pure (c.nodes, root)

end Yaml
end SpireEnroll
