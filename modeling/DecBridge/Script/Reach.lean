import DecBridge.Script.Value

/-!
# What scripts still hold

The bytes of everything that a script can still get at: from the global names, from the value it
came to last, and from the calls under way. Each object and scope counts once, however many ways
lead to it.
-/

namespace DecBridge.Script

/-- An object or a scope. -/
inductive Node where
  | object (r : Ref)
  | scope (n : Nat)

namespace Value

/-- Bytes that a value takes besides its own place. -/
def bytes : Value → Nat
  | .text s => s.size
  | _ => 0

/-- What a value refers to. -/
def nodes : Value → List Node
  | .object r => [.object r]
  | _ => []

end Value

namespace Content

def bytes : Content → Nat
  | .value v _ => v.bytes
  | .accessor _ _ => 0

def nodes : Content → List Node
  | .value v _ => v.nodes
  | .accessor get set => get.nodes ++ set.nodes

end Content

namespace Kind

def bytes : Kind → Nat
  | .array _ items => 16 * items.size + (items.foldl (fun n v => n + (v.map Value.bytes).getD 0) 0)
  | .boxed v => v.bytes
  | _ => 0

def nodes : Kind → List Node
  | .array _ items => items.foldl (fun ns v => (v.map Value.nodes).getD [] ++ ns) []
  | .closure c => .scope c.scope :: (c.home.map Node.object).toList
  | _ => []

end Kind

namespace Object

/-- Bytes of an object without its contents. -/
def header : Nat := 48

/-- Bytes of a property without its value. -/
def propertyBytes : Nat := 16

def bytes (o : Object) : Nat :=
  o.props.foldl (fun n p => n + propertyBytes + p.2.content.bytes) (header + o.kind.bytes)

def nodes (o : Object) : List Node :=
  (o.proto.map Node.object).toList ++ o.kind.nodes ++ o.props.flatMap fun p => p.2.content.nodes

end Object

namespace Scope

/-- Bytes of a scope without the values of its variables. -/
def header : Nat := 32

def bytes (s : Scope) : Nat :=
  s.slots.foldl (fun n x => n + (x.2.value.map Value.bytes).getD 0) header

def nodes (s : Scope) : List Node :=
  (s.parent.map Node.scope).toList ++ s.slots.flatMap fun x => (x.2.value.map Value.nodes).getD []

end Scope

/-- What has been counted already. -/
structure Seen where
  objects : Array Bool
  scopes : Array Bool

namespace Seen

def holds (s : Seen) : Node → Bool
  | .object r => s.objects.getD r true
  | .scope n => s.scopes.getD n true

def insert (s : Seen) : Node → Seen
  | .object r => { s with objects := s.objects.setIfInBounds r true }
  | .scope n => { s with scopes := s.scopes.setIfInBounds n true }

/-- The nodes that are met for the first time, noted as seen and put before others. -/
def meet (nodes : List Node) (s : Seen) (todo : List Node) : Seen × List Node :=
  nodes.foldl (fun (s, todo) n => if s.holds n then (s, todo) else (s.insert n, n :: todo)) (s, todo)

end Seen

/-- Bytes of the nodes that are still to count and of all they lead to. Each round counts one node,
so there are at most as many rounds as nodes. -/
def Heap.countFrom (h : Heap) : Nat → List Node → Seen → Nat → Nat
  | 0, _, _, total => total
  | _, [], _, total => total
  | fuel + 1, .object r :: todo, seen, total =>
    let o := h.objects.getD r default
    let (seen, todo) := seen.meet o.nodes todo
    h.countFrom fuel todo seen (total + o.bytes)
  | fuel + 1, .scope n :: todo, seen, total =>
    let s := h.scopes.getD n default
    let (seen, todo) := seen.meet s.nodes todo
    h.countFrom fuel todo seen (total + s.bytes)

/-- Where everything that scripts can get at starts. -/
def Heap.roots (h : Heap) : List Node :=
  .scope globalScope :: (List.range bareCount).map Node.object ++ h.completion.nodes
    ++ h.calls.flatMap fun a => .scope a.scope :: (a.callee.map Node.object).toList

/-- Bytes of everything that scripts can still get at. -/
def Heap.liveBytes (h : Heap) : Nat :=
  let none : Seen := ⟨Array.replicate h.objects.size false, Array.replicate h.scopes.size false⟩
  let (seen, todo) := none.meet h.roots []
  h.countFrom (h.objects.size + h.scopes.size + 1) todo seen h.completion.bytes

end DecBridge.Script
