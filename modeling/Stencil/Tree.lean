import Stencil.Command
import Stencil.Scope
/-!
# Stencil.Tree -- template trees

A template is a tree with one node for each of its lines. Lines of output, statements and insertions
are leaves; a block holds the nodes of its body. An operation changes the rules in force; one without
actions only keeps the place of its line.
-/

namespace Stencil

/-- What an operation does to the scope. -/
inductive Action where
  /-- Add a rule in a group of its own. -/
  | rule (r : Rule)
  /-- Add a rule to the current group. -/
  | alternative (r : Rule)
  | normalize (n : Normalizer)
  /-- Fail. -/
  | fail (f : Failure)
  deriving DecidableEq, Repr

/-- Do what an action says. -/
def Action.apply : Action → Scope → Except Failure Scope
  | rule r, s => .ok (s.addAlone r)
  | alternative r, s => .ok (s.add r)
  | normalize .spaces, s => .ok s.normalizeSpaces
  | fail f, _ => .error f

/-- A node of a template tree. -/
inductive Node where
  | list (description : String) (children : List Node)
  | line (text : String)
  | block (loop : LoopHeader) (children : List Node)
  | eval (text : String)
  | insert (text indent : String)
  | operation (description : String) (actions : Option (List Action))
  | error (message : String)
  deriving Inhabited

namespace Node

/-- A node as it is described. -/
def describe : Node → String
  | list description _ => "List[" ++ description ++ "]"
  | line text => "Line[" ++ text ++ "]"
  | block loop _ => "Block[" ++ loop.shown ++ "]"
  | eval text => "Eval[" ++ text ++ "]"
  | insert text _ => "Insert[" ++ text ++ "]"
  | operation description none => "Nop[" ++ description ++ "]"
  | operation description (some _) => "Operation[" ++ description ++ "]"
  | error message => "Error[" ++ message ++ "]"

/-- The nodes below a node. -/
def children : Node → List Node
  | list _ ns | block _ ns => ns
  | _ => []

mutual

/-- A tree as indented descriptions, one node a line. -/
def dump (indent : String) : Node → List String
  | list description ns => (indent ++ (list description []).describe) :: dumpAll (indent ++ "  ") ns
  | block loop ns => (indent ++ (block loop []).describe) :: dumpAll (indent ++ "  ") ns
  | line text => [indent ++ (line text).describe]
  | eval text => [indent ++ (eval text).describe]
  | insert text i => [indent ++ (insert text i).describe]
  | operation description actions => [indent ++ (operation description actions).describe]
  | error message => [indent ++ (error message).describe]

/-- Trees as indented descriptions. -/
def dumpAll (indent : String) : List Node → List String
  | [] => []
  | n :: ns => n.dump indent ++ dumpAll indent ns

end

end Node

end Stencil
