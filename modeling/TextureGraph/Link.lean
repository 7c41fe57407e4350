import TextureGraph.Node

/-!
# Links

A link carries the value of an output pin to an input pin.  A connection names the two pins; a link
is a connection that a graph has accepted and numbered.
-/

namespace TextureGraph

/-- Number of a link within its graph. -/
structure LinkId where
  /-- The number itself. -/
  val : UInt32
  deriving DecidableEq, Repr

instance : ToString LinkId where
  toString id := "link#" ++ toString id.val.toNat

/-- The two pins that a link joins. -/
structure Connection where
  /-- Node whose output is read. -/
  source : NodeId
  /-- Place of the output pin. -/
  sourcePin : UInt64
  /-- Node whose input is fed. -/
  target : NodeId
  /-- Place of the input pin. -/
  targetPin : UInt64
  deriving DecidableEq, Repr

namespace Connection

/-- Whether the connection begins or ends at a node. -/
def involves (connection : Connection) (node : NodeId) : Bool :=
  connection.source = node || connection.target = node

/-- Whether the connection feeds one input pin. -/
def feeds (connection : Connection) (node : NodeId) (pin : UInt64) : Bool :=
  connection.target = node && connection.targetPin = pin

end Connection

/-- A numbered connection of a graph. -/
structure Link extends Connection where
  /-- Number of the link within its graph. -/
  id : LinkId
  deriving DecidableEq, Repr

end TextureGraph
