import ServiceContract.MessageKey

/-!
# Messages

The types generated for a contract.  A `Draft` says what a type is for, which fields and methods it
has and which base it descends from; `Draft.finalize` gives it its number and its full name and
makes it a `Node`.  Nodes never change.

Most nodes are messages and carry a key.  Two kinds do not travel on their own: *markers*, which
only stand for the union of their descendants, and *fault carriers*, which a fault message holds.
-/

namespace ServiceContract

/-- What a generated type is for. -/
inductive Role
  /-- The union that every message of the contract descends from. -/
  | messageBase
  | system (message : SystemMessage)
  | oneWay
  | request
  | response
  | fault
  | inputPage
  | outputPage
  /-- The union of the fault carriers of one operation. -/
  | faultData
  | faultCarrier
  deriving DecidableEq, Repr

namespace Role

/-- Markers stand for a union and never travel on their own. -/
def isMarker : Role → Bool
  | messageBase | faultData => true
  | _ => false

/-- Pages carry the items of a stream. -/
def isPage : Role → Bool
  | inputPage | outputPage => true
  | _ => false

/-- What the name of a generated type ends with. -/
def suffix : Role → String
  | messageBase => "MessageBase"
  | system _ => ""
  | oneWay => "Message"
  | request => "Request"
  | response => "Response"
  | fault => "Fault"
  | inputPage => "InputPage"
  | outputPage => "OutputPage"
  | faultData => "FaultData"
  | faultCarrier => "Fault"

/-- A role in words. -/
def label : Role → String
  | messageBase => "message base"
  | system _ => "system message"
  | oneWay => "message"
  | request => "request"
  | response => "response"
  | fault => "fault"
  | inputPage => "input page"
  | outputPage => "output page"
  | faultData => "fault data"
  | faultCarrier => "fault adapter"

end Role

/-- The type of a message field. -/
inductive FieldType
  /-- A type from the contract. -/
  | declared (type : DataType)
  /-- Ties the messages of one call together. -/
  | callId
  | callOptions
  | faultCode
  /-- How many pages may be on their way without an acknowledgement. -/
  | windowSize
  /-- How many pages were consumed since the last acknowledgement. -/
  | consumed
  | text
  | credentials
  /-- One of the carriers under the given marker. -/
  | faultData (marker : NodeId)
  deriving DecidableEq, Repr

/-- A field of a message. -/
structure Field where
  name : String
  type : FieldType
  deriving DecidableEq, Repr

/-- What a method of a generated type does. -/
inductive MethodKind
  /-- Builds a page from a call and a batch of items. -/
  | pageFactory
  /-- Builds a stream control message for a call. -/
  | streamControl
  /-- Shows the payload of a fault carrier. -/
  | faultPayload
  /-- Turns a fault carrier back into the fault it stands for. -/
  | intoFault
  deriving DecidableEq, Repr

/-- A method of a generated type. -/
structure Method where
  name : String
  kind : MethodKind
  deriving DecidableEq, Repr

/-- A generated type. -/
structure Node where
  id : NodeId
  name : String
  qualifiedName : String
  displayName : String
  role : Role
  /-- The key on the wire.  Markers and fault carriers have none. -/
  key : Option MessageKey
  /-- The declared key of a fault carrier. -/
  faultKey : Option Nat
  /-- The position of the operation the type was generated for. -/
  operation : Option Nat
  base : Option NodeId
  fields : List Field
  methods : List Method
  /-- The types declared inside this one. -/
  nested : List NodeId
  doc : Option String
  deriving DecidableEq, Repr

/-- The first field with the given name. -/
def Node.field? (node : Node) (name : String) : Option Field :=
  node.fields.find? fun field => field.name = name

/-- The order of a node among its siblings: by its key, or by its fault key. -/
def Node.rank (node : Node) : Nat :=
  match node.key, node.faultKey with
  | some key, _ => key
  | none, some faultKey => faultKey
  | none, none => 0

/-- The entry of a node in the hierarchy. -/
def Node.registration (node : Node) : Registration :=
  ⟨node.id, node.base, node.rank⟩

/-- A generated type before it has a number. -/
structure Draft where
  name : String
  role : Role
  displayName : Option String := none
  key : Option MessageKey := none
  faultKey : Option Nat := none
  operation : Option Nat := none
  base : Option NodeId := none
  fields : List Field := []
  methods : List Method := []
  nested : List NodeId := []
  doc : Option String := none
  deriving DecidableEq, Repr

namespace Draft

/-- One more field. -/
def addField (draft : Draft) (name : String) (type : FieldType) : Draft :=
  { draft with fields := draft.fields ++ [⟨name, type⟩] }

/-- One more method. -/
def addMethod (draft : Draft) (name : String) (kind : MethodKind) : Draft :=
  { draft with methods := draft.methods ++ [⟨name, kind⟩] }

/-- One more type declared inside. -/
def addNested (draft : Draft) (node : NodeId) : Draft :=
  { draft with nested := draft.nested ++ [node] }

/-- A name inside a qualifier, if there is one. -/
def qualify (qualifier name : String) : String :=
  if qualifier.isEmpty then name else qualifier ++ "." ++ name

/-- The node with a number and a qualified name.  Without a display name it is described by its
name and its role. -/
def finalize (draft : Draft) (id : NodeId) (qualifier : String) : Node where
  id := id
  name := draft.name
  qualifiedName := qualify qualifier draft.name
  displayName := draft.displayName.getD (draft.name ++ " " ++ draft.role.label)
  role := draft.role
  key := draft.key
  faultKey := draft.faultKey
  operation := draft.operation
  base := draft.base
  fields := draft.fields
  methods := draft.methods
  nested := draft.nested
  doc := draft.doc

/-- Consecutive nodes, numbered from `first`. -/
def finalizeFrom (qualifier : String) (first : NodeId) (drafts : List Draft) : List Node :=
  (drafts.zipIdx first).map fun entry => entry.1.finalize entry.2 qualifier

end Draft

end ServiceContract
