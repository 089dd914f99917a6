import ServiceContract.CompileError

/-!
# Message keys

Every message has a number on the wire, its key.  Keys 1 to 8 belong to the system messages that
all operations share, and keys up to 15 are reserved for more of them.  After that each operation
gets a block of consecutive keys, in the order of declaration: one for a one-way message; request,
response and fault for a call with an answer, and one more for the pages of each stream.

The block of an operation depends only on the kinds and streams of the operations before it.  An
operation that is skipped later keeps its block, so that it never renumbers its siblings.
-/

namespace ServiceContract

/-- The number of a message on the wire. -/
abbrev MessageKey := Nat

/-- Messages of the connection and of stream control, shared by all operations. -/
inductive SystemMessage
  | login
  | logout
  | heartbeat
  | cancelRequest
  | pageAck
  | streamCancel
  | streamClose
  | streamCloseAck
  deriving DecidableEq, Repr

namespace SystemMessage

/-- Every system message, in the order of the keys. -/
def all : List SystemMessage :=
  [login, logout, heartbeat, cancelRequest, pageAck, streamCancel, streamClose, streamCloseAck]

/-- The fixed key of a system message. -/
def key : SystemMessage → MessageKey
  | login => 1
  | logout => 2
  | heartbeat => 3
  | cancelRequest => 4
  | pageAck => 5
  | streamCancel => 6
  | streamClose => 7
  | streamCloseAck => 8

/-- The name of the type generated for a system message. -/
def name : SystemMessage → String
  | login => "Login"
  | logout => "Logout"
  | heartbeat => "Heartbeat"
  | cancelRequest => "CancelRequest"
  | pageAck => "PageAck"
  | streamCancel => "StreamCancel"
  | streamClose => "StreamClose"
  | streamCloseAck => "StreamCloseAck"

/-- Messages that move the window of a stream or tear it down. -/
def isStreamControl : SystemMessage → Bool
  | pageAck | streamCancel | streamClose | streamCloseAck => true
  | login | logout | heartbeat | cancelRequest => false

end SystemMessage

/-- The highest key reserved for system messages. -/
def reservedKeys : Nat := 15

/-- Choices made for one compilation. -/
structure Options where
  /-- The first key for operations.  Keys in the reserved range are raised above it. -/
  firstOperationKey : Nat := 16
  /-- The highest key that may be handed out. -/
  keySpaceLimit : Nat := 65535
  /-- Overrides the default serializer of the contract. -/
  defaultSerializer : Option Serializer := none
  deriving DecidableEq, Repr

/-- The key where the first operation block starts. -/
def Options.startKey (options : Options) : MessageKey :=
  max options.firstOperationKey (reservedKeys + 1)

/-- The keys of a call with an answer. -/
structure RequestKeys where
  request : MessageKey
  response : MessageKey
  fault : MessageKey
  inputPage : Option MessageKey
  outputPage : Option MessageKey
  deriving DecidableEq, Repr

/-- The keys of one operation. -/
inductive OperationKeys
  | oneWay (message : MessageKey)
  | request (keys : RequestKeys)
  deriving DecidableEq, Repr

namespace OperationKeys

/-- The keys in ascending order. -/
def toList : OperationKeys → List MessageKey
  | oneWay message => [message]
  | request keys =>
    [keys.request, keys.response, keys.fault] ++ keys.inputPage.toList ++ keys.outputPage.toList

/-- The key of the message a caller sends. -/
def outbound : OperationKeys → MessageKey
  | oneWay message => message
  | request keys => keys.request

end OperationKeys

/-- The block of keys of one operation. -/
structure KeyBlock where
  operation : String
  first : MessageKey
  keys : OperationKeys
  deriving DecidableEq, Repr

/-- The number of keys in a block. -/
def KeyBlock.size (block : KeyBlock) : Nat := block.keys.toList.length

/-- The number of keys an operation needs. -/
def Operation.keyCount (op : Operation) : Nat :=
  if op.kind.isOneWay then 1 else 3 + op.streamDirections

/-- The keys of an operation whose block starts at `first`. -/
def Operation.keysFrom (op : Operation) (first : MessageKey) : OperationKeys :=
  if op.kind.isOneWay then .oneWay first
  else
    .request
      { request := first
        response := first + 1
        fault := first + 2
        inputPage := op.inputStream.map fun _ => first + 3
        outputPage := op.outputStream.map fun _ => first + 3 + op.inputStream.isSome.toNat }

/-- The key blocks of a contract, one for each operation. -/
structure KeyTable where
  blocks : List KeyBlock
  deriving DecidableEq, Repr

namespace KeyTable

/-- The block of the operation at a position. -/
def block? (table : KeyTable) (index : Nat) : Option KeyBlock := table.blocks[index]?

/-- Every key, system messages first. -/
def all (table : KeyTable) : List MessageKey :=
  SystemMessage.all.map SystemMessage.key ++ table.blocks.flatMap fun block => block.keys.toList

/-- The highest key. -/
def last (table : KeyTable) : MessageKey := table.all.foldl max 0

/-- Blocks for some operations, from the key `next` on, none above `limit`. -/
def blocksFrom (limit : Nat) (next : MessageKey) :
    List Operation → Except CompileError (List KeyBlock)
  | [] => .ok []
  | op :: rest =>
    let last := next + op.keyCount - 1
    if last > limit then .error (.keySpaceExhausted op.name last limit)
    else
      match blocksFrom limit (last + 1) rest with
      | .error cause => .error cause
      | .ok blocks => .ok (⟨op.name, next, op.keysFrom next⟩ :: blocks)

/-- Allocate the keys of a contract. -/
def allocate (c : Contract) (options : Options) : Except CompileError KeyTable :=
  match blocksFrom options.keySpaceLimit options.startKey c.operations with
  | .error cause => .error cause
  | .ok blocks => .ok ⟨blocks⟩

end KeyTable

end ServiceContract
