import ServiceContract.DataType

/-!
# Operations

An operation of a service: how it is called and who handles it, its arguments and result, the
items it streams in either direction, and the faults it may raise.

Arguments are numbered from 1 in the order they are declared, and 0 is the number of the result.
The number alone decides the name of the message field that carries a value, so that everything
generated for an operation agrees on it.
-/

namespace ServiceContract

/-- Does a call wait for an answer? -/
inductive Exchange
  | oneWay
  | requestResponse
  deriving DecidableEq, Repr

/-- The peer that handles an operation. -/
inductive Direction
  | toServer
  | toClient
  deriving DecidableEq, Repr

/-- How an operation is called, and which peer handles it. -/
structure CallKind where
  exchange : Exchange
  direction : Direction
  deriving DecidableEq, Repr

namespace CallKind

/-- A call without an answer. -/
def isOneWay (kind : CallKind) : Bool := kind.exchange = .oneWay

/-- A call that is answered by a response or a fault. -/
def isRequestResponse (kind : CallKind) : Bool := kind.exchange = .requestResponse

/-- A call from the server to its client. -/
def isCallback (kind : CallKind) : Bool := kind.direction = .toClient

end CallKind

/-- A place in the source of a contract. -/
structure Location where
  file : String
  line : Nat
  column : Nat
  deriving DecidableEq, Repr

/-- A location as messages show it. -/
def Location.text (location : Location) : String :=
  location.file ++ ":" ++ toString location.line ++ ":" ++ toString location.column

/-- A numbered parameter: an argument, or the result under number 0. -/
structure Param where
  index : Nat
  type : DataType
  name : Option String
  deriving DecidableEq, Repr

/-- An argument was given the number of the result. -/
inductive ParamError
  | resultIndex
  deriving DecidableEq, Repr

/-- The message for a wrongly numbered argument. -/
def ParamError.message : ParamError → String
  | resultIndex => "argument indices are 1-based; 0 is the return parameter"

namespace Param

/-- The argument with a given number. -/
def argument (index : Nat) (type : DataType) (name : Option String) : Except ParamError Param :=
  if index = 0 then .error .resultIndex else .ok ⟨index, type, name⟩

/-- The result. -/
def result (type : DataType) : Param := ⟨0, type, none⟩

/-- Is this the result? -/
def isResult (param : Param) : Bool := param.index = 0

/-- The name of the message field that carries the value. -/
def wireName (param : Param) : String :=
  if param.index = 0 then "Result" else "Arg" ++ toString param.index

end Param

/-- A declared argument.  Its number is its place among the arguments of its operation. -/
structure Argument where
  type : DataType
  name : Option String
  deriving DecidableEq, Repr

/-- A fault an operation may raise. -/
structure Fault where
  key : Nat
  payload : DataType
  deriving DecidableEq, Repr

/-- One operation of a contract. -/
structure Operation where
  name : String
  kind : CallKind
  arguments : List Argument := []
  result : Option DataType := none
  inputStream : Option DataType := none
  outputStream : Option DataType := none
  faults : List Fault := []
  /-- Offer sends of messages that were serialized ahead of time. -/
  prebuild : Bool := false
  location : Option Location := none
  doc : Option String := none
  deriving DecidableEq, Repr

namespace Operation

/-- Declare one more argument. -/
def addArgument (op : Operation) (type : DataType) (name : Option String) : Operation :=
  { op with arguments := op.arguments ++ [⟨type, name⟩] }

/-- Declare the result.  A result without data is no result. -/
def returns (op : Operation) (type : DataType) : Operation :=
  { op with result := if type.isUnit then none else some type }

/-- Declare one more fault. -/
def addFault (op : Operation) (key : Nat) (payload : DataType) : Operation :=
  { op with faults := op.faults ++ [⟨key, payload⟩] }

/-- The arguments with their numbers, from 1 on. -/
def params (op : Operation) : List Param :=
  (op.arguments.zipIdx 1).map fun entry => ⟨entry.2, entry.1.type, entry.1.name⟩

/-- The result as a parameter. -/
def resultParam (op : Operation) : Option Param :=
  op.result.map Param.result

/-- Does the operation stream in some direction? -/
def isStreaming (op : Operation) : Bool :=
  op.inputStream.isSome || op.outputStream.isSome

/-- The number of directions in which the operation streams. -/
def streamDirections (op : Operation) : Nat :=
  op.inputStream.isSome.toNat + op.outputStream.isSome.toNat

end Operation

end ServiceContract
