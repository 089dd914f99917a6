import ServiceContract.Catalog
import ServiceContract.Text.Words

/-!
# Drafts of the generated types

What is generated for a contract as a whole, and for one operation.  The types of an operation
follow each other without gaps, so the number of the first decides all of them:

    request, response, [fault data, one carrier per fault,] fault, [input page,] [output page]

`Operation.messagesFrom` computes the numbers and `Operation.drafts` the types in this order.
`Operation.plannedNames` tells the names beforehand, so that a repeated one is found before anything
is generated.
-/

namespace ServiceContract

/-- The name of a contract inside generated names. -/
def Contract.typeName (c : Contract) : String := Text.camel c.name

/-- The name of an operation inside generated names. -/
def Operation.typeName (op : Operation) : String := Text.camel op.name

/-- The marker that every message of a contract descends from. -/
def Contract.baseDraft (c : Contract) : Draft where
  name := c.typeName ++ Role.messageBase.suffix
  role := .messageBase
  doc := some ("Every message of the `" ++ c.typeName ++ "` contract.")

/-- The fields of a system message. -/
def SystemMessage.fields : SystemMessage → List Field
  | login => [⟨"Credentials", .credentials⟩, ⟨"Accepted", .declared (.primitive .bool)⟩]
  | logout => []
  | heartbeat => []
  | cancelRequest => [⟨"CallId", .callId⟩]
  | pageAck => [⟨"CallId", .callId⟩, ⟨"Consumed", .consumed⟩]
  | streamCancel =>
    [⟨"CallId", .callId⟩, ⟨"Reason", .declared (.option (.primitive .string))⟩]
  | streamClose => [⟨"CallId", .callId⟩]
  | streamCloseAck => [⟨"CallId", .callId⟩]

/-- The methods of a system message: stream control messages can be built for a call. -/
def SystemMessage.methods : SystemMessage → List Method
  | pageAck => [⟨"ack", .streamControl⟩]
  | streamCancel => [⟨"cancel", .streamControl⟩]
  | streamClose => [⟨"close", .streamControl⟩]
  | streamCloseAck => [⟨"close_ack", .streamControl⟩]
  | _ => []

/-- What a system message is for. -/
def SystemMessage.doc : SystemMessage → String
  | login => "Opens a session. The peer answers with `Accepted` set."
  | logout => "Ends the session."
  | heartbeat => "Keeps an idle connection alive."
  | cancelRequest => "Asks the callee to abandon an outstanding call."
  | pageAck => "Slides the sender's window forward by `Consumed` pages."
  | streamCancel => "Tears a stream down without the close handshake."
  | streamClose => "Starts the two-phase stream teardown."
  | streamCloseAck => "Completes the two-phase stream teardown."

/-- A system message. -/
def SystemMessage.draft (message : SystemMessage) : Draft where
  name := message.name
  role := .system message
  key := some message.key
  base := some messageBase
  fields := message.fields
  methods := message.methods
  doc := some message.doc

/-- The types that every catalog starts with. -/
def Contract.systemDrafts (c : Contract) : List Draft :=
  c.baseDraft :: SystemMessage.all.map SystemMessage.draft

/-- The field that ties the messages of one call together. -/
def callIdField : Field := ⟨"CallId", .callId⟩

namespace Operation

/-- The fields that carry the arguments. -/
def argumentFields (op : Operation) : List Field :=
  op.params.map fun param => ⟨param.wireName, .declared param.type⟩

/-- The field that carries the result, if there is one. -/
def resultFields (op : Operation) : List Field :=
  op.resultParam.toList.map fun param => ⟨param.wireName, .declared param.type⟩

/-- The label of an operation in display names. -/
def displayLabel (c : Contract) (op : Operation) : String := c.typeName ++ "." ++ op.name

/-- The message of a one-way operation. -/
def oneWayDraft (c : Contract) (index : Nat) (op : Operation) (key : MessageKey) : Draft where
  name := op.typeName ++ Role.oneWay.suffix
  role := .oneWay
  displayName := some (op.displayLabel c ++ " message")
  key := some key
  operation := some index
  base := some messageBase
  fields := op.argumentFields
  doc := op.doc

/-- The request of a call. -/
def requestDraft (c : Contract) (index : Nat) (op : Operation) (key : MessageKey) : Draft where
  name := op.typeName ++ Role.request.suffix
  role := .request
  displayName := some (op.displayLabel c ++ " request")
  key := some key
  operation := some index
  base := some messageBase
  fields := [callIdField, ⟨"Options", .callOptions⟩] ++ op.argumentFields ++
    if op.isStreaming then [⟨"WindowSize", .windowSize⟩] else []
  doc := op.doc

/-- The response of a call. -/
def responseDraft (c : Contract) (index : Nat) (op : Operation) (key : MessageKey) : Draft where
  name := op.typeName ++ Role.response.suffix
  role := .response
  displayName := some (op.displayLabel c ++ " response")
  key := some key
  operation := some index
  base := some messageBase
  fields := callIdField :: op.resultFields

/-- The fault of a call; with a marker it can hold one of the marker's carriers. -/
def faultDraft (c : Contract) (index : Nat) (op : Operation) (key : MessageKey)
    (marker : Option NodeId) : Draft where
  name := op.typeName ++ Role.fault.suffix
  role := .fault
  displayName := some (op.displayLabel c ++ " fault")
  key := some key
  operation := some index
  base := some messageBase
  fields := [callIdField, ⟨"Text", .text⟩, ⟨"Code", .faultCode⟩] ++
    marker.toList.map fun node => ⟨"FaultData", .faultData node⟩
  nested := marker.toList

/-- A page of stream items. -/
def pageDraft (c : Contract) (index : Nat) (op : Operation) (role : Role) (key : MessageKey)
    (item : DataType) : Draft where
  name := op.typeName ++ role.suffix
  role := role
  displayName := some (op.displayLabel c ++ " " ++ role.label)
  key := some key
  operation := some index
  base := some messageBase
  fields := [callIdField, ⟨"Items", .declared (.list item)⟩]
  methods := [⟨"page", .pageFactory⟩]

/-- The pages of one stream direction, if it is declared. -/
def pageDrafts (c : Contract) (index : Nat) (op : Operation) (role : Role)
    (key : Option MessageKey) (item : Option DataType) : List Draft :=
  match key, item with
  | some key, some item => [pageDraft c index op role key item]
  | _, _ => []

/-- The marker of the fault carriers, which are numbered after it. -/
def markerDraft (index : Nat) (op : Operation) (marker : NodeId) : Draft where
  name := op.typeName ++ Role.faultData.suffix
  role := .faultData
  displayName := some (op.name ++ " fault data")
  operation := some index
  nested := List.range' (marker + 1) op.faults.length
  doc := some ("Typed fault payloads `" ++ op.name ++ "` can carry.")

/-- The name of the carrier of a payload. -/
def carrierName (op : Operation) (payload : DataType) : String :=
  op.typeName ++ payload.fragment ++ Role.faultCarrier.suffix

/-- The carrier of one declared fault. -/
def carrierDraft (index : Nat) (op : Operation) (marker : NodeId) (fault : Fault) : Draft where
  name := op.carrierName fault.payload
  role := .faultCarrier
  displayName := some
    (op.name ++ " fault " ++ toString fault.key ++ " (" ++ fault.payload.text ++ ")")
  faultKey := some fault.key
  operation := some index
  base := some marker
  fields := [⟨"Payload", .declared fault.payload⟩]
  methods := [⟨"payload", .faultPayload⟩, ⟨"into_fault", .intoFault⟩]

/-- The marker and the carriers of the declared faults. -/
def faultDrafts (index : Nat) (op : Operation) : Option NodeId → List Draft
  | some marker => op.markerDraft index marker :: op.faults.map (op.carrierDraft index marker)
  | none => []

/-- The numbers of the types of an operation, from `first` on. -/
def messagesFrom (op : Operation) (first : NodeId) : OperationMessages :=
  if op.kind.isOneWay then .oneWay first
  else
    let faulty := !op.faults.isEmpty
    let fault := first + 2 + if faulty then op.faults.length + 1 else 0
    .request
      { request := first
        response := first + 1
        fault := fault
        inputPage := op.inputStream.map fun _ => fault + 1
        outputPage := op.outputStream.map fun _ => fault + 1 + op.inputStream.isSome.toNat
        faultData := if faulty then some (first + 2) else none }

/-- The types of a call with an answer. -/
def requestDrafts (c : Contract) (index : Nat) (op : Operation) (keys : RequestKeys)
    (marker : Option NodeId) : List Draft :=
  [op.requestDraft c index keys.request, op.responseDraft c index keys.response] ++
    op.faultDrafts index marker ++
    [op.faultDraft c index keys.fault marker] ++
    op.pageDrafts c index .inputPage keys.inputPage op.inputStream ++
    op.pageDrafts c index .outputPage keys.outputPage op.outputStream

/-- The types of an operation with the given keys, the first of which is numbered `first`. -/
def drafts (c : Contract) (index : Nat) (op : Operation) (keys : OperationKeys)
    (first : NodeId) : List Draft :=
  match keys with
  | .oneWay key => [op.oneWayDraft c index key]
  | .request keys =>
    op.requestDrafts c index keys (if op.faults.isEmpty then none else some (first + 2))

/-- The names of the types an operation would get, in the order they are generated. -/
def plannedNames (op : Operation) : List String :=
  if op.kind.isOneWay then [op.typeName ++ Role.oneWay.suffix]
  else
    [op.typeName ++ Role.request.suffix, op.typeName ++ Role.response.suffix] ++
      (if op.faults.isEmpty then []
        else (op.typeName ++ Role.faultData.suffix) ::
          op.faults.map fun fault => op.carrierName fault.payload) ++
      [op.typeName ++ Role.fault.suffix] ++
      (if op.inputStream.isSome then [op.typeName ++ Role.inputPage.suffix] else []) ++
      (if op.outputStream.isSome then [op.typeName ++ Role.outputPage.suffix] else [])

/-- The fault set of an operation whose first type is numbered `first`, if it declares faults. -/
def faultSet? (c : Contract) (index : Nat) (op : Operation) (first : NodeId) : Option FaultSet :=
  if op.kind.isOneWay || op.faults.isEmpty then none else some (op.faultSet c index (first + 2))

end Operation

end ServiceContract
